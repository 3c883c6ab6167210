import Coproto.Invariants.Frames
import Coproto.Lib.Queues

/-!
# The send direction on its own

What the functions of the send direction do to `SendSide`, as functions of
`SendSide` alone, and the shape of the per-fork queues. The list along `mNext`
is treated in `SendList`.
-/
namespace Coproto

namespace SendSide

/-- The slot each queued operation belongs to. -/
def home (tx : SendSide) (op : OpId) : Option Nat := (tx.ops op).map SendOperation.mSocketFork

/-- What follows an operation in the list; nothing follows an erased one. -/
def next (tx : SendSide) (op : OpId) : Option OpId := (tx.ops op).bind SendOperation.mNext

@[simps] def popFront (tx : SendSide) (slot : Nat) : SendSide :=
  { tx with
    mSendOps := fun i => if i = slot then (tx.mSendOps i).tail else tx.mSendOps i
    ops := match tx.mSendOps slot with
      | [] => tx.ops
      | op :: _ => tx.ops.erase op }

@[simps!] def fail (tx : SendSide) (op : OpId) (ec : ErrorCode) : SendSide :=
  ((tx.setError op ec).completeOn op).popFront (tx.slotOf op)

def drain (tx : SendSide) : Nat → Option OpId → ErrorCode → SendSide
  | n + 1, some op, ec => drain (tx.fail op ec) n (tx.next op) Code.cancel
  | _, _, _ => tx

/-- The send direction is closed: all that is on the list fails. -/
def closing (tx : SendSide) : SendSide :=
  { tx with mSendStatus := .Closed, mSendBufferBegin := none, mSendBufferLast := none }

def close (tx : SendSide) (n : Nat) (ec : ErrorCode) : SendSide :=
  tx.closing.drain n tx.mSendBufferBegin ec

/-- An operation leaves in `completePrev`. -/
def finish (tx : SendSide) (op : OpId) (ec : ErrorCode) : SendSide :=
  let tx' := if ec.isError then tx.setError op ec else tx
  { ((tx'.completeOn op).setNext op none).popFront (tx.slotOf op) with
    mSendBufferBegin := tx.next op
    mSendBufferLast := if tx.next op = none then none else tx.mSendBufferLast }

/-- A queued operation leaves on a stop request. -/
def cut (tx : SendSide) (op : OpId) (o : SendOperation) : SendSide :=
  let tx' := (tx.setError op Code.operation_aborted).completeOn op
  (match o.mPrev with
    | some prev => tx'.setNext prev o.mNext
    | none => tx').erase o.mSocketFork op

/-- An operation is appended to the list. -/
def link (tx : SendSide) (op : OpId) : SendSide :=
  { (match tx.mSendBufferLast with
      | some last => tx.setNext last (some op)
      | none => tx) with mSendBufferLast := some op }

end SendSide

/-! ## Functions that leave the queues alone -/

namespace SendSide
variable (tx : SendSide) (op : OpId)

@[simp] theorem setNext_queues (next : Option OpId) :
    (tx.setNext op next).mSendOps = tx.mSendOps := rfl

end SendSide

/-! ## The scheduler's functions on `tx` -/

namespace SockScheduler
variable (s : SockScheduler) (op : OpId) (slot : Nat) (ec : ErrorCode)

@[simp] theorem sendCompleteOn_tx : (s.sendCompleteOn op).tx = s.tx.completeOn op := by
  unfold sendCompleteOn
  split
  · exact completeFlushes_tx _ op
  · rename_i dead
    have none := Option.not_isSome_iff_eq_none.mp dead
    simp [SendSide.completeOn, none, Heap.modify_dead none]

@[simp] theorem popFrontSend_tx : (s.popFrontSend slot).tx = s.tx.popFront slot := by
  unfold popFrontSend
  split
  · rename_i empty
    have same : (fun i => if i = slot then (s.tx.mSendOps i).tail else s.tx.mSendOps i) =
        s.tx.mSendOps := by
      funext i
      by_cases here : i = slot <;> simp [here, empty]
    simp only [SendSide.popFront, same, empty]
  · rename_i op ops cells
    have same : (fun i => if i = slot then (s.tx.mSendOps i).tail else s.tx.mSendOps i) =
        fun i => if i = slot then (s.tx.mSendOps i).erase op else s.tx.mSendOps i := by
      funext i
      by_cases here : i = slot <;> simp [here, cells]
    simp only [SendSide.popFront, same, cells, eraseSend, SendSide.erase]

end SockScheduler

namespace SendSide
variable (tx : SendSide) (op : OpId) (ec : ErrorCode)

/-- Writes that keep `mNext` keep what follows every operation. -/
theorem next_modify {tx tx' : SendSide} {op : OpId} {f : SendOperation → SendOperation}
    (ops : tx'.ops = tx.ops.modify op f) (same : ∀ o, (f o).mNext = o.mNext) (p : OpId) :
    tx'.next p = tx.next p := by
  unfold next
  rw [ops, Heap.modify_apply]
  split
  · cases tx.ops p <;> simp [same]
  · rfl

@[simp] theorem next_setError (p : OpId) : (tx.setError op ec).next p = tx.next p :=
  next_modify (f := fun o => { o with mError := some ec }) rfl (fun _ => rfl) p

@[simp] theorem next_completeOn (p : OpId) : (tx.completeOn op).next p = tx.next p :=
  next_modify (f := fun o => { o with mCH := false }) rfl (fun _ => rfl) p

/-- Writes that keep the slot keep the slot of every operation. -/
theorem home_modify {tx tx' : SendSide} {op : OpId} {f : SendOperation → SendOperation}
    (ops : tx'.ops = tx.ops.modify op f) (same : ∀ o, (f o).mSocketFork = o.mSocketFork)
    (p : OpId) : tx'.home p = tx.home p := by
  unfold home
  rw [ops, Heap.modify_apply]
  split
  · cases tx.ops p <;> simp [same]
  · rfl

theorem slotOf_congr {tx tx' : SendSide} {p : OpId} (same : tx'.home p = tx.home p) :
    tx'.slotOf p = tx.slotOf p := congrArg (Option.getD · 0) same

end SendSide

namespace SockScheduler
variable (s : SockScheduler) (op : OpId) (slot : Nat) (ec : ErrorCode)

@[simp] theorem drainSends_tx (n : Nat) (iter : Option OpId) :
    (s.drainSends n iter ec).tx = s.tx.drain n iter ec := by
  induction n generalizing s iter ec with
  | zero => rfl
  | succ n ih =>
    cases iter with
    | none => rfl
    | some op =>
      have next : (((s.tx.setError op ec).completeOn op).ops op).bind SendOperation.mNext =
          s.tx.next op :=
        (SendSide.next_completeOn _ op op).trans (SendSide.next_setError s.tx op ec op)
      simp only [drainSends, SendSide.drain, ih, popFrontSend_tx, sendCompleteOn_tx, ← next]
      rfl

theorem NextSendOp.completePrev_tx :
    (NextSendOp.completePrev s op ec).1.tx = s.tx.finish op ec := by
  obtain ⟨m, failed⟩ : ∃ m, (if ec.isError then s.sendSetError op ec else s) = m := ⟨_, rfl⟩
  have tx : m.tx = if ec.isError then s.tx.setError op ec else s.tx := by
    rw [← failed]
    split <;> rfl
  have next : ((m.tx.completeOn op).ops op).bind SendOperation.mNext = s.tx.next op := by
    rw [tx]
    refine (SendSide.next_completeOn _ op op).trans ?_
    split
    · exact SendSide.next_setError s.tx op ec op
    · rfl
  have last : m.tx.mSendBufferLast = s.tx.mSendBufferLast := by
    rw [tx]
    split <;> rfl
  simp only [completePrev, failed, popFrontSend_tx, setNext, check, sendCompleteOn_tx, next,
    SendSide.finish, ← tx, ← last]
  rfl

theorem unlinkSend_tx (o : SendOperation) : (s.unlinkSend o).tx =
    match o.mPrev with
    | some prev => s.tx.setNext prev o.mNext
    | none => s.tx := by
  unfold unlinkSend
  cases o.mPrev <;> rfl

/-- A stop callback on an operation that was not started. -/
theorem sendStopCallback_notStarted {s : SockScheduler} {op : OpId} {o : SendOperation}
    (live : s.tx.ops op = some o) (idle : o.mStatus = .NotStarted) :
    (s.sendStopCallback op).tx =
      ((s.tx.log (.stopRequested op s.mEC.isError)).setReg op .invoked).cut op
        { o with mReg := .invoked } := by
  simp only [sendStopCallback, live, idle, if_true]
  show (SockScheduler.tx (unlinkSend _ o)).erase _ _ = _
  rw [unlinkSend_tx, sendCompleteOn_tx]
  rfl

/-- A stop callback on an operation that was started. -/
theorem sendStopCallback_started {s : SockScheduler} {op : OpId} {o : SendOperation}
    (live : s.tx.ops op = some o) (started : o.mStatus ≠ .NotStarted) :
    (s.sendStopCallback op).tx =
      { ((s.tx.log (.stopRequested op s.mEC.isError)).setReg op .invoked).setStatus op .Canceling with
        mSendCancelSrc := none } := by
  simp only [sendStopCallback, live, started, if_false]
  rfl

theorem linkSend_tx : (s.linkSend op).tx = s.tx.link op := by
  unfold linkSend SendSide.link
  simp only [check]
  cases s.tx.mSendBufferLast <;> rfl

end SockScheduler

/-! ## Queues -/

namespace SendSide

/-- Each queue holds the live operations of its slot, oldest first. -/
abbrev QueuesOk (tx : SendSide) (nextOp slots : Nat) : Prop :=
  Queues.Owned tx.mSendOps tx.home nextOp slots

variable {tx tx' : SendSide} {op : OpId} {slot nextOp slots : Nat} {ec : ErrorCode}

theorem home_eq_some {o : SendOperation} (live : tx.ops op = some o) :
    tx.home op = some o.mSocketFork := by
  simp [home, live]

@[simp] theorem home_setError (p : OpId) : (tx.setError op ec).home p = tx.home p :=
  home_modify (f := fun o => { o with mError := some ec }) rfl (fun _ => rfl) p

@[simp] theorem home_completeOn (p : OpId) : (tx.completeOn op).home p = tx.home p :=
  home_modify (f := fun o => { o with mCH := false }) rfl (fun _ => rfl) p

@[simp] theorem home_setNext (next : Option OpId) (p : OpId) : (tx.setNext op next).home p = tx.home p := by
  have first : ({ tx with ops := tx.ops.modify op fun o => { o with mNext := next } } :
      SendSide).home p = tx.home p :=
    home_modify (f := fun o => { o with mNext := next }) rfl (fun _ => rfl) p
  cases next with
  | none => exact first
  | some n =>
    rw [← first]
    exact home_modify (f := fun o => { o with mPrev := some op }) rfl (fun _ => rfl) p

theorem QueuesOk.setError (ok : QueuesOk tx nextOp slots) (op : OpId) (ec : ErrorCode) :
    QueuesOk (tx.setError op ec) nextOp slots :=
  ok.congr rfl home_setError

theorem QueuesOk.setStatus (ok : QueuesOk tx nextOp slots) (op : OpId) (status : OpStatus) :
    QueuesOk (tx.setStatus op status) nextOp slots :=
  ok.congr rfl (home_modify rfl fun _ => rfl)

theorem QueuesOk.setReg (ok : QueuesOk tx nextOp slots) (op : OpId) (reg : StopCallback) :
    QueuesOk (tx.setReg op reg) nextOp slots :=
  ok.congr rfl (home_modify rfl fun _ => rfl)

theorem QueuesOk.completeOn (ok : QueuesOk tx nextOp slots) (op : OpId) :
    QueuesOk (tx.completeOn op) nextOp slots :=
  ok.congr rfl home_completeOn

theorem QueuesOk.setNext (ok : QueuesOk tx nextOp slots) (op : OpId) (next : Option OpId) :
    QueuesOk (tx.setNext op next) nextOp slots :=
  ok.congr rfl (home_setNext next)

theorem QueuesOk.erase (ok : QueuesOk tx nextOp slots) (here : tx.home op = some slot) :
    QueuesOk (tx.erase slot op) nextOp slots := by
  have gone : ∀ p, (tx.erase slot op).home p = if p = op then none else tx.home p := by
    intro p
    by_cases same : p = op <;> simp [home, SendSide.erase, Heap.erase_apply, same]
  exact Queues.Owned.remove ok here gone

/-- A pop removes the oldest operation of the slot. -/
theorem popFront_eq {ops : List OpId} (cells : tx.mSendOps slot = op :: ops) :
    tx.popFront slot = tx.erase slot op := by
  have same : (fun i => if i = slot then (tx.mSendOps i).tail else tx.mSendOps i) =
      fun i => if i = slot then (tx.mSendOps i).erase op else tx.mSendOps i := by
    funext i
    by_cases here : i = slot <;> simp [here, cells]
  simp only [popFront, same, cells, SendSide.erase]

theorem popFront_empty (cells : tx.mSendOps slot = []) : tx.popFront slot = tx := by
  have same : (fun i => if i = slot then (tx.mSendOps i).tail else tx.mSendOps i) =
      tx.mSendOps := by
    funext i
    by_cases here : i = slot <;> simp [here, cells]
  simp only [popFront, same, cells]

theorem QueuesOk.popFront (ok : QueuesOk tx nextOp slots) (slot : Nat) :
    QueuesOk (tx.popFront slot) nextOp slots := by
  cases cells : tx.mSendOps slot with
  | nil => rwa [popFront_empty cells]
  | cons op ops =>
    rw [popFront_eq cells]
    exact ok.erase (ok.mem.mp (cells ▸ List.mem_cons_self))

theorem QueuesOk.pushBack (ok : QueuesOk tx nextOp slots) (inside : slot < slots)
    {o : SendOperation} (home : o.mSocketFork = slot) :
    QueuesOk (tx.pushBack slot nextOp o) (nextOp + 1) slots := by
  have added : ∀ p, (tx.pushBack slot nextOp o).home p =
      if p = nextOp then some slot else tx.home p := by
    intro p
    by_cases same : p = nextOp <;> simp [SendSide.home, SendSide.pushBack, Heap.set_apply, same, home]
  exact Queues.Owned.push ok inside added

theorem QueuesOk.fail (ok : QueuesOk tx nextOp slots) : QueuesOk (tx.fail op ec) nextOp slots :=
  ((ok.setError op ec).completeOn op).popFront _

theorem QueuesOk.drain (ok : QueuesOk tx nextOp slots) (n : Nat) (iter : Option OpId) :
    QueuesOk (tx.drain n iter ec) nextOp slots := by
  induction n generalizing tx iter ec with
  | zero => exact ok
  | succ n ih =>
    cases iter with
    | none => exact ok
    | some op => exact ih ok.fail _

theorem QueuesOk.finish (ok : QueuesOk tx nextOp slots) : QueuesOk (tx.finish op ec) nextOp slots := by
  unfold SendSide.finish
  split
  · exact (((ok.setError op ec).completeOn op).setNext op none).popFront _ |>.congr rfl fun _ => rfl
  · exact ((ok.completeOn op).setNext op none).popFront _ |>.congr rfl fun _ => rfl

theorem QueuesOk.cut (ok : QueuesOk tx nextOp slots) {o : SendOperation}
    (live : tx.home op = some o.mSocketFork) : QueuesOk (tx.cut op o) nextOp slots := by
  have home : ((tx.setError op Code.operation_aborted).completeOn op).home op = tx.home op := by
    rw [home_completeOn, home_setError]
  have done : QueuesOk ((tx.setError op Code.operation_aborted).completeOn op) nextOp slots :=
    (ok.setError op _).completeOn op
  unfold SendSide.cut
  cases o.mPrev with
  | none => exact done.erase (home.trans live)
  | some prev => exact (done.setNext prev o.mNext).erase ((home_setNext _ _).trans (home.trans live))

theorem QueuesOk.link (ok : QueuesOk tx nextOp slots) : QueuesOk (tx.link op) nextOp slots := by
  unfold SendSide.link
  cases tx.mSendBufferLast with
  | none => exact ok.congr rfl fun _ => rfl
  | some last => exact (ok.setNext last (some op)).congr rfl fun _ => rfl

/-- The drain writes the operations, their queues and the trace only. -/
theorem drain_shape (tx : SendSide) (n : Nat) (iter : Option OpId) (ec : ErrorCode) :
    ∃ queues heap trace, tx.drain n iter ec =
      { tx with mSendOps := queues, ops := heap, trace := trace } := by
  induction n generalizing tx iter ec with
  | zero => exact ⟨_, _, _, rfl⟩
  | succ n ih =>
    cases iter with
    | none => exact ⟨_, _, _, rfl⟩
    | some op =>
      obtain ⟨queues, heap, trace, rest⟩ := ih (tx.fail op ec) (tx.next op) Code.cancel
      exact ⟨queues, heap, trace, rest⟩

theorem close_shape (tx : SendSide) (n : Nat) (ec : ErrorCode) :
    ∃ queues heap trace, tx.close n ec = { tx with
      mSendStatus := .Closed
      mSendBufferBegin := none
      mSendBufferLast := none
      mSendOps := queues
      ops := heap
      trace := trace } :=
  drain_shape _ n tx.mSendBufferBegin ec

theorem QueuesOk.close (ok : QueuesOk tx nextOp slots) (n : Nat) (ec : ErrorCode) :
    QueuesOk (tx.close n ec) nextOp slots :=
  have closing : tx.closing.QueuesOk nextOp slots := ok.congr rfl fun _ => rfl
  closing.drain n _

end SendSide
end Coproto
