import Coproto.Invariants.Frames
import Coproto.Lib.Queues

/-!
# The receive direction on its own

What the functions of the receive direction do to `RecvSide`: each function of
the scheduler is first reduced to a function of `RecvSide` alone, and the shape
of the queues is then kept function by function.
-/
namespace Coproto

namespace RecvSide

/-- The slot each queued operation belongs to. -/
def home (rx : RecvSide) (op : OpId) : Option Nat := (rx.ops op).map RecvOperation.mSocketFork

@[simps] def popFront (rx : RecvSide) (slot : Nat) : RecvSide :=
  { rx with
    mRecvOps := fun i => if i = slot then (rx.mRecvOps i).tail else rx.mRecvOps i
    ops := match rx.mRecvOps slot with
      | [] => rx.ops
      | op :: _ => rx.ops.erase op }

@[simps!] def fail (rx : RecvSide) (slot : Nat) (op : OpId) (ec : ErrorCode) : RecvSide :=
  ((rx.setError op ec).completeOn op).popFront slot

def drain (rx : RecvSide) : List (Nat × OpId) → ErrorCode → RecvSide
  | [], _ => rx
  | (slot, op) :: ops, ec => drain (rx.fail slot op ec) ops Code.cancel

/-- The receive direction is closed: all that is queued fails. -/
def closing (rx : RecvSide) : RecvSide := { rx with mRecvStatus := .Closed }

def close (rx : RecvSide) (ops : List (Nat × OpId)) (ec : ErrorCode) : RecvSide :=
  { rx.closing.drain ops ec with mNumRecvs := 0 }

/-- An operation leaves in `completePrev`. -/
@[simps] def finish (rx : RecvSide) (op : OpId) (ec : ErrorCode) : RecvSide :=
  let rx' := if ec.isError then rx.setError op ec else rx
  { (rx'.completeOn op).popFront (rx.slotOf op) with mNumRecvs := rx.mNumRecvs - 1 }

/-- A queued operation leaves on a stop request. -/
@[simps] def cut (rx : RecvSide) (op : OpId) (o : RecvOperation) : RecvSide :=
  { ((rx.setError op Code.operation_aborted).completeOn op).erase o.mSocketFork op with
    mNumRecvs := rx.mNumRecvs - 1 }

/-- What is parked is woken with an error. -/
def wakeError (rx : RecvSide) (e : ErrorCode) : RecvSide :=
  match rx.mRecvTask with
  | .anyRecvOp none =>
    { rx with mAnyRecvOp := false, mRecvTask := .anyRecvOp (some Code.cancel) }
  | .getRequested frame none =>
    { rx with
      mGetRequestedRecvSocketFork := none
      mRecvTask := .getRequested frame (some (.error e)) }
  | _ => rx

end RecvSide

/-! ## Functions that leave the queues alone -/

namespace RecvSide
variable (rx : RecvSide) (op : OpId)

@[simp] theorem log_queues (o : RecvObs) : (rx.log o).mRecvOps = rx.mRecvOps := rfl

@[simp] theorem setStatus_queues (status : OpStatus) :
    (rx.setStatus op status).mRecvOps = rx.mRecvOps := rfl

@[simp] theorem setReg_queues (reg : StopCallback) :
    (rx.setReg op reg).mRecvOps = rx.mRecvOps := rfl

end RecvSide

/-! ## The scheduler's functions on `rx` -/

namespace SockScheduler
variable (s : SockScheduler) (op : OpId) (slot : Nat) (ec : ErrorCode)

@[simp] theorem recvCompleteOn_rx : (s.recvCompleteOn op).rx = s.rx.completeOn op := by
  unfold recvCompleteOn
  split
  · exact completeFlushes_rx _ op
  · rename_i dead
    have none := Option.not_isSome_iff_eq_none.mp dead
    simp [RecvSide.completeOn, none, Heap.modify_dead none]

@[simp] theorem popFrontRecv_rx : (s.popFrontRecv slot).rx = s.rx.popFront slot := by
  unfold popFrontRecv
  split
  · rename_i empty
    have same : (fun i => if i = slot then (s.rx.mRecvOps i).tail else s.rx.mRecvOps i) =
        s.rx.mRecvOps := by
      funext i
      by_cases here : i = slot <;> simp [here, empty]
    simp only [RecvSide.popFront, same, empty]
  · rename_i op ops cells
    have same : (fun i => if i = slot then (s.rx.mRecvOps i).tail else s.rx.mRecvOps i) =
        fun i => if i = slot then (s.rx.mRecvOps i).erase op else s.rx.mRecvOps i := by
      funext i
      by_cases here : i = slot <;> simp [here, cells]
    simp only [RecvSide.popFront, same, cells, eraseRecv, RecvSide.erase]

@[simp] theorem failRecv_rx : (s.failRecv slot op ec).rx = s.rx.fail slot op ec := by
  simp [failRecv, RecvSide.fail, recvSetError]

@[simp] theorem drainRecvs_rx (ops : List (Nat × OpId)) :
    (s.drainRecvs ops ec).rx = s.rx.drain ops ec := by
  induction ops generalizing s ec with
  | nil => rfl
  | cons op ops ih => simp only [drainRecvs, RecvSide.drain, ih, failRecv_rx]

/-- `completePrev` renews a stop state that was used up, then completes. -/
theorem AnyRecvOp.completePrev_rx : (AnyRecvOp.completePrev s op ec).1.rx =
    (if s.rx.mRecvCancelSrc = none then s.resetRecvToken else s).rx.finish op ec := by
  unfold completePrev
  split <;> split <;> simp_all [RecvSide.finish, recvSetError, check]

/-- A stop callback on an operation that was not started. -/
theorem recvStopCallback_notStarted {s : SockScheduler} {op : OpId} {o : RecvOperation}
    (live : s.rx.ops op = some o) (idle : o.mStatus = .NotStarted) :
    (s.recvStopCallback op).rx =
      ((s.rx.log (.stopRequested op s.mEC.isError)).setReg op .invoked).cut op o := by
  simp only [recvStopCallback, live, idle, if_true]
  show (SockScheduler.rx (recvCompleteOn _ op)).erase _ _ = _
  rw [recvCompleteOn_rx]
  rfl

/-- A stop callback on an operation that was started. -/
theorem recvStopCallback_started {s : SockScheduler} {op : OpId} {o : RecvOperation}
    (live : s.rx.ops op = some o) (started : o.mStatus ≠ .NotStarted) :
    (s.recvStopCallback op).rx =
      { ((s.rx.log (.stopRequested op s.mEC.isError)).setReg op .invoked).setStatus op .Canceling with
        mRecvCancelSrc := none } := by
  simp only [recvStopCallback, live, started, if_false]
  rfl

end SockScheduler

/-! ## Queues -/

namespace RecvSide

/-- Each queue holds the live operations of its slot, oldest first. -/
abbrev QueuesOk (rx : RecvSide) (nextOp slots : Nat) : Prop :=
  Queues.Owned rx.mRecvOps rx.home nextOp slots

variable {rx rx' : RecvSide} {op : OpId} {slot nextOp slots : Nat} {ec : ErrorCode}

theorem home_eq_some {o : RecvOperation} (live : rx.ops op = some o) :
    rx.home op = some o.mSocketFork := by
  simp [home, live]

theorem home_modify {f : RecvOperation → RecvOperation} (ops : rx'.ops = rx.ops.modify op f)
    (same : ∀ o, (f o).mSocketFork = o.mSocketFork) (p : OpId) : rx'.home p = rx.home p := by
  unfold home
  rw [ops, Heap.modify_apply]
  split
  · cases rx.ops p <;> simp [same]
  · rfl

@[simp] theorem home_setError (p : OpId) : (rx.setError op ec).home p = rx.home p :=
  home_modify (f := fun o => { o with mRecvBuffer := o.mRecvBuffer.setError ec }) rfl
    (fun _ => rfl) p

@[simp] theorem home_setStatus {status : OpStatus} (p : OpId) :
    (rx.setStatus op status).home p = rx.home p :=
  home_modify (f := fun o => { o with mStatus := status }) rfl (fun _ => rfl) p

@[simp] theorem home_setReg {reg : StopCallback} (p : OpId) :
    (rx.setReg op reg).home p = rx.home p :=
  home_modify (f := fun o => { o with mReg := reg }) rfl (fun _ => rfl) p

@[simp] theorem home_completeOn (p : OpId) : (rx.completeOn op).home p = rx.home p :=
  home_modify (f := fun o => { o with mCH := false }) rfl (fun _ => rfl) p

@[simp] theorem home_log (o : RecvObs) (p : OpId) : (rx.log o).home p = rx.home p := rfl

theorem QueuesOk.setError (ok : QueuesOk rx nextOp slots) (op : OpId) (ec : ErrorCode) : QueuesOk (rx.setError op ec) nextOp slots :=
  ok.congr rfl home_setError

theorem QueuesOk.setStatus (ok : QueuesOk rx nextOp slots) (op : OpId) (status : OpStatus) :
    QueuesOk (rx.setStatus op status) nextOp slots :=
  ok.congr rfl home_setStatus

theorem QueuesOk.setReg (ok : QueuesOk rx nextOp slots) (op : OpId) (reg : StopCallback) :
    QueuesOk (rx.setReg op reg) nextOp slots :=
  ok.congr rfl home_setReg

theorem QueuesOk.completeOn (ok : QueuesOk rx nextOp slots) (op : OpId) :
    QueuesOk (rx.completeOn op) nextOp slots :=
  ok.congr rfl home_completeOn

theorem QueuesOk.log (ok : QueuesOk rx nextOp slots) (o : RecvObs) :
    QueuesOk (rx.log o) nextOp slots :=
  ok.congr rfl (home_log o)

theorem QueuesOk.asSpan (ok : QueuesOk rx nextOp slots) (op : OpId) (size : Nat) :
    QueuesOk (rx.asSpan op size) nextOp slots :=
  ok.congr rfl (home_modify rfl fun _ => rfl)

theorem QueuesOk.fill (ok : QueuesOk rx nextOp slots) (op : OpId) (bytes : List UInt8) :
    QueuesOk (rx.fill op bytes) nextOp slots :=
  ok.congr rfl (home_modify rfl fun _ => rfl)

theorem QueuesOk.erase (ok : QueuesOk rx nextOp slots) (here : rx.home op = some slot) :
    QueuesOk (rx.erase slot op) nextOp slots := by
  have gone : ∀ p, (rx.erase slot op).home p = if p = op then none else rx.home p := by
    intro p
    by_cases same : p = op <;> simp [home, RecvSide.erase, Heap.erase_apply, same]
  exact Queues.Owned.remove ok here gone

/-- A pop removes the oldest operation of the slot. -/
theorem popFront_eq {ops : List OpId} (cells : rx.mRecvOps slot = op :: ops) :
    rx.popFront slot = rx.erase slot op := by
  have same : (fun i => if i = slot then (rx.mRecvOps i).tail else rx.mRecvOps i) =
      fun i => if i = slot then (rx.mRecvOps i).erase op else rx.mRecvOps i := by
    funext i
    by_cases here : i = slot <;> simp [here, cells]
  simp only [popFront, same, cells, RecvSide.erase]

theorem popFront_empty (cells : rx.mRecvOps slot = []) : rx.popFront slot = rx := by
  have same : (fun i => if i = slot then (rx.mRecvOps i).tail else rx.mRecvOps i) =
      rx.mRecvOps := by
    funext i
    by_cases here : i = slot <;> simp [here, cells]
  simp only [popFront, same, cells]

theorem QueuesOk.popFront (ok : QueuesOk rx nextOp slots) (slot : Nat) :
    QueuesOk (rx.popFront slot) nextOp slots := by
  cases cells : rx.mRecvOps slot with
  | nil => rwa [popFront_empty cells]
  | cons op ops =>
    rw [popFront_eq cells]
    exact ok.erase (ok.mem.mp (cells ▸ List.mem_cons_self))

theorem QueuesOk.pushBack (ok : QueuesOk rx nextOp slots) (inside : slot < slots)
    {o : RecvOperation} (home : o.mSocketFork = slot) :
    QueuesOk (rx.pushBack slot nextOp o) (nextOp + 1) slots := by
  have added : ∀ p, (rx.pushBack slot nextOp o).home p =
      if p = nextOp then some slot else rx.home p := by
    intro p
    by_cases same : p = nextOp <;> simp [RecvSide.home, RecvSide.pushBack, Heap.set_apply, same, home]
  exact Queues.Owned.push ok inside added

theorem QueuesOk.fail (ok : QueuesOk rx nextOp slots) : QueuesOk (rx.fail slot op ec) nextOp slots :=
  ((ok.setError op ec).completeOn op).popFront slot

theorem QueuesOk.finish (ok : QueuesOk rx nextOp slots) : QueuesOk (rx.finish op ec) nextOp slots := by
  unfold RecvSide.finish
  split
  · exact (((ok.setError op ec).completeOn op).popFront _).congr rfl fun _ => rfl
  · exact ((ok.completeOn op).popFront _).congr rfl fun _ => rfl

theorem QueuesOk.drain (ok : QueuesOk rx nextOp slots) (ops : List (Nat × OpId)) :
    QueuesOk (rx.drain ops ec) nextOp slots := by
  induction ops generalizing rx ec with
  | nil => exact ok
  | cons op ops ih => exact ih ok.fail

/-- `mNumRecvs` counts what is queued. -/
def Counted (rx : RecvSide) (slots : Nat) : Prop := rx.mNumRecvs = Queues.total slots rx.mRecvOps

theorem slotOf_home (here : rx.home op = some slot) : rx.slotOf op = slot :=
  (congrArg (Option.getD · 0) here).trans rfl

theorem total_popFront (ok : QueuesOk rx nextOp slots) (here : rx.home op = some slot) :
    Queues.total slots (rx.popFront slot).mRecvOps + 1 = Queues.total slots rx.mRecvOps := by
  have member := ok.mem.mpr here
  cases cells : rx.mRecvOps slot with
  | nil => simp [cells] at member
  | cons front ops =>
    rw [popFront_eq cells]
    exact Queues.total_remove (ok.bound here).2 (cells ▸ List.mem_cons_self)

theorem Counted.finish (counted : Counted rx slots) (ok : QueuesOk rx nextOp slots)
    (here : rx.home op = some slot) : Counted (rx.finish op ec) slots := by
  have count : rx.mNumRecvs = _ := counted
  unfold Counted RecvSide.finish
  rw [slotOf_home here]
  split
  · have popped := total_popFront ((ok.setError op ec).completeOn op)
      (by simpa using here)
    have same : ((rx.setError op ec).completeOn op).mRecvOps = rx.mRecvOps := rfl
    rw [same] at popped
    dsimp only
    omega
  · have popped := total_popFront (ok.completeOn op)
      (by simpa using here)
    have same : (rx.completeOn op).mRecvOps = rx.mRecvOps := rfl
    rw [same] at popped
    dsimp only
    omega

theorem QueuesOk.cut (ok : QueuesOk rx nextOp slots) {o : RecvOperation}
    (home : rx.home op = some o.mSocketFork) : QueuesOk (rx.cut op o) nextOp slots :=
  (((ok.setError op _).completeOn op).erase (by simpa using home)).congr rfl fun _ => rfl

theorem Counted.cut (counted : Counted rx slots) (ok : QueuesOk rx nextOp slots) {o : RecvOperation}
    (home : rx.home op = some o.mSocketFork) : Counted (rx.cut op o) slots := by
  have count : rx.mNumRecvs = _ := counted
  have removed := Queues.total_remove (ok.bound home).2 (ok.mem.mpr home)
  show rx.mNumRecvs - 1 = Queues.total slots (Queues.remove rx.mRecvOps o.mSocketFork op)
  omega

/-- The drain writes the operations, their queues and the trace only. -/
theorem drain_shape (rx : RecvSide) (ops : List (Nat × OpId)) (ec : ErrorCode) :
    ∃ queues heap trace, rx.drain ops ec =
      { rx with mRecvOps := queues, ops := heap, trace := trace } := by
  induction ops generalizing rx ec with
  | nil => exact ⟨_, _, _, rfl⟩
  | cons op ops ih =>
    obtain ⟨queues, heap, trace, rest⟩ := ih (rx.fail op.1 op.2 ec) Code.cancel
    exact ⟨queues, heap, trace, rest⟩

theorem close_shape (rx : RecvSide) (ops : List (Nat × OpId)) (ec : ErrorCode) :
    ∃ queues heap trace, rx.close ops ec = { rx with
      mRecvStatus := .Closed
      mNumRecvs := 0
      mRecvOps := queues
      ops := heap
      trace := trace } := by
  obtain ⟨queues, heap, trace, shape⟩ :=
    rx.closing.drain_shape ops ec
  exact ⟨queues, heap, trace, by rw [close, shape]; rfl⟩

theorem QueuesOk.close (ok : QueuesOk rx nextOp slots) (ops : List (Nat × OpId))
    (ec : ErrorCode) :
    QueuesOk (rx.close ops ec) nextOp slots := by
  have closing : rx.closing.QueuesOk nextOp slots := ok.congr rfl fun _ => rfl
  exact (closing.drain ops).congr rfl fun _ => rfl

/-- What a slot still holds when part of the queues has been drained. -/
theorem drain_queue (ops : List (Nat × OpId)) (ec : ErrorCode)
    (all : rx.mRecvOps slot = (ops.filter (·.1 = slot)).map (·.2)) :
    (rx.drain ops ec).mRecvOps slot = [] := by
  induction ops generalizing rx ec with
  | nil => simpa [drain] using all
  | cons op ops ih =>
    refine ih _ ?_
    by_cases here : slot = op.1
    · simp_all [RecvSide.fail, RecvSide.popFront, RecvSide.completeOn, RecvSide.setError]
    · have skip : ((op :: ops).filter (·.1 = slot)) = ops.filter (·.1 = slot) := by
        simp [Ne.symm here]
      rw [skip] at all
      simpa [RecvSide.fail, RecvSide.popFront, RecvSide.completeOn, RecvSide.setError, here] using all

end RecvSide

namespace SockScheduler

theorem queuedRecvs_filter (s : SockScheduler) {slot : Nat}
    (inside : slot < s.table.mSocketForks_.length) :
    s.rx.mRecvOps slot = (s.queuedRecvs.filter (·.1 = slot)).map (·.2) := by
  have listed := Queues.filter_listing s.rx.mRecvOps slot
    (List.range s.table.mSocketForks_.length) List.nodup_range
  rw [if_pos (List.mem_range.mpr inside)] at listed
  exact listed.symm

/-- After the drain no receive is left. -/
theorem close_all {s : SockScheduler} {nextOp : Nat}
    (ok : s.rx.QueuesOk nextOp s.table.mSocketForks_.length) (ec : ErrorCode) (slot : Nat) :
    (s.rx.close s.queuedRecvs ec).mRecvOps slot = [] := by
  by_cases inside : slot < s.table.mSocketForks_.length
  · exact RecvSide.drain_queue _ _ (s.queuedRecvs_filter inside)
  · exact (ok.close s.queuedRecvs ec).empty_of_unused (Nat.le_of_not_lt inside)

end SockScheduler
end Coproto
