import Coproto.Invariants.SendChain
import Coproto.Invariants.Traces
import Coproto.Lib.Ledger

/-!
# Every send completes once

As long as no send is linked behind an operation that was erased, a posted send
is on the list until it completes, and leaves the list when it does.
-/
namespace Coproto

/-- The operation an observation posts, completes, gives an error to. -/
def SendObs.posting : SendObs → Option OpId
  | .posted op _ _ => some op
  | _ => none

def SendObs.finishing : SendObs → Option OpId
  | .completed op _ => some op
  | _ => none

def SendObs.failing : SendObs → Option OpId
  | .setError op _ => some op
  | _ => none

/-- An observation that is none of these. -/
def SendObs.Aside (o : SendObs) : Prop := o.posting = none ∧ o.finishing = none ∧ o.failing = none

namespace SendSide

/-- The callback of a queued operation. -/
def cell (tx : SendSide) (op : OpId) : Option Bool := (tx.ops op).map SendOperation.mCH

def postedOps (tx : SendSide) : List OpId := tx.trace.filterMap SendObs.posting

def doneOps (tx : SendSide) : List OpId := tx.trace.filterMap SendObs.finishing

/-- What was posted is queued or done. -/
def Books (tx : SendSide) (nextOp : OpId) : Prop :=
  Ledger.Shown SendObs.posting SendObs.finishing SendObs.failing tx.cell tx.trace nextOp

variable {tx tx' : SendSide} {op p : OpId} {xs : List OpId} {slot nextOp slots : Nat}
  {ec mEC : ErrorCode}

@[simp] theorem isSome_cell : (tx.cell op).isSome = (tx.ops op).isSome := by simp [cell]

theorem cell_congr (ops : tx'.ops = tx.ops) (p : OpId) : tx'.cell p = tx.cell p := by
  rw [cell, cell, ops]

/-- A write that keeps the callback. -/
theorem cell_modify {f : SendOperation → SendOperation} (ops : tx'.ops = tx.ops.modify op f)
    (same : ∀ o, (f o).mCH = o.mCH) (p : OpId) : tx'.cell p = tx.cell p := by
  unfold cell
  rw [ops, Heap.modify_apply]
  split
  · cases tx.ops p <;> simp [same]
  · rfl

/-- Links say nothing of callbacks. -/
theorem cell_setNext (next : Option OpId) (p : OpId) : (tx.setNext op next).cell p = tx.cell p := by
  unfold cell
  rw [setNext_apply]
  cases tx.ops p <;> rfl

theorem cell_erase (slot : Nat) (p : OpId) :
    (tx.erase slot op).cell p = if p = op then none else tx.cell p := by
  unfold cell
  by_cases same : p = op <;> simp [Heap.erase_apply, same]

namespace Books

/-- Work that shows nothing of posting and completing. -/
theorem quiet (books : tx.Books nextOp) (cells : ∀ p, tx'.cell p = tx.cell p) {os : List SendObs}
    (trace : tx'.trace = tx.trace ++ os) (aside : ∀ o ∈ os, o.Aside) {nextOp' : OpId}
    (later : nextOp ≤ nextOp') : tx'.Books nextOp' := by
  unfold Books
  rw [trace]
  exact Ledger.Shown.quiet books cells aside later

theorem same (books : tx.Books nextOp) (cells : ∀ p, tx'.cell p = tx.cell p)
    (trace : tx'.trace = tx.trace) : tx'.Books nextOp := by
  have none : tx'.trace = tx.trace ++ [] := by rw [trace, List.append_nil]
  exact books.quiet cells none (by simp) le_rfl

theorem log (books : tx.Books nextOp) {o : SendObs} (aside : o.Aside) : (tx.log o).Books nextOp := by
  have cells (p : OpId) : (tx.log o).cell p = tx.cell p := rfl
  have one : (tx.log o).trace = tx.trace ++ [o] := rfl
  exact books.quiet cells one (by simpa using aside) le_rfl

theorem post (books : tx.Books nextOp) (session : UInt64 × UInt64) (data : List UInt8)
    (added : ∀ p, tx'.cell p = if p = nextOp then some true else tx.cell p)
    (trace : tx'.trace = tx.trace ++ [.posted nextOp session data]) : tx'.Books (nextOp + 1) := by
  unfold Books
  rw [trace]
  exact Ledger.Shown.post books added rfl rfl rfl

/-- An operation leaves: its cell goes, and its completion is shown last. -/
theorem leave (books : tx.Books nextOp) (live : (tx.ops op).isSome = true)
    (gone : ∀ p, tx'.cell p = if p = op then none else tx.cell p) (errors : List ErrorCode)
    {error : Option ErrorCode}
    (trace : tx'.trace = tx.trace ++ errors.map (.setError op) ++ [.completed op error]) :
    tx'.Books nextOp := by
  unfold Books
  rw [trace]
  refine Ledger.Shown.finish books (p := op) (by simpa using live) gone ?_ ⟨rfl, rfl, rfl⟩
  intro o member
  obtain ⟨e, _, rfl⟩ := List.mem_map.mp member
  exact ⟨rfl, rfl, rfl⟩

/-- A send that is refused is posted and done at once. -/
theorem reject (books : tx.Books nextOp) (session : UInt64 × UInt64) (data : List UInt8)
    (ec : ErrorCode) : (tx.reject nextOp session data ec).Books (nextOp + 1) := by
  have rejected := Ledger.reject books
  have cells : (tx.reject nextOp session data ec).cell = tx.cell := rfl
  unfold Books Ledger.Shown
  rw [cells]
  simpa [List.filterMap_cons, SendObs.posting, SendObs.finishing, SendObs.failing] using rejected

end Books

/-! ## Operations that leave -/

theorem trace_completed {o : SendOperation} (live : tx.ops op = some o) :
    (tx.completeOn op).trace = tx.trace ++ [.completed op o.mError] := by
  rw [completeOn_trace, live]
  rfl

theorem AtFront.live (front : tx.AtFront op) : ∃ o, tx.ops op = some o := by
  obtain ⟨slot, home, _⟩ := front
  obtain ⟨o, live, _⟩ := Option.map_eq_some_iff.mp home
  exact ⟨o, live⟩

/-- The error an operation is given, and its completion. -/
theorem trace_failed {o : SendOperation} (live : tx.ops op = some o) (ec : ErrorCode) :
    ((tx.setError op ec).completeOn op).trace =
      tx.trace ++ [.setError op ec] ++ [.completed op (some ec)] := by
  have marked : (tx.setError op ec).ops op = some { o with mError := some ec } := by simp [live]
  rw [trace_completed marked]
  rfl

theorem Books.finish (books : tx.Books nextOp) (front : tx.AtFront op) (ec : ErrorCode) :
    (tx.finish op ec).Books nextOp := by
  obtain ⟨o, live⟩ := front.live
  have gone : ∀ p, (tx.finish op ec).cell p = if p = op then none else tx.cell p := by
    intro p
    unfold cell
    rw [finish_apply front]
    split <;> rfl
  have trace : (tx.finish op ec).trace =
      ((if ec.isError then tx.setError op ec else tx).completeOn op).trace := rfl
  split at trace
  · rw [trace_failed live] at trace
    exact books.leave (by simp [live]) gone [ec] trace
  · rw [trace_completed live, ← List.append_nil tx.trace] at trace
    exact books.leave (by simp [live]) gone [] trace

/-- The stop callback of an operation that waits. -/
theorem Books.cut (books : tx.Books nextOp) {o : SendOperation} (live : tx.ops op = some o) :
    (tx.cut op o).Books nextOp := by
  have trace : (tx.cut op o).trace = _ := trace_cut o
  rw [trace_failed live] at trace
  have marked (p : OpId) (other : p ≠ op) :
      ((tx.setError op Code.operation_aborted).completeOn op).cell p = tx.cell p := by
    simp [cell, Heap.modify_of_ne other]
  refine books.leave (by simp [live]) (fun p => ?_) [Code.operation_aborted] trace
  unfold SendSide.cut
  cases o.mPrev with
  | none =>
    dsimp only
    rw [cell_erase]
    split
    · rfl
    · exact marked p ‹_›
  | some prev =>
    dsimp only
    rw [cell_erase, cell_setNext]
    split
    · rfl
    · exact marked p ‹_›

theorem Books.fail (books : tx.Books nextOp) (listed : tx.Listed (op :: xs))
    (queues : tx.QueuesOk nextOp slots) (ec : ErrorCode) : (tx.fail op ec).Books nextOp := by
  obtain ⟨o, live⟩ := Option.isSome_iff_exists.mp (listed.mem.mp List.mem_cons_self)
  have trace : (tx.fail op ec).trace = ((tx.setError op ec).completeOn op).trace := rfl
  rw [trace_failed live] at trace
  refine books.leave (by simp [live]) (fun p => ?_) [ec] trace
  rw [listed.popFail queues, cell_erase]
  split
  · rfl
  · simp [cell, Heap.modify_of_ne ‹p ≠ op›]

/-- The drain completes the operations of the list, from its front. -/
theorem Books.drain (books : tx.Books nextOp) (listed : tx.Listed xs)
    (queues : tx.QueuesOk nextOp slots) (n : Nat) (ec : ErrorCode) :
    (tx.drain n xs.head? ec).Books nextOp := by
  induction n generalizing tx xs ec with
  | zero => exact books
  | succ n ih =>
    cases xs with
    | nil => exact books
    | cons op xs =>
      rw [List.head?_cons, SendSide.drain, listed.chain.next_head]
      exact ih (books.fail listed queues ec) (listed.fail queues ec) queues.fail Code.cancel

/-- All of the list fails when the direction is closed. -/
theorem Books.shut (books : tx.Books nextOp) (chain : tx.ChainOk xs)
    (queues : tx.QueuesOk nextOp slots) (n : Nat) (ec : ErrorCode) :
    (tx.shut n ec).Books nextOp := by
  have closing : tx.closing.Books nextOp := books.same (fun _ => rfl) rfl
  have listed : tx.closing.Listed xs :=
    chain.toListed.congr (fun _ _ => rfl) (fun _ _ => rfl) fun _ => rfl
  have queues' : tx.closing.QueuesOk nextOp slots := queues.congr rfl fun _ => rfl
  have drained := closing.drain listed queues' n ec
  rw [← chain.begin] at drained
  exact drained.same (fun _ => rfl) rfl

/-! ## Stop callbacks and posting -/

theorem Books.stop (books : tx.Books nextOp) (op : OpId) (failed : Bool) :
    (tx.stop op failed).Books nextOp := by
  have marked : ((tx.log (.stopRequested op failed)).setReg op .invoked).Books nextOp :=
    (books.log ⟨rfl, rfl, rfl⟩).same (cell_modify rfl fun _ => rfl) rfl
  unfold SendSide.stop
  split
  · exact books
  · rename_i o live
    split
    · have there : ((tx.log (.stopRequested op failed)).setReg op .invoked).ops op =
          some { o with mReg := .invoked } := by simp [live]
      exact marked.cut (o := { o with mReg := .invoked }) there
    · have halted : (((tx.log (.stopRequested op failed)).setReg op .invoked).setStatus op
          .Canceling).Books nextOp := marked.same (cell_modify rfl fun _ => rfl) rfl
      exact halted.same (fun _ => rfl) rfl

theorem Books.arm (books : tx.Books nextOp) (op : OpId) (token : StopToken) :
    (tx.arm op token).Books nextOp := by
  have marked : (tx.setReg op .registered).Books nextOp :=
    books.same (cell_modify rfl fun _ => rfl) rfl
  cases token with
  | none => exact books
  | live => exact marked
  | stopped => exact marked.stop op false

theorem cell_link (p : OpId) : (tx.link op).cell p = tx.cell p := by
  cases last : tx.mSendBufferLast with
  | none =>
    have same : (tx.link op).ops = tx.ops := by
      unfold link
      rw [last]
    exact cell_congr same p
  | some k =>
    have same : (tx.link op).ops = (tx.setNext k (some op)).ops := by
      unfold link
      rw [last]
    rw [cell_congr same]
    exact cell_setNext _ p

theorem cell_enqueue (data : List UInt8) (p : OpId) :
    (tx.enqueue slot op data).cell p = if p = op then some true else tx.cell p := by
  have placed (q : OpId) :
      (tx.pushBack slot op { mSendBuffer := data, mSocketFork := slot }).cell q =
        if q = op then some true else tx.cell q := by
    by_cases same : q = op <;> simp [cell, Heap.set_apply, same]
  unfold SendSide.enqueue
  dsimp only
  split
  · exact (cell_modify (f := fun o => { o with mStatus := .InProgress }) rfl (fun _ => rfl) p).trans
      (placed p)
  · exact (cell_link p).trans (placed p)

/-- The send in progress is done. -/
theorem Books.await (books : tx.Books nextOp) (chain : tx.ChainOk (op :: xs))
    (queues : tx.QueuesOk nextOp slots) (awaits : (tx.finish op ec).Await mEC nextOp ec tx') :
    tx'.Books nextOp := by
  have left := books.finish (chain.toListed.front queues) ec
  obtain ⟨rest, _⟩ := chain.finish queues ec
  cases awaits with
  | shut failed => exact left.shut rest queues.finish nextOp _
  | take p ok begin =>
    have taken : ((tx.finish op ec).setStatus p .InProgress).Books nextOp :=
      left.same (cell_modify rfl fun _ => rfl) rfl
    exact taken.same (fun _ => rfl) rfl
  | park ok begin => exact left.same (fun _ => rfl) rfl

end SendSide

/-! ## Steps -/

namespace SockScheduler
variable {s t : SockScheduler}

theorem books_sendStep {e : Event} (inv : SendInv s) (chained : s.tx.Chained)
    (books : s.tx.Books s.nextOp) (step : SendStep s e t) : t.tx.Books t.nextOp := by
  cases step with
  | quiet tx mEC nextOp =>
    rw [tx]
    have none : s.tx.trace = s.tx.trace ++ [] := (List.append_nil _).symm
    exact books.quiet (fun _ => rfl) none (by simp) nextOp
  | woken tx first failed nextOp =>
    rw [tx, nextOp]
    exact books.same (SendSide.cell_congr SendSide.wakeError_ops) SendSide.trace_wakeError
  | rejected session data token ec error tx mEC nextOp =>
    rw [tx, nextOp]
    exact books.reject session data ec
  | posted session data token slot held full ok tx mEC nextOp =>
    rw [tx, nextOp]
    refine SendSide.Books.arm (books.post session data (fun p => ?_) ?_) s.nextOp token
    · rw [SendSide.cell_enqueue]
      rfl
    · rw [SendSide.trace_enqueue]
      rfl
  | stopped op armed tx mEC nextOp =>
    rw [tx, nextOp]
    exact books.stop op _
  | closed e task tx mEC nextOp =>
    rw [tx, nextOp]
    exact books.same (fun _ => rfl) rfl
  | started op part task opening tx mEC nextOp =>
    rw [tx, nextOp]
    have logged : (s.tx.log (.started op)).Books s.nextOp := books.log ⟨rfl, rfl, rfl⟩
    exact logged.same (fun _ => rfl) rfl
  | advanced part part' op token task x call full follows tx mEC nextOp =>
    rw [tx, nextOp]
    have logged : (s.tx.log (.xfer op part x)).Books s.nextOp := books.log ⟨rfl, rfl, rfl⟩
    exact logged.same (fun _ => rfl) rfl
  | finished part op token task x call reason awaits mEC nextOp =>
    obtain ⟨xs, chain⟩ := chained.sending inv.task task
    have logged : (s.tx.log (.xfer op part x)).Books s.nextOp := books.log ⟨rfl, rfl, rfl⟩
    have placed : (s.tx.log (.xfer op part x)).ChainOk (op :: xs) := chain.congr rfl rfl rfl
    rw [nextOp]
    exact logged.await placed (inv.queues.congr rfl fun _ => rfl) awaits

theorem books_send_init (sid : SessionID) : (init sid).tx.Books (init sid).nextOp := by
  rw [BaseInv.init_eq]
  exact Ledger.empty 0

end SockScheduler
end Coproto
