import Coproto.Invariants.RecvFront
import Coproto.Invariants.Traces
import Coproto.Lib.Ledger

/-!
# Every receive completes once

A posted receive is queued until it completes, and leaves its queue when it
does. The awaiter completes the front of a queue, the drain each queue from its
front, the stop callback an operation wherever it is.
-/
namespace Coproto

/-- The operation an observation posts, completes, gives an error to. -/
def RecvObs.posting : RecvObs → Option OpId
  | .posted op _ => some op
  | _ => none

def RecvObs.finishing : RecvObs → Option OpId
  | .completed op _ _ => some op
  | _ => none

def RecvObs.failing : RecvObs → Option OpId
  | .setError op _ => some op
  | _ => none

/-- An observation that is none of these. -/
def RecvObs.Aside (o : RecvObs) : Prop := o.posting = none ∧ o.finishing = none ∧ o.failing = none

namespace RecvSide

/-- The callback of a queued operation. -/
def cell (rx : RecvSide) (op : OpId) : Option Bool := (rx.ops op).map RecvOperation.mCH

def postedOps (rx : RecvSide) : List OpId := rx.trace.filterMap RecvObs.posting

def doneOps (rx : RecvSide) : List OpId := rx.trace.filterMap RecvObs.finishing

/-- What was posted is queued or done. -/
def Books (rx : RecvSide) (nextOp : OpId) : Prop :=
  Ledger.Shown RecvObs.posting RecvObs.finishing RecvObs.failing rx.cell rx.trace nextOp

variable {rx rx' : RecvSide} {op p : OpId} {slot nextOp slots : Nat} {ec mEC : ErrorCode}

@[simp] theorem isSome_cell : (rx.cell op).isSome = (rx.ops op).isSome := by simp [cell]

theorem cell_congr (ops : rx'.ops = rx.ops) (p : OpId) : rx'.cell p = rx.cell p := by
  rw [cell, cell, ops]

/-- A write that keeps the callback. -/
theorem cell_modify {f : RecvOperation → RecvOperation} (ops : rx'.ops = rx.ops.modify op f)
    (same : ∀ o, (f o).mCH = o.mCH) (p : OpId) : rx'.cell p = rx.cell p := by
  unfold cell
  rw [ops, Heap.modify_apply]
  split
  · cases rx.ops p <;> simp [same]
  · rfl

namespace Books

/-- Work that shows nothing of posting and completing. -/
theorem quiet (books : rx.Books nextOp) (cells : ∀ p, rx'.cell p = rx.cell p) {os : List RecvObs}
    (trace : rx'.trace = rx.trace ++ os) (aside : ∀ o ∈ os, o.Aside) {nextOp' : OpId}
    (later : nextOp ≤ nextOp') : rx'.Books nextOp' := by
  unfold Books
  rw [trace]
  exact Ledger.Shown.quiet books cells aside later

theorem same (books : rx.Books nextOp) (cells : ∀ p, rx'.cell p = rx.cell p)
    (trace : rx'.trace = rx.trace) : rx'.Books nextOp := by
  have none : rx'.trace = rx.trace ++ [] := by rw [trace, List.append_nil]
  exact books.quiet cells none (by simp) le_rfl

theorem log (books : rx.Books nextOp) {o : RecvObs} (aside : o.Aside) : (rx.log o).Books nextOp := by
  have cells (p : OpId) : (rx.log o).cell p = rx.cell p := rfl
  have one : (rx.log o).trace = rx.trace ++ [o] := rfl
  exact books.quiet cells one (by simpa using aside) le_rfl

theorem post (books : rx.Books nextOp) (session : UInt64 × UInt64)
    (added : ∀ p, rx'.cell p = if p = nextOp then some true else rx.cell p)
    (trace : rx'.trace = rx.trace ++ [.posted nextOp session]) : rx'.Books (nextOp + 1) := by
  unfold Books
  rw [trace]
  exact Ledger.Shown.post books added rfl rfl rfl

/-- An operation leaves: its cell goes, and its completion is shown last. -/
theorem leave (books : rx.Books nextOp) (live : (rx.ops op).isSome = true)
    (gone : rx'.ops op = none) (others : ∀ p, p ≠ op → rx'.ops p = rx.ops p)
    (errors : List ErrorCode) {error : Option ErrorCode} {data : List UInt8}
    (trace : rx'.trace = rx.trace ++ errors.map (.setError op) ++ [.completed op error data]) :
    rx'.Books nextOp := by
  have cells : ∀ q, rx'.cell q = if q = op then none else rx.cell q := by
    intro q
    by_cases same : q = op
    · subst same
      simp [cell, gone]
    · rw [if_neg same, cell, cell, others q same]
  unfold Books
  rw [trace]
  refine Ledger.Shown.finish books (p := op) (by simpa using live) cells ?_ ⟨rfl, rfl, rfl⟩
  intro o member
  obtain ⟨e, _, rfl⟩ := List.mem_map.mp member
  exact ⟨rfl, rfl, rfl⟩

/-- A receive that is refused is posted and done at once. -/
theorem reject (books : rx.Books nextOp) (session : UInt64 × UInt64) (ec : ErrorCode) :
    (rx.reject nextOp session ec).Books (nextOp + 1) := by
  have rejected := Ledger.reject books
  have cells : (rx.reject nextOp session ec).cell = rx.cell := rfl
  unfold Books Ledger.Shown
  rw [cells]
  simpa [List.filterMap_cons, RecvObs.posting, RecvObs.finishing, RecvObs.failing] using rejected

end Books

/-! ## Operations that leave -/

/-- A front operation leaves its queue with a pop. -/
theorem AtFront.popFront (front : rx.AtFront op) :
    rx.popFront (rx.slotOf op) = rx.erase (rx.slotOf op) op := by
  obtain ⟨slot, home, head⟩ := front
  rw [slotOf_home home]
  cases cells : rx.mRecvOps slot with
  | nil => simp [cells] at head
  | cons first rest =>
    simp only [cells, List.head?_cons, Option.some.injEq] at head
    rw [← head]
    exact popFront_eq cells

theorem AtFront.live (front : rx.AtFront op) : ∃ o, rx.ops op = some o := by
  obtain ⟨slot, home, _⟩ := front
  obtain ⟨o, live, _⟩ := Option.map_eq_some_iff.mp home
  exact ⟨o, live⟩

/-- `completePrev` on the front of a queue. -/
theorem finish_apply (front : rx.AtFront op) (ec : ErrorCode) (p : OpId) :
    (rx.finish op ec).ops p = if p = op then none else rx.ops p := by
  obtain ⟨m, marked⟩ : ∃ m, (if ec.isError then rx.setError op ec else rx).completeOn op = m :=
    ⟨_, rfl⟩
  have queues : m.mRecvOps = rx.mRecvOps := by
    rw [← marked]
    split <;> rfl
  have homes : ∀ q, m.home q = rx.home q := by
    intro q
    rw [← marked]
    split <;> simp
  have others : ∀ q, q ≠ op → m.ops q = rx.ops q := by
    intro q other
    rw [← marked]
    split <;> simp [Heap.modify_of_ne other]
  have slot : m.slotOf op = rx.slotOf op := congrArg (Option.getD · 0) (homes op)
  have popped := (front.congr queues homes : m.AtFront op).popFront
  have shape : (rx.finish op ec).ops = (m.erase (rx.slotOf op) op).ops := by
    rw [← slot, ← popped, slot, ← marked]
    rfl
  rw [shape, erase_ops, Heap.erase_apply]
  by_cases same : p = op
  · rw [if_pos same, if_pos same]
  · rw [if_neg same, if_neg same, others p same]

theorem trace_completed {o : RecvOperation} (live : rx.ops op = some o) :
    (rx.completeOn op).trace =
      rx.trace ++ [.completed op o.mRecvBuffer.mExPtr.error o.mRecvBuffer.mData] := by
  rw [completeOn_trace, live]
  rfl

theorem Books.finish (books : rx.Books nextOp) (front : rx.AtFront op) (ec : ErrorCode) :
    (rx.finish op ec).Books nextOp := by
  obtain ⟨o, live⟩ := front.live
  have gone : (rx.finish op ec).ops op = none := by rw [finish_apply front, if_pos rfl]
  have others : ∀ p, p ≠ op → (rx.finish op ec).ops p = rx.ops p := by
    intro p other
    rw [finish_apply front, if_neg other]
  have trace : (rx.finish op ec).trace =
      ((if ec.isError then rx.setError op ec else rx).completeOn op).trace := rfl
  split at trace
  · have marked : (rx.setError op ec).ops op =
        some { o with mRecvBuffer := o.mRecvBuffer.setError ec } := by simp [live]
    rw [trace_completed marked] at trace
    exact books.leave (by simp [live]) gone others [ec] trace
  · rw [trace_completed live, ← List.append_nil rx.trace] at trace
    exact books.leave (by simp [live]) gone others [] trace

/-- The stop callback of an operation that waits. -/
theorem Books.cut (books : rx.Books nextOp) {o : RecvOperation} (live : rx.ops op = some o) :
    (rx.cut op o).Books nextOp := by
  have marked : (rx.setError op Code.operation_aborted).ops op =
      some { o with mRecvBuffer := o.mRecvBuffer.setError Code.operation_aborted } := by simp [live]
  have trace : (rx.cut op o).trace = ((rx.setError op Code.operation_aborted).completeOn op).trace :=
    rfl
  rw [trace_completed marked] at trace
  refine books.leave (by simp [live]) (by simp) (fun p other => ?_)
    [Code.operation_aborted] trace
  simp [Heap.erase_of_ne other, Heap.modify_of_ne other]

/-! ## The drain -/

/-- `ops` lists the queues, each from its front. -/
def Lists (rx : RecvSide) (ops : List (Nat × OpId)) : Prop :=
  ∀ slot, rx.mRecvOps slot = (ops.filter (·.1 = slot)).map (·.2)

theorem lists_listing (queues : rx.QueuesOk nextOp slots) : rx.Lists (rx.listing slots) := by
  intro slot
  have listed := Queues.filter_listing rx.mRecvOps slot (List.range slots) List.nodup_range
  by_cases inside : slot < slots
  · rw [if_pos (List.mem_range.mpr inside)] at listed
    exact listed.symm
  · rw [if_neg (by simpa using inside)] at listed
    rw [queues.empty_of_unused (Nat.le_of_not_lt inside)]
    exact listed.symm

section Drain
variable {ops : List (Nat × OpId)}

theorem Lists.first (lists : rx.Lists ((slot, op) :: ops)) :
    rx.mRecvOps slot = op :: (ops.filter (·.1 = slot)).map (·.2) := by
  rw [lists slot]
  simp

/-- The first listed operation fails; the rest is listed as before. -/
theorem Lists.fail (lists : rx.Lists ((slot, op) :: ops)) (ec : ErrorCode) :
    (rx.fail slot op ec).Lists ops := by
  intro i
  have queue := lists i
  by_cases here : i = slot
  · subst here
    simp only [fail_mRecvOps, if_true, queue]
    simp
  · simp only [fail_mRecvOps, here, if_false, queue]
    simp [Ne.symm here]

theorem fail_apply (lists : rx.Lists ((slot, op) :: ops)) (ec : ErrorCode) (p : OpId) :
    (rx.fail slot op ec).ops p = if p = op then none else rx.ops p := by
  have cells : ((rx.setError op ec).completeOn op).mRecvOps slot = op :: _ := lists.first
  rw [RecvSide.fail, popFront_eq cells, erase_ops, Heap.erase_apply]
  by_cases same : p = op
  · rw [if_pos same, if_pos same]
  · simp [same, Heap.modify_of_ne same]

theorem Books.fail (books : rx.Books nextOp) (queues : rx.QueuesOk nextOp slots)
    (lists : rx.Lists ((slot, op) :: ops)) (ec : ErrorCode) : (rx.fail slot op ec).Books nextOp := by
  have home := queues.mem.mp (lists.first ▸ List.mem_cons_self : op ∈ rx.mRecvOps slot)
  obtain ⟨o, live, _⟩ := Option.map_eq_some_iff.mp home
  have marked : (rx.setError op ec).ops op =
      some { o with mRecvBuffer := o.mRecvBuffer.setError ec } := by simp [live]
  have trace : (rx.fail slot op ec).trace = ((rx.setError op ec).completeOn op).trace := rfl
  rw [trace_completed marked] at trace
  refine books.leave (by simp [live]) (by rw [fail_apply lists, if_pos rfl]) (fun p other => ?_) [ec]
    trace
  rw [fail_apply lists, if_neg other]

theorem Books.drain (books : rx.Books nextOp) (queues : rx.QueuesOk nextOp slots)
    (lists : rx.Lists ops) (ec : ErrorCode) : (rx.drain ops ec).Books nextOp := by
  induction ops generalizing rx ec with
  | nil => exact books
  | cons first ops ih =>
    exact ih (books.fail queues lists ec) queues.fail (lists.fail ec) Code.cancel

end Drain

theorem Books.close (books : rx.Books nextOp) (queues : rx.QueuesOk nextOp slots) (ec : ErrorCode) :
    (rx.close (rx.listing slots) ec).Books nextOp := by
  have closing : rx.closing.Books nextOp := books.same (fun _ => rfl) rfl
  have queues' : rx.closing.QueuesOk nextOp slots := queues.congr rfl fun _ => rfl
  exact (closing.drain queues' (lists_listing queues) ec).same (fun _ => rfl) rfl

/-! ## Stop callbacks and posting -/

theorem aside_stopRequested (op : OpId) (failed : Bool) : (RecvObs.stopRequested op failed).Aside :=
  ⟨rfl, rfl, rfl⟩

theorem Books.stop (books : rx.Books nextOp) (op : OpId) (failed : Bool) :
    (rx.stop op failed).Books nextOp := by
  have marked : ((rx.log (.stopRequested op failed)).setReg op .invoked).Books nextOp :=
    (books.log (aside_stopRequested op failed)).same (cell_modify rfl fun _ => rfl) rfl
  unfold RecvSide.stop
  split
  · exact books
  · rename_i o live
    split
    · have there : ((rx.log (.stopRequested op failed)).setReg op .invoked).ops op =
          some { o with mReg := .invoked } := by simp [live]
      exact marked.cut (o := { o with mReg := .invoked }) there
    · have halted : (((rx.log (.stopRequested op failed)).setReg op .invoked).setStatus op
          .Canceling).Books nextOp := marked.same (cell_modify rfl fun _ => rfl) rfl
      exact halted.same (fun _ => rfl) rfl

theorem Books.arm (books : rx.Books nextOp) (op : OpId) (token : StopToken) :
    (rx.arm op token).Books nextOp := by
  have marked : (rx.setReg op .registered).Books nextOp :=
    books.same (cell_modify rfl fun _ => rfl) rfl
  cases token with
  | none => exact books
  | live => exact marked
  | stopped => exact marked.stop op false

theorem cell_enqueue (remoteId : UInt32) (buffer : RecvBuffer) (p : OpId) :
    (rx.enqueue slot remoteId op buffer).cell p = if p = op then some true else rx.cell p := by
  have placed (q : OpId) : (rx.emplace slot op buffer).cell q =
      if q = op then some true else rx.cell q := by
    by_cases same : q = op <;> simp [cell, Heap.set_apply, same]
  have started (q : OpId) : ((rx.emplace slot op buffer).setStatus op .InProgress).cell q =
      (rx.emplace slot op buffer).cell q :=
    cell_modify (f := fun o => { o with mStatus := .InProgress }) rfl (fun _ => rfl) q
  unfold RecvSide.enqueue
  split
  · exact (started p).trans (placed p)
  · split
    · exact (started p).trans (placed p)
    · exact placed p
  · exact placed p

theorem Books.await (books : rx.Books nextOp) (queues : rx.QueuesOk nextOp slots)
    (awaits : rx.Await mEC slots ec rx') : rx'.Books nextOp := by
  cases awaits with
  | shut failed code same =>
    have moved : (rx.at_ (.anyRecvOp (some Code.cancel))).Books nextOp :=
      books.same (fun _ => rfl) rfl
    have queues' : (rx.at_ (.anyRecvOp (some Code.cancel))).QueuesOk nextOp slots :=
      queues.congr rfl fun _ => rfl
    exact moved.close queues' code
  | next ok num => exact books.same (fun _ => rfl) rfl
  | park ok num => exact books.same (fun _ => rfl) rfl

theorem Books.request {table : ForkTable} {frame : Frame} (books : rx.Books nextOp)
    (queues : rx.QueuesOk nextOp table.mSocketForks_.length)
    (request : rx.Request table mEC frame rx') : rx'.Books nextOp := by
  cases request with
  | unknown unmapped e error =>
    exact (books.close queues Code.badCoprotoMessageHeader).same (fun _ => rfl) rfl
  | failed slot mapped error => exact books.same (fun _ => rfl) rfl
  | park slot mapped ok empty => exact books.same (fun _ => rfl) rfl
  | serve slot op ops mapped ok cells =>
    have started : (rx.setStatus op .InProgress).Books nextOp :=
      books.same (cell_modify rfl fun _ => rfl) rfl
    exact started.same (fun _ => rfl) rfl

/-- The operation a task that was given one completes. -/
theorem AtFront.renew (front : rx.AtFront op) (fresh : StopId) : (rx.renew fresh).AtFront op :=
  front.congr rfl fun _ => rfl

end RecvSide

/-! ## Steps -/

namespace SockScheduler
variable {s t : SockScheduler}

theorem books_recvStep {e : Event} (inv : BaseInv s) (front : s.rx.FrontOk s.table)
    (books : s.rx.Books s.nextOp) (table : TableStep s e t) (step : RecvStep s e t) :
    t.rx.Books t.nextOp := by
  have queues := inv.recv.queues
  have logged {o : RecvObs} (aside : o.Aside) : (s.rx.log o).Books s.nextOp := books.log aside
  cases step with
  | quiet rx mEC nextOp =>
    rw [rx]
    have none : s.rx.trace = s.rx.trace ++ [] := (List.append_nil _).symm
    exact books.quiet (fun _ => rfl) none (by simp) nextOp
  | woken code error rx first failed nextOp =>
    rw [rx, nextOp]
    refine books.same (RecvSide.cell_congr (RecvSide.wakeError_ops code)) ?_
    unfold RecvSide.wakeError
    split <;> rfl
  | rejected session buffer token ec error rx mEC nextOp =>
    rw [rx, nextOp]
    exact books.reject session ec
  | posted session buffer token slot held ok rx mEC nextOp =>
    rw [rx, nextOp]
    refine RecvSide.Books.arm (books.post session (fun p => ?_) ?_) s.nextOp token
    · rw [RecvSide.cell_enqueue]
      rfl
    · rw [RecvSide.trace_enqueue]
      rfl
  | stopped op armed rx frame =>
    rw [rx, frame.nextOp]
    exact books.stop op _
  | closed r task error rx frame =>
    rw [rx, frame.nextOp]
    exact books.same (fun _ => rfl) rfl
  | header r task ok rx frame =>
    rw [rx, frame.nextOp]
    exact books.same (fun _ => rfl) rfl
  | abandoned f e task awaits frame =>
    rw [frame.nextOp]
    exact books.await queues awaits
  | body f op task fits rx frame =>
    rw [rx, frame.nextOp]
    have spanned : (s.rx.asSpan op f.header.mSize.toNat).Books s.nextOp :=
      books.same (RecvSide.cell_modify rfl fun _ => rfl) rfl
    exact spanned.same (fun _ => rfl) rfl
  | mismatch f op task misfits awaits frame =>
    rw [frame.nextOp]
    have given := front.serving op (by rw [task]; rfl)
    have spanned : (s.rx.asSpan op f.header.mSize.toNat).Books s.nextOp :=
      books.same (RecvSide.cell_modify rfl fun _ => rfl) rfl
    have placed : (s.rx.asSpan op f.header.mSize.toNat).AtFront op :=
      given.congr rfl (RecvSide.home_modify rfl fun _ => rfl)
    have renewed : ((s.rx.asSpan op f.header.mSize.toNat).renew s.nextStop).Books s.nextOp :=
      spanned.same (fun _ => rfl) rfl
    have queues' : ((s.rx.asSpan op f.header.mSize.toNat).renew s.nextStop).QueuesOk s.nextOp
      s.table.mSocketForks_.length := (queues.asSpan op _).congr rfl fun _ => rfl
    exact (renewed.finish (placed.renew _) _).await queues'.finish awaits
  | headerFailed x call task failed awaits frame =>
    rw [frame.nextOp]
    exact (logged ⟨rfl, rfl, rfl⟩).await (queues.log _) awaits
  | control x call token task size full control rx frame =>
    rw [rx, frame.nextOp]
    exact (logged ⟨rfl, rfl, rfl⟩).same (fun _ => rfl) rfl
  | data x call token task size full data request frame =>
    rw [frame.nextOp]
    exact (logged ⟨rfl, rfl, rfl⟩).request (queues.log _) request
  | @refused _ ec bt bytes x call header token task size full table' code faults init error awaits
      mEC nextOp tableSame faults' =>
    rw [nextOp]
    have grown := s.table.length_initRemoteSocketFork header.mForkId (controlBlockSessionID bytes)
    rw [init] at grown
    have queues' : s.rx.QueuesOk s.nextOp table'.mSocketForks_.length := queues.mono le_rfl grown
    exact (logged ⟨rfl, rfl, rfl⟩).await (queues'.log _) awaits
  | accepted x call header token task size full table' code faults init ok rx mEC nextOp tableSame
      faults' =>
    rw [rx, nextOp]
    exact (logged ⟨rfl, rfl, rfl⟩).same (fun _ => rfl) rfl
  | @filled _ ec bt bytes x call f op token task size awaits frame =>
    rw [frame.nextOp]
    have given := front.serving op (by rw [task]; rfl)
    have filled : ((s.rx.log (.body op f.call x)).fill op bytes).Books s.nextOp :=
      (logged ⟨rfl, rfl, rfl⟩).same (RecvSide.cell_modify rfl fun _ => rfl) rfl
    have placed : ((s.rx.log (.body op f.call x)).fill op bytes).AtFront op :=
      given.congr rfl (RecvSide.home_modify rfl fun _ => rfl)
    have renewed : (((s.rx.log (.body op f.call x)).fill op bytes).renew s.nextStop).Books s.nextOp :=
      filled.same (fun _ => rfl) rfl
    have queues' : (((s.rx.log (.body op f.call x)).fill op bytes).renew s.nextStop).QueuesOk
        s.nextOp s.table.mSocketForks_.length :=
      ((queues.log _).fill op bytes).congr rfl fun _ => rfl
    exact (renewed.finish (placed.renew _) _).await queues'.finish awaits

theorem books_recv_init (sid : SessionID) : (init sid).rx.Books (init sid).nextOp := by
  rw [BaseInv.init_eq]
  exact Ledger.empty 0

end SockScheduler
end Coproto
