import Coproto.Guarantees.BufferOwnership
import Coproto.Invariants.SendOrder
import Coproto.Invariants.SendTail

/-!
# The list of sends is a queue

SocketScheduler.h:568-626, 969-1026, SendOperation.h:109-124. From
`mSendBufferBegin` along `mNext` the list holds the sends that were posted and
are not done, in posting order, and ends at `mSendBufferLast`. The stop callback
of the last send breaks this: it leaves `mSendBufferLast` pointing at the send it
erases, and the next send is linked behind that one and lost.
-/
namespace Coproto
open SockScheduler Runs

namespace SendSide

/-- The posted sends that are not done, in posting order. -/
def pendingOps (tx : SendSide) : List OpId := tx.postedOps.filter (· ∉ tx.doneOps)

/-- Those that have not been started. -/
def waitingOps (tx : SendSide) : List OpId := tx.pendingOps.filter (· ∉ tx.startedOps)

end SendSide

/-- The list is the queue of the pending sends. -/
structure SendList (s : SockScheduler) : Prop where
  /-- However far one walks along `mNext`. -/
  chain : ∀ fuel, s.tx.pendingOps.length ≤ fuel →
    Linked.walk s.tx.next fuel s.tx.mSendBufferBegin = s.tx.pendingOps
  last : s.tx.mSendBufferLast = s.tx.pendingOps.getLast?
  forks : ∀ slot, s.tx.mSendOps slot = s.tx.pendingOps.filter fun op => s.tx.home op = some slot
  behind : ∀ op ∈ s.tx.pendingOps.tail, ∃ o, s.tx.ops op = some o ∧ o.mStatus = .NotStarted
  /-- A stop request takes off its own send and starts none. -/
  cancel : ∀ op o t, s.tx.ops op = some o → o.mStatus = .NotStarted →
    step s (.stopSend op) = some t →
    t.tx.pendingOps = s.tx.pendingOps.erase op ∧ t.tx.startedOps = s.tx.startedOps
  /-- Sends are put on the wire in posting order, and those that wait come next. -/
  wire : s.tx.startedOps ++ s.tx.waitingOps =
    s.tx.postedOps.filter fun op => op ∈ s.tx.startedOps ∨ op ∈ s.tx.pendingOps
  /-- No send is passed over. -/
  kept : s.mEC.isError = false → ∀ op ∈ s.tx.postedOps, op ∈ s.tx.startedOps ∨
    op ∈ s.tx.pendingOps ∨ (∃ failed, .stopRequested op failed ∈ s.tx.trace) ∨
    ∃ session, .posted op session [] ∈ s.tx.trace
  /-- The task does not rest while a send waits. -/
  parked : s.tx.mSendTask = .nextSendOp none → s.tx.pendingOps = []

/-- The step takes the last send off the list otherwise than by completing it. -/
def KeepsTail (s : SockScheduler) (e : Event) : Prop := ¬ CutsTail s e

instance (s : SockScheduler) (e : Event) : Decidable (KeepsTail s e) :=
  inferInstanceAs (Decidable (¬ _))

/-! ## Pending sends are the live ones -/

namespace SendSide
variable {tx : SendSide} {op p : OpId} {xs : List OpId} {nextOp : OpId}

theorem mem_pendingOps : p ∈ tx.pendingOps ↔ p ∈ tx.postedOps ∧ p ∉ tx.doneOps := by
  simp [pendingOps]

theorem Books.live_iff (books : tx.Books nextOp) :
    (tx.ops p).isSome = true ↔ p ∈ tx.postedOps ∧ p ∉ tx.doneOps := by
  rw [← isSome_cell]
  constructor
  · intro live
    exact ⟨Ledger.posted_of_cell books live, Ledger.not_done books live⟩
  · rintro ⟨posted, pending⟩
    rw [Option.isSome_iff_ne_none]
    intro gone
    have once := Ledger.done_once books posted gone
    have seen : 0 < tx.doneOps.count p := once ▸ Nat.one_pos
    exact pending (List.count_pos_iff.mp seen)

/-- The list in memory is the one the trace tells of. -/
theorem Books.listed (books : tx.Books nextOp) (listed : tx.Listed xs) : xs = tx.pendingOps := by
  have sorted : tx.pendingOps.Pairwise (· < ·) := books.sorted.filter _
  apply Queues.sorted_ext listed.sorted sorted
  intro p
  rw [listed.mem, books.live_iff, mem_pendingOps]

/-- A stop callback of a send that waits. -/
theorem trace_stop {o : SendOperation} (live : tx.ops op = some o) (idle : o.mStatus = .NotStarted)
    (failed : Bool) : (tx.stop op failed).trace = tx.trace ++ [.stopRequested op failed] ++
      [.setError op Code.operation_aborted] ++ [.completed op (some Code.operation_aborted)] := by
  have marked : ((tx.log (.stopRequested op failed)).setReg op .invoked).ops op =
      some { o with mReg := .invoked } := by simp [live]
  unfold stop
  simp only [live, idle, if_true]
  rw [abort, trace_cut, trace_failed marked]
  simp

/-- The send of a stop callback is done, the last one or not. -/
theorem stop_done {o : SendOperation} (live : tx.ops op = some o) (idle : o.mStatus = .NotStarted)
    (failed : Bool) : op ∈ (tx.stop op failed).doneOps ∧
      (tx.stop op failed).mSendBufferLast = tx.mSendBufferLast := by
  constructor
  · unfold doneOps
    rw [trace_stop live idle]
    simp [SendObs.finishing, List.filterMap_cons]
  · unfold stop
    simp only [live, idle, if_true]
    rw [abort, cut_mSendBufferLast]
    rfl

end SendSide

/-- `mSendBufferLast` does not point at a send that is done. -/
theorem SendList.not_dangling {s : SockScheduler} (list : SendList s) {op : OpId}
    (last : s.tx.mSendBufferLast = some op) (done : op ∈ s.tx.doneOps) : False := by
  rw [list.last] at last
  exact (SendSide.mem_pendingOps.mp (List.mem_of_getLast? last)).2 done

/-! ## The invariant -/

namespace SockScheduler
variable {s t : SockScheduler}

structure ListInv (s : SockScheduler) : Prop where
  base : BaseInv s
  chained : s.tx.Chained
  live : s.tx.LastLive
  books : s.tx.Books s.nextOp
  ordered : s.tx.Ordered
  excused : s.tx.Excused s.mEC

theorem ListInv.init (sid : SessionID) : ListInv (init sid) where
  base := BaseInv.init sid
  chained := chained_init sid
  live := by
    rw [BaseInv.init_eq]
    exact nofun
  books := books_send_init sid
  ordered := by
    rw [BaseInv.init_eq]
    exact ⟨.nil, nofun, nofun, nofun⟩
  excused := by
    rw [BaseInv.init_eq]
    exact fun _ => nofun

theorem ListInv.step {e : Event} (inv : ListInv s) (met : KeepsTail s e)
    (taken : step s e = some t) : ListInv t := by
  have send := sendStep inv.base taken
  exact ⟨inv.base.step taken,
    chained_sendStep inv.base.send inv.chained (not_losesSend inv.live e) send,
    lastLive_sendStep inv.base.send inv.chained inv.live met send,
    books_sendStep inv.base.send inv.chained inv.books send,
    ordered_sendStep inv.base.send inv.chained inv.books inv.ordered send,
    excused_step inv.base inv.ordered inv.excused taken⟩

theorem ListInv.chain (inv : ListInv s) : s.tx.ChainOk s.tx.pendingOps := by
  obtain ⟨xs, chain⟩ := inv.chained.chain
  rwa [← inv.books.listed chain.toListed]

/-- The sends that were started, then those that wait. -/
theorem ListInv.wire (inv : ListInv s) : s.tx.startedOps ++ s.tx.waitingOps =
    s.tx.postedOps.filter fun op => op ∈ s.tx.startedOps ∨ op ∈ s.tx.pendingOps := by
  have sorted : s.tx.waitingOps.Pairwise (· < ·) := (inv.books.sorted.filter _).filter _
  apply Queues.sorted_ext
  · apply List.pairwise_append.mpr
    refine ⟨inv.ordered.sorted, sorted, fun a started p waits => ?_⟩
    have parts := List.mem_filter.mp waits
    have idle : p ∉ s.tx.startedOps := by simpa using parts.2
    have live := inv.books.live_iff.mpr (SendSide.mem_pendingOps.mp parts.1)
    apply inv.ordered.before a started p live
    exact fun sends => idle (inv.ordered.taken p sends)
  · exact inv.books.sorted.filter _
  · intro p
    simp only [SendSide.waitingOps, List.mem_append, List.mem_filter, decide_eq_true_eq]
    constructor
    · rintro (started | ⟨pending, _⟩)
      · exact ⟨inv.ordered.posted p started, .inl started⟩
      · exact ⟨(SendSide.mem_pendingOps.mp pending).1, .inr pending⟩
    · rintro ⟨_, started | pending⟩
      · exact .inl started
      · by_cases started : p ∈ s.tx.startedOps
        · exact .inl started
        · exact .inr ⟨pending, started⟩

/-- A stop request on a send that waits ends that send only. -/
theorem ListInv.cancel (inv : ListInv s) {op : OpId} {o : SendOperation} (live : s.tx.ops op = some o)
    (idle : o.mStatus = .NotStarted) (taken : SockScheduler.step s (.stopSend op) = some t) :
    t.tx.pendingOps = s.tx.pendingOps.erase op ∧ t.tx.startedOps = s.tx.startedOps := by
  have trace : t.tx.trace = s.tx.trace ++ [.stopRequested op s.mEC.isError] ++
      [.setError op Code.operation_aborted] ++ [.completed op (some Code.operation_aborted)] := by
    simp only [SockScheduler.step] at taken
    split at taken <;> cases taken
    rw [sendStopCallback_tx, SendSide.trace_stop live idle]
  have posted : t.tx.postedOps = s.tx.postedOps := by
    simp [SendSide.postedOps, trace, SendObs.posting, List.filterMap_cons]
  have done : t.tx.doneOps = s.tx.doneOps ++ [op] := by
    simp [SendSide.doneOps, trace, SendObs.finishing, List.filterMap_cons]
  constructor
  · have once : s.tx.pendingOps.Nodup := (inv.books.sorted.filter _).imp Nat.ne_of_lt
    rw [once.erase_eq_filter, SendSide.pendingOps, SendSide.pendingOps, posted, done,
      List.filter_filter]
    apply List.filter_congr
    intro p _
    by_cases same : p = op <;> simp [same]
  · simp [SendSide.startedOps, trace, SendObs.starting, List.filterMap_cons]

theorem ListInv.sendList (inv : ListInv s) : SendList s := by
  have chain := inv.chain
  refine ⟨fun fuel enough => ?_, ?_, fun slot => ?_, fun op tail => ?_,
    fun op o t live idle taken => inv.cancel live idle taken, inv.wire, fun fine op posted => ?_,
    fun parked => ?_⟩
  · rw [chain.begin]
    exact chain.chain.walk enough
  · cases last : s.tx.mSendBufferLast with
    | none => rw [chain.ending last, List.getLast?_nil]
    | some l => rw [chain.last l last (inv.live l last)]
  · rw [chain.toListed.queue inv.base.send.queues slot]
  · obtain ⟨o, live⟩ := Option.isSome_iff_exists.mp (chain.mem.mp (List.mem_of_mem_tail tail))
    exact ⟨o, live, chain.waiting op tail o live⟩
  · by_cases done : op ∈ s.tx.doneOps
    · rcases inv.excused fine op done with started | excuse
      · exact .inl started
      · exact .inr (.inr excuse)
    · exact .inr (.inl (SendSide.mem_pendingOps.mpr ⟨posted, done⟩))
  · have task := inv.base.send.task
    simp only [SendSide.TaskOk, parked] at task
    apply List.head?_eq_none_iff.mp
    rw [← chain.begin, task.2.1]

/-- The stop callback of the last send leaves the end of the list dangling. -/
theorem cutsTail_breaks {e : Event} (inv : BaseInv s) (cuts : CutsTail s e)
    (taken : SockScheduler.step s e = some t) : ¬ SendList t := by
  intro list
  cases e with
  | stopSend op =>
    obtain ⟨last, idle⟩ := cuts
    obtain ⟨o, live, status⟩ := (Option.any_eq_true _ _).mp idle
    simp only [SockScheduler.step] at taken
    split at taken <;> cases taken
    obtain ⟨done, same⟩ := SendSide.stop_done live (by simpa using status) s.mEC.isError
    rw [← sendStopCallback_tx] at done same
    exact list.not_dangling (same.trans last) done
  | send session data token =>
    obtain ⟨rfl, _, full, ok, busy⟩ := cuts
    obtain ⟨slot, _, rfl⟩ := Option.map_eq_some_iff.mp taken
    have flags : (s.tx.log (.posted s.nextOp session data)).FlagsOk := inv.send.flags
    have busy' : (s.tx.log (.posted s.nextOp session data)).mSendTask.waits = false := busy
    obtain ⟨last, o, live, idle⟩ := SendSide.enqueue_waits flags busy' slot s.nextOp data
    have armed : (((s.tx.log (.posted s.nextOp session data)).enqueue slot s.nextOp data).setReg
        s.nextOp .registered).ops s.nextOp = some { o with mReg := .registered } := by simp [live]
    obtain ⟨done, same⟩ := SendSide.stop_done armed idle false
    have tx : (s.send slot session data .stopped).tx = _ := send_accepted full ok
    rw [SendSide.arm] at tx
    rw [← tx] at done same
    exact list.not_dangling (same.trans last) done
  | _ => exact cuts

end SockScheduler

theorem ListInv.of_run {sid : SessionID} {es : List Event} {s : SockScheduler}
    (run : Run step KeepsTail (init sid) es s) : ListInv s :=
  run.invariant (ListInv.init sid) fun _ _ _ inv met taken => inv.step met taken

/-- In every run in which the last send is never cancelled the list is the queue
of the pending sends; a step keeps it so exactly when it does not cancel the last
send. -/
theorem sendList_ok {sid : SessionID} {es : List Event} {s : SockScheduler}
    (run : Run step KeepsTail (init sid) es s) :
    SendList s ∧ ∀ e t, step s e = some t → (SendList t ↔ KeepsTail s e) := by
  have inv := ListInv.of_run run
  refine ⟨inv.sendList, fun e t taken => ?_⟩
  constructor
  · intro list cuts
    exact cutsTail_breaks inv.base cuts taken list
  · intro met
    exact (inv.step met taken).sendList

/-- A send in the middle of the list is cancelled. -/
def cancelInnerRun : List Event :=
  [.send SessionID.root.mVal [1] .none,
   .run .sendTask,
   .send SessionID.root.mVal [2] .live,
   .send SessionID.root.mVal [3] .none,
   .stopSend 1]

theorem sendList_ok_cancelInner : ∃ s,
    Run step KeepsTail (init SessionID.root) cancelInnerRun s ∧ s.tx.pendingOps = [0, 2] ∧
      SendList s := by
  have reached : (exec step KeepsTail (init SessionID.root) cancelInnerRun).map
      (fun s => s.tx.pendingOps) = some [0, 2] := by
    decide
  obtain ⟨s, result, pending⟩ := Option.map_eq_some_iff.mp reached
  exact ⟨s, .of_exec result, pending, (sendList_ok (.of_exec result)).1⟩

/-- The last send is cancelled, another one posted, and the first one completes. -/
def cancelLastRun : List Event := overtakingRun.take 8

theorem cancelLast_not_list : ∃ s,
    Run step anyStep (init SessionID.root) cancelLastRun s ∧ ¬ SendList s := by
  have reached : (exec step anyStep (init SessionID.root) cancelLastRun).map
      (fun s => (s.tx.mSendTask.waits, s.tx.pendingOps)) = some (true, [2]) := by
    decide
  obtain ⟨s, result, facts⟩ := Option.map_eq_some_iff.mp reached
  simp only [Prod.mk.injEq] at facts
  refine ⟨s, .of_exec result, fun list => ?_⟩
  have parked : s.tx.mSendTask = .nextSendOp none := by
    have waits := facts.1
    unfold SendTask.waits at waits
    split at waits
    · assumption
    · cases waits
  have none := list.parked parked
  rw [facts.2] at none
  cases none

end Coproto
