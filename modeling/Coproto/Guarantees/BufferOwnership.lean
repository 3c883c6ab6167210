import Coproto.Guarantees.RecvParking
import Coproto.Invariants.Scheduled
import Coproto.Invariants.SendOrder
import Coproto.Invariants.StopTokens

/-!
# Who owns a buffer while a call is in flight

SocketScheduler.h:900-939, 1045-1134, SocketScheduler.cpp:58-86, 176-261. The
operation of a transport call stays at the front of its queue, with its callback,
until the call returns. Two defects break this: a peer that gives a slot id to
two sessions makes the receive task serve the wrong fork, and a send linked
behind an erased operation keeps the front of its queue and is never sent.
-/
namespace Coproto
open SockScheduler Runs

/-- The operation of a body read or of a send call in flight is where it was
queued: the first of its fork, not failed, its callback not scheduled. -/
structure BufferOwned (s : SockScheduler) : Prop where
  recv : ∀ (frame : Frame) (op : OpId) (token : StopId), s.rx.mRecvTask = .body frame op token →
    ∃ o, s.rx.ops op = some o ∧ (s.rx.mRecvOps o.mSocketFork).head? = some op ∧ o.mCH = true ∧
      (∀ ec, .setError op ec ∉ s.rx.trace) ∧ (∀ error data, .completed op error data ∉ s.rx.trace) ∧
      .completion op ∉ s.queued
  send : ∀ (part : SendPart) (op : OpId) (token : StopId), s.tx.mSendTask = .sending part op token →
    ∃ o, s.tx.ops op = some o ∧ (s.tx.mSendOps o.mSocketFork).head? = some op ∧ o.mCH = true ∧
      (∀ ec, .setError op ec ∉ s.tx.trace) ∧ (∀ error, .completed op error ∉ s.tx.trace) ∧
      .completion op ∉ s.queued

/-- Neither defect shows up in this step. -/
def KeepsQueues (s : SockScheduler) (e : Event) : Prop := ¬ SharesSlotId s e ∧ ¬ LosesSend s e

instance (s : SockScheduler) (e : Event) : Decidable (KeepsQueues s e) :=
  inferInstanceAs (Decidable (_ ∧ _))

/-! ## Live operations have not been completed -/

section Live
variable {op : OpId} {nextOp : OpId}

theorem RecvSide.Books.untouched {rx : RecvSide} (books : rx.Books nextOp) {o : RecvOperation}
    (live : rx.ops op = some o) : o.mCH = true ∧ op ∉ rx.doneOps ∧
      (∀ ec, .setError op ec ∉ rx.trace) ∧ ∀ error data, .completed op error data ∉ rx.trace := by
  have notDone : op ∉ rx.doneOps := Ledger.not_done books (by simp [live])
  have cell := Ledger.pending books op
  refine ⟨?_, notDone, fun ec shown => ?_, fun error data shown => ?_⟩
  · rw [RecvSide.cell, live] at cell
    simpa using cell
  · exact notDone (Ledger.reported books op (List.mem_filterMap.mpr ⟨_, shown, rfl⟩))
  · exact notDone (List.mem_filterMap.mpr ⟨_, shown, rfl⟩)

theorem SendSide.Books.untouched {tx : SendSide} (books : tx.Books nextOp) {o : SendOperation}
    (live : tx.ops op = some o) : o.mCH = true ∧ op ∉ tx.doneOps ∧
      (∀ ec, .setError op ec ∉ tx.trace) ∧ ∀ error, .completed op error ∉ tx.trace := by
  have notDone : op ∉ tx.doneOps := Ledger.not_done books (by simp [live])
  have cell := Ledger.pending books op
  refine ⟨?_, notDone, fun ec shown => ?_, fun error shown => ?_⟩
  · rw [SendSide.cell, live] at cell
    simpa using cell
  · exact notDone (Ledger.reported books op (List.mem_filterMap.mpr ⟨_, shown, rfl⟩))
  · exact notDone (List.mem_filterMap.mpr ⟨_, shown, rfl⟩)

end Live

/-! ## The invariant -/

namespace SockScheduler
variable {s t : SockScheduler}

/-- Queues, list and books of both directions. -/
structure QueuesInv (s : SockScheduler) : Prop where
  base : BaseInv s
  tables : TablesOk s
  front : s.rx.FrontOk s.table
  chained : s.tx.Chained
  recvs : s.rx.Books s.nextOp
  sends : s.tx.Books s.nextOp
  apart : Apart s

theorem QueuesInv.init (sid : SessionID) : QueuesInv (init sid) where
  base := BaseInv.init sid
  tables := TablesOk.init sid
  front := (ServingInv.init sid).front
  chained := chained_init sid
  recvs := books_recv_init sid
  sends := books_send_init sid
  apart := Apart.init sid

theorem QueuesInv.step {e : Event} (inv : QueuesInv s) (met : KeepsQueues s e)
    (taken : step s e = some t) : QueuesInv t := by
  have table := tableStep inv.base taken
  have recv := recvStep inv.base taken
  have send := sendStep inv.base taken
  exact ⟨inv.base.step taken, inv.tables.step met.1 table,
    front_recvStep inv.base inv.tables.remotes inv.front table recv,
    chained_sendStep inv.base.send inv.chained met.2 send,
    books_recvStep inv.base inv.front inv.recvs table recv,
    books_sendStep inv.base.send inv.chained inv.sends send,
    inv.apart.step recv.nextOp_le (step_accounts inv.base.recv.flags taken).posts⟩

/-- What has completed on neither side is not queued to be completed. -/
theorem not_queued {sid : SessionID} {es : List Event} {ok : SockScheduler → Event → Prop}
    (run : Run step ok (init sid) es s) {op : OpId} (recvs : op ∉ s.rx.doneOps)
    (sends : op ∉ s.tx.doneOps) : .completion op ∉ s.queued := by
  have balance := completions_of_run run op
  rw [completions, List.count_eq_zero.mpr recvs, List.count_eq_zero.mpr sends] at balance
  apply List.count_eq_zero.mp
  omega

end SockScheduler

theorem QueuesInv.of_run {sid : SessionID} {es : List Event} {s : SockScheduler}
    (run : Run step KeepsQueues (init sid) es s) : QueuesInv s :=
  run.invariant (QueuesInv.init sid) fun _ _ _ inv met taken => inv.step met taken

/-- In every run in which no slot id is shared and no send is linked behind an
erased operation, a call in flight owns the buffer of its operation. -/
theorem bufferOwned_ok {sid : SessionID} {es : List Event} {s : SockScheduler}
    (run : Run step KeepsQueues (init sid) es s) : BufferOwned s := by
  have inv := QueuesInv.of_run run
  constructor
  · intro frame op token task
    obtain ⟨slot, home, head⟩ := inv.front.serving op (by rw [task]; rfl)
    obtain ⟨o, live, same⟩ := Option.map_eq_some_iff.mp home
    obtain ⟨callback, notDone, errors, completed⟩ := inv.recvs.untouched live
    have posted : op ∈ s.rx.postedOps := Ledger.posted_of_cell inv.recvs (by simp [live])
    have elsewhere : op ∉ s.tx.doneOps := fun done =>
      inv.apart.apart op posted (Ledger.posted_of_done inv.sends done)
    refine ⟨o, live, ?_, callback, errors, completed, not_queued run notDone elsewhere⟩
    rw [same]
    exact head
  · intro part op token task
    obtain ⟨slot, home, head⟩ := sending_front inv.base.send inv.chained task
    obtain ⟨o, live, same⟩ := Option.map_eq_some_iff.mp home
    obtain ⟨callback, notDone, errors, completed⟩ := inv.sends.untouched live
    have posted : op ∈ s.tx.postedOps := Ledger.posted_of_cell inv.sends (by simp [live])
    have elsewhere : op ∉ s.rx.doneOps := fun done =>
      inv.apart.apart op (Ledger.posted_of_done inv.recvs done) posted
    refine ⟨o, live, ?_, callback, errors, completed, not_queued run elsewhere notDone⟩
    rw [same]
    exact head

/-- A body is being read and a send is in flight at the same time. -/
def busyRun : List Event :=
  openedRun ++
  [.recvReturned Code.success 8 (Header.bytes ⟨1, 5⟩),
   .run .recvTask,
   .send SessionID.root.mVal [7] .none,
   .run .sendTask]

theorem bufferOwned_ok_busy : ∃ s, Run step KeepsQueues (init SessionID.root) busyRun s ∧
    s.rx.mRecvOps 0 = [0] ∧ s.tx.mSendOps 0 = [1] ∧ BufferOwned s := by
  have reached : (exec step KeepsQueues (init SessionID.root) busyRun).map
      (fun s => (s.rx.mRecvOps 0, s.tx.mSendOps 0)) = some ([0], [1]) := by
    decide
  obtain ⟨s, result, facts⟩ := Option.map_eq_some_iff.mp reached
  simp only [Prod.mk.injEq] at facts
  exact ⟨s, .of_exec result, facts.1, facts.2, bufferOwned_ok (.of_exec result)⟩

/-! ## The two defects -/

/-- The last send of the list is cancelled while the first one is in flight, and
another one is posted: it is linked behind the cancelled one and never sent. The
next send of the fork overtakes it. -/
def overtakingRun : List Event :=
  [.send SessionID.root.mVal [1] .none,
   .run .sendTask,
   .send SessionID.root.mVal [2] .live,
   .stopSend 1,
   .send SessionID.root.mVal [3] .none,
   .sendReturned Code.success 24,
   .sendReturned Code.success 8,
   .sendReturned Code.success 1,
   .send SessionID.root.mVal [4] .none,
   .run .sendTask]

theorem overtaking_not_owned : ∃ s,
    Run step anyStep (init SessionID.root) overtakingRun s ∧ ¬ BufferOwned s := by
  have reached : (exec step anyStep (init SessionID.root) overtakingRun).map
      (fun s => (s.tx.mSendTask.sends,
        (s.tx.ops 3).map SendOperation.mSocketFork, s.tx.mSendOps 0)) =
      some (some 3, some 0, [2, 3]) := by
    decide
  obtain ⟨s, result, facts⟩ := Option.map_eq_some_iff.mp reached
  simp only [Prod.mk.injEq] at facts
  obtain ⟨sends, home, queue⟩ := facts
  refine ⟨s, .of_exec result, fun owned => ?_⟩
  cases task : s.tx.mSendTask with
  | sending part op token =>
    rw [task] at sends
    obtain rfl := Option.some.inj sends
    obtain ⟨o, live, front, _⟩ := owned.send part 3 token task
    rw [live, Option.map_some, Option.some.injEq] at home
    rw [home, queue] at front
    cases front
  | _ =>
    rw [task] at sends
    cases sends

/-- What the first fork of the root session gets. -/
def forkedSession : SessionID := SessionID.root.derive.1

/-- The peer opens the root session and its fork under slot id 5. Data for the
root session, which no receive waits for, is given the last receive of the fork. -/
def sharedDataRun : List Event :=
  [.fork SessionID.root.mVal,
   .recv forkedSession.mVal { allowResize := false, size := 1 } .none,
   .run .recvTask,
   .recvReturned Code.success 8 (Header.bytes ⟨0, 5⟩),
   .recvReturned Code.success 16 (controlBlockBytes SessionID.root),
   .recvReturned Code.success 8 (Header.bytes ⟨0, 5⟩),
   .recvReturned Code.success 16 (controlBlockBytes forkedSession),
   .recvReturned Code.success 8 (Header.bytes ⟨1, 5⟩),
   .recv forkedSession.mVal { allowResize := false, size := 1 } .none,
   .run .recvTask]

theorem sharedData_not_owned : ∃ s,
    Run step anyStep (init SessionID.root) sharedDataRun s ∧ ¬ BufferOwned s := by
  have reached : (exec step anyStep (init SessionID.root) sharedDataRun).map
      (fun s => (s.rx.mRecvTask.serving, s.rx.mRecvTask.callToken.isSome,
        (s.rx.ops 1).map RecvOperation.mSocketFork, s.rx.mRecvOps 1)) =
      some (some 1, true, some 1, [0, 1]) := by
    decide
  obtain ⟨s, result, facts⟩ := Option.map_eq_some_iff.mp reached
  simp only [Prod.mk.injEq] at facts
  obtain ⟨serving, call, home, queue⟩ := facts
  refine ⟨s, .of_exec result, fun owned => ?_⟩
  cases task : s.rx.mRecvTask with
  | body frame op token =>
    rw [task] at serving
    obtain rfl := Option.some.inj serving
    obtain ⟨o, live, front, _⟩ := owned.recv frame 1 token task
    rw [live, Option.map_some, Option.some.injEq] at home
    rw [home, queue] at front
    cases front
  | header token =>
    rw [task] at serving
    cases serving
  | control header token =>
    rw [task] at serving
    cases serving
  | _ =>
    rw [task] at call
    cases call

end Coproto
