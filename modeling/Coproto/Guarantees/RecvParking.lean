import Coproto.Guarantees.ForkTables
import Coproto.Invariants.RecvFaults

/-!
# Where the receive task parks

SocketScheduler.cpp:15-90, SocketScheduler.h:655-805. Under any peer that shares
no slot id, the counter, the two parking pointers, the status and the queues fit
together: a parked task has nothing it could serve.
-/
namespace Coproto
open SockScheduler Runs

/-- The receive-side invariant, with the assertions that depend on it. -/
structure RecvParking (s : SockScheduler) : Prop where
  numRecvs : s.rx.mNumRecvs = Queues.total s.table.mSocketForks_.length s.rx.mRecvOps
  apart : s.rx.mAnyRecvOp = true → s.rx.mGetRequestedRecvSocketFork = none
  anyRecvOp : s.rx.mAnyRecvOp = true → s.rx.mNumRecvs = 0 ∧ s.rx.mRecvStatus = .Idle
  requested : ∀ (k : UInt32), s.rx.mGetRequestedRecvSocketFork = some k →
    s.rx.mRecvStatus = .RequestedRecvOp ∧ (∃ f ∈ s.table.mSocketForks_, f.mRemoteId = k) ∧
    ∀ (slot : Nat) (f : SocketFork), s.table.mSocketForks_[slot]? = some f → f.mRemoteId = k →
      s.rx.mRecvOps slot = []
  parkedAny : s.rx.mRecvTask = .anyRecvOp none → ∀ slot, s.rx.mRecvOps slot = []
  parkedOn : ∀ (frame : Frame), s.rx.mRecvTask = .getRequested frame none →
    ∃ slot, s.table.mRemoteSocketForkMapping_ frame.header.mForkId = some slot ∧
      s.rx.mRecvOps slot = []
  asserts : ∀ f ∈ s.faults, f.ofRecv = false

namespace SockScheduler
variable {s t : SockScheduler}

/-- What a run keeps: the tables, what the task serves, and the assertions. -/
structure ServingInv (s : SockScheduler) : Prop where
  base : BaseInv s
  tables : TablesOk s
  front : s.rx.FrontOk s.table
  armed : s.rx.ArmedOk
  asserts : ∀ f ∈ s.faults, f.ofRecv = false

theorem ServingInv.init (sid : SessionID) : ServingInv (init sid) where
  base := BaseInv.init sid
  tables := TablesOk.init sid
  front := by
    rw [BaseInv.init_eq]
    exact .idle rfl rfl
  armed := by
    rw [BaseInv.init_eq]
    intro op o live
    cases live
  asserts := by
    rw [BaseInv.init_eq]
    simp

theorem ServingInv.step {e : Event} (inv : ServingInv s) (met : ¬ SharesSlotId s e)
    (taken : step s e = some t) : ServingInv t := by
  have table := tableStep inv.base taken
  have recv := recvStep inv.base taken
  obtain ⟨fs, grown, fine⟩ := step_passes spares_ofRecv inv.base (fun _ => inv.front)
    inv.armed (fun _ op _ => s.taskChecks_ofRecv op) taken
  refine ⟨inv.base.step taken, inv.tables.step met table,
    front_recvStep inv.base inv.tables.remotes inv.front table recv,
    armed_recvStep inv.armed recv, fun f failed => ?_⟩
  rw [grown] at failed
  exact (List.mem_append.mp failed).elim (inv.asserts f) (fine f)

theorem ServingInv.parking (inv : ServingInv s) : RecvParking s := by
  have any := inv.base.recv.flags.anyRecvOp
  have requested := inv.base.recv.flags.requested
  have task := inv.base.recv.task
  have counted := inv.base.recv.counted
  have queues := inv.base.recv.queues
  have waits : s.rx.mAnyRecvOp = true → s.rx.mRecvTask = .anyRecvOp none := by
    intro flag
    rw [any] at flag
    unfold RecvTask.waitsAny at flag
    split at flag
    · assumption
    · cases flag
  have idle : s.rx.mRecvTask = .anyRecvOp none →
      s.rx.mRecvStatus = .Idle ∧ s.rx.mNumRecvs = 0 ∧ s.mEC.isError = false := by
    intro parked
    simpa only [RecvSide.TaskOk, parked] using task
  refine ⟨counted, ?_, ?_, ?_, ?_, ?_, inv.asserts⟩
  · intro flag
    rw [requested, waits flag]
    rfl
  · intro flag
    exact ⟨(idle (waits flag)).2.1, (idle (waits flag)).1⟩
  · intro k pointer
    rw [requested] at pointer
    obtain ⟨slot, mapped, empty⟩ := inv.front.parked k pointer
    obtain ⟨found, key, assigned⟩ := inv.tables.remotes.get mapped
    refine ⟨?_, ⟨_, List.mem_of_getElem? found, key⟩, fun i f there same => ?_⟩
    · unfold RecvTask.requested at pointer
      split at pointer
      · rename_i frame parked
        simp only [RecvSide.TaskOk, parked] at task
        exact task.1
      · cases pointer
    · have here := (inv.tables.remotes k i).mpr ⟨f, there, same, assigned⟩
      rw [mapped, Option.some.injEq] at here
      exact here ▸ empty
  · intro parked slot
    have none := Queues.total_eq_zero.mp (counted.symm.trans (idle parked).2.1)
    by_cases inside : slot < s.table.mSocketForks_.length
    · exact none slot inside
    · exact queues.empty_of_unused (Nat.le_of_not_lt inside)
  · intro frame parked
    apply inv.front.parked
    rw [parked]
    rfl

end SockScheduler

theorem ServingInv.of_run {sid : SessionID} {es : List Event} {s : SockScheduler}
    (run : Run step (fun s e => ¬ SharesSlotId s e) (init sid) es s) : ServingInv s :=
  run.invariant (ServingInv.init sid) fun _ _ _ inv met taken => inv.step met taken

/-- In every state reached without a shared slot id, a parked receive task has
nothing to serve, and none of its assertions has failed. -/
theorem recvParking_ok {sid : SessionID} {es : List Event} {s : SockScheduler}
    (run : Run step (fun s e => ¬ SharesSlotId s e) (init sid) es s) : RecvParking s :=
  (ServingInv.of_run run).parking

/-- The peer opens the root session as 5 and another one as 6, then sends to the
second while a receive waits on the first. -/
def parkedFrameRun : List Event :=
  openedRun ++
  [.recvReturned Code.success 8 (Header.bytes ⟨0, 6⟩),
   .recvReturned Code.success 16 (controlBlockBytes ⟨(1, 2), 0⟩),
   .recvReturned Code.success 8 (Header.bytes ⟨3, 6⟩)]

theorem recvParking_ok_parked : ∃ s,
    Run step (fun s e => ¬ SharesSlotId s e) (init SessionID.root) parkedFrameRun s ∧
      s.rx.mGetRequestedRecvSocketFork = some 6 ∧ s.rx.mRecvOps 0 = [0] ∧ RecvParking s := by
  have reached : (exec step (fun s e => ¬ SharesSlotId s e) (init SessionID.root)
      parkedFrameRun).map (fun s => (s.rx.mGetRequestedRecvSocketFork, s.rx.mRecvOps 0)) =
      some (some 6, [0]) := by
    decide
  obtain ⟨s, result, facts⟩ := Option.map_eq_some_iff.mp reached
  simp only [Prod.mk.injEq] at facts
  exact ⟨s, .of_exec result, facts.1, facts.2, recvParking_ok (.of_exec result)⟩

end Coproto
