import Coproto.Invariants.RecvStep
import Coproto.Invariants.SendStep

/-!
# What a step does to the fork tables

`TableStep` lists the writers: the send task that marks a slot as initiated, a
local fork, and a meta message that was read in full. `Malformed` names the
messages the receive task answers by closing.
-/
namespace Coproto
namespace SockScheduler
variable {s t : SockScheduler}

/-- What a step can do to the tables, and to the record of sockets and faults. -/
inductive TableStep (s : SockScheduler) : Event → SockScheduler → Prop
  | quiet {e : Event} {t : SockScheduler} (table : t.table = s.table) (held : t.held = s.held)
      (faults : t.forkFaults = s.forkFaults) : TableStep s e t
  | initiated {e : Event} {t : SockScheduler} (slot : Nat)
      (table : t.table = s.table.modify slot fun f => { f with mInitiated := true })
      (held : t.held = s.held) (faults : t.forkFaults = s.forkFaults) : TableStep s e t
  | forked {t : SockScheduler} (session : UInt64 × UInt64) (slot : Nat)
      (slotHeld : s.heldSlot session = some slot) (table : t.table = (s.table.forkSlot slot).1)
      (held : t.held = s.held ++ [(s.table.forkSlot slot).2.1])
      (faults : t.forkFaults = s.forkFaults ++ (s.table.forkSlot slot).2.2) :
      TableStep s (.fork session) t
  | remote {t : SockScheduler} {ec : ErrorCode} {bt : Nat} {bytes : List UInt8} (header : Header)
      (token : StopId) (task : s.rx.mRecvTask = .control header token)
      (size : bytes.length = controlBlockSize) (full : (recvCall ec bt bytes).Full)
      (table : t.table =
        (s.table.initRemoteSocketFork header.mForkId (controlBlockSessionID bytes)).1)
      (held : t.held = s.held)
      (faults : t.forkFaults = s.forkFaults ++
        (s.table.initRemoteSocketFork header.mForkId (controlBlockSessionID bytes)).2.2) :
      TableStep s (.recvReturned ec bt bytes) t

theorem Shared.tableStep {other : Callback} {e : Event} (frame : Shared s t other) : TableStep s e t :=
  .quiet frame.table frame.held frame.forkFaults

theorem Crossing.tableStep {e : Event} (crossing : Crossing s t) : TableStep s e t :=
  .quiet crossing.table crossing.held crossing.forkFaults

theorem tableStep_of_makeSendTask {m : SockScheduler} (table : m.table = s.table)
    (held : m.held = s.held) (faults : m.forkFaults = s.forkFaults) :
    TableStep s (.run .sendTask) m.makeSendTask := by
  rcases SendInv.makeSendTask_eq m with ⟨result, _⟩ | ⟨_, _, result⟩ | ⟨op, _, _, _, result⟩ |
    ⟨op, _, _, _, result⟩ <;> rw [result]
  · exact .quiet table held faults
  · exact .quiet table held faults
  · exact .quiet table held faults
  · exact .initiated _ (by rw [← table]; rfl) held faults

theorem tableStep {e : Event} (inv : BaseInv s) (taken : step s e = some t) : TableStep s e t := by
  cases e with
  | fork session =>
    obtain ⟨slot, slotHeld, rfl⟩ := Option.map_eq_some_iff.mp taken
    exact .forked session slot slotHeld rfl rfl rfl
  | send session data token =>
    obtain ⟨slot, _, rfl⟩ := Option.map_eq_some_iff.mp taken
    have work := s.send_onlySend slot session data token
    exact .quiet work.table work.held work.forkFaults
  | recv session buffer token =>
    obtain ⟨slot, _, rfl⟩ := Option.map_eq_some_iff.mp taken
    have work := s.recv_onlyRecv slot session buffer token
    exact .quiet work.table work.held work.forkFaults
  | stopSend op =>
    simp only [step] at taken
    split at taken <;> cases taken
    exact (s.sendStopCallback_onlySend op).tableStep
  | stopRecv op =>
    simp only [step] at taken
    split at taken <;> cases taken
    exact (s.recvStopCallback_onlyRecv op).tableStep
  | flush handle =>
    cases taken
    obtain ⟨_, _, _, _, _, _, shape, _⟩ := s.flush_shape handle
    rw [shape]
    exact .quiet rfl rfl rfl
  | socketClose =>
    cases taken
    exact .quiet rfl rfl rfl
  | close =>
    cases taken
    unfold close cancel
    dsimp only
    split
    · exact .quiet rfl rfl rfl
    · rw [enterError_eq .Extern Code.closed inv.recv.flags inv.send.flags]
      exact .quiet rfl rfl rfl
  | run cb =>
    simp only [step] at taken
    split at taken <;> cases taken
    cases cb with
    | recvTask =>
      have crossing := (inv.receiveDataTask_path (s := s)
        (t := { s with queued := s.queued.erase .recvTask }) rfl).crossing inv.send.flags
      exact .quiet crossing.table crossing.held crossing.forkFaults
    | sendTask => exact tableStep_of_makeSendTask rfl rfl rfl
    | requestStop src =>
      simp only [runCallback, requestStop_eq]
      exact .quiet rfl rfl rfl
    | _ => exact .quiet rfl rfl rfl
  | sendReturned ec bt =>
    exact ((inv.sendReturned_path taken).crossing inv.recv.flags).tableStep
  | recvReturned ec bt bytes =>
    rcases inv.recvReturned_path taken with path | ⟨header, token, task, passed, path⟩
    · exact (path.crossing inv.send.flags).tableStep
    · have crossing := path.crossing inv.send.flags
      have size : bytes.length = controlBlockSize := by
        have sized : s.recvSize = some bytes.length := by
          by_contra other
          simp [step, SockScheduler.recvReturned, other] at taken
        simpa [recvSize, task, eq_comm] using sized
      exact .remote header token task size ((Xfer.check_ok _).mp passed) crossing.table
        crossing.held crossing.forkFaults

/-! ## Messages that close the scheduler -/

/-- The call in flight ends a message that is no frame: a meta message that does
not open a session, a data header for a slot id that is not mapped. -/
def Malformed (s : SockScheduler) (bytes : List UInt8) : Prop :=
  match s.rx.mRecvTask with
  | .header _ => (Header.ofBytes bytes).mSize ≠ 0 ∧
      s.table.mRemoteSocketForkMapping_ (Header.ofBytes bytes).mForkId = none
  | .control header _ => ¬ s.table.FreshMeta header.mForkId (controlBlockSessionID bytes)
  | _ => False

/-- The first error stays; the receive queues are drained. -/
structure ClosedWith (s t : SockScheduler) (ec : ErrorCode) : Prop where
  mEC : t.mEC = if s.mEC.isError then s.mEC else ec
  status : t.rx.mRecvStatus = .Closed
  numRecvs : t.rx.mNumRecvs = 0
  table : t.table = s.table

theorem ClosedWith.after {m : SockScheduler} {ec : ErrorCode} (closed : ClosedWith m t ec)
    (mEC : m.mEC = s.mEC) (table : m.table = s.table) : ClosedWith s t ec :=
  ⟨mEC ▸ closed.mEC, closed.status, closed.numRecvs, closed.table.trans table⟩

/-- `cancel` by the receive task. -/
theorem cancel_recver_closedWith (ec : ErrorCode) (flags : s.rx.FlagsOk) (busy : s.rx.Busy)
    (tx : s.tx.FlagsOk) (error : ec.isError = true) : ClosedWith s (s.cancel .Recver ec) ec := by
  have rx := cancel_recver_rx flags tx busy ec
  obtain ⟨_, _, _, shape⟩ := s.rx.close_shape s.queuedRecvs ec
  rw [shape] at rx
  refine ⟨cancel_recver_mEC flags tx ec, by rw [rx], by rw [rx], ?_⟩
  exact ((cancel_recver_path ec flags fun _ => error).crossing tx).table

theorem AnyRecvOp.awaitSuspend_closedWith {ec : ErrorCode} (running : s.rx.Running)
    (tx : s.tx.FlagsOk) (error : ec.isError = true) :
    ClosedWith s (AnyRecvOp.awaitSuspend s none ec) ec := by
  rcases AnyRecvOp.awaitSuspend_cases (s := s) none ec with
    ⟨_, result⟩ | ⟨ok, _⟩ | ⟨ok, _⟩
  · have closed := cancel_recver_closedWith ec (AnyRecvOp.failing_flags none ec running)
      (AnyRecvOp.failing_busy none ec) ((AnyRecvOp.failing_onlyRecv (s := s) none ec).tx ▸ tx) error
    rw [result]
    exact ⟨closed.mEC, closed.status, closed.numRecvs, closed.table⟩
  · exact absurd ok.1 (by simp [error])
  · exact absurd ok.1 (by simp [error])

theorem GetRequestedRecvSocketFork.awaitSuspend_closedWith (frame : Frame) (flags : s.rx.FlagsOk)
    (busy : s.rx.Busy) (tx : s.tx.FlagsOk)
    (unmapped : s.table.mRemoteSocketForkMapping_ frame.header.mForkId = none) :
    ClosedWith s (awaitSuspend s frame) Code.badCoprotoMessageHeader := by
  have closed := cancel_recver_closedWith Code.badCoprotoMessageHeader flags busy tx rfl
  unfold awaitSuspend
  rw [unmapped]
  exact ⟨closed.mEC, closed.status, closed.numRecvs, closed.table⟩

end SockScheduler
end Coproto
