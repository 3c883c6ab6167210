import Coproto.Invariants.Base

/-!
# Destroying an idle scheduler

SocketScheduler.h:409-422: the destructor calls `std::terminate` while a status
is `InUse`. `flush` returns at once when nothing is pending, and a scheduler
with nothing pending and nothing left to run is not in use, unless a stop
request has removed the only receive while its header was being read: the
callback of SocketScheduler.cpp:58-71 lowers `mNumRecvs` and leaves the status.
-/
namespace Coproto
open SockScheduler Runs

/-- A stop request for the only pending receive, not started, while the receive
task is at work. -/
def StopsOnlyRecv (s : SockScheduler) : Event → Prop
  | .stopRecv op =>
    s.rx.mRecvStatus = .InUse ∧ s.rx.mNumRecvs = 1 ∧
      (s.rx.ops op).any (·.mStatus = .NotStarted) = true
  | _ => False

instance (s : SockScheduler) (e : Event) : Decidable (StopsOnlyRecv s e) := by
  rcases e with ⟨⟩ <;> dsimp only [StopsOnlyRecv] <;> infer_instance

/-- While the task looks for a frame there is an operation to fill. -/
def RecvSide.HasWork (rx : RecvSide) : Prop :=
  match rx.mRecvTask with
  | .anyRecvOp (some r) => r.isError = false → rx.mNumRecvs ≠ 0
  | .header _ => rx.mNumRecvs ≠ 0
  | .control _ _ => rx.mNumRecvs ≠ 0
  | _ => True

namespace RecvSide
variable {rx rx' : RecvSide}

theorem HasWork.congr (work : rx.HasWork) (task : rx'.mRecvTask = rx.mRecvTask)
    (num : rx'.mNumRecvs = rx.mNumRecvs) : rx'.HasWork := by
  unfold HasWork at work ⊢
  rwa [task, num]

theorem HasWork.wakeError (work : rx.HasWork) (e : ErrorCode) : (rx.wakeError e).HasWork := by
  unfold RecvSide.wakeError
  split
  · simp [HasWork]
  · trivial
  · exact work

end RecvSide

namespace SockScheduler
variable {s t : SockScheduler}

theorem hasWork_anyRecvOp (prevOp : Option OpId) (ec : ErrorCode) (running : s.rx.Running)
    (tx : s.tx.FlagsOk) : (AnyRecvOp.awaitSuspend s prevOp ec).rx.HasWork := by
  rcases AnyRecvOp.awaitSuspend_cases (s := s) prevOp ec with
    ⟨_, result⟩ | ⟨_, num, result⟩ | ⟨_, _, result⟩ <;> rw [result]
  · obtain ⟨queues, heap, trace, shape⟩ := AnyRecvOp.failed_shape prevOp ec running tx
    show ((AnyRecvOp.failing s prevOp ec).cancel .Recver
      (AnyRecvOp.prev s prevOp ec).2).rx.HasWork
    rw [shape]
    intro fine
    simp at fine
  · exact fun _ => num
  · trivial

theorem hasWork_receiveDataTask (inv : BaseInv s) (work : s.rx.HasWork) {queued : List Callback}
    (same : t = { s with queued := queued }) : t.receiveDataTask.rx.HasWork := by
  have work' : t.rx.HasWork := by rw [same]; exact work
  have flags : t.rx.FlagsOk := by rw [same]; exact inv.recv.flags
  have tx : t.tx.FlagsOk := by rw [same]; exact inv.send.flags
  have any := flags.anyRecvOp
  have requested := flags.requested
  unfold SockScheduler.receiveDataTask
  split
  · rename_i r task
    split
    · trivial
    · rename_i ok
      simp only [RecvSide.HasWork, task] at work'
      exact work' (by simpa using ok)
  · rename_i frame e task
    rw [task] at any requested
    exact hasWork_anyRecvOp none e ⟨any, requested⟩ tx
  · rename_i frame op task
    rw [task] at any requested
    dsimp only
    split
    · trivial
    · exact hasWork_anyRecvOp _ _ ⟨any, requested⟩ tx
  · exact work'

theorem hasWork_getRequested (frame : Frame) :
    (GetRequestedRecvSocketFork.awaitSuspend s frame).rx.HasWork := by
  rcases GetRequestedRecvSocketFork.awaitSuspend_cases (s := s) frame with
    ⟨_, result⟩ | ⟨slot, _, ⟨_, result⟩ | ⟨_, _, result⟩ | ⟨_, op, ops, _, result⟩⟩ <;> rw [result] <;>
    trivial

theorem hasWork_recvReturned {ec : ErrorCode} {bt : Nat} {bytes : List UInt8} (inv : BaseInv s)
    (work : s.rx.HasWork) (returned : s.recvReturned ec bt bytes = some t) : t.rx.HasWork := by
  have any := inv.recv.flags.anyRecvOp
  have requested := inv.recv.flags.requested
  have tx := inv.send.flags
  unfold SockScheduler.recvReturned at returned
  split at returned
  · cases returned
  · dsimp only at returned
    split at returned
    · rename_i token task
      rw [task] at any requested
      simp only [RecvSide.HasWork, task] at work
      split at returned
      · cases returned
        exact hasWork_anyRecvOp _ _ ⟨any, requested⟩ tx
      · split at returned <;> cases returned
        · exact work
        · exact hasWork_getRequested _
    · rename_i header token task
      rw [task] at any requested
      simp only [RecvSide.HasWork, task] at work
      split at returned
      · cases returned
        exact hasWork_anyRecvOp _ _ ⟨any, requested⟩ tx
      · split at returned <;> cases returned
        · exact hasWork_anyRecvOp _ _ ⟨any, requested⟩ tx
        · exact work
    · rename_i frame op token task
      rw [task] at any requested
      cases returned
      exact hasWork_anyRecvOp _ _ ⟨any, requested⟩ tx
    · cases returned

/-- A receive that is cancelled while it is queued leaves work behind it. -/
theorem hasWork_recvStopCallback (inv : RecvInv s) (work : s.rx.HasWork) (op : OpId)
    (others : ∀ o, s.rx.ops op = some o → o.mStatus = .NotStarted → s.rx.mRecvStatus = .InUse →
      s.rx.mNumRecvs ≠ 1) : (s.recvStopCallback op).rx.HasWork := by
  cases live : s.rx.ops op with
  | none =>
    have still : s.recvStopCallback op = s := by simp [recvStopCallback, live]
    rwa [still]
  | some o =>
    by_cases idle : o.mStatus = .NotStarted
    · have rx := recvStopCallback_notStarted live idle
      have task : (s.recvStopCallback op).rx.mRecvTask = s.rx.mRecvTask := by simp [rx]
      have num : (s.recvStopCallback op).rx.mNumRecvs = s.rx.mNumRecvs - 1 := by simp [rx]
      have many := others o live idle
      have taskOk := inv.task
      unfold RecvSide.TaskOk at taskOk
      unfold RecvSide.HasWork at work ⊢
      rw [task, num]
      cases h : s.rx.mRecvTask with
      | anyRecvOp mRes =>
        simp only [h] at work taskOk
        cases mRes with
        | none => trivial
        | some r =>
          intro fine
          have inUse : s.rx.mRecvStatus = .InUse := by simpa [fine] using taskOk
          have some_ := work fine
          have more := many inUse
          omega
      | header token =>
        simp only [h] at work taskOk
        have more := many taskOk
        show s.rx.mNumRecvs - 1 ≠ 0
        omega
      | control header token =>
        simp only [h] at work taskOk
        have more := many taskOk
        show s.rx.mNumRecvs - 1 ≠ 0
        omega
      | _ => trivial
    · have rx := recvStopCallback_started live idle
      exact work.congr (by simp [rx]) (by simp [rx])

/-- A task at work has an operation to serve, or is about to close. -/
theorem num_ne_zero_of_inUse (inv : RecvInv s) (work : s.rx.HasWork)
    (inUse : s.rx.mRecvStatus = .InUse)
    (open_ : ∀ frame e, s.rx.mRecvTask ≠ .getRequested frame (some (.error e))) :
    s.rx.mNumRecvs ≠ 0 := by
  have served : ∀ op, s.rx.Started op → s.rx.mNumRecvs ≠ 0 := by
    rintro op ⟨o, live, _⟩ zero
    have home := RecvSide.home_eq_some live
    have empty := Queues.total_eq_zero.mp (inv.counted.symm.trans zero) _ (inv.queues.bound home).2
    have member := inv.queues.mem.mpr home
    rw [empty] at member
    cases member
  have taskOk := inv.task
  unfold RecvSide.TaskOk at taskOk
  unfold RecvSide.HasWork at work
  cases h : s.rx.mRecvTask with
  | anyRecvOp mRes =>
    simp only [h, inUse] at work taskOk
    cases mRes with
    | none => cases taskOk.1
    | some r =>
      cases fine : r.isError with
      | true => simp [fine] at taskOk
      | false => exact work fine
  | header token =>
    simp only [h] at work
    exact work
  | control header token =>
    simp only [h] at work
    exact work
  | getRequested frame mRes =>
    simp only [h, inUse] at taskOk
    cases mRes with
    | none => cases taskOk.1
    | some r =>
      cases r with
      | error e => exact absurd h (open_ frame e)
      | ok op => exact served op taskOk.2
  | body frame op token =>
    simp only [h] at taskOk
    exact served op taskOk.2
  | done => simp [h, inUse] at taskOk

/-- A posted receive is work, unless the caller's token is stopped already. -/
theorem hasWork_recv (inv : BaseInv s) (work : s.rx.HasWork) {slot : Nat}
    (inside : slot < s.table.mSocketForks_.length) (session : UInt64 × UInt64)
    (buffer : RecvBuffer) (token : StopToken) : (s.recv slot session buffer token).rx.HasWork := by
  have posted := inv.recv.logRecv (.posted s.nextOp session)
  unfold SockScheduler.recv
  dsimp only
  split
  · exact work
  · rename_i failed
    have ok : s.mEC.isError = false := by simpa [logRecv] using failed
    obtain ⟨p, started⟩ : ∃ p : SockScheduler,
      { s.logRecv (.posted s.nextOp session) with nextOp := s.nextOp + 1 } = p := ⟨_, rfl⟩
    have flags : p.rx.FlagsOk := by rw [← started]; exact posted.flags
    have rx : p.rx = s.rx.log (.posted s.nextOp session) := by rw [← started]; rfl
    have queued : RecvInv (p.enqueueRecv slot s.nextOp buffer) :=
      posted.enqueueRecv inside ok buffer started.symm
    have plain : (p.emplaceRecv slot s.nextOp buffer).rx.mNumRecvs = s.rx.mNumRecvs + 1 := by
      simp [emplaceRecv, rx]
    rw [started]
    obtain ⟨m, enqueued⟩ : ∃ m, p.enqueueRecv slot s.nextOp buffer = m := ⟨_, rfl⟩
    have num : m.rx.mNumRecvs = s.rx.mNumRecvs + 1 := by
      rw [← enqueued]
      rcases enqueueRecv_cases slot s.nextOp buffer flags with
        ⟨_, result⟩ | ⟨frame, _, _, result⟩ | ⟨_, _, result⟩ <;> rw [result] <;> exact plain
    have hasWork : m.rx.HasWork := by
      unfold RecvSide.HasWork
      split <;> simp [num]
    rw [enqueued] at queued ⊢
    cases token with
    | none => exact hasWork
    | live => exact hasWork.congr rfl rfl
    | stopped =>
      refine hasWork_recvStopCallback (queued.recvSetReg _ _) (hasWork.congr rfl rfl) _ ?_
      intro o live idle inUse one
      have one' : s.rx.mNumRecvs = 0 := Nat.succ_injective (num.symm.trans one)
      rcases enqueueRecv_cases slot s.nextOp buffer flags with
        ⟨_, result⟩ | ⟨frame, _, _, result⟩ | ⟨_, _, result⟩ <;>
        rw [result] at enqueued <;> subst enqueued
      · simp [wakeAnyRecv, AnyRecvOp.getHandle, push, recvSetReg, recvSetStatus, emplaceRecv, check]
          at live
        simp [← live] at idle
      · simp [wakeRequestedRecv, GetRequestedRecvSocketFork.getHandle, push, recvSetReg,
          recvSetStatus, emplaceRecv, check] at live
        simp [← live] at idle
      · have inUse' : s.rx.mRecvStatus = .InUse := by
          simpa [recvSetReg, emplaceRecv, rx] using inUse
        refine num_ne_zero_of_inUse inv.recv work inUse' (fun frame e task => ?_) one'
        have taskOk := inv.recv.task
        simp [RecvSide.TaskOk, task, ok] at taskOk

end SockScheduler

/-- Kept by every step that does not stop the only receive. -/
theorem hasWork_step {s t : SockScheduler} {e : Event} (inv : BaseInv s) (work : s.rx.HasWork)
    (ok : ¬ StopsOnlyRecv s e) (taken : step s e = some t) : t.rx.HasWork := by
  have of_path : ∀ {m : SockScheduler}, SendPath s m → m.rx.HasWork := by
    intro m path
    rcases path.rx_cases inv.recv.flags with ⟨rx, _⟩ | ⟨_, _, rx, _⟩ <;> rw [rx]
    · exact work
    · exact work.wakeError _
  cases e with
  | fork session =>
    obtain ⟨slot, _, rfl⟩ := Option.map_eq_some_iff.mp taken
    exact work
  | send session data token =>
    obtain ⟨slot, _, rfl⟩ := Option.map_eq_some_iff.mp taken
    rw [(s.send_onlySend slot session data token).rx]
    exact work
  | recv session buffer token =>
    obtain ⟨slot, held, rfl⟩ := Option.map_eq_some_iff.mp taken
    exact hasWork_recv inv work (inv.heldSlot_lt held) session buffer token
  | stopSend op =>
    simp only [step] at taken
    split at taken <;> cases taken
    exact of_path (.quiet (s.sendStopCallback_onlySend op))
  | stopRecv op =>
    simp only [step] at taken
    split at taken <;> cases taken
    refine hasWork_recvStopCallback inv.recv work op fun o live idle inUse one => ok ?_
    exact ⟨inUse, one, by simp [live, idle]⟩
  | flush handle =>
    cases taken
    obtain ⟨_, _, _, _, _, _, shape, _⟩ := s.flush_shape handle
    rw [shape]
    exact work
  | socketClose =>
    cases taken
    exact work
  | close =>
    cases taken
    unfold close cancel
    dsimp only
    split
    · exact work
    · rw [enterError_eq .Extern Code.closed inv.recv.flags inv.send.flags]
      exact work.wakeError _
  | run cb =>
    simp only [step] at taken
    split at taken <;> cases taken
    cases cb with
    | recvTask => exact hasWork_receiveDataTask inv work rfl
    | sendTask =>
      rw [runCallback]
      rcases SendInv.makeSendTask_eq { s with queued := s.queued.erase .sendTask } with
        ⟨result, _⟩ | ⟨_, _, result⟩ | ⟨_, _, _, _, result⟩ | ⟨_, _, _, _, result⟩ <;>
        rw [result] <;> exact work
    | requestStop src =>
      simp only [runCallback, requestStop_eq]
      exact work
    | _ => exact work
  | sendReturned ec bt => exact of_path (inv.sendReturned_path taken)
  | recvReturned ec bt bytes => exact hasWork_recvReturned inv work taken

/-- With nothing pending and nothing left to run, the destructor returns. -/
theorem idle_destructible {sid : SessionID} {es : List Event} {s : SockScheduler}
    (run : Run step (fun s e => ¬ StopsOnlyRecv s e) (init sid) es s) (quiet : s.queued = [])
    (noRecv : s.rx.mNumRecvs = 0) (noSend : s.tx.mSendBufferBegin = none) :
    s.rx.mRecvStatus ≠ .InUse ∧ s.tx.mSendStatus ≠ .InUse ∧ s.destructorTerminates = false := by
  have both : BaseInv s ∧ s.rx.HasWork :=
    run.invariant (I := fun s => BaseInv s ∧ s.rx.HasWork) ⟨BaseInv.init sid, trivial⟩
      fun _ _ _ inv met taken => ⟨inv.1.step taken, hasWork_step inv.1 inv.2 met taken⟩
  obtain ⟨inv, work⟩ := both
  have recv : s.rx.mRecvStatus ≠ .InUse := by
    intro inUse
    refine num_ne_zero_of_inUse inv.recv work inUse (fun frame e task => ?_) noRecv
    have waiting := inv.recv.ready (by rw [task]; rfl)
    simp [quiet] at waiting
  have send : s.tx.mSendStatus ≠ .InUse := by
    have taskOk := inv.send.task
    unfold SendSide.TaskOk at taskOk
    split at taskOk <;> simp_all
  exact ⟨recv, send, by simp [destructorTerminates, recv, send]⟩

/-- A receive on the root fork that is served. -/
def servedRecvRun : List Event :=
  [.recv SessionID.root.mVal { allowResize := false, size := 1 } .none,
   .run .recvTask,
   .recvReturned Code.success 8 (Header.bytes ⟨0, 1⟩),
   .recvReturned Code.success 16 (controlBlockBytes SessionID.root),
   .recvReturned Code.success 8 (Header.bytes ⟨1, 1⟩),
   .run .recvTask,
   .recvReturned Code.success 1 [7],
   .run (.completion 0)]

theorem idle_destructible_served : ∃ s,
    Run step (fun s e => ¬ StopsOnlyRecv s e) (init SessionID.root) servedRecvRun s ∧
      s.rx.mRecvStatus ≠ .InUse ∧ s.tx.mSendStatus ≠ .InUse ∧ s.destructorTerminates = false := by
  have reached : (exec step (fun s e => ¬ StopsOnlyRecv s e) (init SessionID.root)
      servedRecvRun).map (fun s => (s.queued, s.rx.mNumRecvs, s.tx.mSendBufferBegin)) =
      some ([], 0, none) := by decide
  obtain ⟨s, result, facts⟩ := Option.map_eq_some_iff.mp reached
  simp only [Prod.mk.injEq] at facts
  exact ⟨s, .of_exec result, idle_destructible (.of_exec result) facts.1 facts.2.1 facts.2.2⟩

/-! ## The failing run

The root fork posts two receives; the first one is served, and the second one is
stopped while the receive task reads the next header. -/

def stopOnlyRecvRun : List Event :=
  [.recv SessionID.root.mVal { allowResize := false, size := 1 } .none,
   .run .recvTask,
   .recv SessionID.root.mVal { allowResize := false, size := 1 } .live,
   .recvReturned Code.success 8 (Header.bytes ⟨0, 1⟩),
   .recvReturned Code.success 16 (controlBlockBytes SessionID.root),
   .recvReturned Code.success 8 (Header.bytes ⟨1, 1⟩),
   .run .recvTask,
   .recvReturned Code.success 1 [7],
   .run (.completion 0),
   .run .recvTask,
   .stopRecv 1,
   .run (.completion 1)]

/-- Nothing is pending, nothing is left to run, and the destructor terminates. -/
theorem stopOnlyRecvRun_terminates : ∃ s,
    Run step anyStep (init SessionID.root) stopOnlyRecvRun s ∧ s.queued = [] ∧
      s.rx.mNumRecvs = 0 ∧ s.tx.mSendBufferBegin = none ∧ s.destructorTerminates = true := by
  have reached : (exec step anyStep (init SessionID.root) stopOnlyRecvRun).map (fun s =>
      (s.queued, s.rx.mNumRecvs, s.tx.mSendBufferBegin, s.destructorTerminates)) =
      some ([], 0, none, true) := by decide
  obtain ⟨s, result, facts⟩ := Option.map_eq_some_iff.mp reached
  simp only [Prod.mk.injEq] at facts
  exact ⟨s, .of_exec result, facts⟩

end Coproto
