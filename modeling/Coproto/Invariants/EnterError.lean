import Coproto.Invariants.RecvSide

/-!
# The first error

SocketScheduler.cpp:182-212. The first call of `cancel` records its code, stops
the transports and wakes whatever is parked. The parking flags say where the two
tasks are suspended, so what is woken is read off the tasks (`FlagsOk`).
-/
namespace Coproto

/-- The slot id a parked receive task waits for. -/
def RecvTask.requested : RecvTask → Option UInt32
  | .getRequested frame none => some frame.header.mForkId
  | _ => none

/-- The task has a result and waits for its callback to be run. -/
def RecvTask.ready : RecvTask → Bool
  | .anyRecvOp (some _) => true
  | .getRequested _ (some _) => true
  | _ => false

def SendTask.ready : SendTask → Bool
  | .nextSendOp (some _) => true
  | _ => false

/-- The task is suspended in `AnyRecvOp`, in `NextSendOp`. -/
def RecvTask.waitsAny : RecvTask → Bool
  | .anyRecvOp none => true
  | _ => false

def SendTask.waits : SendTask → Bool
  | .nextSendOp none => true
  | _ => false

structure RecvSide.FlagsOk (rx : RecvSide) : Prop where
  anyRecvOp : rx.mAnyRecvOp = rx.mRecvTask.waitsAny
  requested : rx.mGetRequestedRecvSocketFork = rx.mRecvTask.requested

theorem RecvSide.FlagsOk.congr {rx rx' : RecvSide} (flags : rx.FlagsOk)
    (task : rx'.mRecvTask = rx.mRecvTask) (any : rx'.mAnyRecvOp = rx.mAnyRecvOp)
    (requested : rx'.mGetRequestedRecvSocketFork = rx.mGetRequestedRecvSocketFork) : rx'.FlagsOk :=
  ⟨by rw [any, task, flags.anyRecvOp], by rw [requested, task, flags.requested]⟩

def SendSide.FlagsOk (tx : SendSide) : Prop := tx.mNextSendOp = tx.mSendTask.waits

/-- A parked send task is woken with an error. -/
def SendSide.wakeError (tx : SendSide) : SendSide :=
  match tx.mSendTask with
  | .nextSendOp none =>
    { tx with mNextSendOp := false, mSendTask := .nextSendOp (some (.error Code.cancel)) }
  | _ => tx

/-- The stop states of a transport that is at work. -/
def RecvSide.stops (rx : RecvSide) : List StopId :=
  if rx.mRecvStatus = .InUse then rx.mRecvCancelSrc.toList else []

def SendSide.stops (tx : SendSide) : List StopId :=
  if tx.mSendStatus = .InUse then tx.mSendCancelSrc.toList else []

/-- No flag of the receive task is set. -/
def RecvSide.Running (rx : RecvSide) : Prop :=
  rx.mAnyRecvOp = false ∧ rx.mGetRequestedRecvSocketFork = none

namespace SockScheduler

variable (s : SockScheduler) (c : Caller) (ec : ErrorCode)

theorem requestStop_eq (src : Option StopId) :
    s.requestStop src = { s with stopped := src.toList ++ s.stopped } := by
  cases src <;> rfl

theorem stopTransports_eq :
    s.stopTransports = { s with stopped := s.tx.stops ++ (s.rx.stops ++ s.stopped) } := by
  unfold stopTransports RecvSide.stops SendSide.stops
  by_cases rx : s.rx.mRecvStatus = .InUse <;> by_cases tx : s.tx.mSendStatus = .InUse <;>
    simp [rx, tx, requestStop_eq]

theorem anyRecvOp_wake_onlyRecv : OnlyRecv s (AnyRecvOp.wake s) := by
  unfold AnyRecvOp.wake
  split
  · exact onlyRecv_of_queued [.recvTask] rfl rfl (by simp)
  · exact .refl

theorem getRequested_wake_onlyRecv (e : ErrorCode) :
    OnlyRecv s (GetRequestedRecvSocketFork.wake s e) := by
  unfold GetRequestedRecvSocketFork.wake
  split
  · exact onlyRecv_of_queued [.recvTask] rfl rfl (by simp)
  · exact .refl

theorem nextSendOp_wake_onlySend : OnlySend s (NextSendOp.wake s) := by
  unfold NextSendOp.wake
  split
  · exact onlySend_of_queued [.sendTask] rfl rfl (by simp)
  · exact .refl

theorem wakeParked_rx (flags : s.rx.FlagsOk) (e : ErrorCode) :
    (s.wakeParked e).rx = s.rx.wakeError e := by
  have any := flags.anyRecvOp
  have requested := flags.requested
  rw [wakeParked, (nextSendOp_wake_onlySend _).rx]
  unfold GetRequestedRecvSocketFork.wake AnyRecvOp.wake RecvSide.wakeError
  rw [any]
  cases task : s.rx.mRecvTask with
  | anyRecvOp mRes =>
    rw [task] at requested
    cases mRes <;>
      simp_all [RecvTask.waitsAny, RecvTask.requested, AnyRecvOp.getHandle, push, check]
  | getRequested frame mRes =>
    rw [task] at requested
    cases mRes <;>
      simp_all [RecvTask.waitsAny, RecvTask.requested, GetRequestedRecvSocketFork.getHandle, push,
        check]
  | _ => simp [task, RecvTask.waitsAny, RecvTask.requested, requested]

theorem wakeParked_tx (flags : s.tx.FlagsOk) (e : ErrorCode) :
    (s.wakeParked e).tx = s.tx.wakeError := by
  have before : (GetRequestedRecvSocketFork.wake (AnyRecvOp.wake s) e).tx = s.tx :=
    ((anyRecvOp_wake_onlyRecv s).trans (getRequested_wake_onlyRecv _ e)).tx
  have next : s.tx.mNextSendOp = s.tx.mSendTask.waits := flags
  rw [wakeParked]
  unfold NextSendOp.wake SendSide.wakeError
  rw [before, next]
  cases task : s.tx.mSendTask with
  | nextSendOp mRes =>
    cases mRes <;> simp [SendTask.waits, NextSendOp.getHandle, push, check, before]
  | _ => simp [SendTask.waits, before]

/-- The callbacks of the tasks that are woken. -/
def wokenCallbacks (s : SockScheduler) : List Callback :=
  (if s.rx.mRecvTask.waitsAny ∨ s.rx.mRecvTask.requested.isSome then [.recvTask] else []) ++
    if s.tx.mSendTask.waits then [.sendTask] else []

theorem wakeParked_queued (rx : s.rx.FlagsOk) (tx : s.tx.FlagsOk) (e : ErrorCode) :
    (s.wakeParked e).queued = s.queued ++ s.wokenCallbacks := by
  have any := rx.anyRecvOp
  have requested := rx.requested
  have next : s.tx.mNextSendOp = s.tx.mSendTask.waits := tx
  unfold wakeParked NextSendOp.wake GetRequestedRecvSocketFork.wake AnyRecvOp.wake wokenCallbacks
  rw [any]
  cases task : s.rx.mRecvTask with
  | anyRecvOp mRes =>
    rw [task] at requested
    cases mRes <;> cases waits : s.tx.mSendTask.waits <;>
      simp_all [RecvTask.waitsAny, RecvTask.requested, AnyRecvOp.getHandle, NextSendOp.getHandle,
        push, check]
  | getRequested frame mRes =>
    rw [task] at requested
    cases mRes <;> cases waits : s.tx.mSendTask.waits <;>
      simp_all [RecvTask.waitsAny, RecvTask.requested, GetRequestedRecvSocketFork.getHandle,
        NextSendOp.getHandle, push, check]
  | _ =>
    rw [task] at requested
    cases waits : s.tx.mSendTask.waits <;>
      simp_all [RecvTask.waitsAny, RecvTask.requested, NextSendOp.getHandle, push, check]

/-- Waking leaves everything but the two sides, the queue and the checks. -/
theorem wakeParked_eq (e : ErrorCode) :
    s.wakeParked e = { s with
      rx := (s.wakeParked e).rx
      tx := (s.wakeParked e).tx
      queued := (s.wakeParked e).queued
      faults := (s.wakeParked e).faults } := by
  unfold wakeParked NextSendOp.wake GetRequestedRecvSocketFork.wake AnyRecvOp.wake
  split <;> split <;> split <;> rfl

/-- `cancel` with the first error, on a scheduler whose flags fit its tasks. -/
theorem enterError_eq {s : SockScheduler} (rx : s.rx.FlagsOk) (tx : s.tx.FlagsOk) :
    (s.enterError c ec).1 = { s with
      mEC := ec
      rx := s.rx.wakeError (if c = .Sender then ErrorCode.coproto .cancel else ec)
      tx := s.tx.wakeError
      stopped := s.tx.stops ++ (s.rx.stops ++ s.stopped)
      queued := s.queued ++ s.wokenCallbacks
      faults := (s.enterError c ec).1.faults } := by
  generalize woken : (if c = .Sender then ErrorCode.coproto .cancel else ec) = e
  obtain ⟨m, marked⟩ : ∃ m : SockScheduler, { s with
      mEC := ec
      stopped := s.tx.stops ++ (s.rx.stops ++ s.stopped)
      faults := s.faults ++ require ec.isError .cancelErrorCode } = m := ⟨_, rfl⟩
  have result : (s.enterError c ec).1 = m.wakeParked e := by
    rw [← marked, ← woken]
    simp only [enterError, stopTransports_eq]
    rfl
  have rxSame : m.rx = s.rx := by rw [← marked]
  have txSame : m.tx = s.tx := by rw [← marked]
  have queued : m.wokenCallbacks = s.wokenCallbacks := by rw [← marked]; rfl
  rw [result, wakeParked_eq, wakeParked_rx m (rxSame ▸ rx), wakeParked_tx m (txSame ▸ tx),
    wakeParked_queued m (rxSame ▸ rx) (txSame ▸ tx), rxSame, txSame, queued, ← marked]

end SockScheduler
end Coproto
