import Coproto.Invariants.RecvFront

/-!
# The assertions of the receive direction

`Passes bad s t`: between `s` and `t` no assertion that `bad` selects has failed.
The functions of both directions are gone through, since `cancel` of one wakes
the task of the other. Nothing is said of the assertions about the list of sends.
-/
namespace Coproto

/-- The assertions in `recv`, its stop callback, `getHandle` and `completePrev`. -/
def Fault.ofRecv : Fault → Bool
  | .getHandleSelf => true
  | .recvIdleStatus => true
  | .recvRequestedStatus => true
  | .stopRecvStatus => true
  | .anyRecvOpFront => true
  | _ => false

/-- The assertions about the list of sends, with `ec` in `cancel`. -/
def Fault.ofSendList : Fault → Bool
  | .cancelErrorCode => true
  | .sendStatus | .sendBufferBegin | .sendBufferLast | .stopSendPrev => true
  | .nextSendOpFront | .nextSendOpBegin | .nextSendOpStatus => true
  | .cancelSendStatus | .cancelSendFront | .danglingWrite => true
  | _ => false

namespace SockScheduler

/-- `bad` selects none of the assertions about the list of sends. -/
def Spares (bad : Fault → Bool) : Prop := ∀ f, f.ofSendList = true → bad f = false

def Passes (bad : Fault → Bool) (s t : SockScheduler) : Prop :=
  ∃ fs : List Fault, t.faults = s.faults ++ fs ∧ ∀ f ∈ fs, bad f = false

theorem spares_ofRecv : Spares Fault.ofRecv := by
  intro f aside
  cases f <;> first | rfl | cases aside

namespace Passes
variable {bad : Fault → Bool} {s t u : SockScheduler}

theorem of_eq (same : t.faults = s.faults) : Passes bad s t := ⟨[], by simp [same], by simp⟩

theorem refl : Passes bad s s := of_eq rfl

theorem trans (first : Passes bad s t) (second : Passes bad t u) : Passes bad s u := by
  obtain ⟨fs, grown, fine⟩ := first
  obtain ⟨gs, grown', fine'⟩ := second
  refine ⟨fs ++ gs, by rw [grown', grown, List.append_assoc], fun f failed => ?_⟩
  exact (List.mem_append.mp failed).elim (fine f) (fine' f)

/-- Work that leaves the record of faults alone, after checks of other assertions. -/
theorem of_checks (fs : List Fault) (same : t.faults = s.faults ++ fs)
    (other : ∀ f ∈ fs, bad f = false) : Passes bad s t := ⟨fs, same, other⟩

/-- Work that checks an assertion that holds. -/
theorem of_holds {holds : Bool} (fault : Fault) (same : t.faults = s.faults ++ require holds fault)
    (ok : holds = true) : Passes bad s t := by
  apply of_eq
  rw [same, ok, require_true, List.append_nil]

end Passes

theorem mem_require {φ : Type} {holds : Bool} {fault f : φ} (failed : f ∈ require holds fault) :
    f = fault := by
  unfold require at failed
  split at failed
  · cases failed
  · exact List.mem_singleton.mp failed

/-! ## Operations that leave their queues -/

section Leave
variable (s : SockScheduler) (op : OpId) (slot : Nat) (ec : ErrorCode)

@[simp] theorem recvCompleteOn_faults : (s.recvCompleteOn op).faults = s.faults := by
  unfold recvCompleteOn
  split
  · exact completeFlushes_frame (·.faults) (fun _ _ _ _ _ => rfl) _ op
  · rfl

@[simp] theorem sendCompleteOn_faults : (s.sendCompleteOn op).faults = s.faults := by
  unfold sendCompleteOn
  split
  · exact completeFlushes_frame (·.faults) (fun _ _ _ _ _ => rfl) _ op
  · rfl

@[simp] theorem eraseRecv_faults : (s.eraseRecv slot op).faults = s.faults :=
  clearFlushes_frame (·.faults) (fun _ _ _ => rfl) s op

@[simp] theorem eraseSend_faults : (s.eraseSend slot op).faults = s.faults :=
  clearFlushes_frame (·.faults) (fun _ _ _ => rfl) s op

@[simp] theorem popFrontRecv_faults : (s.popFrontRecv slot).faults = s.faults := by
  unfold popFrontRecv
  split
  · rfl
  · exact eraseRecv_faults s _ slot

@[simp] theorem popFrontSend_faults : (s.popFrontSend slot).faults = s.faults := by
  unfold popFrontSend
  split
  · rfl
  · exact eraseSend_faults s _ slot

theorem drainRecvs_faults (ops : List (Nat × OpId)) : (s.drainRecvs ops ec).faults = s.faults := by
  induction ops generalizing s ec with
  | nil => rfl
  | cons op ops ih => simp [drainRecvs, ih, failRecv, recvSetError]

variable {bad : Fault → Bool} (spares : Spares bad)
include spares

theorem setNext_passes (next : Option OpId) : Passes bad s (s.setNext op next) :=
  .of_checks _ rfl fun _ failed => by rw [mem_require failed]; exact spares _ rfl

theorem drainSends_passes (n : Nat) (iter : Option OpId) : Passes bad s (s.drainSends n iter ec) := by
  induction n generalizing s iter ec with
  | zero => exact .refl
  | succ n ih =>
    cases iter with
    | none => exact .refl
    | some op =>
      simp only [drainSends]
      refine Passes.trans ?_ (ih _ _ _)
      refine .of_checks _ (by simp only [popFrontSend_faults, sendCompleteOn_faults]; rfl) ?_
      intro f failed
      rcases List.mem_append.mp failed with failed | failed <;> rw [mem_require failed] <;>
        exact spares _ rfl

theorem unlinkSend_passes (o : SendOperation) : Passes bad s (s.unlinkSend o) := by
  have checked : Passes bad s (s.check (require o.mPrev.isSome .stopSendPrev)) :=
    .of_checks _ rfl fun _ failed => by rw [mem_require failed]; exact spares _ rfl
  unfold unlinkSend
  dsimp only
  split
  · exact checked.trans (setNext_passes _ _ spares _)
  · exact checked

end Leave

/-! ## cancel -/

section Cancel
variable {bad : Fault → Bool} (s : SockScheduler) (ec : ErrorCode)

theorem wakeParked_passes (e : ErrorCode) : Passes bad s (s.wakeParked e) := by
  have any : Passes bad s (AnyRecvOp.wake s) := by
    unfold AnyRecvOp.wake
    split
    · rename_i flag
      exact .of_holds .getHandleSelf rfl flag
    · exact .refl
  have requested (m : SockScheduler) : Passes bad m (GetRequestedRecvSocketFork.wake m e) := by
    unfold GetRequestedRecvSocketFork.wake
    split
    · rename_i flag
      exact .of_holds .getHandleSelf rfl flag
    · exact .refl
  have next (m : SockScheduler) : Passes bad m (NextSendOp.wake m) := by
    unfold NextSendOp.wake
    split
    · rename_i flag
      exact .of_holds .getHandleSelf rfl flag
    · exact .refl
  exact (any.trans (requested _)).trans (next _)

variable (spares : Spares bad)
include spares

theorem enterError_passes (c : Caller) : Passes bad s (s.enterError c ec).1 := by
  unfold enterError
  dsimp only
  refine Passes.trans ?_ (wakeParked_passes _ _)
  rw [stopTransports_eq]
  exact .of_checks _ rfl fun _ failed => by rw [mem_require failed]; exact spares _ rfl

theorem cancel_passes (c : Caller) : Passes bad s (s.cancel c ec) := by
  have entered : Passes bad s (if s.mEC.isError then (s, ec) else s.enterError c ec).1 := by
    split
    · exact .refl
    · exact enterError_passes s ec spares c
  unfold cancel
  dsimp only
  cases c with
  | Sender => exact entered.trans (Passes.trans (.of_eq rfl) (drainSends_passes _ _ spares _ _))
  | Recver => exact entered.trans (.of_eq (drainRecvs_faults _ _ _))
  | Extern => exact entered

end Cancel

/-! ## The awaiters -/

section Awaiters
variable {bad : Fault → Bool} {s : SockScheduler}

/-- The operation is at the front, if that is asked for. -/
theorem AnyRecvOp.completePrev_passes {op : OpId} (ec : ErrorCode)
    (front : bad .anyRecvOpFront = true →
      s.rx.mNumRecvs ≠ 0 ∧ (s.rx.mRecvOps (s.rx.slotOf op)).head? = some op) :
    Passes bad s (AnyRecvOp.completePrev s op ec).1 := by
  obtain ⟨m, renewed⟩ : ∃ m, (if s.rx.mRecvCancelSrc = none then s.resetRecvToken else s) = m :=
    ⟨_, rfl⟩
  have same : m.faults = s.faults ∧ m.rx.mNumRecvs = s.rx.mNumRecvs ∧
      m.rx.mRecvOps = s.rx.mRecvOps ∧ m.rx.slotOf op = s.rx.slotOf op := by
    rw [← renewed]
    split <;> exact ⟨rfl, rfl, rfl, rfl⟩
  obtain ⟨faults, num', queues, slot⟩ := same
  have checked : (AnyRecvOp.completePrev s op ec).1.faults = s.faults ++ require
      (m.rx.mNumRecvs ≠ 0 ∧ (m.rx.mRecvOps (m.rx.slotOf op)).head? = some op) .anyRecvOpFront := by
    unfold completePrev
    simp only [renewed, popFrontRecv_faults, recvCompleteOn_faults]
    split
    · show m.faults ++ _ = _
      rw [faults]
    · show m.faults ++ _ = _
      rw [faults]
  cases asked : bad .anyRecvOpFront with
  | true =>
    refine .of_holds .anyRecvOpFront checked ?_
    rw [num', queues, slot]
    exact decide_eq_true (front asked)
  | false => exact .of_checks _ checked fun _ failed => mem_require failed ▸ asked

variable (spares : Spares bad)
include spares

theorem AnyRecvOp.awaitSuspend_passes (prevOp : Option OpId) (ec : ErrorCode)
    (front : bad .anyRecvOpFront = true → ∀ op, prevOp = some op →
      s.rx.mNumRecvs ≠ 0 ∧ (s.rx.mRecvOps (s.rx.slotOf op)).head? = some op) :
    Passes bad s (AnyRecvOp.awaitSuspend s prevOp ec) := by
  have left : Passes bad s (AnyRecvOp.prev s prevOp ec).1 := by
    cases prevOp with
    | none => exact .refl
    | some op => exact completePrev_passes ec fun asked => front asked op rfl
  unfold awaitSuspend
  dsimp only
  split
  · refine left.trans (Passes.trans ?_ (.of_eq rfl))
    exact Passes.trans (.of_eq rfl) (cancel_passes _ _ spares _)
  · split
    · exact left.trans (.of_eq rfl)
    · exact left.trans (.of_eq rfl)

theorem GetRequestedRecvSocketFork.awaitSuspend_passes (frame : Frame) :
    Passes bad s (GetRequestedRecvSocketFork.awaitSuspend s frame) := by
  rcases awaitSuspend_cases (s := s) frame with
    ⟨_, result⟩ | ⟨slot, _, ⟨_, result⟩ | ⟨_, _, result⟩ | ⟨_, op, ops, _, result⟩⟩ <;> rw [result]
  · exact (cancel_passes _ _ spares _).trans (.of_eq rfl)
  · exact .of_eq rfl
  · exact .of_eq rfl
  · exact .of_eq rfl

theorem NextSendOp.completePrev_passes (op : OpId) (ec : ErrorCode) :
    Passes bad s (NextSendOp.completePrev s op ec).1 := by
  obtain ⟨m, failed⟩ : ∃ m, (if ec.isError then s.sendSetError op ec else s) = m := ⟨_, rfl⟩
  have same : m.faults = s.faults := by
    rw [← failed]
    split <;> rfl
  unfold completePrev
  simp only [failed]
  refine Passes.trans (.of_eq ((sendCompleteOn_faults m op).trans same)) ?_
  refine Passes.trans (setNext_passes _ op spares none) ?_
  refine .of_checks _ (popFrontSend_faults _ _) fun f failed => ?_
  rcases List.mem_append.mp failed with failed | failed <;> rw [mem_require failed] <;>
        exact spares _ rfl

theorem NextSendOp.awaitSuspend_passes (prevOp : Option OpId) (ec : ErrorCode) :
    Passes bad s (NextSendOp.awaitSuspend s prevOp ec) := by
  have left : Passes bad s (NextSendOp.prev s prevOp ec).1 := by
    cases prevOp with
    | none => exact .refl
    | some op => exact completePrev_passes spares op ec
  refine left.trans ?_
  unfold awaitSuspend
  dsimp only
  split
  · refine Passes.trans ?_ (Passes.trans (cancel_passes _ _ spares .Sender) (.of_eq rfl))
    exact .of_checks _ rfl fun _ failed => by rw [mem_require failed]; exact spares _ rfl
  · split
    · exact .of_checks _ rfl fun _ failed => by rw [mem_require failed]; exact spares _ rfl
    · exact .of_eq rfl

end Awaiters

/-! ## Calls and stop callbacks -/

section Calls
variable {bad : Fault → Bool} (spares : Spares bad) {s : SockScheduler} (op : OpId)

include spares

theorem sendStopCallback_passes (s : SockScheduler) : Passes bad s (s.sendStopCallback op) := by
  unfold sendStopCallback
  split
  · exact .refl
  · dsimp only
    split
    · refine Passes.trans ?_ (.of_eq (eraseSend_faults _ _ _))
      refine Passes.trans ?_ (unlinkSend_passes _ spares _)
      exact .of_eq (sendCompleteOn_faults _ _)
    · exact .of_eq rfl

omit spares in
/-- The stop callback of a receive that was not asked to stop before. -/
theorem recvStopCallback_passes (fresh : ∀ o, s.rx.ops op = some o → o.mStatus ≠ .Canceling) :
    Passes bad s (s.recvStopCallback op) := by
  unfold recvStopCallback
  cases live : s.rx.ops op with
  | none => exact .refl
  | some o =>
    have waits := fresh o live
    dsimp only
    split
    · exact .of_eq ((eraseRecv_faults _ _ _).trans (recvCompleteOn_faults _ _))
    · rename_i started
      refine .of_holds .stopRecvStatus rfl ?_
      cases status : o.mStatus <;> simp_all

theorem enqueueSend_passes (slot : Nat) (data : List UInt8) :
    Passes bad s (s.enqueueSend slot op data) := by
  unfold enqueueSend
  dsimp only
  split
  · rename_i flag
    have checked : Passes bad s ((s.emplaceSend slot op data).check
        (require (s.tx.mSendStatus = .Idle) .sendStatus ++
          require (s.tx.mSendBufferBegin = none) .sendBufferBegin ++
          require (s.tx.mSendBufferLast = none) .sendBufferLast)) := by
      refine .of_checks _ rfl fun f failed => ?_
      rcases List.mem_append.mp failed with failed | failed
      · rcases List.mem_append.mp failed with failed | failed <;> rw [mem_require failed] <;>
        exact spares _ rfl
      · rw [mem_require failed]
        exact spares _ rfl
    exact checked.trans (.of_holds .getHandleSelf rfl flag)
  · have checked : Passes bad s ((s.emplaceSend slot op data).check
        (require (s.emplaceSend slot op data).tx.mSendBufferLast.isSome .sendBufferLast)) :=
      .of_checks _ rfl fun _ failed => by rw [mem_require failed]; exact spares _ rfl
    unfold linkSend
    dsimp only
    split
    · rename_i last tail
      exact checked.trans (Passes.trans (setNext_passes _ last spares (some op)) (.of_eq rfl))
    · exact checked.trans (.of_eq rfl)

theorem send_passes (slot : Nat) (session : UInt64 × UInt64) (data : List UInt8)
    (token : StopToken) : Passes bad s (s.send slot session data token) := by
  unfold send
  dsimp only
  split
  · exact .of_eq rfl
  · split
    · exact .of_eq rfl
    · obtain ⟨m, posted⟩ : ∃ m : SockScheduler, { s.logSend (.posted s.nextOp session data) with
        nextOp := s.nextOp + 1 } = m := ⟨_, rfl⟩
      have same : m.faults = s.faults := by rw [← posted]; rfl
      rw [posted]
      refine Passes.trans (.of_eq same) (Passes.trans (enqueueSend_passes spares s.nextOp slot data) ?_)
      cases token with
      | none => exact .refl
      | live => exact .of_eq rfl
      | stopped => exact Passes.trans (.of_eq rfl) (sendStopCallback_passes spares _ _)

omit spares in
/-- A posted receive meets the task where its status says. -/
theorem enqueueRecv_passes (flags : s.rx.FlagsOk) {mEC : ErrorCode} (task : s.rx.TaskOk mEC)
    (slot : Nat) (buffer : RecvBuffer) : Passes bad s (s.enqueueRecv slot op buffer) := by
  have any : (s.emplaceRecv slot op buffer).rx.mAnyRecvOp = s.rx.mRecvTask.waitsAny :=
    flags.anyRecvOp
  have requested : (s.emplaceRecv slot op buffer).rx.mGetRequestedRecvSocketFork =
    s.rx.mRecvTask.requested := flags.requested
  unfold RecvSide.TaskOk at task
  rcases enqueueRecv_cases slot op buffer flags with
    ⟨parked, result⟩ | ⟨frame, parked, _, result⟩ | ⟨_, _, result⟩ <;> rw [result]
  · simp only [parked] at task any
    have idle : Passes bad s ((s.emplaceRecv slot op buffer).check
        (require ((s.emplaceRecv slot op buffer).rx.mRecvStatus = .Idle) .recvIdleStatus)) :=
      .of_holds .recvIdleStatus rfl (decide_eq_true task.1)
    exact idle.trans (.of_holds .getHandleSelf rfl any)
  · simp only [parked] at task requested
    have waits : Passes bad s ((s.emplaceRecv slot op buffer).check (require
        ((s.emplaceRecv slot op buffer).rx.mRecvStatus = .RequestedRecvOp) .recvRequestedStatus)) :=
      .of_holds .recvRequestedStatus rfl (decide_eq_true task.1)
    refine waits.trans (.of_holds .getHandleSelf rfl ?_)
    show (s.emplaceRecv slot op buffer).rx.mGetRequestedRecvSocketFork.isSome = true
    rw [requested]
    rfl
  · exact .of_eq rfl

end Calls
end SockScheduler

/-! ## Stop callbacks run once -/

namespace RecvSide

/-- A stop callback that has not run is one of an operation that is not being
cancelled. -/
def ArmedOk (rx : RecvSide) : Prop :=
  ∀ (op : OpId) (o : RecvOperation), rx.ops op = some o → o.mReg = .registered →
    o.mStatus ≠ .Canceling

variable {rx rx' : RecvSide} {op : OpId} {ec mEC : ErrorCode}

theorem ArmedOk.congr (ok : rx.ArmedOk) (ops : rx'.ops = rx.ops) : rx'.ArmedOk := by
  intro p o live
  exact ok p o (ops ▸ live)

theorem ArmedOk.modify (ok : rx.ArmedOk) {f : RecvOperation → RecvOperation}
    (ops : rx'.ops = rx.ops.modify op f)
    (keeps : ∀ o, rx.ops op = some o → (o.mReg = .registered → o.mStatus ≠ .Canceling) →
      (f o).mReg = .registered → (f o).mStatus ≠ .Canceling) : rx'.ArmedOk := by
  intro p o live armed
  rw [ops] at live
  obtain ⟨a, old, rfl⟩ := Heap.modify_eq_some.mp live
  split at armed
  · rename_i same
    subst same
    simpa using keeps a old (ok _ a old) armed
  · rename_i other
    simpa [other] using ok p a old armed

theorem ArmedOk.erase (ok : rx.ArmedOk) (ops : rx'.ops = rx.ops.erase op) : rx'.ArmedOk := by
  intro p o live
  rw [ops, Heap.erase_apply] at live
  split at live
  · cases live
  · exact ok p o live

theorem ArmedOk.popFront (ok : rx.ArmedOk) (slot : Nat) : (rx.popFront slot).ArmedOk := by
  cases cells : rx.mRecvOps slot with
  | nil => rwa [popFront_empty cells]
  | cons op ops =>
    rw [popFront_eq cells]
    exact ok.erase rfl

theorem ArmedOk.setError (ok : rx.ArmedOk) (op : OpId) (ec : ErrorCode) :
    (rx.setError op ec).ArmedOk :=
  ok.modify rfl fun _ _ kept => kept

theorem ArmedOk.completeOn (ok : rx.ArmedOk) (op : OpId) : (rx.completeOn op).ArmedOk :=
  ok.modify rfl fun _ _ kept => kept

theorem ArmedOk.start (ok : rx.ArmedOk) (op : OpId) : (rx.setStatus op .InProgress).ArmedOk :=
  ok.modify rfl fun _ _ _ _ => by simp

theorem ArmedOk.fail (ok : rx.ArmedOk) (slot : Nat) (op : OpId) (ec : ErrorCode) :
    (rx.fail slot op ec).ArmedOk :=
  ((ok.setError op ec).completeOn op).popFront slot

theorem ArmedOk.drain (ok : rx.ArmedOk) (ops : List (Nat × OpId)) (ec : ErrorCode) :
    (rx.drain ops ec).ArmedOk := by
  induction ops generalizing rx ec with
  | nil => exact ok
  | cons op ops ih => exact ih (ok.fail op.1 op.2 ec) Code.cancel

theorem ArmedOk.finish (ok : rx.ArmedOk) (op : OpId) (ec : ErrorCode) :
    (rx.finish op ec).ArmedOk := by
  unfold RecvSide.finish
  split
  · exact (((ok.setError op ec).completeOn op).popFront _).congr rfl
  · exact ((ok.completeOn op).popFront _).congr rfl

theorem ArmedOk.stop (ok : rx.ArmedOk) (op : OpId) (failed : Bool) : (rx.stop op failed).ArmedOk := by
  have marked : ((rx.log (.stopRequested op failed)).setReg op .invoked).ArmedOk :=
    ok.modify rfl fun _ _ _ armed => by cases armed
  unfold RecvSide.stop
  split
  · exact ok
  · split
    · have failed := (marked.setError op Code.operation_aborted).completeOn op
      exact failed.erase rfl
    · have halted : (((rx.log (.stopRequested op failed)).setReg op .invoked).setStatus op
          .Canceling).ArmedOk := by
        refine marked.modify rfl fun o live _ armed => ?_
        obtain ⟨a, _, rfl⟩ := Heap.modify_eq_some.mp live
        simp at armed
      exact halted.congr rfl

theorem ArmedOk.arm (ok : rx.ArmedOk) (fresh : ∀ o, rx.ops op = some o → o.mStatus ≠ .Canceling)
    (token : StopToken) : (rx.arm op token).ArmedOk := by
  have marked : (rx.setReg op .registered).ArmedOk := ok.modify rfl fun o live _ _ => fresh o live
  cases token with
  | none => exact ok
  | live => exact marked
  | stopped => exact marked.stop op false

theorem ArmedOk.emplace (ok : rx.ArmedOk) (slot : Nat) (op : OpId) (buffer : RecvBuffer) :
    (rx.emplace slot op buffer).ArmedOk := by
  intro p o live armed
  rw [emplace_ops, Heap.set_apply] at live
  split at live
  · cases live
    cases armed
  · exact ok p o live armed

theorem ArmedOk.enqueue (ok : rx.ArmedOk) (slot : Nat) (remoteId : UInt32) (op : OpId)
    (buffer : RecvBuffer) : (rx.enqueue slot remoteId op buffer).ArmedOk := by
  have placed := ok.emplace slot op buffer
  unfold RecvSide.enqueue
  split
  · exact (placed.start op).congr rfl
  · split
    · exact (placed.start op).congr rfl
    · exact placed
  · exact placed

/-- An operation that has just been posted. -/
theorem enqueue_status (rx : RecvSide) (slot : Nat) (remoteId : UInt32) (op : OpId)
    (buffer : RecvBuffer) (o : RecvOperation)
    (live : (rx.enqueue slot remoteId op buffer).ops op = some o) : o.mStatus ≠ .Canceling := by
  unfold RecvSide.enqueue at live
  split at live
  · simp at live
    simp [← live]
  · split at live
    · simp at live
      simp [← live]
    · simp at live
      simp [← live]
  · simp at live
    simp [← live]

theorem ArmedOk.await {slots : Nat} (ok : rx.ArmedOk) (awaits : rx.Await mEC slots ec rx') :
    rx'.ArmedOk := by
  cases awaits with
  | shut failed code same =>
    have closing : (rx.at_ (.anyRecvOp (some Code.cancel))).closing.ArmedOk := ok.congr rfl
    exact (closing.drain _ code).congr rfl
  | next fine num => exact ok.congr rfl
  | park fine num => exact ok.congr rfl

theorem ArmedOk.request {table : ForkTable} {frame : Frame} (ok : rx.ArmedOk)
    (request : rx.Request table mEC frame rx') : rx'.ArmedOk := by
  cases request with
  | unknown unmapped e error =>
    have closing : rx.closing.ArmedOk := ok.congr rfl
    exact (closing.drain _ _).congr rfl
  | failed slot mapped error => exact ok.congr rfl
  | park slot mapped fine empty => exact ok.congr rfl
  | serve slot op ops mapped fine cells => exact (ok.start op).congr rfl

end RecvSide

namespace SockScheduler
variable {s t : SockScheduler}

theorem armed_recvStep {e : Event} (ok : s.rx.ArmedOk) (step : RecvStep s e t) : t.rx.ArmedOk := by
  have logged (o : RecvObs) : (s.rx.log o).ArmedOk := ok.congr rfl
  cases step with
  | quiet rx mEC nextOp => exact ok.congr (by rw [rx])
  | woken code error rx first failed nextOp => exact ok.congr (by rw [rx, RecvSide.wakeError_ops])
  | rejected session buffer token ec error rx mEC nextOp => exact ok.congr (by rw [rx]; rfl)
  | posted session buffer token slot held fine rx mEC nextOp =>
    rw [rx]
    exact ((logged _).enqueue slot _ s.nextOp buffer).arm (RecvSide.enqueue_status _ _ _ _ _) token
  | stopped op armed rx frame =>
    rw [rx]
    exact ok.stop op _
  | closed r task error rx frame => exact ok.congr (by rw [rx]; rfl)
  | header r task fine rx frame => exact ok.congr (by rw [rx]; rfl)
  | abandoned f e task awaits frame => exact ok.await awaits
  | body f op task fits rx frame =>
    rw [rx]
    have spanned : (s.rx.asSpan op f.header.mSize.toNat).ArmedOk :=
      ok.modify rfl fun _ _ kept => kept
    exact spanned.congr rfl
  | mismatch f op task misfits awaits frame =>
    have spanned : (s.rx.asSpan op f.header.mSize.toNat).ArmedOk :=
      ok.modify rfl fun _ _ kept => kept
    have renewed : ((s.rx.asSpan op f.header.mSize.toNat).renew s.nextStop).ArmedOk :=
      spanned.congr rfl
    exact (renewed.finish op _).await awaits
  | headerFailed x call task failed awaits frame => exact (logged _).await awaits
  | control x call token task size full control rx frame => exact ok.congr (by rw [rx]; rfl)
  | data x call token task size full data request frame => exact (logged _).request request
  | refused x call header token task size full table code faults init error awaits mEC nextOp table'
      faults' =>
    exact (logged _).await awaits
  | accepted x call header token task size full table code faults init fine rx mEC nextOp table'
      faults' =>
    exact ok.congr (by rw [rx]; rfl)
  | @filled _ ec bt bytes x call f op token task size awaits frame =>
    have filled : ((s.rx.log (.body op f.call x)).fill op bytes).ArmedOk :=
      (logged _).modify rfl fun _ _ kept => kept
    have renewed : (((s.rx.log (.body op f.call x)).fill op bytes).renew s.nextStop).ArmedOk :=
      filled.congr rfl
    exact (renewed.finish op _).await awaits

end SockScheduler

/-! ## Every step -/

namespace RecvSide
variable {rx : RecvSide} {op : OpId} {nextOp slots : Nat}

/-- An operation at the front of its queue passes the test of `completePrev`. -/
theorem AtFront.counted (front : rx.AtFront op) (queues : rx.QueuesOk nextOp slots)
    (counted : rx.Counted slots) :
    rx.mNumRecvs ≠ 0 ∧ (rx.mRecvOps (rx.slotOf op)).head? = some op := by
  obtain ⟨slot, home, head⟩ := front
  have member : op ∈ rx.mRecvOps slot := List.mem_of_mem_head? head
  constructor
  · intro zero
    have empty := Queues.total_eq_zero.mp (counted.symm.trans zero) slot (queues.bound home).2
    rw [empty] at member
    cases member
  · rw [slotOf_home home]
    exact head

end RecvSide

namespace SockScheduler
variable {bad : Fault → Bool} {s t : SockScheduler}

theorem recv_passes (inv : RecvInv s) (slot : Nat) (session : UInt64 × UInt64)
    (buffer : RecvBuffer) (token : StopToken) : Passes bad s (s.recv slot session buffer token) := by
  unfold recv
  dsimp only
  split
  · exact .of_eq rfl
  · obtain ⟨m, posted⟩ : ∃ m : SockScheduler, { s.logRecv (.posted s.nextOp session) with
      nextOp := s.nextOp + 1 } = m := ⟨_, rfl⟩
    have same : m.faults = s.faults := by rw [← posted]; rfl
    have flags : m.rx.FlagsOk := by rw [← posted]; exact inv.flags.congr rfl rfl rfl
    have task : m.rx.TaskOk s.mEC := by rw [← posted]; exact inv.task
    rw [posted]
    refine Passes.trans (.of_eq same) ((enqueueRecv_passes s.nextOp flags task slot buffer).trans ?_)
    cases token with
    | none => exact .refl
    | live => exact .of_eq rfl
    | stopped =>
      refine Passes.trans (.of_eq rfl) (recvStopCallback_passes _ fun o live => ?_)
      have marked : ((m.enqueueRecv slot s.nextOp buffer).rx.ops.modify s.nextOp fun o =>
        { o with mReg := .registered }) s.nextOp = some o := live
      rw [enqueueRecv_rx flags, Heap.modify_self] at marked
      obtain ⟨a, placed, rfl⟩ := Option.map_eq_some_iff.mp marked
      exact RecvSide.enqueue_status _ _ _ _ _ a placed

/-- The receive task is resumed with what it serves at the front of its queue. -/
theorem receiveDataTask_passes (spares : Spares bad) (inv : RecvInv s)
    (front : bad .anyRecvOpFront = true → s.rx.FrontOk s.table) {queued : List Callback}
    (same : t = { s with queued := queued }) : Passes bad s t.receiveDataTask := by
  have rx : t.rx = s.rx := by rw [same]
  have start : Passes bad s t := .of_eq (by rw [same])
  have resumed := receiveDataTask_cases t
  obtain ⟨u, result⟩ : ∃ u, t.receiveDataTask = u := ⟨_, rfl⟩
  rw [result] at resumed ⊢
  cases resumed with
  | idle waits => exact start
  | done r task error => exact start.trans (.of_eq rfl)
  | header r task ok => exact start.trans (.of_eq rfl)
  | failed frame e task => exact start.trans (AnyRecvOp.awaitSuspend_passes spares none e nofun)
  | body frame op task fits => exact start.trans (.of_eq rfl)
  | mismatch frame op task misfits =>
    refine start.trans (Passes.trans (.of_eq rfl) (AnyRecvOp.awaitSuspend_passes spares _ _ ?_))
    intro asked p here
    cases here
    have given := (front asked).serving op (by rw [← rx, task]; rfl)
    have placed : (s.rx.asSpan op frame.header.mSize.toNat).AtFront op :=
      given.congr rfl (RecvSide.home_modify rfl fun _ => rfl)
    rw [rx]
    exact placed.counted (inv.queues.asSpan op _) inv.counted

theorem recvReturned_passes (spares : Spares bad) {ec : ErrorCode} {bt : Nat} {bytes : List UInt8}
    (inv : RecvInv s) (front : bad .anyRecvOpFront = true → s.rx.FrontOk s.table)
    (returned : s.recvReturned ec bt bytes = some t) :
    Passes bad s t := by
  cases recvReturned_cases returned with
  | headerFailed token task failed =>
    exact Passes.trans (.of_eq rfl) (AnyRecvOp.awaitSuspend_passes spares none ec nofun)
  | headerMeta token task size full control => exact .of_eq rfl
  | headerData token task size full data =>
    exact Passes.trans (.of_eq rfl) (GetRequestedRecvSocketFork.awaitSuspend_passes spares _)
  | controlFailed header token task failed =>
    exact Passes.trans (.of_eq rfl) (AnyRecvOp.awaitSuspend_passes spares none ec nofun)
  | refused header token task size full table code faults init error =>
    exact Passes.trans (.of_eq rfl) (AnyRecvOp.awaitSuspend_passes spares none code nofun)
  | accepted header token task size full table code faults init ok => exact .of_eq rfl
  | body frame op token task size =>
    refine Passes.trans (.of_eq rfl) (AnyRecvOp.awaitSuspend_passes spares _ _ ?_)
    intro asked p here
    cases here
    have given := (front asked).serving op (by rw [task]; rfl)
    have filled : ((s.rx.log (.body op frame.call (recvCall ec bt bytes))).fill op bytes).AtFront op :=
      given.congr rfl (RecvSide.home_modify rfl fun _ => rfl)
    exact filled.counted ((inv.queues.log _).fill op bytes) inv.counted

theorem sendReturned_passes (spares : Spares bad) {ec : ErrorCode} {bt : Nat}
    (returned : s.sendReturned ec bt = some t) : Passes bad s t := by
  cases sendReturned_cases returned with
  | failed part op token task x call failed =>
    exact Passes.trans (.of_eq rfl) (NextSendOp.awaitSuspend_passes spares _ _)
  | next part part' op token task x call full follows => exact .of_eq rfl
  | body op token task x call full =>
    exact Passes.trans (.of_eq rfl) (NextSendOp.awaitSuspend_passes spares _ _)

/-- The assertions at the start of a send that fail. -/
def taskChecks (s : SockScheduler) (op : OpId) : List Fault :=
  require ((s.tx.ops op).any (·.mStatus ≠ .NotStarted)) .sendTaskStatus ++
  require ((s.sendBytes .body op).length ≠ 0) .sendTaskEmpty ++
  require ((s.sendBytes .body op).length < 2 ^ 32 - 1) .sendTaskLength ++
  require ((s.table.fork (s.tx.slotOf op)).mLocalId ≠ unassigned) .sendTaskLocalId

theorem taskChecks_ofRecv (s : SockScheduler) (op : OpId) :
    ∀ f ∈ s.taskChecks op, f.ofRecv = false := by
  intro f failed
  simp only [taskChecks, List.mem_append, or_assoc] at failed
  rcases failed with failed | failed | failed | failed <;> rw [mem_require failed] <;> rfl

theorem makeSendTask_passes (s : SockScheduler)
    (checked : ∀ op, s.tx.mSendTask = .nextSendOp (some (.ok op)) →
      ∀ f ∈ s.taskChecks op, bad f = false) : Passes bad s s.makeSendTask := by
  unfold makeSendTask
  split
  · exact .of_eq rfl
  · rename_i op task
    have other := checked op task
    dsimp only
    split
    · exact .of_checks _ rfl other
    · exact .of_checks _ rfl other
  · exact .refl

theorem step_passes {e : Event} (spares : Spares bad) (inv : BaseInv s)
    (front : bad .anyRecvOpFront = true → s.rx.FrontOk s.table) (armed : s.rx.ArmedOk)
    (checked : e = .run .sendTask → ∀ op, s.tx.mSendTask = .nextSendOp (some (.ok op)) →
      ∀ f ∈ s.taskChecks op, bad f = false)
    (taken : step s e = some t) : Passes bad s t := by
  cases e with
  | fork session =>
    obtain ⟨slot, _, rfl⟩ := Option.map_eq_some_iff.mp taken
    exact .of_eq rfl
  | send session data token =>
    obtain ⟨slot, _, rfl⟩ := Option.map_eq_some_iff.mp taken
    exact send_passes spares slot session data token
  | recv session buffer token =>
    obtain ⟨slot, _, rfl⟩ := Option.map_eq_some_iff.mp taken
    exact recv_passes inv.recv slot session buffer token
  | stopSend op =>
    simp only [step] at taken
    split at taken <;> cases taken
    exact sendStopCallback_passes spares op s
  | stopRecv op =>
    simp only [step] at taken
    split at taken <;> cases taken
    rename_i registered
    refine recvStopCallback_passes op fun o live => ?_
    rw [live] at registered
    exact armed op o live (by simpa using registered)
  | flush handle =>
    cases taken
    obtain ⟨_, _, _, _, _, _, shape, _⟩ := s.flush_shape handle
    rw [shape]
    exact .of_eq rfl
  | socketClose =>
    cases taken
    exact .of_eq rfl
  | close =>
    cases taken
    exact cancel_passes s _ spares _
  | run cb =>
    simp only [step] at taken
    split at taken <;> cases taken
    cases cb with
    | recvTask => exact receiveDataTask_passes spares inv.recv front rfl
    | sendTask => exact Passes.trans (.of_eq rfl) (makeSendTask_passes _ (checked rfl))
    | requestStop src =>
      rw [runCallback, requestStop_eq]
      exact .of_eq rfl
    | _ => exact .of_eq rfl
  | sendReturned ec bt => exact sendReturned_passes spares taken
  | recvReturned ec bt bytes => exact recvReturned_passes spares inv.recv front taken

end SockScheduler
end Coproto
