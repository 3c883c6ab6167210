import Coproto.Invariants.Base
import Coproto.Invariants.Returns

/-!
# The receive direction as a machine of its own

`RecvStep` lists what an event can do to `RecvSide`, as functions of `RecvSide`
alone. The fork tables enter where a frame is matched to a slot and where the
queues are listed for the drain.
-/
namespace Coproto

namespace RecvSide

/-- The stop callback of a receive that the task has taken already. -/
@[simps] def halt (rx : RecvSide) (op : OpId) (failed : Bool) : RecvSide :=
  { ((rx.log (.stopRequested op failed)).setReg op .invoked).setStatus op .Canceling with
    mRecvCancelSrc := none }

/-- The stop callback of a receive that still waits. -/
def abort (rx : RecvSide) (op : OpId) (o : RecvOperation) (failed : Bool) : RecvSide :=
  ((rx.log (.stopRequested op failed)).setReg op .invoked).cut op o

/-- `recvStopCallback`. -/
def stop (rx : RecvSide) (op : OpId) (failed : Bool) : RecvSide :=
  match rx.ops op with
  | none => rx
  | some o => if o.mStatus = .NotStarted then rx.abort op o failed else rx.halt op failed

/-- `recvSetCancelation`. -/
def arm (rx : RecvSide) (op : OpId) : StopToken → RecvSide
  | .none => rx
  | .live => rx.setReg op .registered
  | .stopped => (rx.setReg op .registered).stop op false

@[simps] def at_ (rx : RecvSide) (task : RecvTask) : RecvSide := { rx with mRecvTask := task }

/-- A posted receive resumes the task that is parked in `AnyRecvOp`. -/
@[simps] def wakeAny (rx : RecvSide) (op : OpId) : RecvSide :=
  { rx.setStatus op .InProgress with
    mRecvStatus := .InUse
    mAnyRecvOp := false
    mRecvTask := .anyRecvOp (some Code.success) }

/-- A posted receive resumes the task that is parked on a frame of its fork. -/
@[simps] def wakeRequested (rx : RecvSide) (frame : Frame) (op : OpId) : RecvSide :=
  { rx.setStatus op .InProgress with
    mRecvStatus := .InUse
    mGetRequestedRecvSocketFork := none
    mRecvTask := .getRequested frame (some (.ok op)) }

/-- `emplaceRecv`. -/
@[simps!] def emplace (rx : RecvSide) (slot : Nat) (op : OpId) (buffer : RecvBuffer) : RecvSide :=
  { rx.pushBack slot op
      { mRecvBuffer := { buffer with mExPtr := .unset, mData := [] }, mSocketFork := slot } with
    mNumRecvs := rx.mNumRecvs + 1 }

/-- `enqueueRecv` on the slot with the given remote id. -/
def enqueue (rx : RecvSide) (slot : Nat) (remoteId : UInt32) (op : OpId) (buffer : RecvBuffer) :
    RecvSide :=
  match rx.mRecvTask with
  | .anyRecvOp none => (rx.emplace slot op buffer).wakeAny op
  | .getRequested frame none =>
    if frame.header.mForkId = remoteId then (rx.emplace slot op buffer).wakeRequested frame op
    else rx.emplace slot op buffer
  | _ => rx.emplace slot op buffer

/-- A receive that fails before it is queued. -/
@[simps!] def reject (rx : RecvSide) (op : OpId) (session : UInt64 × UInt64) (ec : ErrorCode) :
    RecvSide :=
  ((rx.log (.posted op session)).log (.setError op ec)).log (.completed op (some ec) [])

/-- The queues, slot by slot. -/
def listing (rx : RecvSide) (slots : Nat) : List (Nat × OpId) :=
  (List.range slots).flatMap fun slot => (rx.mRecvOps slot).map fun op => (slot, op)

/-- A stop source that was used up is renewed. -/
@[simps] def renew (rx : RecvSide) (fresh : StopId) : RecvSide :=
  { rx with
    mRecvCancelSrc := some (rx.mRecvCancelSrc.getD fresh)
    mRecvToken := if rx.mRecvCancelSrc = none then fresh else rx.mRecvToken }

@[simps] def park (rx : RecvSide) : RecvSide :=
  { rx with mRecvStatus := .Idle, mAnyRecvOp := true, mRecvTask := .anyRecvOp none }

/-- The three ways `AnyRecvOp` goes on once the previous operation has left. -/
inductive Await (rx : RecvSide) (mEC : ErrorCode) (slots : Nat) (ec : ErrorCode) : RecvSide → Prop
  | shut (failed : ec.isError = true ∨ mEC.isError = true) (code : ErrorCode)
      (same : code.isError = ec.isError) :
      Await rx mEC slots ec
        ((rx.at_ (.anyRecvOp (some Code.cancel))).close (rx.listing slots) code)
  | next (ok : ec.isError = false ∧ mEC.isError = false) (num : rx.mNumRecvs ≠ 0) :
      Await rx mEC slots ec (rx.at_ (.anyRecvOp (some Code.success)))
  | park (ok : ec.isError = false ∧ mEC.isError = false) (num : rx.mNumRecvs = 0) :
      Await rx mEC slots ec rx.park

/-- The task waits for a receive of one fork. -/
@[simps] def parkOn (rx : RecvSide) (frame : Frame) : RecvSide :=
  { rx with
    mRecvStatus := .RequestedRecvOp
    mGetRequestedRecvSocketFork := some frame.header.mForkId
    mRecvTask := .getRequested frame none }

/-- The ways on from a data header. -/
inductive Request (rx : RecvSide) (table : ForkTable) (mEC : ErrorCode) (frame : Frame) :
    RecvSide → Prop
  | unknown (unmapped : table.mRemoteSocketForkMapping_ frame.header.mForkId = none)
      (e : ErrorCode) (error : e.isError = true) :
      Request rx table mEC frame
        ((rx.close (rx.listing table.mSocketForks_.length) Code.badCoprotoMessageHeader).at_
          (.getRequested frame (some (.error e))))
  | failed (slot : Nat) (mapped : table.mRemoteSocketForkMapping_ frame.header.mForkId = some slot)
      (error : mEC.isError = true) :
      Request rx table mEC frame (rx.at_ (.getRequested frame (some (.error mEC))))
  | park (slot : Nat) (mapped : table.mRemoteSocketForkMapping_ frame.header.mForkId = some slot)
      (ok : mEC.isError = false) (empty : rx.mRecvOps slot = []) :
      Request rx table mEC frame (rx.parkOn frame)
  | serve (slot : Nat) (op : OpId) (ops : List OpId)
      (mapped : table.mRemoteSocketForkMapping_ frame.header.mForkId = some slot)
      (ok : mEC.isError = false) (cells : rx.mRecvOps slot = op :: ops) :
      Request rx table mEC frame
        ((rx.setStatus op .InProgress).at_ (.getRequested frame (some (.ok op))))

/-! ## Where the task is -/

section Task
variable {rx : RecvSide} {op : OpId} {ec : ErrorCode}

@[simp] theorem stop_mRecvTask (failed : Bool) : (rx.stop op failed).mRecvTask = rx.mRecvTask := by
  unfold stop
  split
  · rfl
  · split
    · simp [abort]
    · rfl

@[simp] theorem arm_mRecvTask (token : StopToken) : (rx.arm op token).mRecvTask = rx.mRecvTask := by
  cases token with
  | none => rfl
  | live => rfl
  | stopped => exact stop_mRecvTask false

@[simp] theorem close_mRecvTask (ops : List (Nat × OpId)) :
    (rx.close ops ec).mRecvTask = rx.mRecvTask := by
  obtain ⟨queues, heap, trace, shape⟩ := rx.close_shape ops ec
  rw [shape]

end Task

end RecvSide

namespace SockScheduler
variable {s t : SockScheduler}

/-- What a step changes for the receive side. -/
structure RecvFrame (s t : SockScheduler) : Prop where
  mEC : t.mEC = s.mEC ∨ s.mEC.isError = false ∧ t.mEC.isError = true
  nextOp : t.nextOp = s.nextOp
  table : t.table = s.table

/-- What a step can do to the receive side. -/
inductive RecvStep (s : SockScheduler) : Event → SockScheduler → Prop
  | quiet {e : Event} {t : SockScheduler} (rx : t.rx = s.rx) (mEC : t.mEC = s.mEC)
      (nextOp : s.nextOp ≤ t.nextOp) : RecvStep s e t
  | woken {e : Event} {t : SockScheduler} (code : ErrorCode) (error : code.isError = true)
      (rx : t.rx = s.rx.wakeError code) (first : s.mEC.isError = false)
      (failed : t.mEC.isError = true) (nextOp : t.nextOp = s.nextOp) : RecvStep s e t
  | rejected {t : SockScheduler} (session : UInt64 × UInt64) (buffer : RecvBuffer) (token : StopToken)
      (ec : ErrorCode) (error : ec.isError = true) (rx : t.rx = s.rx.reject s.nextOp session ec)
      (mEC : t.mEC = s.mEC) (nextOp : t.nextOp = s.nextOp + 1) :
      RecvStep s (.recv session buffer token) t
  | posted {t : SockScheduler} (session : UInt64 × UInt64) (buffer : RecvBuffer) (token : StopToken)
      (slot : Nat) (held : s.heldSlot session = some slot) (ok : s.mEC.isError = false)
      (rx : t.rx = ((s.rx.log (.posted s.nextOp session)).enqueue slot (s.table.fork slot).mRemoteId
        s.nextOp buffer).arm s.nextOp token)
      (mEC : t.mEC = s.mEC) (nextOp : t.nextOp = s.nextOp + 1) :
      RecvStep s (.recv session buffer token) t
  | stopped {t : SockScheduler} (op : OpId) (armed : (s.rx.ops op).any (·.mReg = .registered) = true)
      (rx : t.rx = s.rx.stop op s.mEC.isError) (frame : RecvFrame s t) : RecvStep s (.stopRecv op) t
  | closed {t : SockScheduler} (r : ErrorCode) (task : s.rx.mRecvTask = .anyRecvOp (some r))
      (error : r.isError = true) (rx : t.rx = s.rx.at_ .done) (frame : RecvFrame s t) :
      RecvStep s (.run .recvTask) t
  | header {t : SockScheduler} (r : ErrorCode) (task : s.rx.mRecvTask = .anyRecvOp (some r))
      (ok : r.isError = false) (rx : t.rx = s.rx.at_ (.header s.rx.mRecvToken))
      (frame : RecvFrame s t) : RecvStep s (.run .recvTask) t
  | abandoned {t : SockScheduler} (f : Frame) (e : ErrorCode)
      (task : s.rx.mRecvTask = .getRequested f (some (.error e)))
      (awaits : s.rx.Await s.mEC s.table.mSocketForks_.length e t.rx) (frame : RecvFrame s t) :
      RecvStep s (.run .recvTask) t
  | body {t : SockScheduler} (f : Frame) (op : OpId)
      (task : s.rx.mRecvTask = .getRequested f (some (.ok op)))
      (fits : (s.rx.ops op).any (fun o =>
        o.mRecvBuffer.spanSize f.header.mSize.toNat = f.header.mSize.toNat) = true)
      (rx : t.rx = (s.rx.asSpan op f.header.mSize.toNat).at_ (.body f op s.rx.mRecvToken))
      (frame : RecvFrame s t) : RecvStep s (.run .recvTask) t
  | mismatch {t : SockScheduler} (f : Frame) (op : OpId)
      (task : s.rx.mRecvTask = .getRequested f (some (.ok op)))
      (misfits : (s.rx.ops op).any (fun o =>
        o.mRecvBuffer.spanSize f.header.mSize.toNat = f.header.mSize.toNat) = false)
      (awaits : (((s.rx.asSpan op f.header.mSize.toNat).renew s.nextStop).finish op
        Code.badBufferSize).Await s.mEC s.table.mSocketForks_.length Code.badBufferSize t.rx)
      (frame : RecvFrame s t) : RecvStep s (.run .recvTask) t
  | headerFailed {t : SockScheduler} {ec : ErrorCode} {bt : Nat} {bytes : List UInt8} (x : Xfer)
      (call : x = recvCall ec bt bytes)
      (task : (∃ token, s.rx.mRecvTask = .header token) ∨
        ∃ header token, s.rx.mRecvTask = .control header token)
      (failed : ec.isError = true ∨ x.Short)
      (awaits : (s.rx.log (.header x)).Await s.mEC s.table.mSocketForks_.length ec t.rx)
      (frame : RecvFrame s t) : RecvStep s (.recvReturned ec bt bytes) t
  | control {t : SockScheduler} {ec : ErrorCode} {bt : Nat} {bytes : List UInt8} (x : Xfer)
      (call : x = recvCall ec bt bytes) (token : StopId) (task : s.rx.mRecvTask = .header token)
      (size : bytes.length = headerSize) (full : x.Full) (control : (Header.ofBytes bytes).mSize = 0)
      (rx : t.rx = (s.rx.log (.header x)).at_ (.control (Header.ofBytes bytes) s.rx.mRecvToken))
      (frame : RecvFrame s t) : RecvStep s (.recvReturned ec bt bytes) t
  | data {t : SockScheduler} {ec : ErrorCode} {bt : Nat} {bytes : List UInt8} (x : Xfer)
      (call : x = recvCall ec bt bytes) (token : StopId) (task : s.rx.mRecvTask = .header token)
      (size : bytes.length = headerSize) (full : x.Full) (data : (Header.ofBytes bytes).mSize ≠ 0)
      (request : (s.rx.log (.header x)).Request s.table s.mEC ⟨Header.ofBytes bytes, x⟩ t.rx)
      (frame : RecvFrame s t) : RecvStep s (.recvReturned ec bt bytes) t
  | refused {t : SockScheduler} {ec : ErrorCode} {bt : Nat} {bytes : List UInt8} (x : Xfer)
      (call : x = recvCall ec bt bytes) (header : Header) (token : StopId)
      (task : s.rx.mRecvTask = .control header token) (size : bytes.length = controlBlockSize)
      (full : x.Full)
      (table : ForkTable) (code : ErrorCode) (faults : List ForkFault)
      (init : s.table.initRemoteSocketFork header.mForkId (controlBlockSessionID bytes) =
        (table, code, faults)) (error : code.isError = true)
      (awaits : (s.rx.log (.header x)).Await s.mEC table.mSocketForks_.length code t.rx)
      (mEC : t.mEC = s.mEC ∨ s.mEC.isError = false ∧ t.mEC.isError = true)
      (nextOp : t.nextOp = s.nextOp) (table' : t.table = table)
      (faults' : t.forkFaults = s.forkFaults ++ faults) :
      RecvStep s (.recvReturned ec bt bytes) t
  | accepted {t : SockScheduler} {ec : ErrorCode} {bt : Nat} {bytes : List UInt8} (x : Xfer)
      (call : x = recvCall ec bt bytes) (header : Header) (token : StopId)
      (task : s.rx.mRecvTask = .control header token) (size : bytes.length = controlBlockSize)
      (full : x.Full)
      (table : ForkTable) (code : ErrorCode) (faults : List ForkFault)
      (init : s.table.initRemoteSocketFork header.mForkId (controlBlockSessionID bytes) =
        (table, code, faults)) (ok : code.isError = false)
      (rx : t.rx = (s.rx.log (.header x)).at_ (.header s.rx.mRecvToken)) (mEC : t.mEC = s.mEC)
      (nextOp : t.nextOp = s.nextOp) (table' : t.table = table)
      (faults' : t.forkFaults = s.forkFaults ++ faults) :
      RecvStep s (.recvReturned ec bt bytes) t
  | filled {t : SockScheduler} {ec : ErrorCode} {bt : Nat} {bytes : List UInt8} (x : Xfer)
      (call : x = recvCall ec bt bytes) (f : Frame) (op : OpId) (token : StopId)
      (task : s.rx.mRecvTask = .body f op token) (size : bytes.length = f.header.mSize.toNat)
      (awaits : ((((s.rx.log (.body op f.call x)).fill op bytes).renew s.nextStop).finish op
        ec).Await s.mEC s.table.mSocketForks_.length ec t.rx)
      (frame : RecvFrame s t) : RecvStep s (.recvReturned ec bt bytes) t

/-! ## The functions of the scheduler on `rx` -/

theorem recvStopCallback_rx (s : SockScheduler) (op : OpId) :
    (s.recvStopCallback op).rx = s.rx.stop op s.mEC.isError := by
  unfold RecvSide.stop
  cases live : s.rx.ops op with
  | none => simp [recvStopCallback, live]
  | some o =>
    by_cases idle : o.mStatus = .NotStarted
    · simp only [idle, if_true]
      exact recvStopCallback_notStarted live idle
    · simp only [idle, if_false]
      exact recvStopCallback_started live idle

theorem recvSetCancelation_rx (s : SockScheduler) (op : OpId) (token : StopToken)
    (ok : s.mEC.isError = false) : (s.recvSetCancelation op token).rx = s.rx.arm op token := by
  cases token with
  | none => rfl
  | live => rfl
  | stopped =>
    show ((s.recvSetReg op .registered).recvStopCallback op).rx = _
    rw [recvStopCallback_rx]
    show ((s.rx.setReg op .registered).stop op s.mEC.isError) = _
    rw [ok]
    rfl

theorem enqueueRecv_rx (flags : s.rx.FlagsOk) (slot : Nat) (op : OpId) (buffer : RecvBuffer) :
    (s.enqueueRecv slot op buffer).rx =
      s.rx.enqueue slot (s.table.fork slot).mRemoteId op buffer := by
  rcases enqueueRecv_cases slot op buffer flags with
    ⟨task, result⟩ | ⟨frame, task, mine, result⟩ | ⟨idle, other, result⟩ <;> rw [result]
  · simp only [RecvSide.enqueue, task]
    rfl
  · simp only [RecvSide.enqueue, task, mine, if_true]
    have task' : (s.emplaceRecv slot op buffer).rx.mRecvTask = .getRequested frame none := task
    simp only [wakeRequestedRecv, GetRequestedRecvSocketFork.getHandle, push, recvSetStatus,
      RecvSide.setStatus, check, task']
    rfl
  · unfold RecvSide.enqueue
    split
    · rename_i task
      simp [task, RecvTask.waitsAny] at idle
    · rename_i frame task
      have other' : frame.header.mForkId ≠ (s.table.fork slot).mRemoteId := by
        simpa [task, RecvTask.requested] using other
      simp only [other', if_false]
      rfl
    · rfl

theorem queuedRecvs_eq (s : SockScheduler) :
    s.queuedRecvs = s.rx.listing s.table.mSocketForks_.length := rfl

namespace AnyRecvOp

/-- The receive side once the previous operation has left. -/
def left (s : SockScheduler) (prevOp : Option OpId) (ec : ErrorCode) : RecvSide :=
  match prevOp with
  | some op => (s.rx.renew s.nextStop).finish op ec
  | none => s.rx

theorem prev_rx (s : SockScheduler) (prevOp : Option OpId) (ec : ErrorCode) :
    (prev s prevOp ec).1.rx = left s prevOp ec := by
  cases prevOp with
  | none => rfl
  | some op =>
    have renewed : (if s.rx.mRecvCancelSrc = none then s.resetRecvToken else s).rx =
        s.rx.renew s.nextStop := by
      by_cases used : s.rx.mRecvCancelSrc = none
      · simp [resetRecvToken, RecvSide.renew, used]
      · obtain ⟨id, src⟩ := Option.ne_none_iff_exists'.mp used
        have kept : s.rx.renew s.nextStop = { s.rx with mRecvCancelSrc := some id } := by
          simp [RecvSide.renew, src]
        rw [if_neg used, kept, ← src]
    rw [prev, completePrev_rx, renewed]
    rfl

/-- `AnyRecvOp` on `rx`. -/
theorem awaitSuspend_await (prevOp : Option OpId) (ec : ErrorCode) (running : s.rx.Running)
    (tx : s.tx.FlagsOk) :
    (left s prevOp ec).Await s.mEC s.table.mSocketForks_.length ec
        (awaitSuspend s prevOp ec).rx ∧ RecvFrame s (awaitSuspend s prevOp ec) := by
  have prev := prev_rx s prevOp ec
  have path := awaitSuspend_path prevOp ec running
  have crossing := path.crossing tx
  have frame : RecvFrame s (awaitSuspend s prevOp ec) := by
    refine ⟨?_, crossing.nextOp, crossing.table⟩
    rcases path.tx_cases tx with ⟨_, same, _⟩ | ⟨first, failed, _⟩
    · exact .inl same
    · exact .inr ⟨first, failed⟩
  refine ⟨?_, frame⟩
  rcases awaitSuspend_cases (s := s) prevOp ec with
    ⟨failed, result⟩ | ⟨ok, num, result⟩ | ⟨ok, num, result⟩
  · have quiet := failing_onlyRecv (s := s) prevOp ec
    have failingRx : (failing s prevOp ec).rx =
        (left s prevOp ec).at_ (.anyRecvOp (some Code.cancel)) := by
      rw [← prev]
      rfl
    have rx := cancel_recver_rx (failing_flags prevOp ec running) (quiet.tx ▸ tx)
      (failing_busy prevOp ec) (AnyRecvOp.prev s prevOp ec).2
    rw [queuedRecvs_eq, quiet.table, failingRx] at rx
    have whole : (awaitSuspend s prevOp ec).rx = _ :=
      (congrArg SockScheduler.rx result).trans rx
    rw [whole]
    exact .shut failed _ (prev_snd_isError prevOp ec)
  · have whole : (awaitSuspend s prevOp ec).rx =
        (left s prevOp ec).at_ (.anyRecvOp (some Code.success)) := by
      rw [result, ← prev]
      rfl
    rw [whole]
    exact .next ok (prev ▸ num)
  · have whole : (awaitSuspend s prevOp ec).rx = (left s prevOp ec).park := by
      rw [result, ← prev]
      rfl
    rw [whole]
    exact .park ok (prev ▸ num)

end AnyRecvOp

namespace GetRequestedRecvSocketFork

/-- `GetRequestedRecvSocketFork` on `rx`. -/
theorem awaitSuspend_request (f : Frame) (flags : s.rx.FlagsOk) (busy : s.rx.Busy)
    (tx : s.tx.FlagsOk) :
    s.rx.Request s.table s.mEC f (awaitSuspend s f).rx ∧ RecvFrame s (awaitSuspend s f) := by
  have path := awaitSuspend_path f flags
  have crossing := path.crossing tx
  have frame : RecvFrame s (awaitSuspend s f) := by
    refine ⟨?_, crossing.nextOp, crossing.table⟩
    rcases path.tx_cases tx with ⟨_, same, _⟩ | ⟨first, failed, _⟩
    · exact .inl same
    · exact .inr ⟨first, failed⟩
  refine ⟨?_, frame⟩
  rcases awaitSuspend_cases (s := s) f with
    ⟨unmapped, result⟩ | ⟨slot, mapped, ⟨failed, result⟩ | ⟨ok, empty, result⟩ |
      ⟨ok, op, ops, cells, result⟩⟩ <;> rw [result]
  · have rx := cancel_recver_rx flags tx busy Code.badCoprotoMessageHeader
    have mEC := cancel_recver_mEC flags tx Code.badCoprotoMessageHeader
    have error : (s.cancel .Recver Code.badCoprotoMessageHeader).mEC.isError = true := by
      rw [mEC]
      cases h : s.mEC.isError <;> simp [h]
    rw [queuedRecvs_eq] at rx
    show s.rx.Request s.table s.mEC f
      ((s.cancel .Recver Code.badCoprotoMessageHeader).rx.at_ _)
    rw [rx]
    exact .unknown unmapped _ error
  · exact .failed slot mapped failed
  · exact .park slot mapped ok empty
  · exact .serve slot op ops mapped ok cells

end GetRequestedRecvSocketFork

/-! ## Every step is one of the list -/

theorem RecvStep.of_sendPath {m : SockScheduler} {e : Event} (path : SendPath m t)
    (flags : s.rx.FlagsOk) (rx : m.rx = s.rx) (mEC : m.mEC = s.mEC)
    (nextOp : m.nextOp = s.nextOp) : RecvStep s e t := by
  have number := (path.crossing (rx ▸ flags)).nextOp
  rcases path.rx_cases (rx ▸ flags) with ⟨rx', _, mEC', _⟩ | ⟨first, failed, rx', _⟩
  · exact .quiet (rx'.trans rx) (mEC'.trans mEC) (number.trans nextOp).ge
  · exact .woken _ rfl (rx'.trans (by rw [rx])) (mEC ▸ first) failed (number.trans nextOp)

theorem recvStep_of_recv {session : UInt64 × UInt64} {slot : Nat} (flags : s.rx.FlagsOk)
    (buffer : RecvBuffer) (token : StopToken) (held : s.heldSlot session = some slot) :
    RecvStep s (.recv session buffer token) (s.recv slot session buffer token) := by
  have nextOp := (s.recv_onlyRecv slot session buffer token).nextOp
  have mEC := (s.recv_onlyRecv slot session buffer token).mEC
  obtain ⟨t, result⟩ : ∃ t, s.recv slot session buffer token = t := ⟨_, rfl⟩
  rw [result] at nextOp mEC ⊢
  unfold recv at result
  dsimp only at result
  split at result
  · rename_i failed
    exact .rejected session buffer token s.mEC failed (by rw [← result]; rfl) mEC nextOp
  · rename_i passed
    have ok : s.mEC.isError = false := (Bool.not_eq_true _).mp passed
    obtain ⟨p, started⟩ : ∃ p : SockScheduler,
      { s.logRecv (.posted s.nextOp session) with nextOp := s.nextOp + 1 } = p := ⟨_, rfl⟩
    have flags' : p.rx.FlagsOk := by rw [← started]; exact flags.congr rfl rfl rfl
    have fine : (p.enqueueRecv slot s.nextOp buffer).mEC.isError = false := by
      rw [(enqueueRecv_onlyRecv _ _ _ _).mEC, ← started]
      exact ok
    refine .posted session buffer token slot held ok ?_ mEC nextOp
    rw [started] at result
    rw [← result, recvSetCancelation_rx _ _ _ fine, enqueueRecv_rx flags', ← started]
    rfl

theorem recvStep_of_receiveDataTask {m : SockScheduler} (inv : BaseInv s) (rx : m.rx = s.rx)
    (mEC : m.mEC = s.mEC) (nextOp : m.nextOp = s.nextOp) (table : m.table = s.table)
    (nextStop : m.nextStop = s.nextStop) (tx : m.tx = s.tx) :
    RecvStep s (.run .recvTask) m.receiveDataTask := by
  have any := inv.recv.flags.anyRecvOp
  have requested := inv.recv.flags.requested
  have send : m.tx.FlagsOk := tx ▸ inv.send.flags
  have resumed := receiveDataTask_cases m
  have through : ∀ {n : SockScheduler}, RecvFrame m n → RecvFrame s n := fun frame =>
    ⟨mEC ▸ frame.mEC, frame.nextOp.trans nextOp, frame.table.trans table⟩
  obtain ⟨t, result⟩ : ∃ t, m.receiveDataTask = t := ⟨_, rfl⟩
  rw [result] at resumed ⊢
  cases resumed with
  | idle waits => exact .quiet rx mEC nextOp.ge
  | done r task error =>
    exact .closed r (rx ▸ task) error (by rw [← rx]; rfl) (through ⟨.inl rfl, rfl, rfl⟩)
  | header r task ok =>
    exact .header r (rx ▸ task) ok (by rw [← rx]; rfl) (through ⟨.inl rfl, rfl, rfl⟩)
  | failed f e task =>
    rw [rx] at task
    rw [task] at any requested
    obtain ⟨awaits, frame⟩ := AnyRecvOp.awaitSuspend_await (s := m) none e
      (by rw [rx]; exact ⟨any, requested⟩) send
    rw [AnyRecvOp.left, rx, mEC, table] at awaits
    exact .abandoned f e task awaits (through frame)
  | body f op task fits =>
    rw [rx] at task fits
    exact .body f op task fits (by rw [← rx]; rfl) (through ⟨.inl rfl, rfl, rfl⟩)
  | mismatch f op task misfits =>
    rw [rx] at task misfits
    rw [task] at any requested
    obtain ⟨n, placed⟩ : ∃ n : SockScheduler,
      { m with rx := m.rx.asSpan op f.header.mSize.toNat } = n := ⟨_, rfl⟩
    have placedRx : n.rx = s.rx.asSpan op f.header.mSize.toNat := by rw [← placed, ← rx]
    obtain ⟨awaits, frame⟩ := AnyRecvOp.awaitSuspend_await (s := n) (some op)
      Code.badBufferSize (by rw [placedRx]; exact ⟨any, requested⟩)
      (by rw [← placed]; exact send)
    have frame' : RecvFrame m (AnyRecvOp.awaitSuspend n (some op) Code.badBufferSize) := by
      rw [← placed] at frame ⊢
      exact ⟨frame.mEC, frame.nextOp, frame.table⟩
    have same : n.mEC = s.mEC ∧ n.table = s.table ∧ n.nextStop = s.nextStop := by
      rw [← placed]
      exact ⟨mEC, table, nextStop⟩
    rw [AnyRecvOp.left, placedRx, same.1, same.2.1, same.2.2] at awaits
    rw [placed]
    exact .mismatch f op task misfits awaits (through frame')

theorem recvStep_of_recvReturned {ec : ErrorCode} {bt : Nat} {bytes : List UInt8} (inv : BaseInv s)
    (returned : s.recvReturned ec bt bytes = some t) :
    RecvStep s (.recvReturned ec bt bytes) t := by
  have any := inv.recv.flags.anyRecvOp
  have requested := inv.recv.flags.requested
  have send := inv.send.flags
  have failed_or : ∀ {x : Xfer}, x.check.isError = true → x.ec.isError = true ∨ x.Short :=
    fun failed => (Xfer.check_isError _).mp failed
  cases recvReturned_cases returned with
  | headerFailed token task failed =>
    simp only [task] at any requested
    obtain ⟨awaits, frame⟩ := AnyRecvOp.awaitSuspend_await
      (s := s.logRecv (.header (recvCall ec bt bytes))) none ec
      ⟨any, requested⟩ send
    exact .headerFailed _ rfl (.inl ⟨token, task⟩) (failed_or failed) awaits
      ⟨frame.mEC, frame.nextOp, frame.table⟩
  | headerMeta token task size full control =>
    exact .control _ rfl token task size full control rfl ⟨.inl rfl, rfl, rfl⟩
  | headerData token task size full data =>
    have busy : (s.logRecv (.header (recvCall ec bt bytes))).rx.Busy := by
      simp [RecvSide.Busy, logRecv, RecvSide.log, task, RecvTask.waitsAny, RecvTask.requested]
    obtain ⟨request, frame⟩ := GetRequestedRecvSocketFork.awaitSuspend_request
      (s := s.logRecv (.header (recvCall ec bt bytes))) ⟨Header.ofBytes bytes, recvCall ec bt bytes⟩
      (inv.recv.logRecv _).flags busy send
    exact .data _ rfl token task size full data request ⟨frame.mEC, frame.nextOp, frame.table⟩
  | controlFailed header token task failed =>
    simp only [task] at any requested
    obtain ⟨awaits, frame⟩ := AnyRecvOp.awaitSuspend_await
      (s := s.logRecv (.header (recvCall ec bt bytes))) none ec
      ⟨any, requested⟩ send
    exact .headerFailed _ rfl (.inr ⟨header, token, task⟩) (failed_or failed) awaits
      ⟨frame.mEC, frame.nextOp, frame.table⟩
  | refused header token task size full table code faults init error =>
    simp only [task] at any requested
    obtain ⟨n, made⟩ : ∃ n : SockScheduler, { s.logRecv (.header (recvCall ec bt bytes)) with
      table := table, forkFaults := s.forkFaults ++ faults } = n := ⟨_, rfl⟩
    have rx : n.rx = s.rx.log (.header (recvCall ec bt bytes)) := by rw [← made]; rfl
    have tx : n.tx.FlagsOk := by rw [← made]; exact send
    have same : n.table = table ∧ n.mEC = s.mEC ∧ n.nextOp = s.nextOp ∧
        n.forkFaults = s.forkFaults ++ faults := by
      rw [← made]
      exact ⟨rfl, rfl, rfl, rfl⟩
    have running : n.rx.Running := by rw [rx]; exact ⟨any, requested⟩
    obtain ⟨awaits, frame⟩ := AnyRecvOp.awaitSuspend_await (s := n) none code running tx
    have crossing := (AnyRecvOp.awaitSuspend_path none code running).crossing tx
    rw [AnyRecvOp.left, rx, same.1, same.2.1] at awaits
    rw [made]
    exact .refused _ rfl header token task size full table code faults init error awaits
      (same.2.1 ▸ frame.mEC) (frame.nextOp.trans same.2.2.1) (frame.table.trans same.1)
      (crossing.forkFaults.trans same.2.2.2)
  | accepted header token task size full table code faults init ok =>
    exact .accepted _ rfl header token task size full table code faults init ok rfl rfl rfl rfl rfl
  | body f op token task size =>
    simp only [task] at any requested
    obtain ⟨n, made⟩ : ∃ n : SockScheduler,
      { s with rx := (s.rx.log (.body op f.call (recvCall ec bt bytes))).fill op bytes } = n :=
      ⟨_, rfl⟩
    have rx : n.rx = (s.rx.log (.body op f.call (recvCall ec bt bytes))).fill op bytes := by
      rw [← made]
    have tx : n.tx.FlagsOk := by rw [← made]; exact send
    have same : n.table = s.table ∧ n.mEC = s.mEC ∧ n.nextOp = s.nextOp ∧
        n.nextStop = s.nextStop := by
      rw [← made]
      exact ⟨rfl, rfl, rfl, rfl⟩
    obtain ⟨awaits, frame⟩ := AnyRecvOp.awaitSuspend_await (s := n) (some op) ec
      (by rw [rx]; exact ⟨any, requested⟩) tx
    rw [AnyRecvOp.left, rx, same.1, same.2.1, same.2.2.2] at awaits
    rw [made]
    exact .filled _ rfl f op token task size awaits
      ⟨same.2.1 ▸ frame.mEC, frame.nextOp.trans same.2.2.1, frame.table.trans same.1⟩

theorem recvStep {e : Event} (inv : BaseInv s) (taken : step s e = some t) : RecvStep s e t := by
  cases e with
  | fork session =>
    obtain ⟨slot, _, rfl⟩ := Option.map_eq_some_iff.mp taken
    exact .quiet rfl rfl le_rfl
  | send session data token =>
    obtain ⟨slot, _, rfl⟩ := Option.map_eq_some_iff.mp taken
    have work := s.send_onlySend slot session data token
    exact .quiet work.rx work.mEC (work.nextOp ▸ Nat.le_succ _)
  | recv session buffer token =>
    obtain ⟨slot, held, rfl⟩ := Option.map_eq_some_iff.mp taken
    exact recvStep_of_recv inv.recv.flags buffer token held
  | stopSend op =>
    simp only [step] at taken
    split at taken <;> cases taken
    have work := s.sendStopCallback_onlySend op
    exact .quiet work.rx work.mEC work.nextOp.ge
  | stopRecv op =>
    simp only [step] at taken
    split at taken <;> cases taken
    rename_i armed
    have work := s.recvStopCallback_onlyRecv op
    exact .stopped op armed (s.recvStopCallback_rx op) ⟨.inl work.mEC, work.nextOp, work.table⟩
  | flush handle =>
    cases taken
    obtain ⟨_, _, _, _, _, _, shape, _⟩ := s.flush_shape handle
    rw [shape]
    exact .quiet rfl rfl le_rfl
  | socketClose =>
    cases taken
    exact .quiet rfl rfl le_rfl
  | close =>
    cases taken
    unfold close cancel
    dsimp only
    split
    · exact .quiet rfl rfl le_rfl
    · rename_i ok
      rw [enterError_eq .Extern Code.closed inv.recv.flags inv.send.flags]
      exact .woken Code.closed rfl rfl ((Bool.not_eq_true _).mp ok) rfl rfl
  | run cb =>
    simp only [step] at taken
    split at taken <;> cases taken
    cases cb with
    | recvTask => exact recvStep_of_receiveDataTask inv rfl rfl rfl rfl rfl rfl
    | sendTask =>
      rw [runCallback]
      rcases SendInv.makeSendTask_eq { s with queued := s.queued.erase .sendTask } with
        ⟨result, _⟩ | ⟨_, _, result⟩ | ⟨_, _, _, _, result⟩ | ⟨_, _, _, _, result⟩ <;>
        rw [result] <;> exact .quiet rfl rfl le_rfl
    | requestStop src =>
      simp only [runCallback, requestStop_eq]
      exact .quiet rfl rfl le_rfl
    | _ => exact .quiet rfl rfl le_rfl
  | sendReturned ec bt => exact .of_sendPath (inv.sendReturned_path taken) inv.recv.flags rfl rfl rfl
  | recvReturned ec bt bytes => exact recvStep_of_recvReturned inv taken

end SockScheduler
end Coproto
