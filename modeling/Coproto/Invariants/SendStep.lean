import Coproto.Invariants.Base
import Coproto.Invariants.Returns

/-!
# The send direction as a machine of its own

`SendStep` lists what an event can do to `SendSide`, as functions of `SendSide`
alone; the rest of the scheduler enters through `mEC`, the number of the next
operation and the results of transport calls. An invariant of the send
direction is proved case by case along it.
-/
namespace Coproto

namespace SendSide

/-- The stop callback of a send that the task has taken already. -/
@[simps] def halt (tx : SendSide) (op : OpId) (failed : Bool) : SendSide :=
  { ((tx.log (.stopRequested op failed)).setReg op .invoked).setStatus op .Canceling with
    mSendCancelSrc := none }

/-- The stop callback of a send that still waits. -/
def abort (tx : SendSide) (op : OpId) (o : SendOperation) (failed : Bool) : SendSide :=
  ((tx.log (.stopRequested op failed)).setReg op .invoked).cut op { o with mReg := .invoked }

/-- `sendStopCallback`. -/
def stop (tx : SendSide) (op : OpId) (failed : Bool) : SendSide :=
  match tx.ops op with
  | none => tx
  | some o => if o.mStatus = .NotStarted then tx.abort op o failed else tx.halt op failed

/-- `sendSetCancelation`. -/
def arm (tx : SendSide) (op : OpId) : StopToken → SendSide
  | .none => tx
  | .live => tx.setReg op .registered
  | .stopped => (tx.setReg op .registered).stop op false

/-- The operation becomes the list of a parked task. -/
@[simps] def wake (tx : SendSide) (op : OpId) : SendSide :=
  { tx.setStatus op .InProgress with
    mSendStatus := .InUse
    mNextSendOp := false
    mSendTask := .nextSendOp (some (.ok op))
    mSendBufferBegin := some op
    mSendBufferLast := some op }

/-- `enqueueSend`. -/
def enqueue (tx : SendSide) (slot : Nat) (op : OpId) (data : List UInt8) : SendSide :=
  let tx := tx.pushBack slot op { mSendBuffer := data, mSocketFork := slot }
  if tx.mNextSendOp then tx.wake op else tx.link op

/-- A send that fails before it is queued. -/
@[simps!] def reject (tx : SendSide) (op : OpId) (session : UInt64 × UInt64) (data : List UInt8)
    (ec : ErrorCode) : SendSide :=
  ((tx.log (.posted op session data)).log (.setError op ec)).log (.completed op (some ec))

/-- The direction is closed and its task told to end. -/
def shut (tx : SendSide) (n : Nat) (ec : ErrorCode) : SendSide :=
  { tx.close n ec with mSendTask := .nextSendOp (some (.error Code.closed)) }

/-- The task takes the front of the list. -/
@[simps] def take (tx : SendSide) (op : OpId) : SendSide :=
  { tx.setStatus op .InProgress with mSendTask := .nextSendOp (some (.ok op)) }

@[simps] def park (tx : SendSide) : SendSide :=
  { tx with mSendStatus := .Idle, mNextSendOp := true, mSendTask := .nextSendOp none }

@[simps] def at_ (tx : SendSide) (task : SendTask) : SendSide := { tx with mSendTask := task }

/-- The three ways `NextSendOp` goes on once the previous operation has left. -/
inductive Await (tx : SendSide) (mEC : ErrorCode) (n : Nat) (ec : ErrorCode) : SendSide → Prop
  | shut (failed : ec.isError = true ∨ mEC.isError = true) :
      Await tx mEC n ec (tx.shut n (if ec.isError then ErrorCode.coproto .cancel else ec))
  | take (op : OpId) (ok : ec.isError = false ∧ mEC.isError = false)
      (begin : tx.mSendBufferBegin = some op) : Await tx mEC n ec (tx.take op)
  | park (ok : ec.isError = false ∧ mEC.isError = false) (begin : tx.mSendBufferBegin = none) :
      Await tx mEC n ec tx.park

/-! ## Where the task is and where the list begins -/

variable {tx : SendSide} {op : OpId} {ec : ErrorCode}

@[simp] theorem cut_mSendTask (o : SendOperation) : (tx.cut op o).mSendTask = tx.mSendTask := by
  unfold cut
  cases o.mPrev <;> rfl

@[simp] theorem cut_mSendBufferBegin (o : SendOperation) :
    (tx.cut op o).mSendBufferBegin = tx.mSendBufferBegin := by
  unfold cut
  cases o.mPrev <;> rfl

@[simp] theorem stop_mSendTask (failed : Bool) : (tx.stop op failed).mSendTask = tx.mSendTask := by
  unfold stop
  split
  · rfl
  · split
    · simp [abort]
    · rfl

@[simp] theorem stop_mSendBufferBegin (failed : Bool) :
    (tx.stop op failed).mSendBufferBegin = tx.mSendBufferBegin := by
  unfold stop
  split
  · rfl
  · split
    · simp [abort]
    · rfl

@[simp] theorem arm_mSendTask (token : StopToken) : (tx.arm op token).mSendTask = tx.mSendTask := by
  cases token with
  | none => rfl
  | live => rfl
  | stopped => exact stop_mSendTask false

@[simp] theorem arm_mSendBufferBegin (token : StopToken) :
    (tx.arm op token).mSendBufferBegin = tx.mSendBufferBegin := by
  cases token with
  | none => rfl
  | live => rfl
  | stopped => exact stop_mSendBufferBegin false

/-- A posted send is taken at once by a parked task, or leaves task and front alone. -/
theorem enqueue_cases (flags : tx.FlagsOk) (slot : Nat) (op : OpId) (data : List UInt8) :
    (tx.mSendTask = .nextSendOp none ∧
      (tx.enqueue slot op data).mSendTask = .nextSendOp (some (.ok op)) ∧
      (tx.enqueue slot op data).mSendBufferBegin = some op) ∨
    (tx.mSendTask.waits = false ∧ (tx.enqueue slot op data).mSendTask = tx.mSendTask ∧
      (tx.enqueue slot op data).mSendBufferBegin = tx.mSendBufferBegin) := by
  have flag : (tx.pushBack slot op { mSendBuffer := data, mSocketFork := slot }).mNextSendOp =
    tx.mSendTask.waits := flags
  unfold enqueue
  dsimp only
  rw [flag]
  cases waits : tx.mSendTask.waits with
  | true =>
    refine .inl ⟨?_, rfl, rfl⟩
    unfold SendTask.waits at waits
    split at waits
    · assumption
    · cases waits
  | false =>
    refine .inr ⟨rfl, ?_⟩
    rw [if_neg (by simp)]
    unfold link
    split <;> exact ⟨rfl, rfl⟩

@[simp] theorem shut_mSendBufferBegin (n : Nat) : (tx.shut n ec).mSendBufferBegin = none := by
  obtain ⟨queues, heap, trace, shape⟩ := tx.close_shape n ec
  unfold shut
  rw [shape]

end SendSide

namespace SockScheduler
variable {s t : SockScheduler}

/-- What a step can do to the send side. -/
inductive SendStep (s : SockScheduler) : Event → SockScheduler → Prop
  | quiet {e : Event} {t : SockScheduler} (tx : t.tx = s.tx) (mEC : t.mEC = s.mEC)
      (nextOp : s.nextOp ≤ t.nextOp) : SendStep s e t
  | woken {e : Event} {t : SockScheduler} (tx : t.tx = s.tx.wakeError) (first : s.mEC.isError = false)
      (failed : t.mEC.isError = true) (nextOp : t.nextOp = s.nextOp) : SendStep s e t
  | rejected {t : SockScheduler} (session : UInt64 × UInt64) (data : List UInt8) (token : StopToken)
      (ec : ErrorCode) (error : ec.isError = true) (tx : t.tx = s.tx.reject s.nextOp session data ec)
      (mEC : t.mEC = s.mEC) (nextOp : t.nextOp = s.nextOp + 1) :
      SendStep s (.send session data token) t
  | posted {t : SockScheduler} (session : UInt64 × UInt64) (data : List UInt8) (token : StopToken)
      (slot : Nat) (held : s.heldSlot session = some slot) (full : data.length ≠ 0)
      (ok : s.mEC.isError = false)
      (tx : t.tx = ((s.tx.log (.posted s.nextOp session data)).enqueue slot s.nextOp data).arm
        s.nextOp token)
      (mEC : t.mEC = s.mEC) (nextOp : t.nextOp = s.nextOp + 1) :
      SendStep s (.send session data token) t
  | stopped {t : SockScheduler} (op : OpId) (armed : (s.tx.ops op).any (·.mReg = .registered) = true)
      (tx : t.tx = s.tx.stop op s.mEC.isError) (mEC : t.mEC = s.mEC) (nextOp : t.nextOp = s.nextOp) :
      SendStep s (.stopSend op) t
  | closed {t : SockScheduler} (e : ErrorCode) (task : s.tx.mSendTask = .nextSendOp (some (.error e)))
      (tx : t.tx = s.tx.at_ .done) (mEC : t.mEC = s.mEC) (nextOp : t.nextOp = s.nextOp) :
      SendStep s (.run .sendTask) t
  | started {t : SockScheduler} (op : OpId) (part : SendPart)
      (task : s.tx.mSendTask = .nextSendOp (some (.ok op))) (opening : part ≠ .body)
      (tx : t.tx = (s.tx.log (.started op)).at_ (.sending part op s.tx.mSendToken))
      (mEC : t.mEC = s.mEC) (nextOp : t.nextOp = s.nextOp) : SendStep s (.run .sendTask) t
  | advanced {t : SockScheduler} {ec : ErrorCode} {bt : Nat} (part part' : SendPart) (op : OpId)
      (token : StopId) (task : s.tx.mSendTask = .sending part op token) (x : Xfer)
      (call : x = ⟨ec, bt, (s.sendBytes part op).length⟩) (full : x.Full)
      (follows : (part = .control ∧ part' = .header) ∨ (part = .header ∧ part' = .body))
      (tx : t.tx = (s.tx.log (.xfer op part x)).at_ (.sending part' op s.tx.mSendToken))
      (mEC : t.mEC = s.mEC) (nextOp : t.nextOp = s.nextOp) : SendStep s (.sendReturned ec bt) t
  | finished {t : SockScheduler} {ec : ErrorCode} {bt : Nat} (part : SendPart) (op : OpId)
      (token : StopId) (task : s.tx.mSendTask = .sending part op token) (x : Xfer)
      (call : x = ⟨ec, bt, (s.sendBytes part op).length⟩)
      (reason : (x.Full ∧ part = .body) ∨ x.ec.isError = true ∨ x.Short)
      (awaits : ((s.tx.log (.xfer op part x)).finish op ec).Await s.mEC s.nextOp ec t.tx)
      (mEC : t.mEC = s.mEC ∨ s.mEC.isError = false ∧ t.mEC.isError = true)
      (nextOp : t.nextOp = s.nextOp) : SendStep s (.sendReturned ec bt) t

/-! ## The functions of the scheduler on `tx` -/

theorem sendStopCallback_tx (s : SockScheduler) (op : OpId) :
    (s.sendStopCallback op).tx = s.tx.stop op s.mEC.isError := by
  unfold SendSide.stop
  cases live : s.tx.ops op with
  | none => simp [sendStopCallback, live]
  | some o =>
    by_cases idle : o.mStatus = .NotStarted
    · simp only [idle, if_true]
      exact sendStopCallback_notStarted live idle
    · simp only [idle, if_false]
      exact sendStopCallback_started live idle

theorem sendSetCancelation_tx (s : SockScheduler) (op : OpId) (token : StopToken)
    (ok : s.mEC.isError = false) : (s.sendSetCancelation op token).tx = s.tx.arm op token := by
  cases token with
  | none => rfl
  | live => rfl
  | stopped =>
    show ((s.sendSetReg op .registered).sendStopCallback op).tx = _
    rw [sendStopCallback_tx]
    show ((s.tx.setReg op .registered).stop op s.mEC.isError) = _
    rw [ok]
    rfl

theorem enqueueSend_tx (s : SockScheduler) (slot : Nat) (op : OpId) (data : List UInt8) :
    (s.enqueueSend slot op data).tx = s.tx.enqueue slot op data := by
  unfold enqueueSend SendSide.enqueue
  dsimp only
  have flag : (s.emplaceSend slot op data).tx.mNextSendOp = (s.tx.pushBack slot op
      { mSendBuffer := data, mSocketFork := slot }).mNextSendOp := rfl
  rw [flag]
  split
  · rfl
  · exact linkSend_tx _ op

namespace NextSendOp

/-- `NextSendOp` after an operation, on `tx`. -/
theorem awaitSuspend_await (enter : Entering s) (op : OpId) (ec : ErrorCode) :
    (s.tx.finish op ec).Await s.mEC s.nextOp ec (awaitSuspend s (some op) ec).tx ∧
      ((awaitSuspend s (some op) ec).mEC = s.mEC ∨
        s.mEC.isError = false ∧ (awaitSuspend s (some op) ec).mEC.isError = true) ∧
      (awaitSuspend s (some op) ec).nextOp = s.nextOp := by
  have prev : (prev s (some op) ec).1.tx = s.tx.finish op ec := completePrev_tx s op ec
  have work := prev_onlySend (s := s) (some op) ec
  rcases awaitSuspend_cases (s := s) (some op) ec with
    ⟨failed, result⟩ | ⟨ok, p, fs, begin, result⟩ | ⟨ok, begin, result⟩
  · have path := awaitSuspend_path (some op) ec enter
    have nextOp := (path.crossing enter.rx).nextOp
    have mEC : (awaitSuspend s (some op) ec).mEC = s.mEC ∨
        s.mEC.isError = false ∧ (awaitSuspend s (some op) ec).mEC.isError = true := by
      rcases path.rx_cases enter.rx with ⟨_, _, same, _⟩ | ⟨first, failed, _⟩
      · exact .inl same
      · exact .inr ⟨first, failed⟩
    refine ⟨?_, mEC, nextOp⟩
    have quiet := failing_onlySend (s := s) (some op) ec
    have busy : (failing s (some op) ec).tx.mSendTask.waits = false := by
      obtain ⟨task, _⟩ := prev_task (s := s) (some op) ec
      show (NextSendOp.prev s (some op) ec).1.tx.mSendTask.waits = false
      rw [task]
      exact enter.busy
    have code : (NextSendOp.prev s (some op) ec).2 =
        if ec.isError then ErrorCode.coproto .cancel else ec := rfl
    have tx := cancel_sender_tx (enter.failing_flags (some op) ec) (quiet.rx ▸ enter.rx) busy
      (NextSendOp.prev s (some op) ec).2
    have failingTx : (NextSendOp.failing s (some op) ec).tx = s.tx.finish op ec := prev
    rw [quiet.nextOp, failingTx, code] at tx
    have whole : (awaitSuspend s (some op) ec).tx = (s.tx.finish op ec).shut s.nextOp
        (if ec.isError then ErrorCode.coproto .cancel else ec) := by
      rw [result, SendSide.shut, ← tx]
      rfl
    rw [whole]
    exact .shut failed
  · have whole : (awaitSuspend s (some op) ec).tx = (s.tx.finish op ec).take p := by
      rw [result, ← prev]
      rfl
    rw [prev] at begin
    have state := work.mEC
    have number := work.nextOp
    refine ⟨by rw [whole]; exact .take p ok begin, .inl ?_, ?_⟩ <;> rw [result]
    · exact state
    · exact number
  · have whole : (awaitSuspend s (some op) ec).tx = (s.tx.finish op ec).park := by
      rw [result, ← prev]
      rfl
    rw [prev] at begin
    have state := work.mEC
    have number := work.nextOp
    refine ⟨by rw [whole]; exact .park ok begin, .inl ?_, ?_⟩ <;> rw [result]
    · exact state
    · exact number

end NextSendOp

/-! ## Every step is one of the list -/

theorem SendStep.of_recvPath {m : SockScheduler} {e : Event} (path : RecvPath m t)
    (flags : s.tx.FlagsOk) (tx : m.tx = s.tx) (mEC : m.mEC = s.mEC)
    (nextOp : m.nextOp = s.nextOp) : SendStep s e t := by
  have number := (path.crossing (tx ▸ flags)).nextOp
  rcases path.tx_cases (tx ▸ flags) with ⟨tx', mEC', _⟩ | ⟨first, failed, tx', _⟩
  · exact .quiet (tx'.trans tx) (mEC'.trans mEC) (number.trans nextOp).ge
  · exact .woken (tx'.trans (by rw [tx])) (mEC ▸ first) failed (number.trans nextOp)

theorem sendStep_of_sendReturned {ec : ErrorCode} {bt : Nat} (inv : BaseInv s)
    (returned : s.sendReturned ec bt = some t) : SendStep s (.sendReturned ec bt) t := by
  have enter : ∀ part op token x, s.tx.mSendTask = .sending part op token →
      NextSendOp.Entering (s.logSend (.xfer op part x)) := fun part op token x task =>
    have busy : s.tx.mSendTask.waits = false := by simp [task, SendTask.waits]
    ⟨inv.send.flags.trans busy, busy, inv.recv.flags⟩
  cases sendReturned_cases returned with
  | failed part op token task x call failed =>
    obtain ⟨awaits, mEC, nextOp⟩ :=
      NextSendOp.awaitSuspend_await (enter part op token x task) op ec
    exact .finished part op token task x call (.inr ((Xfer.check_isError x).mp failed)) awaits mEC nextOp
  | next part part' op token task x call full follows =>
    exact .advanced part part' op token task x call full follows rfl rfl rfl
  | body op token task x call full =>
    obtain ⟨awaits, mEC, nextOp⟩ :=
      NextSendOp.awaitSuspend_await (enter .body op token x task) op ec
    exact .finished .body op token task x call (.inl ⟨full, rfl⟩) awaits mEC nextOp

theorem sendStep_of_send {session : UInt64 × UInt64} {slot : Nat} (data : List UInt8)
    (token : StopToken) (held : s.heldSlot session = some slot) :
    SendStep s (.send session data token) (s.send slot session data token) := by
  have nextOp := (s.send_onlySend slot session data token).nextOp
  have mEC := (s.send_onlySend slot session data token).mEC
  obtain ⟨t, result⟩ : ∃ t, s.send slot session data token = t := ⟨_, rfl⟩
  rw [result] at nextOp mEC ⊢
  unfold send at result
  dsimp only at result
  split at result
  · exact .rejected session data token Code.sendLengthZeroMsg rfl (by rw [← result]; rfl) mEC nextOp
  · rename_i full
    split at result
    · rename_i failed
      exact .rejected session data token s.mEC failed (by rw [← result]; rfl) mEC nextOp
    · rename_i ok
      refine .posted session data token slot held full ((Bool.not_eq_true _).mp ok) ?_ mEC nextOp
      have fine : (({ s.logSend (.posted s.nextOp session data) with nextOp := s.nextOp + 1 } :
          SockScheduler).enqueueSend slot s.nextOp data).mEC.isError = false := by
        rw [(enqueueSend_onlySend _ _ _ _).mEC]
        exact (Bool.not_eq_true _).mp ok
      rw [← result, sendSetCancelation_tx _ _ _ fine, enqueueSend_tx]
      rfl

theorem sendStep_of_makeSendTask {m : SockScheduler} (tx : m.tx = s.tx) (mEC : m.mEC = s.mEC)
    (nextOp : m.nextOp = s.nextOp) : SendStep s (.run .sendTask) m.makeSendTask := by
  rcases SendInv.makeSendTask_eq m with ⟨result, _⟩ | ⟨e, task, result⟩ | ⟨op, fs, task, _, result⟩ |
    ⟨op, fs, task, _, result⟩ <;> rw [result]
  · exact .quiet tx mEC nextOp.ge
  · exact .closed e (tx ▸ task) (by rw [← tx]; rfl) mEC nextOp
  · exact .started op .header (tx ▸ task) (by simp) (by rw [← tx]; rfl) mEC nextOp
  · exact .started op .control (tx ▸ task) (by simp) (by rw [← tx]; rfl) mEC nextOp

theorem sendStep {e : Event} (inv : BaseInv s) (taken : step s e = some t) : SendStep s e t := by
  cases e with
  | fork session =>
    obtain ⟨slot, _, rfl⟩ := Option.map_eq_some_iff.mp taken
    exact .quiet rfl rfl le_rfl
  | send session data token =>
    obtain ⟨slot, held, rfl⟩ := Option.map_eq_some_iff.mp taken
    exact sendStep_of_send data token held
  | recv session buffer token =>
    obtain ⟨slot, _, rfl⟩ := Option.map_eq_some_iff.mp taken
    have work := s.recv_onlyRecv slot session buffer token
    exact .quiet work.tx work.mEC (work.nextOp ▸ Nat.le_succ _)
  | stopSend op =>
    simp only [step] at taken
    split at taken <;> cases taken
    rename_i armed
    have work := s.sendStopCallback_onlySend op
    exact .stopped op armed (s.sendStopCallback_tx op) work.mEC work.nextOp
  | stopRecv op =>
    simp only [step] at taken
    split at taken <;> cases taken
    have work := s.recvStopCallback_onlyRecv op
    exact .quiet work.tx work.mEC work.nextOp.ge
  | flush handle =>
    cases taken
    obtain ⟨_, _, _, _, _, _, shape, _⟩ := s.flush_shape handle
    rw [shape]
    exact .quiet rfl rfl le_rfl
  | socketClose =>
    cases taken
    exact .quiet rfl rfl le_rfl
  | close =>
    cases taken
    unfold close cancel
    dsimp only
    split
    · exact .quiet rfl rfl le_rfl
    · rename_i ok
      rw [enterError_eq .Extern Code.closed inv.recv.flags inv.send.flags]
      exact .woken rfl (by simpa using ok) rfl rfl
  | run cb =>
    simp only [step] at taken
    split at taken <;> cases taken
    cases cb with
    | recvTask => exact .of_recvPath (inv.receiveDataTask_path rfl) inv.send.flags rfl rfl rfl
    | sendTask => exact sendStep_of_makeSendTask rfl rfl rfl
    | requestStop src =>
      simp only [runCallback, requestStop_eq]
      exact .quiet rfl rfl le_rfl
    | _ => exact .quiet rfl rfl le_rfl
  | sendReturned ec bt => exact sendStep_of_sendReturned inv taken
  | recvReturned ec bt bytes =>
    rcases inv.recvReturned_path taken with path | ⟨_, _, _, _, path⟩
    · exact .of_recvPath path inv.send.flags rfl rfl rfl
    · exact .of_recvPath path inv.send.flags rfl rfl rfl

end SockScheduler
end Coproto
