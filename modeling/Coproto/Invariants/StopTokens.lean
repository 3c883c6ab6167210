import Coproto.Invariants.RecvStep
import Coproto.Invariants.SendStep

/-!
# Stop tokens of the transport calls

SocketScheduler.cpp:176-190. The first error asks the transports that are at work
to stop. As long as no caller requests a stop, the two sources of the scheduler
stay where they are, so that every call in flight holds the token that is stopped.
-/
namespace Coproto

/-- The token of the transport call in flight. -/
def RecvTask.callToken : RecvTask → Option StopId
  | .header token => some token
  | .control _ token => some token
  | .body _ _ token => some token
  | _ => none

def SendTask.callToken : SendTask → Option StopId
  | .sending _ _ token => some token
  | _ => none

namespace SockScheduler

/-- Tokens stay stopped, and the first error stops those of the transports at work. -/
structure Stops (s t : SockScheduler) : Prop where
  kept : ∀ id ∈ s.stopped, id ∈ t.stopped
  first : t.mEC = s.mEC ∨ s.mEC.isError = false ∧ ∀ id, id ∈ s.rx.stops ∨ id ∈ s.tx.stops →
    id ∈ t.stopped

namespace Stops
variable {s t u : SockScheduler}

theorem of_eq (mEC : t.mEC = s.mEC) (stopped : t.stopped = s.stopped) : Stops s t :=
  ⟨fun _ old => stopped ▸ old, .inl mEC⟩

theorem refl : Stops s s := of_eq rfl rfl

theorem after_quiet (first : Stops s t) (mEC : u.mEC = t.mEC) (stopped : u.stopped = t.stopped) :
    Stops s u := by
  refine ⟨fun id old => stopped ▸ first.kept id old, ?_⟩
  rcases first.first with same | ⟨ok, asked⟩
  · exact .inl (mEC.trans same)
  · exact .inr ⟨ok, fun id work => stopped ▸ asked id work⟩

/-- Work before the first error keeps what is at work. -/
theorem before (rest : Stops t u) (mEC : t.mEC = s.mEC) (stopped : t.stopped = s.stopped)
    (recvs : ∀ id ∈ s.rx.stops, id ∈ t.rx.stops) (sends : ∀ id ∈ s.tx.stops, id ∈ t.tx.stops) :
    Stops s u := by
  refine ⟨fun id old => rest.kept id (stopped ▸ old), ?_⟩
  rcases rest.first with same | ⟨ok, asked⟩
  · exact .inl (same.trans mEC)
  · exact .inr ⟨mEC ▸ ok, fun id work => asked id (work.imp (recvs id) (sends id))⟩

theorem of_onlySend (work : OnlySend s t) : Stops s t := of_eq work.mEC work.stopped

theorem of_onlyRecv (work : OnlyRecv s t) : Stops s t := of_eq work.mEC work.stopped

end Stops

/-! ## The functions that call `cancel` -/

section Cancel
variable (s : SockScheduler) (ec : ErrorCode)

theorem enterError_stops (c : Caller) (ok : s.mEC.isError = false) :
    Stops s (s.enterError c ec).1 := by
  have stopped : (s.enterError c ec).1.stopped = s.tx.stops ++ (s.rx.stops ++ s.stopped) := by
    simp only [enterError]
    rw [wakeParked_eq, stopTransports_eq]
    rfl
  refine ⟨fun id old => ?_, .inr ⟨ok, fun id work => ?_⟩⟩
  · rw [stopped]
    simp [old]
  · rw [stopped]
    rcases work with recv | send
    · simp [recv]
    · simp [send]

theorem cancel_stops (c : Caller) : Stops s (s.cancel c ec) := by
  obtain ⟨r, entering⟩ : ∃ r, (if s.mEC.isError then (s, ec) else s.enterError c ec) = r := ⟨_, rfl⟩
  have entered : Stops s r.1 := by
    rw [← entering]
    split
    · exact .refl
    · rename_i ok
      exact enterError_stops s ec c ((Bool.not_eq_true _).mp ok)
  unfold cancel
  dsimp only
  rw [entering]
  cases c with
  | Sender =>
    obtain ⟨u, closed⟩ : ∃ u, { r.1 with
      tx.mSendStatus := .Closed
      tx.mSendBufferBegin := none
      tx.mSendBufferLast := none } = u := ⟨_, rfl⟩
    have drained := drainSends_onlySend u r.1.nextOp r.1.tx.mSendBufferBegin r.2
    have start : u.mEC = r.1.mEC ∧ u.stopped = r.1.stopped := by
      rw [← closed]
      exact ⟨rfl, rfl⟩
    dsimp only
    rw [closed]
    exact entered.after_quiet (drained.mEC.trans start.1) (drained.stopped.trans start.2)
  | Recver =>
    obtain ⟨u, closed⟩ : ∃ u, { r.1 with rx.mRecvStatus := .Closed } = u := ⟨_, rfl⟩
    have drained := drainRecvs_onlyRecv u u.queuedRecvs r.2
    have start : u.mEC = r.1.mEC ∧ u.stopped = r.1.stopped := by
      rw [← closed]
      exact ⟨rfl, rfl⟩
    dsimp only
    rw [closed]
    exact entered.after_quiet (drained.mEC.trans start.1) (drained.stopped.trans start.2)
  | Extern => exact entered

end Cancel

section Awaiters
variable {s : SockScheduler}

theorem AnyRecvOp.awaitSuspend_stops (prevOp : Option OpId) (ec : ErrorCode) :
    Stops s (AnyRecvOp.awaitSuspend s prevOp ec) := by
  have left := prev_onlyRecv (s := s) prevOp ec
  rcases awaitSuspend_cases (s := s) prevOp ec with
    ⟨_, result⟩ | ⟨_, _, result⟩ | ⟨_, _, result⟩ <;> rw [result]
  · have failing := failing_onlyRecv (s := s) prevOp ec
    have status := (prev_task (s := s) prevOp ec).2.2.2
    have recvs : ∀ id ∈ s.rx.stops, id ∈ (AnyRecvOp.failing s prevOp ec).rx.stops := by
      intro id work
      have rx : (AnyRecvOp.failing s prevOp ec).rx.stops = (AnyRecvOp.left s prevOp ec).stops := by
        rw [← prev_rx]
        rfl
      rw [rx]
      cases prevOp with
      | none => exact work
      | some op =>
        have same : (AnyRecvOp.left s (some op) ec).mRecvStatus = s.rx.mRecvStatus ∧
            (AnyRecvOp.left s (some op) ec).mRecvCancelSrc =
              some (s.rx.mRecvCancelSrc.getD s.nextStop) := by
          simp only [AnyRecvOp.left, RecvSide.finish]
          split <;> exact ⟨rfl, rfl⟩
        unfold RecvSide.stops at work ⊢
        rw [same.1, same.2]
        split at work
        · rename_i busy
          rw [Option.mem_toList] at work
          simp [busy, work]
        · cases work
    have cancelled := (cancel_stops (AnyRecvOp.failing s prevOp ec) (prev s prevOp ec).2
      .Recver).before failing.mEC failing.stopped recvs fun id work => by rwa [failing.tx]
    exact cancelled.after_quiet rfl rfl
  · exact .of_eq left.mEC left.stopped
  · exact .of_eq left.mEC left.stopped

theorem GetRequestedRecvSocketFork.awaitSuspend_stops (frame : Frame) :
    Stops s (GetRequestedRecvSocketFork.awaitSuspend s frame) := by
  rcases awaitSuspend_cases (s := s) frame with
    ⟨_, result⟩ | ⟨slot, _, ⟨_, result⟩ | ⟨_, _, result⟩ | ⟨_, op, ops, _, result⟩⟩ <;> rw [result]
  · exact (cancel_stops s _ .Recver).after_quiet rfl rfl
  · exact .of_eq rfl rfl
  · exact .of_eq rfl rfl
  · exact .of_eq rfl rfl

theorem NextSendOp.awaitSuspend_stops (prevOp : Option OpId) (ec : ErrorCode) :
    Stops s (NextSendOp.awaitSuspend s prevOp ec) := by
  have left := prev_onlySend (s := s) prevOp ec
  rcases awaitSuspend_cases (s := s) prevOp ec with
    ⟨_, result⟩ | ⟨_, op, fs, _, result⟩ | ⟨_, _, result⟩ <;> rw [result]
  · have failing := failing_onlySend (s := s) prevOp ec
    have sends : ∀ id ∈ s.tx.stops, id ∈ (NextSendOp.failing s prevOp ec).tx.stops := by
      intro id work
      have tx : (NextSendOp.failing s prevOp ec).tx.stops = (prev s prevOp ec).1.tx.stops := rfl
      rw [tx]
      cases prevOp with
      | none => exact work
      | some op =>
        have finished : (prev s (some op) ec).1.tx = s.tx.finish op ec := completePrev_tx s op ec
        have src : (s.tx.finish op ec).mSendCancelSrc = s.tx.mSendCancelSrc := by
          unfold SendSide.finish
          split <;> rfl
        have status : (s.tx.finish op ec).mSendStatus = s.tx.mSendStatus := by
          unfold SendSide.finish
          split <;> rfl
        rw [finished, SendSide.stops, status, src]
        exact work
    have cancelled := (cancel_stops (NextSendOp.failing s prevOp ec) (prev s prevOp ec).2
      .Sender).before failing.mEC failing.stopped (fun id work => by rwa [failing.rx]) sends
    exact cancelled.after_quiet rfl rfl
  · exact .of_eq left.mEC left.stopped
  · exact .of_eq left.mEC left.stopped

theorem sendReturned_stops {t : SockScheduler} {ec : ErrorCode} {bt : Nat}
    (returned : s.sendReturned ec bt = some t) : Stops s t := by
  cases sendReturned_cases returned with
  | failed part op token task x call failed =>
    exact (NextSendOp.awaitSuspend_stops _ _).before rfl rfl (fun _ work => work) fun _ work => work
  | next part part' op token task x call full follows => exact .of_eq rfl rfl
  | body op token task x call full =>
    exact (NextSendOp.awaitSuspend_stops _ _).before rfl rfl (fun _ work => work) fun _ work => work

theorem recvReturned_stops {t : SockScheduler} {ec : ErrorCode} {bt : Nat} {bytes : List UInt8}
    (returned : s.recvReturned ec bt bytes = some t) : Stops s t := by
  cases recvReturned_cases returned with
  | headerFailed token task failed =>
    exact (AnyRecvOp.awaitSuspend_stops _ _).before rfl rfl (fun _ work => work) fun _ work => work
  | headerMeta token task size full control => exact .of_eq rfl rfl
  | headerData token task size full data =>
    exact (GetRequestedRecvSocketFork.awaitSuspend_stops _).before rfl rfl (fun _ work => work)
      fun _ work => work
  | controlFailed header token task failed =>
    exact (AnyRecvOp.awaitSuspend_stops _ _).before rfl rfl (fun _ work => work) fun _ work => work
  | refused header token task size full table code faults init error =>
    exact (AnyRecvOp.awaitSuspend_stops _ _).before rfl rfl (fun _ work => work) fun _ work => work
  | accepted header token task size full table code faults init ok => exact .of_eq rfl rfl
  | body frame op token task size =>
    exact (AnyRecvOp.awaitSuspend_stops _ _).before rfl rfl (fun _ work => work) fun _ work => work

theorem receiveDataTask_stops (s : SockScheduler) : Stops s s.receiveDataTask := by
  have resumed := receiveDataTask_cases s
  obtain ⟨u, result⟩ : ∃ u, s.receiveDataTask = u := ⟨_, rfl⟩
  rw [result] at resumed ⊢
  cases resumed with
  | idle waits => exact .refl
  | done r task error => exact .of_eq rfl rfl
  | header r task ok => exact .of_eq rfl rfl
  | failed frame e task => exact AnyRecvOp.awaitSuspend_stops _ _
  | body frame op task fits => exact .of_eq rfl rfl
  | mismatch frame op task misfits =>
    exact (AnyRecvOp.awaitSuspend_stops _ _).before rfl rfl (fun _ work => work) fun _ work => work

end Awaiters

theorem step_stops {s t : SockScheduler} {e : Event} (taken : step s e = some t) : Stops s t := by
  cases e with
  | fork session =>
    obtain ⟨slot, _, rfl⟩ := Option.map_eq_some_iff.mp taken
    exact .of_eq rfl rfl
  | send session data token =>
    obtain ⟨slot, _, rfl⟩ := Option.map_eq_some_iff.mp taken
    have work := send_onlySend s slot session data token
    exact .of_eq work.mEC work.stopped
  | recv session buffer token =>
    obtain ⟨slot, _, rfl⟩ := Option.map_eq_some_iff.mp taken
    have work := recv_onlyRecv s slot session buffer token
    exact .of_eq work.mEC work.stopped
  | stopSend op =>
    simp only [step] at taken
    split at taken <;> cases taken
    exact .of_onlySend (sendStopCallback_onlySend s op)
  | stopRecv op =>
    simp only [step] at taken
    split at taken <;> cases taken
    exact .of_onlyRecv (recvStopCallback_onlyRecv s op)
  | flush handle =>
    cases taken
    obtain ⟨_, _, _, _, _, _, shape, _⟩ := s.flush_shape handle
    rw [shape]
    exact .of_eq rfl rfl
  | socketClose =>
    cases taken
    exact .of_eq rfl rfl
  | close =>
    cases taken
    exact cancel_stops s Code.closed .Extern
  | run cb =>
    simp only [step] at taken
    split at taken <;> cases taken
    have start {u : SockScheduler} (rest : Stops { s with queued := s.queued.erase cb } u) :
        Stops s u := rest.before rfl rfl (fun _ work => work) fun _ work => work
    apply start
    cases cb with
    | recvTask => exact receiveDataTask_stops _
    | sendTask =>
      rw [runCallback]
      unfold makeSendTask
      split
      · exact .of_eq rfl rfl
      · dsimp only
        split <;> exact .of_eq rfl rfl
      · exact .refl
    | requestStop src =>
      rw [runCallback, requestStop_eq]
      exact ⟨fun id old => List.mem_append_right _ old, .inl rfl⟩
    | completion op => exact .refl
    | flush handle => exact .refl
  | sendReturned ec bt => exact sendReturned_stops taken
  | recvReturned ec bt bytes => exact recvReturned_stops taken

end SockScheduler

/-! ## Runs in which no caller requests a stop -/

/-- No stop is requested, and no token that is passed has been stopped. -/
def Unstopped : SockScheduler.Event → Prop
  | .send _ _ token => token ≠ .stopped
  | .recv _ _ token => token ≠ .stopped
  | .stopSend _ => False
  | .stopRecv _ => False
  | _ => True

instance (e : SockScheduler.Event) : Decidable (Unstopped e) := by
  rcases e with ⟨⟩ <;> dsimp only [Unstopped] <;> infer_instance

namespace RecvSide

/-- The source is behind the token of every call; once the scheduler has failed,
the token of a transport at work is stopped. -/
structure TokenOk (rx : RecvSide) (mEC : ErrorCode) (stopped : List StopId) : Prop where
  src : rx.mRecvCancelSrc = some rx.mRecvToken
  call : ∀ token, rx.mRecvTask.callToken = some token → token = rx.mRecvToken
  stopped : mEC.isError = true → rx.mRecvStatus = .InUse → rx.mRecvToken ∈ stopped

/-- A new call takes the token, and no transport starts once there is an error. -/
structure KeepsToken (rx rx' : RecvSide) (mEC' : ErrorCode) : Prop where
  src : rx'.mRecvCancelSrc = rx.mRecvCancelSrc
  token : rx'.mRecvToken = rx.mRecvToken
  call : ∀ token, rx'.mRecvTask.callToken = some token →
    rx.mRecvTask.callToken = some token ∨ token = rx.mRecvToken
  status : mEC'.isError = true → rx'.mRecvStatus = .InUse → rx.mRecvStatus = .InUse

variable {rx rx' rx'' : RecvSide} {mEC mEC' ec : ErrorCode} {op nextOp : OpId} {slots : Nat}

theorem KeepsToken.refl : rx.KeepsToken rx mEC' := ⟨rfl, rfl, fun _ => .inl, fun _ busy => busy⟩

theorem KeepsToken.await (awaits : rx'.Await mEC slots ec rx'')
    (src : rx'.mRecvCancelSrc = rx.mRecvCancelSrc) (token : rx'.mRecvToken = rx.mRecvToken)
    (status : rx'.mRecvStatus = rx.mRecvStatus) : rx.KeepsToken rx'' mEC' := by
  cases awaits with
  | shut failed code same =>
    obtain ⟨_, _, _, shape⟩ := (rx'.at_ (.anyRecvOp (some Code.cancel))).close_shape
      (rx'.listing slots) code
    rw [shape]
    exact ⟨src, token, (fun _ call => by cases call), fun _ busy => by cases busy⟩
  | next ok num => exact ⟨src, token, (fun _ call => by cases call), fun _ busy => status ▸ busy⟩
  | park ok num => exact ⟨src, token, (fun _ call => by cases call), fun _ busy => by cases busy⟩

theorem KeepsToken.request {table : ForkTable} {frame : Frame}
    (request : rx'.Request table mEC frame rx'')
    (src : rx'.mRecvCancelSrc = rx.mRecvCancelSrc) (token : rx'.mRecvToken = rx.mRecvToken)
    (status : rx'.mRecvStatus = rx.mRecvStatus) : rx.KeepsToken rx'' mEC' := by
  cases request with
  | unknown unmapped e error =>
    obtain ⟨_, _, _, shape⟩ := rx'.close_shape (rx'.listing table.mSocketForks_.length)
      Code.badCoprotoMessageHeader
    rw [shape]
    exact ⟨src, token, (fun _ call => by cases call), fun _ busy => by cases busy⟩
  | failed slot mapped error =>
    exact ⟨src, token, (fun _ call => by cases call), fun _ busy => status ▸ busy⟩
  | park slot mapped ok empty =>
    exact ⟨src, token, (fun _ call => by cases call), fun _ busy => by cases busy⟩
  | serve slot op ops mapped ok cells =>
    exact ⟨src, token, (fun _ call => by cases call), fun _ busy => status ▸ busy⟩

/-- A source that has not been moved from stays. -/
theorem renew_eq {id : StopId} (src : rx.mRecvCancelSrc = some id) (fresh : StopId) :
    rx.renew fresh = rx := by
  simp only [renew, src, Option.getD_some, reduceCtorEq, if_false]
  rw [← src]

theorem finish_token (op : OpId) (ec : ErrorCode) :
    (rx.finish op ec).mRecvCancelSrc = rx.mRecvCancelSrc ∧
      (rx.finish op ec).mRecvToken = rx.mRecvToken ∧
      (rx.finish op ec).mRecvStatus = rx.mRecvStatus := by
  unfold finish
  split <;> exact ⟨rfl, rfl, rfl⟩

theorem KeepsToken.wakeError (e : ErrorCode) : rx.KeepsToken (rx.wakeError e) mEC' := by
  unfold RecvSide.wakeError
  split
  · exact ⟨rfl, rfl, nofun, fun _ busy => busy⟩
  · exact ⟨rfl, rfl, nofun, fun _ busy => busy⟩
  · exact .refl

theorem KeepsToken.enqueue (ok : mEC'.isError = false) (slot : Nat) (remoteId : UInt32)
    (op : OpId) (buffer : RecvBuffer) : rx.KeepsToken (rx.enqueue slot remoteId op buffer) mEC' := by
  have quiet (busy : mEC'.isError = true) : False := by simp [ok] at busy
  unfold RecvSide.enqueue
  split
  · exact ⟨rfl, rfl, nofun, fun busy => (quiet busy).elim⟩
  · split
    · exact ⟨rfl, rfl, nofun, fun busy => (quiet busy).elim⟩
    · exact ⟨rfl, rfl, fun _ => .inl, fun busy => (quiet busy).elim⟩
  · exact ⟨rfl, rfl, fun _ => .inl, fun busy => (quiet busy).elim⟩

end RecvSide

namespace SendSide

structure TokenOk (tx : SendSide) (mEC : ErrorCode) (stopped : List StopId) : Prop where
  src : tx.mSendCancelSrc = some tx.mSendToken
  call : ∀ token, tx.mSendTask.callToken = some token → token = tx.mSendToken
  stopped : mEC.isError = true → tx.mSendStatus = .InUse → tx.mSendToken ∈ stopped

structure KeepsToken (tx tx' : SendSide) (mEC' : ErrorCode) : Prop where
  src : tx'.mSendCancelSrc = tx.mSendCancelSrc
  token : tx'.mSendToken = tx.mSendToken
  call : ∀ token, tx'.mSendTask.callToken = some token →
    tx.mSendTask.callToken = some token ∨ token = tx.mSendToken
  status : mEC'.isError = true → tx'.mSendStatus = .InUse → tx.mSendStatus = .InUse

variable {tx tx' : SendSide} {mEC mEC' ec : ErrorCode} {op : OpId} {n : Nat}

theorem KeepsToken.refl : tx.KeepsToken tx mEC' := ⟨rfl, rfl, fun _ => .inl, fun _ busy => busy⟩

theorem finish_token (op : OpId) (ec : ErrorCode) :
    (tx.finish op ec).mSendCancelSrc = tx.mSendCancelSrc ∧
      (tx.finish op ec).mSendToken = tx.mSendToken ∧
      (tx.finish op ec).mSendStatus = tx.mSendStatus := by
  unfold finish
  split <;> exact ⟨rfl, rfl, rfl⟩

theorem KeepsToken.await (awaits : (tx.finish op ec).Await mEC n ec tx') :
    tx.KeepsToken tx' mEC' := by
  obtain ⟨src, token, status⟩ := tx.finish_token op ec
  cases awaits with
  | shut failed =>
    obtain ⟨_, _, _, shape⟩ := (tx.finish op ec).close_shape n
      (if ec.isError then ErrorCode.coproto .cancel else ec)
    rw [shut, shape]
    exact ⟨src, token, (fun _ call => by cases call), fun _ busy => by cases busy⟩
  | take p ok begin =>
    exact ⟨src, token, (fun _ call => by cases call), fun _ busy => status ▸ busy⟩
  | park ok begin => exact ⟨src, token, (fun _ call => by cases call), fun _ busy => by cases busy⟩

theorem KeepsToken.wakeError : tx.KeepsToken tx.wakeError mEC' := by
  unfold SendSide.wakeError
  split
  · exact ⟨rfl, rfl, nofun, fun _ busy => busy⟩
  · exact .refl

theorem KeepsToken.enqueue (ok : mEC'.isError = false) (slot : Nat) (op : OpId)
    (data : List UInt8) : tx.KeepsToken (tx.enqueue slot op data) mEC' := by
  have quiet (busy : mEC'.isError = true) : False := by simp [ok] at busy
  unfold SendSide.enqueue
  dsimp only
  split
  · exact ⟨rfl, rfl, nofun, fun busy => (quiet busy).elim⟩
  · unfold SendSide.link
    split
    · exact ⟨rfl, rfl, fun _ => .inl, fun busy => (quiet busy).elim⟩
    · exact ⟨rfl, rfl, fun _ => .inl, fun busy => (quiet busy).elim⟩

end SendSide

namespace SockScheduler
variable {s t : SockScheduler} {e : Event}

theorem recvStep_keepsToken (src : s.rx.mRecvCancelSrc = some s.rx.mRecvToken)
    (calm : Unstopped e) (step : RecvStep s e t) : s.rx.KeepsToken t.rx t.mEC := by
  cases step with
  | quiet rx mEC nextOp =>
    rw [rx]
    exact .refl
  | woken code error rx first failed nextOp =>
    rw [rx]
    exact .wakeError code
  | rejected session buffer token ec error rx mEC nextOp =>
    rw [rx]
    exact ⟨rfl, rfl, fun _ => .inl, fun _ busy => busy⟩
  | posted session buffer token slot held ok rx mEC nextOp =>
    have calm' : token ≠ .stopped := calm
    rw [rx]
    have placed : s.rx.KeepsToken ((s.rx.log (.posted s.nextOp session)).enqueue slot
        (s.table.fork slot).mRemoteId s.nextOp buffer) t.mEC := by
      have fine : t.mEC.isError = false := mEC ▸ ok
      have logged : (s.rx.log (.posted s.nextOp session)).KeepsToken _ t.mEC :=
        .enqueue fine slot (s.table.fork slot).mRemoteId s.nextOp buffer
      exact ⟨logged.src, logged.token, logged.call, logged.status⟩
    cases token with
    | none => exact placed
    | live => exact ⟨placed.src, placed.token, placed.call, placed.status⟩
    | stopped => exact absurd rfl calm'
  | stopped op armed rx frame => exact calm.elim
  | closed r task error rx frame =>
    rw [rx]
    exact ⟨rfl, rfl, nofun, fun _ busy => busy⟩
  | header r task ok rx frame =>
    rw [rx]
    exact ⟨rfl, rfl, fun token call => .inr (Option.some.inj call).symm, fun _ busy => busy⟩
  | abandoned f e task awaits frame => exact .await awaits rfl rfl rfl
  | body f op task fits rx frame =>
    rw [rx]
    exact ⟨rfl, rfl, fun token call => .inr (Option.some.inj call).symm, fun _ busy => busy⟩
  | mismatch f op task misfits awaits frame =>
    have same : (s.rx.asSpan op f.header.mSize.toNat).mRecvCancelSrc = some s.rx.mRecvToken := src
    rw [RecvSide.renew_eq same] at awaits
    obtain ⟨src, token, status⟩ := (s.rx.asSpan op f.header.mSize.toNat).finish_token op
      Code.badBufferSize
    exact .await awaits src token status
  | headerFailed x call task failed awaits frame => exact .await awaits rfl rfl rfl
  | control x call token task size full control rx frame =>
    rw [rx]
    exact ⟨rfl, rfl, fun token call => .inr (Option.some.inj call).symm, fun _ busy => busy⟩
  | data x call token task size full data request frame => exact .request request rfl rfl rfl
  | refused x call header token task size full table code faults init error awaits mEC nextOp =>
    exact .await awaits rfl rfl rfl
  | accepted x call header token task size full table code faults init ok rx mEC nextOp =>
    rw [rx]
    exact ⟨rfl, rfl, fun token call => .inr (Option.some.inj call).symm, fun _ busy => busy⟩
  | @filled _ ec bt bytes x call f op token task size awaits frame =>
    have same : ((s.rx.log (.body op f.call x)).fill op bytes).mRecvCancelSrc =
      some s.rx.mRecvToken := src
    rw [RecvSide.renew_eq same] at awaits
    obtain ⟨src, token, status⟩ := ((s.rx.log (.body op f.call x)).fill op bytes).finish_token op ec
    exact .await awaits src token status

theorem sendStep_keepsToken (calm : Unstopped e) (step : SendStep s e t) :
    s.tx.KeepsToken t.tx t.mEC := by
  cases step with
  | quiet tx mEC nextOp =>
    rw [tx]
    exact .refl
  | woken tx first failed nextOp =>
    rw [tx]
    exact .wakeError
  | rejected session data token ec error tx mEC nextOp =>
    rw [tx]
    exact ⟨rfl, rfl, fun _ => .inl, fun _ busy => busy⟩
  | posted session data token slot held full ok tx mEC nextOp =>
    have calm' : token ≠ .stopped := calm
    rw [tx]
    have placed : s.tx.KeepsToken ((s.tx.log (.posted s.nextOp session data)).enqueue slot s.nextOp
        data) t.mEC := by
      have fine : t.mEC.isError = false := mEC ▸ ok
      have logged : (s.tx.log (.posted s.nextOp session data)).KeepsToken _ t.mEC :=
        .enqueue fine slot s.nextOp data
      exact ⟨logged.src, logged.token, logged.call, logged.status⟩
    cases token with
    | none => exact placed
    | live => exact ⟨placed.src, placed.token, placed.call, placed.status⟩
    | stopped => exact absurd rfl calm'
  | stopped op armed tx mEC nextOp => exact calm.elim
  | closed e task tx mEC nextOp =>
    rw [tx]
    exact ⟨rfl, rfl, nofun, fun _ busy => busy⟩
  | started op part task opening tx mEC nextOp =>
    rw [tx]
    exact ⟨rfl, rfl, fun token call => .inr (Option.some.inj call).symm, fun _ busy => busy⟩
  | advanced part part' op token task x call full follows tx mEC nextOp =>
    rw [tx]
    exact ⟨rfl, rfl, fun token call => .inr (Option.some.inj call).symm, fun _ busy => busy⟩
  | finished part op token task x call reason awaits mEC nextOp =>
    have logged : (s.tx.log (.xfer op part x)).KeepsToken t.tx t.mEC := .await awaits
    exact ⟨logged.src, logged.token, logged.call, logged.status⟩

/-- Both directions. -/
structure TokensOk (s : SockScheduler) : Prop where
  recv : s.rx.TokenOk s.mEC s.stopped
  send : s.tx.TokenOk s.mEC s.stopped

theorem TokensOk.step (inv : BaseInv s) (ok : TokensOk s) (calm : Unstopped e)
    (taken : step s e = some t) : TokensOk t := by
  have recv := recvStep_keepsToken ok.recv.src calm (recvStep inv taken)
  have send := sendStep_keepsToken calm (sendStep inv taken)
  have stops := step_stops taken
  refine ⟨⟨by rw [recv.src, recv.token, ok.recv.src], fun token call => ?_, fun failed busy => ?_⟩,
    ⟨by rw [send.src, send.token, ok.send.src], fun token call => ?_, fun failed busy => ?_⟩⟩
  · rw [recv.token]
    exact (recv.call token call).elim (ok.recv.call token) id
  · have busy' := recv.status failed busy
    rw [recv.token]
    rcases stops.first with same | ⟨_, asked⟩
    · exact stops.kept _ (ok.recv.stopped (same ▸ failed) busy')
    · apply asked
      simp [RecvSide.stops, busy', ok.recv.src]
  · rw [send.token]
    exact (send.call token call).elim (ok.send.call token) id
  · have busy' := send.status failed busy
    rw [send.token]
    rcases stops.first with same | ⟨_, asked⟩
    · exact stops.kept _ (ok.send.stopped (same ▸ failed) busy')
    · apply asked
      simp [SendSide.stops, busy', ok.send.src]

theorem TokensOk.init (sid : SessionID) : TokensOk (init sid) := by
  rw [BaseInv.init_eq]
  exact ⟨⟨rfl, nofun, nofun⟩, ⟨rfl, nofun, nofun⟩⟩

end SockScheduler

end Coproto
