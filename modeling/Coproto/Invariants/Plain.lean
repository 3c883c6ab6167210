import Coproto.Invariants.Framing
import Coproto.Invariants.Sessions

/-!
# Runs without failures

`Plain` is what a caller and a transport that do their part see to: no stop request, no close,
no empty message, none too long for a header, calls that succeed, buffers that fit. `PlainSend`
and `PlainRecv` list what is left of the steps then; each of them keeps to its direction.
-/
namespace Coproto
open SockScheduler

/-- The buffer of the receive that the task goes on with takes the announced length. -/
def BufferFits (s : SockScheduler) : Prop :=
  match s.rx.mRecvTask with
  | .getRequested frame (some (.ok op)) => (s.rx.ops op).any (fun o =>
      o.mRecvBuffer.spanSize frame.header.mSize.toNat = frame.header.mSize.toNat) = true
  | _ => True

instance (s : SockScheduler) : Decidable (BufferFits s) := by
  unfold BufferFits
  split <;> infer_instance

/-- A stop request or a close. -/
def SockScheduler.Event.cancels : SockScheduler.Event → Bool
  | .stopSend _ => true
  | .stopRecv _ => true
  | .close => true
  | .socketClose => true
  | _ => false

def Plain (s : SockScheduler) : SockScheduler.Event → Prop
  | .fork session => s.held.length + 1 < 2 ^ 32 - 1 ∧
      ∀ slot ∈ s.heldSlot session, ¬ s.table.Collides slot
  | .send _ data token => data.length ≠ 0 ∧ data.length < 2 ^ 32 - 1 ∧ token ≠ .stopped
  | .recv _ _ token => token ≠ .stopped
  | .run .recvTask => BufferFits s
  | .sendReturned ec _ => ec.isError = false
  | .recvReturned ec _ _ => ec.isError = false
  | e => e.cancels = false

instance (s : SockScheduler) (e : SockScheduler.Event) : Decidable (Plain s e) := by
  rcases e with ⟨⟩
  case run cb => rcases cb with ⟨⟩ <;> dsimp only [Plain] <;> infer_instance
  all_goals dsimp only [Plain]; infer_instance

namespace SockScheduler
variable {s t : SockScheduler}

def Event.isCall : Event → Bool
  | .sendReturned _ _ => true
  | .recvReturned _ _ _ => true
  | _ => false

/-- The step concerns the send direction only. -/
structure SameRecv (s t : SockScheduler) : Prop where
  rx : t.rx = s.rx
  held : t.held = s.held

structure SameSend (s t : SockScheduler) : Prop where
  tx : t.tx = s.tx
  held : t.held = s.held

/-- What is left of the steps of the send direction. -/
inductive PlainSend (s : SockScheduler) : Event → SockScheduler → Prop
  | sent {t : SockScheduler} (session : UInt64 × UInt64) (data : List UInt8) (token : StopToken)
      (slot : Nat) (slotHeld : s.heldSlot session = some slot) (full : data.length ≠ 0)
      (fits : data.length < 2 ^ 32 - 1) (live : token ≠ .stopped)
      (tx : t.tx = ((s.tx.log (.posted s.nextOp session data)).enqueue slot s.nextOp data).arm
        s.nextOp token) (table : t.table = s.table) (nextOp : t.nextOp = s.nextOp + 1) :
      PlainSend s (.send session data token) t
  | control {t : SockScheduler} (op : OpId) (task : s.tx.mSendTask = .nextSendOp (some (.ok op)))
      (unopened : (s.table.fork (s.tx.slotOf op)).mInitiated = false)
      (tx : t.tx = (s.tx.log (.started op)).at_ (.sending .control op s.tx.mSendToken))
      (table : t.table = s.table.modify (s.tx.slotOf op) fun f => { f with mInitiated := true })
      (nextOp : t.nextOp = s.nextOp) : PlainSend s (.run .sendTask) t
  | header {t : SockScheduler} (op : OpId) (task : s.tx.mSendTask = .nextSendOp (some (.ok op)))
      (opened : (s.table.fork (s.tx.slotOf op)).mInitiated = true)
      (tx : t.tx = (s.tx.log (.started op)).at_ (.sending .header op s.tx.mSendToken))
      (table : t.table = s.table) (nextOp : t.nextOp = s.nextOp) : PlainSend s (.run .sendTask) t
  | advanced {t : SockScheduler} {ec : ErrorCode} {bt : Nat} (part part' : SendPart) (op : OpId)
      (token : StopId) (task : s.tx.mSendTask = .sending part op token) (x : Xfer)
      (all : bt = (s.sendBytes part op).length)
      (follows : (part = .control ∧ part' = .header) ∨ (part = .header ∧ part' = .body))
      (tx : t.tx = (s.tx.log (.xfer op part x)).at_ (.sending part' op s.tx.mSendToken))
      (table : t.table = s.table) (nextOp : t.nextOp = s.nextOp) :
      PlainSend s (.sendReturned ec bt) t
  | finished {t : SockScheduler} {ec : ErrorCode} {bt : Nat} (op : OpId) (token : StopId)
      (task : s.tx.mSendTask = .sending .body op token) (x : Xfer)
      (all : bt = (s.sendBytes .body op).length) (ok : ec.isError = false)
      (awaits : ((s.tx.log (.xfer op .body x)).finish op ec).Await s.mEC s.nextOp ec t.tx)
      (table : t.table = s.table) (nextOp : t.nextOp = s.nextOp) :
      PlainSend s (.sendReturned ec bt) t

/-- What is left of the steps of the receive direction. -/
inductive PlainRecv (s : SockScheduler) : Event → SockScheduler → Prop
  | posted {t : SockScheduler} (session : UInt64 × UInt64) (buffer : RecvBuffer) (token : StopToken)
      (slot : Nat) (slotHeld : s.heldSlot session = some slot) (live : token ≠ .stopped)
      (rx : t.rx = ((s.rx.log (.posted s.nextOp session)).enqueue slot (s.table.fork slot).mRemoteId
        s.nextOp buffer).arm s.nextOp token) (table : t.table = s.table)
      (nextOp : t.nextOp = s.nextOp + 1) : PlainRecv s (.recv session buffer token) t
  | reads {t : SockScheduler} (r : ErrorCode) (task : s.rx.mRecvTask = .anyRecvOp (some r))
      (rx : t.rx = s.rx.at_ (.header s.rx.mRecvToken)) (table : t.table = s.table)
      (nextOp : t.nextOp = s.nextOp) : PlainRecv s (.run .recvTask) t
  | fills {t : SockScheduler} (f : Frame) (op : OpId)
      (task : s.rx.mRecvTask = .getRequested f (some (.ok op)))
      (fits : (s.rx.ops op).any (fun o =>
        o.mRecvBuffer.spanSize f.header.mSize.toNat = f.header.mSize.toNat) = true)
      (rx : t.rx = (s.rx.asSpan op f.header.mSize.toNat).at_ (.body f op s.rx.mRecvToken))
      (table : t.table = s.table) (nextOp : t.nextOp = s.nextOp) : PlainRecv s (.run .recvTask) t
  | opening {t : SockScheduler} {ec : ErrorCode} {bytes : List UInt8} (x : Xfer) (token : StopId)
      (task : s.rx.mRecvTask = .header token) (size : bytes.length = headerSize)
      (control : (Header.ofBytes bytes).mSize = 0)
      (rx : t.rx = (s.rx.log (.header x)).at_ (.control (Header.ofBytes bytes) s.rx.mRecvToken))
      (table : t.table = s.table) (nextOp : t.nextOp = s.nextOp) :
      PlainRecv s (.recvReturned ec bytes.length bytes) t
  | data {t : SockScheduler} {ec : ErrorCode} {bytes : List UInt8} (x : Xfer) (token : StopId)
      (task : s.rx.mRecvTask = .header token) (size : bytes.length = headerSize)
      (data : (Header.ofBytes bytes).mSize ≠ 0)
      (mapped : s.table.mRemoteSocketForkMapping_ (Header.ofBytes bytes).mForkId ≠ none)
      (request : (s.rx.log (.header x)).Request s.table s.mEC ⟨Header.ofBytes bytes, x⟩ t.rx)
      (table : t.table = s.table) (nextOp : t.nextOp = s.nextOp) :
      PlainRecv s (.recvReturned ec bytes.length bytes) t
  | opened {t : SockScheduler} {ec : ErrorCode} {bytes : List UInt8} (x : Xfer) (header : Header)
      (token : StopId) (task : s.rx.mRecvTask = .control header token)
      (size : bytes.length = controlBlockSize)
      (fresh : s.table.FreshMeta header.mForkId (controlBlockSessionID bytes))
      (rx : t.rx = (s.rx.log (.header x)).at_ (.header s.rx.mRecvToken))
      (table : t.table =
        (s.table.initRemoteSocketFork header.mForkId (controlBlockSessionID bytes)).1)
      (nextOp : t.nextOp = s.nextOp) : PlainRecv s (.recvReturned ec bytes.length bytes) t
  | filled {t : SockScheduler} {ec : ErrorCode} {bytes : List UInt8} (x : Xfer) (f : Frame)
      (op : OpId) (token : StopId) (task : s.rx.mRecvTask = .body f op token)
      (size : bytes.length = f.header.mSize.toNat) (ok : ec.isError = false)
      (awaits : ((((s.rx.log (.body op f.call x)).fill op bytes).renew s.nextStop).finish op
        ec).Await s.mEC s.table.mSocketForks_.length ec t.rx)
      (table : t.table = s.table) (nextOp : t.nextOp = s.nextOp) :
      PlainRecv s (.recvReturned ec bytes.length bytes) t

inductive PlainStep (s : SockScheduler) : Event → SockScheduler → Prop
  | idle {e : Event} {t : SockScheduler} (call : e.isCall = false) (rx : t.rx = s.rx)
      (tx : t.tx = s.tx) (table : t.table = s.table) (held : t.held = s.held)
      (nextOp : t.nextOp = s.nextOp) : PlainStep s e t
  | forked {t : SockScheduler} (session : UInt64 × UInt64) (slot : Nat)
      (slotHeld : s.heldSlot session = some slot) (few : s.held.length + 1 < 2 ^ 32 - 1)
      (free : ¬ s.table.Collides slot) (rx : t.rx = s.rx) (tx : t.tx = s.tx)
      (table : t.table = (s.table.forkSlot slot).1)
      (held : t.held = s.held ++ [(s.table.forkSlot slot).2.1]) (nextOp : t.nextOp = s.nextOp) :
      PlainStep s (.fork session) t
  | sends {e : Event} {t : SockScheduler} (same : SameRecv s t) (step : PlainSend s e t) :
      PlainStep s e t
  | recvs {e : Event} {t : SockScheduler} (same : SameSend s t) (step : PlainRecv s e t) :
      PlainStep s e t

/-! ## One awaiter in a plain run -/

theorem NextSendOp.awaitSuspend_plain (op : OpId) {ec : ErrorCode} (enter : Entering s)
    (ok : ec.isError = false) (fine : s.mEC.isError = false) :
    (s.tx.finish op ec).Await s.mEC s.nextOp ec (awaitSuspend s (some op) ec).tx ∧
      OnlySend s (awaitSuspend s (some op) ec) := by
  refine ⟨(awaitSuspend_await enter op ec).1, ?_⟩
  have work := prev_onlySend (s := s) (some op) ec
  rcases awaitSuspend_cases (s := s) (some op) ec with
    ⟨failed, _⟩ | ⟨_, p, fs, _, result⟩ | ⟨_, _, result⟩
  · simp [ok, fine] at failed
  · rw [result]
    exact work.trans (onlySend_of_queued [.sendTask] rfl rfl (by simp))
  · rw [result]
    exact work.trans (onlySend_of_tx rfl)

theorem AnyRecvOp.awaitSuspend_plain (op : OpId) {ec : ErrorCode} (running : s.rx.Running)
    (flags : s.tx.FlagsOk) (ok : ec.isError = false) (fine : s.mEC.isError = false) :
    (left s (some op) ec).Await s.mEC s.table.mSocketForks_.length ec
        (awaitSuspend s (some op) ec).rx ∧ OnlyRecv s (awaitSuspend s (some op) ec) := by
  refine ⟨(awaitSuspend_await (some op) ec running flags).1, ?_⟩
  have work := prev_onlyRecv (s := s) (some op) ec
  rcases awaitSuspend_cases (s := s) (some op) ec with
    ⟨failed, _⟩ | ⟨_, _, result⟩ | ⟨_, _, result⟩
  · simp [ok, fine] at failed
  · rw [result]
    exact work.trans (onlyRecv_of_queued [.recvTask] rfl rfl (by simp))
  · rw [result]
    exact work.trans (onlyRecv_of_rx rfl)

theorem GetRequestedRecvSocketFork.awaitSuspend_plain (f : Frame) (fine : s.mEC.isError = false)
    (mapped : s.table.mRemoteSocketForkMapping_ f.header.mForkId ≠ none) :
    OnlyRecv s (awaitSuspend s f) := by
  rcases awaitSuspend_cases (s := s) f with ⟨unmapped, _⟩ | ⟨slot, _, failed | parks | serves⟩
  · exact absurd unmapped mapped
  · simp [fine] at failed
  · rw [parks.2.2]
    exact onlyRecv_of_rx rfl
  · obtain ⟨_, op, ops, _, result⟩ := serves
    rw [result]
    exact onlyRecv_of_queued [.recvTask] rfl rfl (by simp)

/-! ## The steps -/

theorem plainStep {e : Event} (inv : BaseInv s) (fine : s.mEC.isError = false)
    (reading : ¬ s.rx.mRecvTask.Ended) (sending : ¬ s.tx.mSendTask.Ended) (plain : Plain s e)
    (lawful : Link.Lawful s e)
    (wellFormed : ∀ ec bt bytes, e = .recvReturned ec bt bytes → ¬ s.Malformed bytes)
    (taken : step s e = some t) : PlainStep s e t ∧ t.mEC = s.mEC := by
  cases e with
  | fork session =>
    obtain ⟨slot, slotHeld, rfl⟩ := Option.map_eq_some_iff.mp taken
    exact ⟨.forked session slot slotHeld plain.1 (plain.2 slot slotHeld) rfl rfl rfl rfl rfl, rfl⟩
  | send session data token =>
    obtain ⟨slot, slotHeld, rfl⟩ := Option.map_eq_some_iff.mp taken
    obtain ⟨full, fits, live⟩ := plain
    have work := s.send_onlySend slot session data token
    refine ⟨.sends ⟨work.rx, work.held⟩ (.sent session data token slot slotHeld full fits live ?_
      work.table work.nextOp), work.mEC⟩
    obtain ⟨p, shown⟩ : ∃ p : SockScheduler,
      { s.logSend (.posted s.nextOp session data) with nextOp := s.nextOp + 1 } = p := ⟨_, rfl⟩
    have fine' : p.mEC.isError = false := by
      rw [← shown]
      exact fine
    have queued : (p.enqueueSend slot s.nextOp data).mEC.isError = false := by
      rw [(enqueueSend_onlySend _ _ _ _).mEC]
      exact fine'
    have unfolded : s.send slot session data token =
        (p.enqueueSend slot s.nextOp data).sendSetCancelation s.nextOp token := by
      rw [← shown]
      unfold send
      dsimp only
      have passed : (s.logSend (.posted s.nextOp session data)).mEC.isError = false := fine
      rw [if_neg full, if_neg (by rw [passed]; exact Bool.false_ne_true)]
    rw [unfolded, sendSetCancelation_tx _ _ _ queued, enqueueSend_tx, ← shown]
    rfl
  | recv session buffer token =>
    obtain ⟨slot, slotHeld, rfl⟩ := Option.map_eq_some_iff.mp taken
    have work := s.recv_onlyRecv slot session buffer token
    refine ⟨.recvs ⟨work.tx, work.held⟩ (.posted session buffer token slot slotHeld plain ?_
      work.table work.nextOp), work.mEC⟩
    obtain ⟨p, shown⟩ : ∃ p : SockScheduler,
      { s.logRecv (.posted s.nextOp session) with nextOp := s.nextOp + 1 } = p := ⟨_, rfl⟩
    have flags : p.rx.FlagsOk := by
      rw [← shown]
      exact inv.recv.flags.congr rfl rfl rfl
    have fine' : p.mEC.isError = false := by
      rw [← shown]
      exact fine
    have queued : (p.enqueueRecv slot s.nextOp buffer).mEC.isError = false := by
      rw [(enqueueRecv_onlyRecv _ _ _ _).mEC]
      exact fine'
    have unfolded : s.recv slot session buffer token =
        (p.enqueueRecv slot s.nextOp buffer).recvSetCancelation s.nextOp token := by
      rw [← shown]
      unfold recv
      dsimp only
      have passed : (s.logRecv (.posted s.nextOp session)).mEC.isError = false := fine
      rw [if_neg (by rw [passed]; exact Bool.false_ne_true)]
    rw [unfolded, recvSetCancelation_rx _ _ _ queued, enqueueRecv_rx flags, ← shown]
    rfl
  | stopSend op => cases plain
  | stopRecv op => cases plain
  | flush handle =>
    cases taken
    obtain ⟨_, _, _, _, _, _, shape, _⟩ := s.flush_shape handle
    rw [shape]
    exact ⟨.idle rfl rfl rfl rfl rfl rfl, rfl⟩
  | socketClose => cases plain
  | close => cases plain
  | run cb =>
    simp only [step] at taken
    split at taken <;> cases taken
    obtain ⟨m, popped⟩ : ∃ m : SockScheduler, { s with queued := s.queued.erase cb } = m := ⟨_, rfl⟩
    cases cb with
    | recvTask =>
      have rx : m.rx = s.rx := by rw [← popped]
      have same : SameSend s m := by rw [← popped]; exact ⟨rfl, rfl⟩
      have table : m.table = s.table := by rw [← popped]
      have nextOp : m.nextOp = s.nextOp := by rw [← popped]
      have mEC : m.mEC = s.mEC := by rw [← popped]
      rw [popped, runCallback]
      have resumed := receiveDataTask_cases m
      obtain ⟨u, result⟩ : ∃ u, m.receiveDataTask = u := ⟨_, rfl⟩
      rw [result] at resumed ⊢
      cases resumed with
      | idle waits => exact ⟨.idle rfl rx same.tx table same.held nextOp, mEC⟩
      | done r task error =>
        rw [rx] at task
        exact absurd (by rw [task]; exact error) reading
      | header r task ok =>
        exact ⟨.recvs ⟨same.tx, same.held⟩ (.reads r (rx ▸ task) (by rw [← rx]; rfl) table nextOp),
          mEC⟩
      | failed frame e task =>
        rw [rx] at task
        exact absurd (by rw [task]; trivial) reading
      | body frame op task fits =>
        exact ⟨.recvs ⟨same.tx, same.held⟩ (.fills frame op (rx ▸ task) (rx ▸ fits)
          (by rw [← rx]; rfl) table nextOp), mEC⟩
      | mismatch frame op task misfits =>
        rw [rx] at task misfits
        have fits : BufferFits s := plain
        simp only [BufferFits, task] at fits
        simp [fits] at misfits
    | sendTask =>
      have tx : m.tx = s.tx := by rw [← popped]
      have same : SameRecv s m := by rw [← popped]; exact ⟨rfl, rfl⟩
      have table : m.table = s.table := by rw [← popped]
      have nextOp : m.nextOp = s.nextOp := by rw [← popped]
      have mEC : m.mEC = s.mEC := by rw [← popped]
      rw [popped, runCallback]
      rcases SendInv.makeSendTask_eq m with ⟨result, _⟩ | ⟨e, task, result⟩ |
        ⟨op, fs, task, opened, result⟩ | ⟨op, fs, task, unopened, result⟩ <;> rw [result]
      · exact ⟨.idle rfl same.rx tx table same.held nextOp, mEC⟩
      · rw [tx] at task
        exact absurd (by rw [task]; trivial) sending
      · rw [tx, table] at opened
        exact ⟨.sends ⟨same.rx, same.held⟩ (.header op (tx ▸ task) opened (by rw [← tx]; rfl) table
          nextOp), mEC⟩
      · rw [tx, table] at unopened
        exact ⟨.sends ⟨same.rx, same.held⟩ (.control op (tx ▸ task) unopened (by rw [← tx]; rfl)
          (by rw [← tx, ← table]; rfl) nextOp), mEC⟩
    | requestStop src =>
      cases src <;> exact ⟨.idle rfl rfl rfl rfl rfl rfl, rfl⟩
    | completion op => exact ⟨.idle rfl rfl rfl rfl rfl rfl, rfl⟩
    | flush handle => exact ⟨.idle rfl rfl rfl rfl rfl rfl, rfl⟩
  | sendReturned ec bt =>
    have ok : ec.isError = false := plain
    cases sendReturned_cases taken with
    | failed part op token task x call failed =>
      have all := lawful.2 ok
      rw [Link.outgoing, task] at all
      rcases (Xfer.check_isError x).mp failed with error | short
      · rw [call] at error
        simp [ok] at error
      · rw [call] at short
        exact absurd all short.2
    | next part part' op token task x call full follows =>
      rw [call] at full
      exact ⟨.sends ⟨rfl, rfl⟩ (.advanced part part' op token task x full.2 follows rfl rfl rfl),
        rfl⟩
    | body op token task x call full =>
      rw [call] at full
      have busy : s.tx.mSendTask.waits = false := by simp [task, SendTask.waits]
      obtain ⟨awaits, work⟩ := NextSendOp.awaitSuspend_plain (s := s.logSend (.xfer op .body x)) op
        ⟨inv.send.flags.trans busy, busy, inv.recv.flags⟩ ok fine
      exact ⟨.sends ⟨work.rx, work.held⟩ (.finished op token task x full.2 ok awaits work.table
        work.nextOp), work.mEC⟩
  | recvReturned ec bt bytes =>
    have ok : ec.isError = false := plain
    obtain rfl : bt = bytes.length := lawful.2 ok
    have good := wellFormed ec bytes.length bytes rfl
    have passed : (recvCall ec bytes.length bytes).check.isError = false :=
      (Xfer.check_ok _).mpr ⟨ok, rfl⟩
    have any := inv.recv.flags.anyRecvOp
    have requested := inv.recv.flags.requested
    cases recvReturned_cases taken with
    | headerFailed token task failed => simp [passed] at failed
    | headerMeta token task size full control =>
      exact ⟨.recvs ⟨rfl, rfl⟩ (.opening _ token task size control rfl rfl rfl), rfl⟩
    | headerData token task size full data =>
      have mapped : s.table.mRemoteSocketForkMapping_ (Header.ofBytes bytes).mForkId ≠ none := by
        intro unmapped
        rw [Malformed, task] at good
        exact good ⟨data, unmapped⟩
      have busy : (s.logRecv (.header (recvCall ec bytes.length bytes))).rx.Busy := by
        simp [RecvSide.Busy, logRecv, RecvSide.log, task, RecvTask.waitsAny, RecvTask.requested]
      have request := (GetRequestedRecvSocketFork.awaitSuspend_request
        (s := s.logRecv (.header (recvCall ec bytes.length bytes)))
        ⟨Header.ofBytes bytes, recvCall ec bytes.length bytes⟩
        (inv.recv.logRecv _).flags busy inv.send.flags).1
      have work := GetRequestedRecvSocketFork.awaitSuspend_plain
        (s := s.logRecv (.header (recvCall ec bytes.length bytes)))
        ⟨Header.ofBytes bytes, recvCall ec bytes.length bytes⟩ fine mapped
      exact ⟨.recvs ⟨work.tx, work.held⟩ (.data _ token task size data mapped request work.table
        work.nextOp), work.mEC⟩
    | controlFailed header token task failed => simp [passed] at failed
    | refused header token task size full table code faults init error =>
      rw [Malformed, task] at good
      have fresh := not_not.mp good
      have accepted := ForkTable.initRemoteSocketFork_accepted inv.ids fresh.1 fresh.2.2
      rw [init] at accepted
      cases accepted
      cases error
    | accepted header token task size full table code faults init _ =>
      rw [Malformed, task] at good
      refine ⟨.recvs ⟨rfl, rfl⟩ (.opened _ header token task size (not_not.mp good) rfl ?_ rfl),
        rfl⟩
      rw [init]
      rfl
    | body frame op token task size =>
      simp only [task] at any requested
      obtain ⟨awaits, work⟩ := AnyRecvOp.awaitSuspend_plain
        (s := { s with
          rx := (s.rx.log (.body op frame.call (recvCall ec bytes.length bytes))).fill op bytes })
        op ⟨any, requested⟩ inv.send.flags ok fine
      exact ⟨.recvs ⟨work.tx, work.held⟩ (.filled _ frame op token task size ok awaits work.table
        work.nextOp), work.mEC⟩

end SockScheduler
end Coproto
