import Coproto.Invariants.SendOrder
import Coproto.Lib.Pieces
import Coproto.Source.Link

/-!
# What is on the wire

SocketScheduler.h:843-935, 1052-1133. The pieces of the stream are what the send task gives to one
call, a slot-init message counting as two; each of them is what the receive task asks for in one
call. `Position` says what comes next, for either task.
-/
namespace Coproto
open SockScheduler Traces

/-- A send, as it was posted. -/
structure Message where
  op : OpId
  session : UInt64 × UInt64
  payload : List UInt8
  deriving DecidableEq, Repr

def Message.Posted (m : Message) (trace : List SendObs) : Prop :=
  .posted m.op m.session m.payload ∈ trace

/-- What a header announces. -/
inductive Item where
  | opens (forkId : UInt32) (session : UInt64 × UInt64)
  | data (forkId : UInt32) (m : Message)
  deriving DecidableEq, Repr

inductive Position where
  | between
  | control (forkId : UInt32) (session : UInt64 × UInt64)
  | body (forkId : UInt32) (m : Message)
  deriving DecidableEq, Repr

inductive Piece : Position → List UInt8 → List Item → Position → Prop
  | opens (k : UInt32) (session : UInt64 × UInt64) :
      Piece .between (Header.bytes ⟨0, k⟩) [.opens k session] (.control k session)
  | control (k : UInt32) (id : SessionID) :
      Piece (.control k id.mVal) (controlBlockBytes id) [] .between
  | header (k size : UInt32) (m : Message) (fits : size.toNat = m.payload.length)
      (nonempty : m.payload ≠ []) :
      Piece .between (Header.bytes ⟨size, k⟩) [.data k m] (.body k m)
  | body (k : UInt32) (m : Message) : Piece (.body k m) m.payload [] .between

/-- The stream from one position to another. -/
abbrev OnWire : Position → List UInt8 → List Item → Position → Prop := Pieces.Path Piece

/-- The length of the next piece. -/
def Position.size : Position → Nat
  | .between => headerSize
  | .control _ _ => controlBlockSize
  | .body _ m => m.payload.length

theorem Piece.length_eq {p q : Position} {bs : List UInt8} {xs : List Item}
    (piece : Piece p bs xs q) : bs.length = p.size := by
  cases piece with
  | opens k session => exact Header.bytes_length _
  | control k id => exact controlBlockBytes_length id
  | header k size m fits nonempty => exact Header.bytes_length _
  | body k m => rfl

theorem Piece.headerSize_ne {q : Position} {bs : List UInt8} {xs : List Item}
    (piece : Piece .between bs xs q) (data : (Header.ofBytes bs).mSize ≠ 0) :
    ∃ k m, q = .body k m ∧ (Header.ofBytes bs).mForkId = k ∧
      (Header.ofBytes bs).mSize.toNat = m.payload.length := by
  cases piece with
  | opens k session =>
    rw [Header.ofBytes_bytes] at data
    exact absurd rfl data
  | header k size m fits nonempty =>
    rw [Header.ofBytes_bytes]
    exact ⟨k, m, rfl, rfl, fits⟩

theorem Piece.headerSize_eq {q : Position} {bs : List UInt8} {xs : List Item}
    (piece : Piece .between bs xs q) (control : (Header.ofBytes bs).mSize = 0) :
    ∃ k session, q = .control k session ∧ (Header.ofBytes bs).mForkId = k := by
  cases piece with
  | opens k session =>
    rw [Header.ofBytes_bytes]
    exact ⟨k, session, rfl, rfl⟩
  | header k size m fits nonempty =>
    rw [Header.ofBytes_bytes] at control
    have zero : size.toNat = 0 := by rw [show size = 0 from control]; rfl
    exact absurd (List.length_eq_zero_iff.mp (fits.symm.trans zero)) nonempty

/-- The messages of these items were posted. -/
def Posted (trace : List SendObs) (items : List Item) : Prop :=
  ∀ k m, .data k m ∈ items → m.Posted trace

/-- So was the one whose payload is next. -/
def Position.Posted (trace : List SendObs) : Position → Prop
  | .body _ m => m.Posted trace ∧ m.payload ≠ []
  | _ => True

/-- Where the receive task is. -/
def RecvTask.At : RecvTask → Position → Prop
  | .anyRecvOp _, .between => True
  | .header _, .between => True
  | .control h _, .control k _ => h.mForkId = k
  | .getRequested frame _, .body k m =>
    frame.header.mForkId = k ∧ frame.header.mSize.toNat = m.payload.length
  | .body frame _ _, .body k m =>
    frame.header.mForkId = k ∧ frame.header.mSize.toNat = m.payload.length
  | _, _ => False

/-- Where the send task is. -/
def SendTask.At : SendTask → Position → Prop
  | .sending .body op _, .body _ m => m.op = op
  | .sending .body _ _, _ => False
  | _, .between => True
  | _, _ => False

/-- The send that the task goes on with when it is resumed. -/
def SendTask.takes : SendTask → Option OpId
  | .nextSendOp (some (.ok op)) => some op
  | _ => none

/-- The receive task reads nothing any more. -/
def RecvTask.Ended : RecvTask → Prop
  | .anyRecvOp (some r) => r.isError = true
  | .getRequested _ (some (.error _)) => True
  | .done => True
  | _ => False

/-- The send task writes nothing any more. -/
def SendTask.Ended : SendTask → Prop
  | .nextSendOp (some (.error _)) => True
  | .done => True
  | _ => False

/-! ## A call that returns is recorded -/

namespace SockScheduler
variable {s t : SockScheduler} {ec : ErrorCode}

theorem AnyRecvOp.awaitSuspend_grows (prevOp : Option OpId) (running : s.rx.Running)
    (flags : s.tx.FlagsOk) :
    Appends (fun _ => True) s.rx.trace (AnyRecvOp.awaitSuspend s prevOp ec).rx.trace := by
  have awaits := (awaitSuspend_await prevOp ec running flags).1
  have left : Appends (fun _ => True) s.rx.trace (AnyRecvOp.left s prevOp ec).trace := by
    cases prevOp with
    | none => exact .refl
    | some op =>
      exact RecvSide.appends_finish (fun _ => trivial) (fun _ _ _ => trivial) fun _ _ _ => trivial
  apply left.trans
  obtain ⟨u, result⟩ : ∃ u, (awaitSuspend s prevOp ec).rx = u := ⟨_, rfl⟩
  rw [result] at awaits ⊢
  cases awaits with
  | shut failed code same =>
    exact RecvSide.appends_close _ (fun _ _ _ => trivial) fun _ _ _ => trivial
  | next ok num => exact .refl
  | park ok num => exact .refl

theorem recvReturned_grows {bt : Nat} {bytes : List UInt8} (inv : BaseInv s)
    (returned : s.recvReturned ec bt bytes = some t) :
    ∃ o, Appends (fun _ => True) (s.rx.trace ++ [o]) t.rx.trace := by
  have any := inv.recv.flags.anyRecvOp
  have requested := inv.recv.flags.requested
  have send := inv.send.flags
  cases recvReturned_cases returned with
  | headerFailed token task failed =>
    simp only [task] at any requested
    exact ⟨_, AnyRecvOp.awaitSuspend_grows (s := s.logRecv _) none ⟨any, requested⟩ send⟩
  | headerMeta token task size full control => exact ⟨_, .refl⟩
  | headerData token task size full data =>
    have busy : (s.logRecv (.header (recvCall ec bt bytes))).rx.Busy := by
      simp [RecvSide.Busy, logRecv, RecvSide.log, task, RecvTask.waitsAny, RecvTask.requested]
    have request := (GetRequestedRecvSocketFork.awaitSuspend_request
      (s := s.logRecv (.header (recvCall ec bt bytes))) ⟨Header.ofBytes bytes, recvCall ec bt bytes⟩
      (inv.recv.logRecv _).flags busy send).1
    refine ⟨.header (recvCall ec bt bytes), ?_⟩
    obtain ⟨u, result⟩ : ∃ u, (GetRequestedRecvSocketFork.awaitSuspend
      (s.logRecv (.header (recvCall ec bt bytes)))
      ⟨Header.ofBytes bytes, recvCall ec bt bytes⟩).rx = u := ⟨_, rfl⟩
    rw [result] at request ⊢
    cases request with
    | unknown unmapped e error =>
      exact RecvSide.appends_close _ (fun _ _ _ => trivial) fun _ _ _ => trivial
    | failed slot mapped error => exact .refl
    | park slot mapped ok empty => exact .refl
    | serve slot op ops mapped ok cells => exact .refl
  | controlFailed header token task failed =>
    simp only [task] at any requested
    exact ⟨_, AnyRecvOp.awaitSuspend_grows (s := s.logRecv _) none ⟨any, requested⟩ send⟩
  | refused header token task size full table code faults init error =>
    simp only [task] at any requested
    exact ⟨_, AnyRecvOp.awaitSuspend_grows (s := { s.logRecv _ with
      table := table
      forkFaults := s.forkFaults ++ faults }) none ⟨any, requested⟩ send⟩
  | accepted header token task size full table code faults init ok => exact ⟨_, .refl⟩
  | body frame op token task size =>
    simp only [task] at any requested
    exact ⟨_, AnyRecvOp.awaitSuspend_grows
      (s := { s with rx := (s.rx.log (.body op frame.call (recvCall ec bt bytes))).fill op bytes })
      (some op) ⟨any, requested⟩ send⟩

theorem NextSendOp.awaitSuspend_grows {op : OpId} (enter : NextSendOp.Entering s) :
    Appends (fun _ => True) s.tx.trace (NextSendOp.awaitSuspend s (some op) ec).tx.trace := by
  have awaits := (awaitSuspend_await enter op ec).1
  have left : Appends (fun _ => True) s.tx.trace (s.tx.finish op ec).trace :=
    SendSide.appends_finish (fun _ => trivial) fun _ _ => trivial
  exact left.trans (SendSide.appends_await awaits (fun _ _ _ _ => trivial) fun _ _ _ _ => trivial)

theorem sendReturned_grows {bt : Nat} (inv : BaseInv s)
    (returned : s.sendReturned ec bt = some t) :
    ∃ o, Appends (fun _ => True) (s.tx.trace ++ [o]) t.tx.trace := by
  have enter : ∀ part op token x, s.tx.mSendTask = .sending part op token →
      NextSendOp.Entering (s.logSend (.xfer op part x)) := by
    intro part op token x task
    have busy : s.tx.mSendTask.waits = false := by simp [task, SendTask.waits]
    exact ⟨inv.send.flags.trans busy, busy, inv.recv.flags⟩
  cases sendReturned_cases returned with
  | failed part op token task x call failed =>
    exact ⟨_, NextSendOp.awaitSuspend_grows (enter part op token x task)⟩
  | next part part' op token task x call full follows => exact ⟨_, .refl⟩
  | body op token task x call full =>
    exact ⟨_, NextSendOp.awaitSuspend_grows (enter .body op token x task)⟩

/-! ## The receive task reads the pieces -/

/-- A call that succeeds has taken its bytes off the wire. -/
theorem wire_eq {bt : Nat} {bytes wire : List UInt8} (full : bt = bytes.length)
    (arrives : Link.Arrives wire (.recvReturned ec bt bytes)) :
    wire = bytes ++ Link.unread wire (.recvReturned ec bt bytes) := by
  obtain ⟨_, same⟩ := arrives
  rw [full, List.take_length] at same
  rw [Link.unread, full]
  conv_lhs => rw [← List.take_append_drop bytes.length wire]
  rw [← same]

theorem at_wakeError {rx : RecvSide} {p : Position} (code : ErrorCode)
    (there : rx.mRecvTask.At p) :
    (rx.wakeError code).mRecvTask.Ended ∨ (rx.wakeError code).mRecvTask.At p := by
  unfold RecvSide.wakeError
  split
  · exact .inl rfl
  · exact .inl trivial
  · exact .inr there

theorem at_enqueue {rx : RecvSide} {p : Position} (slot : Nat) (k : UInt32) (op : OpId)
    (buffer : RecvBuffer) (there : rx.mRecvTask.At p) :
    (rx.enqueue slot k op buffer).mRecvTask.At p := by
  unfold RecvSide.enqueue
  split
  · rename_i task
    rw [task] at there
    cases p <;> exact there
  · rename_i frame task
    split
    · rw [task] at there
      cases p <;> exact there
    · exact there
  · exact there

/-- The previous operation has left: the next call reads between two frames, if there is one. -/
theorem at_await {rx rx' : RecvSide} {mEC : ErrorCode} {slots : Nat}
    (awaits : rx.Await mEC slots ec rx') :
    rx'.mRecvTask.Ended ∨ ec.isError = false ∧ rx'.mRecvTask.At .between := by
  cases awaits with
  | shut failed code same =>
    refine .inl ?_
    rw [RecvSide.close_mRecvTask]
    rfl
  | next ok num => exact .inr ⟨ok.1, trivial⟩
  | park ok num => exact .inr ⟨ok.1, trivial⟩

theorem ended_await {rx rx' : RecvSide} {mEC : ErrorCode} {slots : Nat}
    (awaits : rx.Await mEC slots ec rx') (error : ec.isError = true) : rx'.mRecvTask.Ended := by
  rcases at_await awaits with ended | ⟨fine, _⟩
  · exact ended
  · simp [error] at fine

/-- Between two calls the position stays. -/
theorem at_recvStep {e : Event} {p : Position} (inv : BaseInv s) (step : RecvStep s e t)
    (calls : ∀ ec bt bytes, e ≠ .recvReturned ec bt bytes) (there : s.rx.mRecvTask.At p) :
    t.rx.mRecvTask.Ended ∨ t.rx.mRecvTask.At p := by
  cases step with
  | quiet rx mEC nextOp =>
    rw [rx]
    exact .inr there
  | woken code error rx first failed nextOp =>
    rw [rx]
    exact at_wakeError code there
  | rejected session buffer token ec error rx mEC nextOp =>
    rw [rx]
    exact .inr there
  | posted session buffer token slot held ok rx mEC nextOp =>
    rw [rx, RecvSide.arm_mRecvTask]
    exact .inr (at_enqueue slot _ _ buffer there)
  | stopped op armed rx frame =>
    rw [rx, RecvSide.stop_mRecvTask]
    exact .inr there
  | closed r task error rx frame =>
    rw [rx]
    exact .inl trivial
  | header r task ok rx frame =>
    rw [rx]
    rw [task] at there
    refine .inr ?_
    cases p <;> exact there
  | abandoned f e task awaits frame =>
    have taskOk := inv.recv.task
    simp only [RecvSide.TaskOk, task] at taskOk
    exact .inl (ended_await awaits taskOk.1)
  | body f op task fits rx frame =>
    rw [rx]
    rw [task] at there
    refine .inr ?_
    cases p <;> exact there
  | mismatch f op task misfits awaits frame => exact .inl (ended_await awaits rfl)
  | headerFailed x call task failed awaits frame => exact absurd rfl (calls _ _ _)
  | control x call token task size full control rx frame => exact absurd rfl (calls _ _ _)
  | data x call token task size full data request frame => exact absurd rfl (calls _ _ _)
  | refused x call header token task size full table code faults init error awaits mEC nextOp table'
      faults' =>
    exact absurd rfl (calls _ _ _)
  | accepted x call header token task size full table code faults init ok rx mEC nextOp table'
      faults' =>
    exact absurd rfl (calls _ _ _)
  | filled x call f op token task size awaits frame => exact absurd rfl (calls _ _ _)

/-- The piece that a call asked for, when it has returned. -/
theorem read_piece {p q : Position} {bytes wire rest : List UInt8} {items : List Item} {bt : Nat}
    (path : OnWire p (wire ++ rest) items q) (full : bt = bytes.length)
    (arrives : Link.Arrives wire (.recvReturned ec bt bytes)) (size : bytes.length = p.size)
    (nonempty : bytes ≠ []) :
    ∃ ys zs p', Piece p bytes ys p' ∧
      OnWire p' (Link.unread wire (.recvReturned ec bt bytes) ++ rest) zs q ∧ items = ys ++ zs := by
  rw [wire_eq full arrives, List.append_assoc] at path
  exact path.uncons nonempty fun ds ys q piece => piece.length_eq.trans size.symm

theorem ne_nil_of_length {bytes : List UInt8} {n : Nat} (size : bytes.length = n) (pos : 0 < n) :
    bytes ≠ [] := by
  rintro rfl
  simp [← size] at pos

/-- A call of the receive task takes one piece, or it is the last one. -/
theorem at_recvReturned {bt : Nat} {bytes wire rest : List UInt8} {p q : Position}
    {items : List Item} {trace : List SendObs} (inv : BaseInv s)
    (taken : step s (.recvReturned ec bt bytes) = some t) (moves : Link.Moves ec bt bytes.length)
    (arrives : Link.Arrives wire (.recvReturned ec bt bytes)) (there : s.rx.mRecvTask.At p)
    (known : p.Posted trace) (path : OnWire p (wire ++ rest) items q) :
    t.rx.mRecvTask.Ended ∨ ∃ ys zs p', t.rx.mRecvTask.At p' ∧ Piece p bytes ys p' ∧
      OnWire p' (Link.unread wire (.recvReturned ec bt bytes) ++ rest) zs q ∧ items = ys ++ zs := by
  obtain ⟨o, grown⟩ := recvReturned_grows inv taken
  have longer : s.rx.trace ≠ t.rx.trace := by
    intro same
    obtain ⟨new, appended, _⟩ := grown
    rw [← same] at appended
    simpa using congrArg List.length appended
  cases recvStep inv taken with
  | quiet rx mEC nextOp => exact absurd (by rw [rx]) longer
  | woken code error rx first failed nextOp =>
    exact absurd (by rw [rx, RecvSide.trace_wakeError]) longer
  | headerFailed x call task failed awaits frame =>
    refine .inl (ended_await awaits ?_)
    rcases failed with error | short
    · exact error
    · rw [call] at short
      exact absurd (moves.2 short.1) short.2
  | control x call token task size full control rx frame =>
    rw [call] at full
    rw [task] at there
    cases p with
    | between =>
      obtain ⟨ys, zs, p', piece, rest, split⟩ :=
        read_piece path full.2 arrives size (ne_nil_of_length size (by decide))
      obtain ⟨k, session, rfl, id⟩ := piece.headerSize_eq control
      refine .inr ⟨ys, zs, _, ?_, piece, rest, split⟩
      rw [rx]
      exact id
    | _ => cases there
  | data x call token task size full data request frame =>
    rw [call] at full
    rw [task] at there
    cases p with
    | between =>
      obtain ⟨ys, zs, p', piece, rest, split⟩ :=
        read_piece path full.2 arrives size (ne_nil_of_length size (by decide))
      obtain ⟨k, m, rfl, id, length⟩ := piece.headerSize_ne data
      obtain ⟨u, result⟩ : ∃ u, t.rx = u := ⟨_, rfl⟩
      rw [result] at request ⊢
      cases request with
      | unknown unmapped e error => exact .inl trivial
      | failed slot mapped error => exact .inl trivial
      | park slot mapped ok empty => exact .inr ⟨ys, zs, .body k m, ⟨id, length⟩, piece, rest, split⟩
      | serve slot op ops mapped ok cells =>
        exact .inr ⟨ys, zs, .body k m, ⟨id, length⟩, piece, rest, split⟩
    | _ => cases there
  | refused x call header token task size full table code faults init error awaits mEC nextOp table'
      faults' =>
    exact .inl (ended_await awaits error)
  | accepted x call header token task size full table code faults init ok rx mEC nextOp table'
      faults' =>
    rw [call] at full
    rw [task] at there
    cases p with
    | control k session =>
      obtain ⟨ys, zs, p', piece, rest, split⟩ :=
        read_piece path full.2 arrives size (ne_nil_of_length size (by decide))
      cases piece
      refine .inr ⟨_, zs, _, ?_, .control _ _, rest, split⟩
      rw [rx]
      trivial
    | _ => cases there
  | filled x call f op token task size awaits frame =>
    rcases at_await awaits with ended | ⟨fine, between⟩
    · exact .inl ended
    rw [task] at there
    cases p with
    | body k m =>
      have length : bytes.length = m.payload.length := size.trans there.2
      have some_left : 0 < m.payload.length := List.length_pos_of_ne_nil known.2
      obtain ⟨ys, zs, p', piece, rest, split⟩ :=
        read_piece path (moves.2 fine) arrives length (ne_nil_of_length length some_left)
      cases piece
      exact .inr ⟨_, zs, _, between, .body _ _, rest, split⟩
    | _ => cases there

/-! ## The send task has the posted payload -/

structure PayloadInv (s : SockScheduler) : Prop where
  base : BaseInv s
  chained : s.tx.Chained
  books : s.tx.Books s.nextOp
  posted : s.tx.PostedOk
  nonempty : ∀ op o, s.tx.ops op = some o → o.mSendBuffer ≠ []

theorem PayloadInv.init (sid : SessionID) : PayloadInv (init sid) where
  base := BaseInv.init sid
  chained := chained_init sid
  books := books_send_init sid
  posted := by
    rw [BaseInv.init_eq]
    intro op o live
    cases live
  nonempty := by
    rw [BaseInv.init_eq]
    intro op o live
    cases live

theorem PayloadInv.step {e : Event} (inv : PayloadInv s) (met : ¬ LosesSend s e)
    (taken : step s e = some t) : PayloadInv t := by
  have send := sendStep inv.base taken
  constructor
  · exact inv.base.step taken
  · exact chained_sendStep inv.base.send inv.chained met send
  · exact books_sendStep inv.base.send inv.chained inv.books send
  · exact send.postedOk inv.posted
  · exact send.nonempty inv.nonempty

theorem posted_once {tx : SendSide} {nextOp : OpId} (books : tx.Books nextOp) {op : OpId}
    {session session' : UInt64 × UInt64} {data data' : List UInt8}
    (first : .posted op session data ∈ tx.trace) (second : .posted op session' data' ∈ tx.trace) :
    session = session' ∧ data = data' := by
  cases Ledger.Shown.posting_unique books first second rfl rfl
  exact ⟨rfl, rfl⟩

/-- The first of the list has a payload, the posted one. -/
theorem PayloadInv.front (inv : PayloadInv s) {op : OpId} (begin : s.tx.mSendBufferBegin = some op) :
    ∃ session, .posted op session (s.sendBytes .body op) ∈ s.tx.trace ∧
      s.sendBytes .body op ≠ [] := by
  obtain ⟨o, live, _⟩ := inv.chained.fronted op begin
  obtain ⟨session, shown⟩ := inv.posted op o live
  have body : s.sendBytes .body op = o.mSendBuffer := by simp [sendBytes, live]
  rw [body]
  exact ⟨session, shown, inv.nonempty op o live⟩

theorem sending_begin {tx : SendSide} {mEC : ErrorCode} (task : tx.TaskOk mEC) {part : SendPart}
    {op : OpId} {token : StopId} (sending : tx.mSendTask = .sending part op token) :
    tx.mSendBufferBegin = some op := by
  simp only [SendSide.TaskOk, sending] at task
  exact task.2

theorem taken_begin {tx : SendSide} {mEC : ErrorCode} (task : tx.TaskOk mEC) {op : OpId}
    (taken : tx.mSendTask = .nextSendOp (some (.ok op))) : tx.mSendBufferBegin = some op := by
  simp only [SendSide.TaskOk, taken] at task
  exact task.2

/-- The payload of the first of the list stays while it is the first. -/
theorem PayloadInv.payload_eq {e : Event} (inv : PayloadInv s) (inv' : PayloadInv t)
    (step : SendStep s e t) {op : OpId} (begin : s.tx.mSendBufferBegin = some op)
    (begin' : t.tx.mSendBufferBegin = some op) : t.sendBytes .body op = s.sendBytes .body op := by
  obtain ⟨session, shown, _⟩ := inv.front begin
  obtain ⟨session', shown', _⟩ := inv'.front begin'
  exact (posted_once inv'.books shown' (step.grows.kept shown)).2

/-- A send under way was under way before, or the task has just taken it up. -/
theorem sending_step {e : Event} (flags : s.tx.FlagsOk) (step : SendStep s e t) {part : SendPart}
    {op : OpId} {token : StopId} (task : t.tx.mSendTask = .sending part op token) :
    (∃ part token, s.tx.mSendTask = .sending part op token) ∨
      e = .run .sendTask ∧ s.tx.mSendTask = .nextSendOp (some (.ok op)) := by
  cases step with
  | quiet tx mEC nextOp => exact .inl ⟨part, token, tx ▸ task⟩
  | woken tx first failed nextOp =>
    rw [tx] at task
    unfold SendSide.wakeError at task
    split at task
    · cases task
    · exact .inl ⟨part, token, task⟩
  | rejected session data token' ec error tx mEC nextOp =>
    rw [tx] at task
    exact .inl ⟨part, token, task⟩
  | posted session data token' slot held full ok tx mEC nextOp =>
    rw [tx, SendSide.arm_mSendTask] at task
    have flags : (s.tx.log (.posted s.nextOp session data)).FlagsOk := flags
    rcases SendSide.enqueue_cases flags slot s.nextOp data with ⟨_, woken, _⟩ | ⟨_, same, _⟩
    · rw [woken] at task
      cases task
    · rw [same] at task
      exact .inl ⟨part, token, task⟩
  | stopped op' armed tx mEC nextOp =>
    rw [tx, SendSide.stop_mSendTask] at task
    exact .inl ⟨part, token, task⟩
  | closed ec ended tx mEC nextOp =>
    rw [tx] at task
    cases task
  | started op' part' ready opening tx mEC nextOp =>
    rw [tx] at task
    cases task
    exact .inr ⟨rfl, ready⟩
  | advanced part' part'' op' token' busy x call full follows tx mEC nextOp =>
    rw [tx] at task
    cases task
    exact .inl ⟨part', token', busy⟩
  | finished part' op' token' busy x call reason awaits mEC nextOp =>
    obtain ⟨u, result⟩ : ∃ u, t.tx = u := ⟨_, rfl⟩
    rw [result] at awaits task
    cases awaits <;> cases task

/-- The send that the task takes up fits into a header. -/
def FitsHeader (s : SockScheduler) : SockScheduler.Event → Prop
  | .run .sendTask => ∀ op ∈ s.tx.mSendTask.takes, (s.sendBytes .body op).length < 2 ^ 32 - 1
  | _ => True

instance (s : SockScheduler) (e : SockScheduler.Event) : Decidable (FitsHeader s e) := by
  unfold FitsHeader
  split <;> infer_instance

/-- What the stream relies on in the sender. -/
structure StreamInv (s : SockScheduler) : Prop extends PayloadInv s where
  fits : ∀ part op token, s.tx.mSendTask = .sending part op token →
    (s.sendBytes .body op).length < 2 ^ 32 - 1

theorem StreamInv.init (sid : SessionID) : StreamInv (init sid) where
  toPayloadInv := PayloadInv.init sid
  fits := by
    rw [BaseInv.init_eq]
    intro part op token task
    cases task

theorem StreamInv.step {e : Event} (inv : StreamInv s) (fits : FitsHeader s e)
    (met : ¬ LosesSend s e) (taken : step s e = some t) : StreamInv t := by
  have send := sendStep inv.base taken
  have inv' := inv.toPayloadInv.step met taken
  refine ⟨inv', fun part op token task => ?_⟩
  have begin' := sending_begin inv'.base.send.task task
  rcases sending_step inv.base.send.flags send task with ⟨part', token', before⟩ | ⟨rfl, ready⟩
  · have begin := sending_begin inv.base.send.task before
    rw [inv.payload_eq inv' send begin begin']
    exact inv.fits part' op token' before
  · have begin := taken_begin inv.base.send.task ready
    rw [inv.payload_eq inv' send begin begin']
    exact fits op (by simp [ready, SendTask.takes])

end SockScheduler
end Coproto
