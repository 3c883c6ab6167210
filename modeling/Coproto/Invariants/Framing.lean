import Coproto.Invariants.Stream

/-!
# The receiver stays in frame

SocketScheduler.h:843-935, 1052-1133. What the send task writes continues the stream behind what
is on the wire, a call that fails on part of its buffer being the last one; so whatever the
receive task reads next is the piece it asks for.
-/
namespace Coproto
open SockScheduler Traces

/-- Where the send task is when its call for `part` has written all of its buffer. -/
def SendPart.Behind (part : SendPart) (op : OpId) : Position → Prop
  | .between => part ≠ .header
  | .body _ m => part = .header ∧ m.op = op
  | .control _ _ => False

namespace SockScheduler
variable {s t : SockScheduler} {ec : ErrorCode}

/-! ## A task that has ended -/

theorem ended_sendStep {e : Event} (flags : s.tx.FlagsOk) (step : SendStep s e t)
    (ended : s.tx.mSendTask.Ended) : t.tx.mSendTask.Ended := by
  cases step with
  | quiet tx mEC nextOp => exact tx ▸ ended
  | woken tx first failed nextOp =>
    rw [tx]
    unfold SendSide.wakeError
    split
    · trivial
    · exact ended
  | rejected session data token ec error tx mEC nextOp => exact tx ▸ ended
  | posted session data token slot held full ok tx mEC nextOp =>
    rw [tx, SendSide.arm_mSendTask]
    have flags : (s.tx.log (.posted s.nextOp session data)).FlagsOk := flags
    rcases SendSide.enqueue_cases flags slot s.nextOp data with ⟨parked, _, _⟩ | ⟨_, same, _⟩
    · have parked : s.tx.mSendTask = .nextSendOp none := parked
      rw [parked] at ended
      exact ended.elim
    · rw [same]
      exact ended
  | stopped op armed tx mEC nextOp =>
    rw [tx, SendSide.stop_mSendTask]
    exact ended
  | closed e task tx mEC nextOp =>
    rw [tx]
    trivial
  | started op part task opening tx mEC nextOp =>
    rw [task] at ended
    exact ended.elim
  | advanced part part' op token task x call full follows tx mEC nextOp =>
    rw [task] at ended
    exact ended.elim
  | finished part op token task x call reason awaits mEC nextOp =>
    rw [task] at ended
    exact ended.elim

theorem ended_recvStep {e : Event} (inv : BaseInv s) (step : RecvStep s e t)
    (ended : s.rx.mRecvTask.Ended) : t.rx.mRecvTask.Ended := by
  cases step with
  | quiet rx mEC nextOp => exact rx ▸ ended
  | woken code error rx first failed nextOp =>
    rw [rx]
    unfold RecvSide.wakeError
    split
    · simp [RecvTask.Ended]
    · trivial
    · exact ended
  | rejected session buffer token ec error rx mEC nextOp => exact rx ▸ ended
  | posted session buffer token slot held ok rx mEC nextOp =>
    rw [rx, RecvSide.arm_mRecvTask]
    unfold RecvSide.enqueue
    split
    · rename_i task
      rw [RecvSide.log_mRecvTask] at task
      rw [task] at ended
      exact ended.elim
    · rename_i frame task
      rw [RecvSide.log_mRecvTask] at task
      rw [task] at ended
      exact ended.elim
    · exact ended
  | stopped op armed rx frame =>
    rw [rx, RecvSide.stop_mRecvTask]
    exact ended
  | closed r task error rx frame =>
    rw [rx]
    trivial
  | header r task ok rx frame =>
    rw [task] at ended
    exact absurd ended (by simp [RecvTask.Ended, ok])
  | abandoned f e task awaits frame =>
    have taskOk := inv.recv.task
    simp only [RecvSide.TaskOk, task] at taskOk
    exact ended_await awaits taskOk.1
  | body f op task fits rx frame =>
    rw [task] at ended
    exact ended.elim
  | mismatch f op task misfits awaits frame => exact ended_await awaits rfl
  | headerFailed x call task failed awaits frame =>
    obtain ⟨token, task⟩ | ⟨header, token, task⟩ := task <;> rw [task] at ended <;> exact ended.elim
  | control x call token task size full control rx frame =>
    rw [task] at ended
    exact ended.elim
  | data x call token task size full data request frame =>
    rw [task] at ended
    exact ended.elim
  | refused x call header token task size full table code faults init error awaits mEC nextOp table'
      faults' =>
    rw [task] at ended
    exact ended.elim
  | accepted x call header token task size full table code faults init ok rx mEC nextOp table'
      faults' =>
    rw [task] at ended
    exact ended.elim
  | filled x call f op token task size awaits frame =>
    rw [task] at ended
    exact ended.elim

/-! ## The send task writes pieces -/

/-- Between two calls the position stays. -/
theorem at_sendStep {e : Event} {q : Position} (flags : s.tx.FlagsOk) (step : SendStep s e t)
    (calls : ∀ ec bt, e ≠ .sendReturned ec bt) (there : s.tx.mSendTask.At q) :
    t.tx.mSendTask.Ended ∨ t.tx.mSendTask.At q := by
  cases step with
  | quiet tx mEC nextOp => exact .inr (tx ▸ there)
  | woken tx first failed nextOp =>
    rw [tx]
    unfold SendSide.wakeError
    split
    · exact .inl trivial
    · exact .inr there
  | rejected session data token ec error tx mEC nextOp => exact .inr (tx ▸ there)
  | posted session data token slot held full ok tx mEC nextOp =>
    rw [tx, SendSide.arm_mSendTask]
    refine .inr ?_
    have flags : (s.tx.log (.posted s.nextOp session data)).FlagsOk := flags
    rcases SendSide.enqueue_cases flags slot s.nextOp data with ⟨parked, woken, _⟩ | ⟨_, same, _⟩
    · have parked : s.tx.mSendTask = .nextSendOp none := parked
      rw [parked] at there
      rw [woken]
      cases q <;> exact there
    · rw [same]
      exact there
  | stopped op armed tx mEC nextOp =>
    rw [tx, SendSide.stop_mSendTask]
    exact .inr there
  | closed e task tx mEC nextOp =>
    rw [tx]
    exact .inl trivial
  | started op part task opening tx mEC nextOp =>
    rw [tx]
    rw [task] at there
    refine .inr ?_
    cases part with
    | body => exact absurd rfl opening
    | _ => cases q <;> exact there
  | advanced part part' op token task x call full follows tx mEC nextOp => exact absurd rfl (calls _ _)
  | finished part op token task x call reason awaits mEC nextOp => exact absurd rfl (calls _ _)

theorem toNat_ofNat_length {data : List UInt8} (fits : data.length < 2 ^ 32 - 1) :
    (UInt32.ofNat data.length).toNat = data.length := by
  apply UInt32.toNat_ofNat_of_lt'
  rw [UInt32.size]
  omega

/-- The message whose send is under way. -/
theorem StreamInv.message (inv : StreamInv s) {part : SendPart} {op : OpId} {token : StopId}
    (task : s.tx.mSendTask = .sending part op token) :
    ∃ session, (⟨op, session, s.sendBytes .body op⟩ : Message).Posted s.tx.trace ∧
      s.sendBytes .body op ≠ [] ∧ (s.sendBytes .body op).length < 2 ^ 32 - 1 := by
  obtain ⟨session, shown, nonempty⟩ := inv.front (sending_begin inv.base.send.task task)
  exact ⟨session, shown, nonempty, inv.fits part op token task⟩

/-- The buffer of a call is a series of pieces. -/
theorem outgoing_stream (inv : StreamInv s) {part : SendPart} {op : OpId} {token : StopId}
    {q : Position} (task : s.tx.mSendTask = .sending part op token) (there : s.tx.mSendTask.At q)
    (known : q.Posted s.tx.trace) :
    ∃ items q', OnWire q (s.sendBytes part op) items q' ∧ Posted s.tx.trace items ∧
      q'.Posted s.tx.trace ∧ part.Behind op q' := by
  obtain ⟨session, shown, nonempty, fits⟩ := inv.message task
  rw [task] at there
  cases part with
  | control =>
    cases q with
    | between =>
      have opens := Piece.opens (s.table.fork (s.tx.slotOf op)).mLocalId
        (s.table.fork (s.tx.slotOf op)).mSessionID.mVal
      have control := Piece.control (s.table.fork (s.tx.slotOf op)).mLocalId
        (s.table.fork (s.tx.slotOf op)).mSessionID
      refine ⟨_, _, (Pieces.Path.single opens).snoc control, ?_, trivial,
        by simp [SendPart.Behind]⟩
      intro k m member
      simp at member
    | _ => cases there
  | header =>
    cases q with
    | between =>
      have header := Piece.header (s.table.fork (s.tx.slotOf op)).mLocalId
        (UInt32.ofNat (s.sendBytes .body op).length) ⟨op, session, s.sendBytes .body op⟩
        (toNat_ofNat_length fits) nonempty
      refine ⟨_, _, Pieces.Path.single header, ?_, ⟨shown, nonempty⟩, rfl, rfl⟩
      intro k m member
      cases List.mem_singleton.mp member
      exact shown
    | _ => cases there
  | body =>
    cases q with
    | body k m =>
      have same : m.payload = s.sendBytes .body op := by
        obtain rfl : m.op = op := there
        exact (posted_once inv.books known.1 shown).2
      refine ⟨_, .between, Pieces.Path.single (same ▸ Piece.body k m), ?_, trivial,
        by simp [SendPart.Behind]⟩
      intro k m member
      cases member
    | _ => cases there

/-- A call of the send task writes pieces, up to where it fails. -/
theorem at_sendReturned {bt : Nat} {q : Position} (inv : StreamInv s)
    (taken : step s (.sendReturned ec bt) = some t)
    (moves : Link.Moves ec bt (Link.outgoing s).length) (there : s.tx.mSendTask.At q)
    (known : q.Posted s.tx.trace) :
    ∃ items q' rest, OnWire q (Link.written s (.sendReturned ec bt) ++ rest) items q' ∧
      Posted s.tx.trace items ∧ q'.Posted s.tx.trace ∧
      (t.tx.mSendTask.Ended ∨ rest = [] ∧ t.tx.mSendTask.At q') := by
  obtain ⟨o, grown⟩ := sendReturned_grows inv.base taken
  have longer : s.tx.trace ≠ t.tx.trace := by
    intro same
    obtain ⟨new, appended, _⟩ := grown
    rw [← same] at appended
    simpa using congrArg List.length appended
  cases sendStep inv.base taken with
  | quiet tx mEC nextOp => exact absurd (by rw [tx]) longer
  | woken tx first failed nextOp => exact absurd (by rw [tx, SendSide.trace_wakeError]) longer
  | advanced part part' op token task x call full follows tx mEC nextOp =>
    obtain ⟨items, q', stream, posted, known', behind⟩ := outgoing_stream inv task there known
    have out : Link.outgoing s = s.sendBytes part op := by simp [Link.outgoing, task]
    have all : bt = (s.sendBytes part op).length := by
      rw [call] at full
      exact full.2
    refine ⟨items, q', [], ?_, posted, known', .inr ⟨rfl, ?_⟩⟩
    · rw [Link.written, out, all, List.take_length, List.append_nil]
      exact stream
    · rw [tx]
      rcases follows with ⟨rfl, rfl⟩ | ⟨rfl, rfl⟩
      · cases q' with
        | between => trivial
        | control k session => exact behind
        | body k m => cases behind.1
      · cases q' with
        | between => exact absurd rfl behind
        | control k session => exact behind
        | body k m => exact behind.2
  | finished part op token task x call reason awaits mEC nextOp =>
    obtain ⟨items, q', stream, posted, known', behind⟩ := outgoing_stream inv task there known
    have out : Link.outgoing s = s.sendBytes part op := by simp [Link.outgoing, task]
    refine ⟨items, q', (s.sendBytes part op).drop bt, ?_, posted, known', ?_⟩
    · rw [Link.written, out, List.take_append_drop]
      exact stream
    · obtain ⟨u, result⟩ : ∃ u, t.tx = u := ⟨_, rfl⟩
      rw [result] at awaits ⊢
      -- without an error the whole buffer was written, and it was the payload
      have last : ec.isError = false → bt = (s.sendBytes part op).length ∧ q' = .between := by
        intro fine
        have all := moves.2 fine
        rw [out] at all
        refine ⟨all, ?_⟩
        rcases reason with ⟨_, rfl⟩ | error | short
        · cases q' with
          | between => rfl
          | control k session => exact behind.elim
          | body k m => cases behind.1
        · rw [call] at error
          simp [fine] at error
        · rw [call] at short
          exact absurd all short.2
      cases awaits with
      | shut failed => exact .inl trivial
      | take p ok begin =>
        obtain ⟨all, rfl⟩ := last ok.1
        exact .inr ⟨by rw [all, List.drop_length], trivial⟩
      | park ok begin =>
        obtain ⟨all, rfl⟩ := last ok.1
        exact .inr ⟨by rw [all, List.drop_length], trivial⟩

end SockScheduler

/-! ## Both ends -/

/-- What the receive task reads next is on its way as a series of pieces, which the send task
continues. -/
def InFrame (l : Link) : Prop :=
  l.receiver.rx.mRecvTask.Ended ∨
    ∃ p items q rest, l.receiver.rx.mRecvTask.At p ∧ OnWire p (l.wire ++ rest) items q ∧
      Posted l.sender.tx.trace items ∧ p.Posted l.sender.tx.trace ∧ q.Posted l.sender.tx.trace ∧
      (l.sender.tx.mSendTask.Ended ∨ rest = [] ∧ l.sender.tx.mSendTask.At q)

theorem Posted.grows {P : SendObs → Prop} {trace trace' : List SendObs} {items : List Item}
    (posted : Posted trace items) (grows : Appends P trace trace') : Posted trace' items :=
  fun k m member => grows.kept (posted k m member)

theorem Position.Posted.grows {P : SendObs → Prop} {trace trace' : List SendObs} {p : Position}
    (posted : p.Posted trace) (grows : Appends P trace trace') : p.Posted trace' := by
  cases p with
  | body k m => exact ⟨grows.kept posted.1, posted.2⟩
  | _ => trivial

theorem Posted.append {trace : List SendObs} {xs ys : List Item} (first : Posted trace xs)
    (second : Posted trace ys) : Posted trace (xs ++ ys) := by
  intro k m member
  rcases List.mem_append.mp member with left | right
  · exact first k m left
  · exact second k m right

namespace Link
variable {l : Link}

theorem inFrame_sender {e : SockScheduler.Event} {t : SockScheduler} (inv : StreamInv l.sender)
    (frame : InFrame l) (lawful : Lawful l.sender e) (taken : l.sender.step e = some t) :
    InFrame { l with
      sender := t
      wire := l.wire ++ written l.sender e } := by
  have send := sendStep inv.base taken
  have grows := send.grows
  rcases frame with ended | ⟨p, items, q, rest, reads, stream, posted, known, known', writes⟩
  · exact .inl ended
  refine .inr ?_
  rcases writes with ended | ⟨rfl, writes⟩
  · have none : written l.sender e = [] := by
      cases e with
      | sendReturned ec bt =>
        have out : outgoing l.sender = [] := by
          unfold outgoing
          split
          · rename_i part op token task
            rw [task] at ended
            exact ended.elim
          · rfl
        rw [written, out, List.take_nil]
      | _ => rfl
    refine ⟨p, items, q, rest, reads, ?_, posted.grows grows, known.grows grows, known'.grows grows,
      .inl (ended_sendStep inv.base.send.flags send ended)⟩
    rw [none, List.append_nil]
    exact stream
  rw [List.append_nil] at stream
  cases e with
  | sendReturned ec bt =>
    obtain ⟨items', q', rest, stream', posted', known'', goes⟩ :=
      at_sendReturned inv taken lawful writes known'
    refine ⟨p, items ++ items', q', rest, reads, ?_, (posted.append posted').grows grows,
      known.grows grows, known''.grows grows, goes⟩
    rw [List.append_assoc]
    exact stream.append stream'
  | _ =>
    have goes := at_sendStep inv.base.send.flags send (fun ec bt call => by cases call) writes
    refine ⟨p, items, q, [], reads, ?_, posted.grows grows, known.grows grows, known'.grows grows,
      goes.imp_right fun there => ⟨rfl, there⟩⟩
    rw [written, List.append_nil, List.append_nil]
    · exact stream
    · intro ec bt call
      cases call

theorem inFrame_receiver {e : SockScheduler.Event} {t : SockScheduler} (inv : BaseInv l.receiver)
    (frame : InFrame l) (lawful : Lawful l.receiver e) (arrives : Arrives l.wire e)
    (taken : l.receiver.step e = some t) :
    InFrame { l with
      receiver := t
      wire := unread l.wire e } := by
  have recv := recvStep inv taken
  rcases frame with ended | ⟨p, items, q, rest, reads, stream, posted, known, known', writes⟩
  · exact .inl (ended_recvStep inv recv ended)
  cases e with
  | recvReturned ec bt bytes =>
    rcases at_recvReturned inv taken lawful arrives reads known stream with
      ended | ⟨ys, zs, p', reads', piece, stream', rfl⟩
    · exact .inl ended
    refine .inr ⟨p', zs, q, rest, reads', stream', ?_, ?_, known', writes⟩
    · intro k m member
      exact posted k m (List.mem_append_right ys member)
    · cases piece with
      | header k size m fits nonempty =>
        exact ⟨posted k m (List.mem_append_left zs (List.mem_singleton_self _)), nonempty⟩
      | _ => trivial
  | _ =>
    rcases at_recvStep inv recv nofun reads with ended | reads'
    · exact .inl ended
    · exact .inr ⟨p, items, q, rest, reads', stream, posted, known, known', writes⟩

end Link
end Coproto
