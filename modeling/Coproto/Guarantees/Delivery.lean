import Coproto.Invariants.Conversation
import Coproto.Lib.Runs

/-!
# Messages are delivered in order

SocketScheduler.h:542-594, 814-941, 1036-1137, SocketScheduler.cpp:15-155. Two schedulers over a
transport that does not fail: on every session the receives get the payloads in the order they were
sent, each payload whole and once. When nothing can move any more and a receive waits for a payload
that has been sent, the receive task is parked on a frame of another session.
-/
namespace Coproto
open SockScheduler Runs Traces

namespace SendSide

/-- The payloads that were sent on a session. -/
def payloadsOn (tx : SendSide) (v : UInt64 × UInt64) : List (List UInt8) :=
  (tx.messages.filter (·.session = v)).map Message.payload

variable {tx : SendSide}

theorem messages_op : tx.messages.map Message.op = tx.postedOps := by
  unfold messages postedOps
  rw [List.map_filterMap]
  apply List.filterMap_congr
  intro o _
  cases o <;> rfl

theorem mem_messages {m : Message} : m ∈ tx.messages ↔ m.Posted tx.trace := by
  unfold messages
  rw [List.mem_filterMap]
  constructor
  · rintro ⟨o, shown, names⟩
    cases o with
    | posted op session data =>
      cases names
      exact shown
    | _ => cases names
  · intro shown
    exact ⟨_, shown, rfl⟩

end SendSide

namespace RecvSide

/-- The receives on a session that are done, with what they got. -/
def completionsOn (rx : RecvSide) (v : UInt64 × UInt64) : List Completion :=
  rx.completions.filter (·.op ∈ rx.postedOn v)

variable {rx : RecvSide} {v : UInt64 × UInt64}

theorem completions_op : rx.completions.map Completion.op = rx.doneOps := by
  unfold completions doneOps
  rw [List.map_filterMap]
  apply List.filterMap_congr
  intro o _
  cases o <;> rfl

theorem completionsOn_op : (rx.completionsOn v).map Completion.op = rx.doneOn v := by
  rw [completionsOn, doneOn, ← completions_op, List.filter_map]
  rfl

end RecvSide

namespace SockScheduler

/-- A receive of the session waits. -/
def WaitsOn (s : SockScheduler) (v : UInt64 × UInt64) : Prop :=
  ∃ op ∈ s.rx.postedOn v, op ∉ s.rx.doneOps

/-- The receive task has a frame of this session and no receive for it. -/
def ParkedOn (s : SockScheduler) (v : UInt64 × UInt64) : Prop :=
  ∃ frame, s.rx.mRecvTask = .getRequested frame none ∧
    s.table.peerSession frame.header.mForkId = some v

/-- What happens without the callers: callbacks run, and calls of the transport succeed. -/
def Event.internal : Event → Bool
  | .run _ => true
  | .sendReturned ec _ => !ec.isError
  | .recvReturned ec _ _ => !ec.isError
  | _ => false

end SockScheduler

namespace Duplex

def Event.internal : Event → Bool
  | .a e => e.internal
  | .b e => e.internal

/-- Nothing moves until a caller does something. -/
def Quiet (d : Duplex) : Prop := ∀ e d', d.step e = some d' → e.internal = false

end Duplex

/-- What a direction of a conversation has delivered. -/
structure Delivers (l : Link) : Prop where
  /-- The receives of a session complete in the order they were posted. -/
  served : ∀ v, (l.receiver.rx.completionsOn v).map Completion.op <+: l.receiver.rx.postedOn v
  /-- They get the payloads in the order these were sent. -/
  order : ∀ v, (l.receiver.rx.completionsOn v).map Completion.data <+: l.sender.tx.payloadsOn v
  /-- Every receive that is done has a message of its session, and no message is given twice. -/
  once : ∃ got : List Delivery, l.receiver.rx.completions = got.map Delivery.completion ∧
    (got.map Prod.fst).Nodup ∧ (got.map Prod.snd).Nodup ∧
    got.map Prod.fst <+: l.sender.tx.messages ∧
    ∀ x ∈ got, x.2 ∈ l.receiver.rx.postedOn x.1.session

/-- A payload that has been sent and is waited for: the task is parked on another session. -/
def BlockedElsewhere (l : Link) : Prop :=
  ∀ v, l.receiver.WaitsOn v →
    (l.receiver.rx.completionsOn v).map Completion.data ≠ l.sender.tx.payloadsOn v →
    ∃ w, w ≠ v ∧ l.receiver.ParkedOn w ∧ ¬ l.receiver.WaitsOn w

namespace SockScheduler
variable {s : SockScheduler}

/-- Sends are started in the order they were posted. -/
theorem PlainInv.posted_started (inv : PlainInv s) :
    s.tx.startedOps ++ s.tx.waitingOps = s.tx.postedOps := by
  have kept := inv.list.sendList.kept inv.fine
  rw [inv.list.wire]
  apply List.filter_eq_self.mpr
  intro op posted
  rw [decide_eq_true_eq]
  rcases kept op posted with started | pending | ⟨failed, stopped⟩ | ⟨session, empty⟩
  · exact .inl started
  · exact .inr pending
  · exact (inv.calm _ stopped).elim
  · exact absurd rfl (inv.calm _ empty)

end SockScheduler

/-! ## One direction -/

namespace Talking
variable {l : Link} {p q : Spot} {items : List Item} {got : List Delivery}

theorem sent_prefix (talk : Talking l p items q got) (sender : l.sender.PlainInv) :
    got.map Prod.fst ++ p.pos.message ++ messagesOf items <+: l.sender.tx.messages := by
  have once : l.sender.tx.postedOps.Nodup := Ledger.nodup sender.list.books
  refine Queues.prefix_of_keys Message.op ?_ (SendSide.messages_op ▸ once) fun m member =>
    SendSide.mem_messages.mpr (talk.posted m member)
  rw [SendSide.messages_op, ← sender.posted_started, talk.started]
  exact (List.prefix_append _ _).trans (List.prefix_append _ _)

/-- The deliveries on a session, in order. -/
theorem completionsOn_eq (talk : Talking l p items q got) (receiver : l.receiver.PlainInv)
    (v : UInt64 × UInt64) : l.receiver.rx.completionsOn v =
      (got.filter (·.1.session = v)).map Delivery.completion := by
  rw [RecvSide.completionsOn, talk.completions, List.filter_map]
  congr 1
  apply List.filter_congr
  intro x member
  have owner := talk.received x member
  apply decide_eq_decide.mpr
  show x.2 ∈ _ ↔ _
  rw [RecvSide.mem_postedOn]
  constructor
  · intro here
    exact RecvSide.posted_session receiver.recvBooks owner here
  · rintro rfl
    exact owner

theorem delivered_eq (talk : Talking l p items q got) (receiver : l.receiver.PlainInv)
    (v : UInt64 × UInt64) : (l.receiver.rx.completionsOn v).map Completion.data =
      ((got.map Prod.fst).filter (·.session = v)).map Message.payload := by
  rw [talk.completionsOn_eq receiver, List.map_map, List.filter_map, List.map_map]
  rfl

theorem delivers (talk : Talking l p items q got) (sender : l.sender.PlainInv)
    (receiver : l.receiver.PlainInv) : Delivers l := by
  have first : got.map Prod.fst <+: l.sender.tx.messages := by
    apply List.IsPrefix.trans _ (talk.sent_prefix sender)
    rw [List.append_assoc]
    exact List.prefix_append _ _
  have posted : (l.sender.tx.messages.map Message.op).Nodup := by
    rw [SendSide.messages_op]
    exact Ledger.nodup sender.list.books
  have done : (l.receiver.rx.completions.map Completion.op).Nodup := by
    rw [RecvSide.completions_op]
    exact Ledger.done_nodup receiver.recvBooks
  constructor
  · intro v
    rw [RecvSide.completionsOn_op, receiver.order v]
    exact List.prefix_append _ _
  · intro v
    rw [talk.delivered_eq receiver]
    exact (first.filter _).map _
  · refine ⟨got, talk.completions, ?_, ?_, first, fun x member => ?_⟩
    · exact first.sublist.nodup (List.Nodup.of_map _ posted)
    · rw [talk.completions, List.map_map] at done
      exact done
    · exact RecvSide.mem_postedOn.mpr (talk.received x member)

end Talking

/-! ## When nothing moves -/

namespace SockScheduler
variable {s : SockScheduler}

theorem sendReturned_isSome {part : SendPart} {op : OpId} {token : StopId}
    (task : s.tx.mSendTask = .sending part op token) (ec : ErrorCode) (bt : Nat) :
    ∃ t, s.sendReturned ec bt = some t := by
  unfold sendReturned
  rw [task]
  dsimp only
  split
  · exact ⟨_, rfl⟩
  · cases part <;> exact ⟨_, rfl⟩

theorem recvReturned_isSome {bytes : List UInt8} (size : s.recvSize = some bytes.length)
    (ec : ErrorCode) (bt : Nat) : ∃ t, s.recvReturned ec bt bytes = some t := by
  have asked : ¬ s.recvSize ≠ some bytes.length := not_not.mpr size
  unfold recvReturned
  rw [if_neg asked]
  unfold recvSize at size
  cases task : s.rx.mRecvTask with
  | header token =>
    dsimp only
    split
    · exact ⟨_, rfl⟩
    · split <;> exact ⟨_, rfl⟩
  | control header token =>
    dsimp only
    split
    · exact ⟨_, rfl⟩
    · split <;> exact ⟨_, rfl⟩
  | body frame op token => exact ⟨_, rfl⟩
  | _ =>
    rw [task] at size
    cases size

end SockScheduler

namespace Duplex
variable {d : Duplex}

theorem Quiet.swap (quiet : d.Quiet) : d.swap.Quiet := by
  intro e d' taken
  have mirrored := quiet e.swap d'.swap (step_swap taken)
  cases e <;> exact mirrored

theorem Quiet.stuck_a (quiet : d.Quiet) {e : SockScheduler.Event} (internal : e.internal = true)
    (lawful : Link.Lawful d.a e) (arrives : Link.Arrives d.ba e) : d.a.step e = none := by
  cases moved : d.a.step e with
  | none => rfl
  | some t =>
    have taken : d.step (.a e) = some { d with
        a := t
        ab := d.ab ++ Link.written d.a e
        ba := Link.unread d.ba e } := by
      apply Option.ite_none_right_eq_some.mpr
      exact ⟨⟨lawful, arrives⟩, Option.map_eq_some_iff.mpr ⟨t, moved, rfl⟩⟩
    have idle : e.internal = false := quiet _ _ taken
    rw [internal] at idle
    cases idle

theorem Quiet.queued (quiet : d.Quiet) (cb : Callback) : cb ∉ d.a.queued := by
  intro waits
  have stuck := quiet.stuck_a (e := .run cb) rfl trivial trivial
  simp only [SockScheduler.step, if_pos waits] at stuck
  cases stuck

/-- The send task is parked. -/
theorem Quiet.sender (quiet : d.Quiet) (inv : d.a.PlainInv) :
    d.a.tx.mSendTask = .nextSendOp none := by
  cases task : d.a.tx.mSendTask with
  | nextSendOp r =>
    cases r with
    | none => rfl
    | some r => exact absurd (inv.base.send.ready (by rw [task]; rfl)) (quiet.queued _)
  | sending part op token =>
    have out : Link.outgoing d.a = d.a.sendBytes part op := by simp [Link.outgoing, task]
    have stuck := quiet.stuck_a (e := .sendReturned Code.success (d.a.sendBytes part op).length)
      rfl ⟨by rw [out], fun _ => by rw [out]⟩ trivial
    obtain ⟨t, returned⟩ := sendReturned_isSome task Code.success (d.a.sendBytes part op).length
    have moved : d.a.step (.sendReturned Code.success (d.a.sendBytes part op).length) = some t :=
      returned
    rw [stuck] at moved
    cases moved
  | done => exact absurd (by rw [task]; trivial) inv.sending

/-- The receive task is parked, or waits for more than there is on the wire. -/
theorem Quiet.receiver (quiet : d.Quiet) (inv : d.a.PlainInv) :
    d.a.rx.mRecvTask = .anyRecvOp none ∨
    (∃ frame, d.a.rx.mRecvTask = .getRequested frame none) ∨
    ∃ n, d.a.recvSize = some n ∧ d.ba.length < n := by
  have starved : ∀ n, d.a.recvSize = some n → d.ba.length < n := by
    intro n size
    by_contra enough
    have length : (d.ba.take n).length = n := by
      rw [List.length_take]
      omega
    have stuck := quiet.stuck_a (e := .recvReturned Code.success n (d.ba.take n)) rfl
      ⟨by rw [length], fun _ => length.symm⟩
      ⟨Nat.not_lt.mp enough, by rw [List.take_take, Nat.min_self]⟩
    obtain ⟨t, returned⟩ := recvReturned_isSome (by rw [length]; exact size) Code.success n
    have moved : d.a.step (.recvReturned Code.success n (d.ba.take n)) = some t := returned
    rw [stuck] at moved
    cases moved
  have woken : d.a.rx.mRecvTask.ready = false := by
    cases ready : d.a.rx.mRecvTask.ready with
    | false => rfl
    | true => exact absurd (inv.base.recv.ready ready) (quiet.queued _)
  cases task : d.a.rx.mRecvTask with
  | anyRecvOp r =>
    cases r with
    | none => exact .inl rfl
    | some r =>
      rw [task] at woken
      cases woken
  | getRequested frame r =>
    cases r with
    | none => exact .inr (.inl ⟨frame, rfl⟩)
    | some r =>
      rw [task] at woken
      cases woken
  | header token =>
    have size : d.a.recvSize = some headerSize := by simp [recvSize, task]
    exact .inr (.inr ⟨_, size, starved _ size⟩)
  | control header token =>
    have size : d.a.recvSize = some controlBlockSize := by simp [recvSize, task]
    exact .inr (.inr ⟨_, size, starved _ size⟩)
  | body frame op token =>
    have size : d.a.recvSize = some frame.header.mSize.toNat := by simp [recvSize, task]
    exact .inr (.inr ⟨_, size, starved _ size⟩)
  | done => exact absurd (by rw [task]; trivial) inv.reading

end Duplex

namespace SockScheduler
variable {s : SockScheduler} {v : UInt64 × UInt64}

/-- A receive waits exactly if one is queued. -/
theorem PlainInv.waitsOn_iff (inv : PlainInv s) : s.WaitsOn v ↔ s.queuedOn v ≠ [] := by
  constructor
  · rintro ⟨op, posted, pending⟩ empty
    rw [inv.order v, empty, List.append_nil] at posted
    exact pending (List.mem_filter.mp posted).1
  · intro some_
    obtain ⟨op, queued⟩ := List.exists_mem_of_ne_nil _ some_
    refine ⟨op, ?_, ?_⟩
    · rw [inv.order v]
      exact List.mem_append_right _ queued
    · -- an operation in a queue is live
      have home : s.rx.home op ≠ none := by
        unfold queuedOn at queued
        split at queued
        · rw [inv.base.recv.queues.mem.mp queued]
          exact nofun
        · cases queued
      apply Ledger.not_done inv.recvBooks
      rw [RecvSide.isSome_cell]
      obtain ⟨slot, there⟩ := Option.ne_none_iff_exists'.mp home
      obtain ⟨o, live, _⟩ := Option.map_eq_some_iff.mp there
      rw [live]
      rfl

end SockScheduler

namespace Talking
variable {l : Link} {p q : Spot} {items : List Item} {got : List Delivery}

/-- The send task is parked: all that was sent has been started. -/
theorem sent_all (talk : Talking l p items q got) (sender : l.sender.PlainInv)
    (parked : l.sender.tx.mSendTask = .nextSendOp none) :
    got.map Prod.fst ++ p.pos.message ++ messagesOf items = l.sender.tx.messages := by
  apply (talk.sent_prefix sender).eq_of_length
  have pending := sender.list.sendList.parked parked
  have waiting : l.sender.tx.waitingOps = [] := by
    unfold SendSide.waitingOps
    rw [pending]
    rfl
  have all := sender.posted_started
  rw [waiting, List.append_nil, talk.started, parked] at all
  have lengths := congrArg List.length all
  rw [← SendSide.messages_op] at lengths
  simpa [SendTask.unheaded] using lengths

/-- The wire has less than the task asks for: nothing, and nothing is on its way. -/
theorem starved (talk : Talking l p items q got)
    (parked : l.sender.tx.mSendTask = .nextSendOp none) {n : Nat}
    (size : l.receiver.recvSize = some n) (few : l.wire.length < n) :
    p.pos.message = [] ∧ items = [] := by
  have length := recvSize_at talk.reads.task size
  have nothing : l.wire = [] := by
    by_contra some_
    have whole := talk.stream.size_le some_
    omega
  have stream := talk.stream
  rw [nothing] at stream
  obtain ⟨rfl, rfl⟩ := stream.of_nil
  have there := talk.writes.task
  rw [parked] at there
  refine ⟨?_, rfl⟩
  cases pos : p.pos with
  | body k m =>
    rw [pos] at there
    cases there
  | _ => rfl

theorem blocked (talk : Talking l p items q got) (sender : l.sender.PlainInv)
    (receiver : l.receiver.PlainInv) (parked : l.sender.tx.mSendTask = .nextSendOp none)
    (rests : l.receiver.rx.mRecvTask = .anyRecvOp none ∨
      (∃ frame, l.receiver.rx.mRecvTask = .getRequested frame none) ∨
      ∃ n, l.receiver.recvSize = some n ∧ l.wire.length < n) : BlockedElsewhere l := by
  intro v waits undelivered
  rw [receiver.waitsOn_iff] at waits
  rcases rests with any | ⟨frame, requested⟩ | ⟨n, size, starved⟩
  · -- no receive is posted at all
    have empty := receiver.serving.parking.parkedAny any
    refine absurd ?_ waits
    unfold queuedOn
    split
    · exact empty _
    · rfl
  · obtain ⟨slot, mapped, empty⟩ := receiver.serving.parking.parkedOn frame requested
    obtain ⟨found, _⟩ := receiver.tables.remotes.get mapped
    have owner : l.receiver.table.mIdSocketForkMapping_
        (l.receiver.table.fork slot).mSessionID.mVal = some slot :=
      (receiver.tables.ids _ slot).mpr ⟨_, found, rfl⟩
    have idle : l.receiver.queuedOn (l.receiver.table.fork slot).mSessionID.mVal = [] := by
      rw [queuedOn_of_mapped owner, empty]
    refine ⟨(l.receiver.table.fork slot).mSessionID.mVal, ?_, ⟨frame, requested, ?_⟩, ?_⟩
    · intro same
      exact waits (same ▸ idle)
    · rw [ForkTable.peerSession, mapped]
      rfl
    · rw [receiver.waitsOn_iff, not_not]
      exact idle
  · obtain ⟨between, nothing⟩ := talk.starved parked size starved
    have all := talk.sent_all sender parked
    rw [between, nothing, List.append_nil] at all
    refine absurd ?_ undelivered
    rw [talk.delivered_eq receiver, SendSide.payloadsOn, ← all]
    simp [messagesOf]

end Talking

namespace Duplex
variable {d : Duplex}

theorem Inv.blocked (inv : d.Inv) (quiet : d.Quiet) : BlockedElsewhere d.link := by
  obtain ⟨p, items, q, got, talk⟩ := inv.ab
  exact talk.blocked inv.a inv.b (quiet.sender inv.a) (quiet.swap.receiver inv.b)

theorem Inv.delivers (inv : d.Inv) : Delivers d.link := by
  obtain ⟨p, items, q, got, talk⟩ := inv.ab
  exact talk.delivers inv.a inv.b

end Duplex

end Coproto
