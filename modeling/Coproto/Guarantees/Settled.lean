import Coproto.Guarantees.Delivery

/-!
# What has happened when nothing moves

SocketScheduler.h:668-722, 741-805, 969-1026. Two schedulers over a transport that does not fail
do not get stuck: they rest when every send is done and the next message is one that nobody has
asked for.
-/
namespace Coproto
open SockScheduler Runs

structure Settled (l : Link) : Prop where
  /-- Every send has completed. -/
  sends : ∀ op ∈ l.sender.tx.postedOps, .completed op none ∈ l.sender.tx.trace
  /-- No receive waits on the session of the next message. -/
  next : ∀ m, l.sender.tx.messages[l.receiver.rx.completions.length]? = some m →
    ¬ l.receiver.WaitsOn m.session
  /-- Everything has arrived that there are receives for, if there are enough of them. -/
  all : (∀ v, (l.sender.tx.payloadsOn v).length ≤ (l.receiver.rx.postedOn v).length) →
    ∀ v, (l.receiver.rx.completionsOn v).map Completion.data = l.sender.tx.payloadsOn v

namespace SockScheduler
variable {s : SockScheduler}

theorem PlainInv.sends_done (inv : PlainInv s) (parked : s.tx.mSendTask = .nextSendOp none) {op : OpId}
    (posted : op ∈ s.tx.postedOps) : .completed op none ∈ s.tx.trace := by
  have none := inv.list.sendList.parked parked
  have done : op ∈ s.tx.doneOps := by
    by_contra pending
    have member := SendSide.mem_pendingOps.mpr ⟨posted, pending⟩
    rw [none] at member
    cases member
  obtain ⟨o, shown, names⟩ := List.mem_filterMap.mp done
  have calm := inv.calm o shown
  cases o with
  | completed p error =>
    cases names
    cases error with
    | none => exact shown
    | some e => exact calm.elim
  | _ => cases names

end SockScheduler

namespace Talking
variable {l : Link} {p q : Spot} {items : List Item} {got : List Delivery}

theorem next_unasked (talk : Talking l p items q got) (sender : l.sender.PlainInv)
    (receiver : l.receiver.PlainInv) (parked : l.sender.tx.mSendTask = .nextSendOp none)
    (rests : l.receiver.rx.mRecvTask = .anyRecvOp none ∨
      (∃ frame, l.receiver.rx.mRecvTask = .getRequested frame none) ∨
      ∃ n, l.receiver.recvSize = some n ∧ l.wire.length < n) {m : Message}
    (next : l.sender.tx.messages[l.receiver.rx.completions.length]? = some m) :
    ¬ l.receiver.WaitsOn m.session := by
  have all := talk.sent_all sender parked
  rw [receiver.waitsOn_iff, not_not]
  rw [talk.completions, List.length_map, ← all] at next
  rcases rests with any | ⟨frame, requested⟩ | ⟨n, size, starved⟩
  · have empty := receiver.serving.parking.parkedAny any
    unfold queuedOn
    split
    · exact empty _
    · rfl
  · -- the frame is the one of this message
    obtain ⟨slot, mapped, empty⟩ := receiver.serving.parking.parkedOn frame requested
    have there := talk.reads.task
    rw [requested] at there
    cases pos : p.pos with
    | body k m' =>
      rw [pos] at there next
      have same : m' = m := by simpa [Position.message] using next
      subst same
      obtain ⟨named, _⟩ := talk.ok k m' pos
      have known := talk.reads.names k
      have number : frame.header.mForkId = k := there.1
      rw [number] at mapped
      rw [named, ForkTable.peerSession, mapped, Option.map_some, Option.some.injEq] at known
      have found := (receiver.tables.remotes.get mapped).1
      have owner := (receiver.tables.ids m'.session slot).mpr ⟨_, found, known.symm⟩
      rw [queuedOn_of_mapped owner, empty]
    | _ =>
      rw [pos] at there
      cases there
  · obtain ⟨between, items_⟩ := talk.starved parked size starved
    rw [between, items_] at next
    simp [messagesOf] at next

/-- Enough receives: every payload has arrived. -/
theorem arrived (talk : Talking l p items q got) (sender : l.sender.PlainInv)
    (receiver : l.receiver.PlainInv) (parked : l.sender.tx.mSendTask = .nextSendOp none)
    (unasked : ∀ m, l.sender.tx.messages[l.receiver.rx.completions.length]? = some m →
      ¬ l.receiver.WaitsOn m.session)
    (enough : ∀ v, (l.sender.tx.payloadsOn v).length ≤ (l.receiver.rx.postedOn v).length)
    (v : UInt64 × UInt64) :
    (l.receiver.rx.completionsOn v).map Completion.data = l.sender.tx.payloadsOn v := by
  have all := talk.sent_all sender parked
  rw [List.append_assoc] at all
  cases left : p.pos.message ++ messagesOf items with
  | nil =>
    rw [left, List.append_nil] at all
    rw [talk.delivered_eq receiver, SendSide.payloadsOn, ← all]
  | cons m ms =>
    rw [left] at all
    have next : l.sender.tx.messages[l.receiver.rx.completions.length]? = some m := by
      rw [talk.completions, List.length_map, ← all]
      simp
    have idle := unasked m next
    rw [receiver.waitsOn_iff, not_not] at idle
    -- all receives of this session are done, and there are more payloads than that
    have delivered := congrArg List.length (talk.delivered_eq receiver m.session)
    have posted := congrArg List.length (receiver.order m.session)
    rw [idle, List.append_nil, ← RecvSide.completionsOn_op, List.length_map] at posted
    have few := enough m.session
    rw [posted, SendSide.payloadsOn, ← all, List.filter_append, List.map_append,
      List.length_append, ← delivered, List.length_map] at few
    simp at few

theorem settled (talk : Talking l p items q got) (sender : l.sender.PlainInv)
    (receiver : l.receiver.PlainInv) (parked : l.sender.tx.mSendTask = .nextSendOp none)
    (rests : l.receiver.rx.mRecvTask = .anyRecvOp none ∨
      (∃ frame, l.receiver.rx.mRecvTask = .getRequested frame none) ∨
      ∃ n, l.receiver.recvSize = some n ∧ l.wire.length < n) : Settled l := by
  have unasked := fun m next => talk.next_unasked sender receiver parked rests (m := m) next
  constructor
  · exact fun op posted => sender.sends_done parked posted
  · exact unasked
  · exact talk.arrived sender receiver parked unasked

end Talking

theorem Duplex.Inv.settled {d : Duplex} (inv : d.Inv) (quiet : d.Quiet) : Settled d.link := by
  obtain ⟨p, items, q, got, talk⟩ := inv.ab
  exact talk.settled inv.a inv.b (quiet.sender inv.a) (quiet.swap.receiver inv.b)

/-! ## Rest -/

/-- No callback is queued, and no call can return: none is in flight, or there is too little on the
wire. -/
def SockScheduler.Rests (s : SockScheduler) (wire : List UInt8) : Prop :=
  s.queued = [] ∧ s.tx.mSendTask.sends = none ∧ ∀ n ∈ s.recvSize, wire.length < n

instance (s : SockScheduler) (wire : List UInt8) : Decidable (s.Rests wire) :=
  inferInstanceAs (Decidable (_ ∧ _ ∧ _))

theorem SockScheduler.Rests.idle {s t : SockScheduler} {wire : List UInt8}
    {e : SockScheduler.Event} (rests : s.Rests wire) (lawful : Link.Lawful s e)
    (arrives : Link.Arrives wire e) (taken : s.step e = some t) : e.internal = false := by
  obtain ⟨queued, sends, reads⟩ := rests
  cases e with
  | run cb =>
    simp only [SockScheduler.step, queued, List.not_mem_nil, if_false] at taken
    cases taken
  | sendReturned ec bt =>
    have returned : s.sendReturned ec bt = some t := taken
    unfold sendReturned at returned
    cases task : s.tx.mSendTask with
    | sending part op token =>
      rw [task] at sends
      cases sends
    | _ =>
      rw [task] at returned
      cases returned
  | recvReturned ec bt bytes =>
    cases failed : ec.isError with
    | true => simp [SockScheduler.Event.internal, failed]
    | false =>
      have size := reads _ (recvSize_of_taken taken)
      obtain rfl : bt = bytes.length := lawful.2 failed
      exact absurd arrives.1 (Nat.not_le.mpr size)
  | _ => rfl

end Coproto
