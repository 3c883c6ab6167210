import Coproto.Invariants.Listen

/-!
# Both ends of a conversation

What one end has started to send is what the other one has delivered, then what it is about to
deliver, then what is on the wire.
-/
namespace Coproto
open SockScheduler Traces

/-- One direction: where both tasks are, and what is between them. -/
structure Talking (l : Link) (p : Spot) (items : List Item) (q : Spot) (got : List Delivery) :
    Prop where
  reads : l.receiver.Reads p
  writes : l.sender.Writes q
  ok : p.Ok
  stream : Speech p l.wire items q
  started : l.sender.tx.startedOps =
    (got.map Prod.fst ++ p.pos.message ++ messagesOf items).map Message.op ++
      l.sender.tx.mSendTask.unheaded
  posted : ∀ m ∈ got.map Prod.fst ++ p.pos.message ++ messagesOf items, m.Posted l.sender.tx.trace
  completions : l.receiver.rx.completions = got.map Delivery.completion
  received : ∀ x ∈ got, .posted x.2 x.1.session ∈ l.receiver.rx.trace

def Talks (l : Link) : Prop := ∃ p items q got, Talking l p items q got

namespace Talks
variable {l : Link} {e : SockScheduler.Event} {t : SockScheduler}

theorem init (sid sid' : SessionID) : Talks (Link.init sid sid') := by
  refine ⟨⟨.between, fun _ => none⟩, [], ⟨.between, fun _ => none⟩, [], ?_⟩
  unfold Link.init
  simp only [BaseInv.init_eq]
  refine ⟨⟨trivial, fun k => rfl⟩, ⟨trivial, fun k v => ?_, nofun⟩, nofun, .nil _, rfl, nofun, rfl,
    nofun⟩
  constructor
  · exact nofun
  · rintro ⟨⟨i, f, found, initiated, _⟩, _⟩
    have found : (ForkTable.init sid).mSocketForks_[i]? = some f := found
    rw [ForkTable.init_get] at found
    split at found <;> cases found
    cases initiated

/-- The sender moves. -/
theorem sender (talks : Talks l) (inv : l.sender.PlainInv) (inv' : t.PlainInv)
    (step : l.sender.PlainStep e t) (send : l.sender.SendStep e t) :
    Talks { l with
      sender := t
      wire := l.wire ++ Link.written l.sender e } := by
  obtain ⟨p, items, q, got, talk⟩ := talks
  obtain ⟨more, q', speech, writes, posted, started⟩ :=
    step.speaks inv inv' send (talk.stream.ok talk.ok) talk.writes
  refine ⟨p, items ++ more, q', got, talk.reads, writes, talk.ok, talk.stream.append speech, ?_, ?_,
    talk.completions, talk.received⟩
  · have added := started _ talk.started
    rw [messagesOf_append, ← List.append_assoc, List.map_append]
    exact added
  · intro m member
    rw [messagesOf_append, ← List.append_assoc] at member
    rcases List.mem_append.mp member with old | new
    · exact send.grows.kept (talk.posted m old)
    · exact posted m new

/-- The receiver moves. -/
theorem receiver (talks : Talks l) (inv : l.receiver.PlainInv) (inv' : t.PlainInv)
    (step : l.receiver.PlainStep e t) (recv : l.receiver.RecvStep e t)
    (asked : ∀ ec bt bytes, e = .recvReturned ec bt bytes → l.receiver.recvSize = some bytes.length)
    (arrives : Link.Arrives l.wire e) :
    Talks { l with
      receiver := t
      wire := Link.unread l.wire e } := by
  obtain ⟨p, items, q, got, talk⟩ := talks
  obtain ⟨ys, zs, p', more, rfl, speech, reads, ok, moved, completions, received⟩ :=
    step.hears inv inv' recv talk.ok talk.reads talk.stream asked arrives
  -- what was about to be delivered, and what was just read
  have same : (got ++ more).map Prod.fst ++ p'.pos.message ++ messagesOf zs =
      got.map Prod.fst ++ p.pos.message ++ messagesOf (ys ++ zs) := by
    rw [messagesOf_append, List.map_append]
    simp only [List.append_assoc]
    rw [← List.append_assoc _ p'.pos.message, ← moved]
    simp only [List.append_assoc]
  refine ⟨p', zs, q, got ++ more, reads, talk.writes, ok, speech, ?_, ?_, ?_, ?_⟩
  · rw [same]
    exact talk.started
  · rw [same]
    exact talk.posted
  · rw [completions, talk.completions, List.map_append]
  · intro x member
    rcases List.mem_append.mp member with old | new
    · exact (step.recv_grows inv).kept (talk.received x old)
    · exact received x new

end Talks

/-! ## The run -/

namespace Duplex
variable {d d' : Duplex}

/-- Neither end is let down by its caller or by its transport. -/
def Plain (d : Duplex) : Event → Prop
  | .a e => Coproto.Plain d.a e
  | .b e => Coproto.Plain d.b e

instance (d : Duplex) (e : Event) : Decidable (d.Plain e) := by
  unfold Plain
  split <;> infer_instance

structure Inv (d : Duplex) : Prop where
  a : d.a.PlainInv
  b : d.b.PlainInv
  ab : Talks d.link
  ba : Talks d.swap.link

theorem Inv.swap (inv : d.Inv) : d.swap.Inv := ⟨inv.b, inv.a, inv.ba, inv.ab⟩

theorem Inv.init (sid sid' : SessionID) : (init sid sid').Inv :=
  ⟨PlainInv.init sid, PlainInv.init sid', Talks.init sid sid', Talks.init sid' sid⟩

/-- The end that moves does both: it speaks, and it listens. -/
theorem Inv.step_a {e : SockScheduler.Event} (inv : d.Inv) (plain : Coproto.Plain d.a e)
    (taken : d.step (.a e) = some d') : d.a.PlainStep e d'.a ∧ d'.Inv := by
  obtain ⟨⟨lawful, arrives⟩, moved⟩ := Option.ite_none_right_eq_some.mp taken
  obtain ⟨t, went, rfl⟩ := Option.map_eq_some_iff.mp moved
  have wellFormed : ∀ ec bt bytes, e = .recvReturned ec bt bytes → ¬ d.a.Malformed bytes := by
    rintro ec bt bytes rfl
    obtain ⟨p, items, q, got, talk⟩ := inv.ba
    obtain rfl : bt = bytes.length := lawful.2 plain
    exact talk.reads.wellFormed talk.ok inv.a.tables talk.stream (recvSize_of_taken went) arrives
  obtain ⟨step, inv'⟩ := inv.a.step plain lawful wellFormed went
  refine ⟨step, inv', inv.b, ?_, ?_⟩
  · exact inv.ab.sender inv.a inv' step (sendStep inv.a.base went)
  · refine inv.ba.receiver inv.a inv' step (recvStep inv.a.base went) ?_ arrives
    rintro ec bt bytes rfl
    exact recvSize_of_taken went

theorem Inv.step {e : Event} (inv : d.Inv) (plain : d.Plain e) (taken : d.step e = some d') :
    d'.Inv := by
  cases e with
  | a e => exact (inv.step_a plain taken).2
  | b e =>
    have mirrored := step_swap taken
    exact (inv.swap.step_a plain mirrored).2.swap

end Duplex
end Coproto
