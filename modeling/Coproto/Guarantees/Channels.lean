import Coproto.Guarantees.Settled
import Coproto.Lib.Channels

/-!
# A socket is a family of channels

SocketScheduler.h:542-594, 655-805, 814-1137, SocketScheduler.cpp:15-155. For those who use it, a
socket and its forks are one channel for each session in each direction, whatever the frames, the
slots and the callbacks in between do.
-/
namespace Coproto
open SockScheduler Runs Channels

/-- The receive an observation posts. -/
def RecvObs.asking : RecvObs → Option ((UInt64 × UInt64) × OpId)
  | .posted op session => some (session, op)
  | _ => none

namespace RecvSide

/-- The receives that were posted, in order, with their sessions. -/
def posts (rx : RecvSide) : List ((UInt64 × UInt64) × OpId) := rx.trace.filterMap RecvObs.asking

def sessionOf (rx : RecvSide) (op : OpId) : Option (UInt64 × UInt64) :=
  (rx.posts.find? (·.2 = op)).map Prod.fst

/-- What the receives got, in the order they completed. -/
def given (rx : RecvSide) : List ((UInt64 × UInt64) × OpId × List UInt8) :=
  rx.completions.filterMap fun c =>
    if c.error = none then (rx.sessionOf c.op).map (·, c.op, c.data) else none

variable {rx rx' : RecvSide} {op : OpId} {v : UInt64 × UInt64}

theorem mem_posts : (v, op) ∈ rx.posts ↔ .posted op v ∈ rx.trace := by
  unfold posts
  rw [List.mem_filterMap]
  constructor
  · rintro ⟨o, shown, names⟩
    cases o with
    | posted op' session =>
      cases names
      exact shown
    | _ => cases names
  · exact fun shown => ⟨_, shown, rfl⟩

theorem on_posts : on v rx.posts = rx.postedOn v := by
  unfold on posts postedOn
  rw [List.filter_filterMap, List.map_filterMap]
  apply List.filterMap_congr
  intro o _
  cases o with
  | posted op session =>
    by_cases here : session = v <;> simp [RecvObs.asking, RecvObs.postingOn, here]
  | _ => rfl

theorem sessionOf_posted {nextOp : OpId} (books : rx.Books nextOp) (shown : .posted op v ∈ rx.trace) :
    rx.sessionOf op = some v := by
  unfold sessionOf
  cases found : rx.posts.find? (·.2 = op) with
  | none =>
    have missing := List.find?_eq_none.mp found _ (mem_posts.mpr shown)
    exact absurd (decide_eq_true rfl) missing
  | some x =>
    obtain ⟨w, p⟩ := x
    have same : p = op := by simpa using List.find?_some found
    subst same
    have there := mem_posts.mp (List.mem_of_find?_eq_some found)
    rw [posted_session books there shown]
    rfl

end RecvSide

namespace Duplex

/-- What the callers of both ends see of the direction from `a` to `b`. -/
def history (d : Duplex) : History (UInt64 × UInt64) OpId (List UInt8) where
  sent := d.a.tx.messages.map fun m => (m.session, m.payload)
  asked := d.b.rx.posts
  given := d.b.rx.given

def acts (d d' : Duplex) : List (Act (UInt64 × UInt64) OpId (List UInt8)) :=
  d.history.acts d'.history

end Duplex

/-! ## The history of a conversation -/

namespace Talking
variable {l : Link} {p q : Spot} {items : List Item} {got : List Delivery}

theorem given_eq (talk : Talking l p items q got) (receiver : l.receiver.PlainInv) :
    l.receiver.rx.given = got.map fun x => (x.1.session, x.2, x.1.payload) := by
  unfold RecvSide.given
  rw [talk.completions, List.filterMap_map, ← List.filterMap_eq_map]
  apply List.filterMap_congr
  intro x member
  have session := RecvSide.sessionOf_posted receiver.recvBooks (talk.received x member)
  simp [Delivery.completion, session]

/-- What has been given stays. -/
theorem given_prefix (talk : Talking l p items q got) (receiver : l.receiver.PlainInv)
    {t : SockScheduler} (inv : t.PlainInv) (grows : l.receiver.rx.trace <+: t.rx.trace) :
    l.receiver.rx.given <+: t.rx.given := by
  obtain ⟨more, completions⟩ : l.receiver.rx.completions <+: t.rx.completions :=
    grows.filterMap _
  have same : l.receiver.rx.given = l.receiver.rx.completions.filterMap fun c =>
      if c.error = none then (t.rx.sessionOf c.op).map (·, c.op, c.data) else none := by
    apply List.filterMap_congr
    intro c member
    rw [talk.completions] at member
    obtain ⟨x, delivered, rfl⟩ := List.mem_map.mp member
    have shown := talk.received x delivered
    have before := RecvSide.sessionOf_posted receiver.recvBooks shown
    have after := RecvSide.sessionOf_posted inv.recvBooks (grows.subset shown)
    simp only [Delivery.completion]
    rw [before, after]
  rw [same, RecvSide.given, ← completions, List.filterMap_append]
  exact List.prefix_append _ _

end Talking

namespace Duplex
variable {d d' : Duplex} {v : UInt64 × UInt64}

theorem on_sent : on v d.history.sent = d.a.tx.payloadsOn v := by
  unfold on history SendSide.payloadsOn
  rw [List.filter_map, List.map_map]
  rfl

theorem on_asked : on v d.history.asked = d.b.rx.postedOn v := RecvSide.on_posts

theorem Inv.on_given (inv : d.Inv) (v : UInt64 × UInt64) :
    on v d.history.given = (d.b.rx.completionsOn v).map fun c => (c.op, c.data) := by
  obtain ⟨p, items, q, got, talk⟩ := inv.ab
  have done : d.b.rx.completionsOn v = _ := talk.completionsOn_eq inv.b v
  have all : d.history.given = _ := talk.given_eq inv.b
  rw [done, all]
  unfold on
  rw [List.filter_map, List.map_map, List.map_map]
  rfl

theorem Inv.fair (inv : d.Inv) : d.history.Fair := by
  have delivers := inv.delivers
  constructor
  · intro v
    rw [inv.on_given, List.map_map, on_asked]
    exact delivers.served v
  · intro v
    rw [inv.on_given, List.map_map, on_sent]
    exact delivers.order v

/-- The receivers of a channel that wait are the queue of its fork. -/
theorem Inv.waiting {c : Machine (UInt64 × UInt64) OpId (List UInt8)} (inv : d.Inv)
    (leaves : d.history.Leaves c) (v : UInt64 × UInt64) : c.waiting v = d.b.queuedOn v := by
  have left := leaves.waiting v
  have done : (d.b.rx.completionsOn v).map Completion.op = d.b.rx.doneOn v :=
    RecvSide.completionsOn_op
  rw [on_asked, inv.b.order v, inv.on_given, List.map_map, ← done] at left
  exact (List.append_cancel_left left).symm

theorem Inv.grows (inv : d.Inv) (inv' : d'.Inv) (sends : d.a.tx.trace <+: d'.a.tx.trace)
    (recvs : d.b.rx.trace <+: d'.b.rx.trace) : d.history.Grows d'.history := by
  obtain ⟨p, items, q, got, talk⟩ := inv.ab
  constructor
  · exact (sends.filterMap _).map _
  · exact recvs.filterMap _
  · exact talk.given_prefix inv.b inv'.b recvs

/-- The traces of both ends only grow. -/
theorem Inv.traces {e : Event} (inv : d.Inv) (plain : d.Plain e) (taken : d.step e = some d') :
    d.a.tx.trace <+: d'.a.tx.trace ∧ d.b.rx.trace <+: d'.b.rx.trace := by
  cases e with
  | a e =>
    obtain ⟨_, moved⟩ := Option.ite_none_right_eq_some.mp taken
    obtain ⟨t, went, rfl⟩ := Option.map_eq_some_iff.mp moved
    obtain ⟨more, trace, _⟩ := (sendStep inv.a.base went).grows
    exact ⟨⟨more, trace.symm⟩, List.prefix_rfl⟩
  | b e =>
    obtain ⟨step, _⟩ := inv.swap.step_a plain (step_swap taken)
    obtain ⟨_, moved⟩ := Option.ite_none_right_eq_some.mp taken
    obtain ⟨t, went, rfl⟩ := Option.map_eq_some_iff.mp moved
    obtain ⟨more, trace, _⟩ := step.recv_grows inv.b
    exact ⟨List.prefix_rfl, ⟨more, trace.symm⟩⟩

theorem Inv.follow {e : Event} {c : Machine (UInt64 × UInt64) OpId (List UInt8)} (inv : d.Inv)
    (leaves : d.history.Leaves c) (plain : d.Plain e) (taken : d.step e = some d') :
    ∃ c', Run Channels.step anyStep c (d.acts d') c' ∧ d'.Inv ∧ d'.history.Leaves c' := by
  have inv' := inv.step plain taken
  obtain ⟨sends, recvs⟩ := inv.traces plain taken
  obtain ⟨c', run, left⟩ := leaves.grow (inv.grows inv' sends recvs) inv'.fair
  exact ⟨c', run, inv', left⟩

end Duplex

end Coproto
