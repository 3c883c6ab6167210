import Coproto.Guarantees.QueueErase
import Coproto.Invariants.QueueIterator
import Mathlib.Data.List.InsertIdx
import Mathlib.Data.List.Perm.Basic

/-!
# A queue is a list

Common/Queue.h:64-189, 279-354, 381-394. Under `push_back`, `pop_front` and
`erase(Iterator)` a queue is a list whose elements keep their addresses. The
counters of a block are 64 bits wide and are compared as they are: once they pass
`2 ^ 64` with entries on both sides, an iterator to the later ones is not valid.
-/
namespace Coproto
open Runs

namespace Queue
variable {α : Type} {q t : Queue α} {e : Event α} {events : List (Event α)}

/-- The list under the same calls. -/
def listStep (l : List α) : Event α → Option (List α)
  | .pushBack x => some (l ++ [x])
  | .popFront =>
    match l with
    | [] => none
    | _ :: rest => some rest
  | .erase k => if k < l.length then some (l.eraseIdx k) else none
  | .erasePtr _ | .reserve _ => none

/-- A call of the list, and no counter passes `2 ^ 64` between entries. -/
def NoWrap (q : Queue α) : Event α → Prop
  | .pushBack _ => ¬ Wraps q
  | .popFront | .erase _ => True
  | .erasePtr _ | .reserve _ => False

instance (q : Queue α) (e : Event α) : Decidable (NoWrap q e) := by
  rcases e with ⟨⟩ <;> dsimp only [NoWrap] <;> infer_instance

/-- What was pushed, in order. -/
def pushed (events : List (Event α)) : List α :=
  events.filterMap fun
    | .pushBack x => some x
    | _ => none

/-- One call. The other elements stay where they are, and only the one that is
taken off is destroyed. -/
def Moves (q : Queue α) (e : Event α) (t : Queue α) : Prop :=
  match e with
  | .pushBack x => (∃ p, (∀ r ∈ q.contents, r.1 ≠ p) ∧ t.contents = q.contents ++ [(p, x)]) ∧
      t.destroyed = q.destroyed
  | .popFront => ∃ r, q.contents = r :: t.contents ∧ t.destroyed = q.destroyed ++ [r]
  | .erase k => ∃ r, q.contents[k]? = some r ∧ t.contents = q.contents.eraseIdx k ∧
      t.destroyed = q.destroyed ++ [r]
  | .erasePtr _ | .reserve _ => False

/-- The queue, reached by these events, as a list of elements with their addresses. -/
structure IsList (events : List (Event α)) (q : Queue α) : Prop where
  list : Run listStep anyStep [] events (q.contents.map (·.2))
  size : q.mSize = q.contents.length
  /-- The front slot of a queue that is not empty holds its first element. -/
  front : ∀ r ∈ q.contents.head?, q.frontEntry = .ok (some r) ∧ Queue.front q = .ok r
  visit : q.visit = .ok q.contents
  /-- What the list can do the queue can do, as long as there is memory. -/
  enabled : ∀ e l, listStep (q.contents.map (·.2)) e = some l →
    q.call e = .error .badAlloc ∨ ∃ t, q.call e = .ok t
  moves : ∀ e t, NoWrap q e → step q e = some t → Moves q e t
  /-- Every element was destroyed, once, or is still there. -/
  once : (pushed events).Perm ((q.destroyed ++ q.contents).map (·.2))
  /-- Blocks that were given back hold nothing and lie before the last one. -/
  released : ∀ d ∈ q.deleted, (∀ s, d.data s = none) ∧ ∀ last ∈ q.mLast, d.addr < last.addr

theorem NoWrap.keepsFilled (met : NoWrap q e) : KeepsFilled q e := by
  cases e with
  | reserve c => exact met.elim
  | _ => trivial

theorem Removes.eraseIdx {r : EntryPtr × α} {k : Nat} (ok : q.Ok) (removes : Removes q t r)
    (here : q.contents[k]? = some r) : t.contents = q.contents.eraseIdx k := by
  rw [removes.contents]
  exact ok.chain.keyed.filter_eq_eraseIdx here

theorem Ok.moves (ok : q.Ok) (met : NoWrap q e) (taken : Queue.step q e = some t) : Moves q e t := by
  have calls := call_of_step taken
  cases e with
  | pushBack x =>
    rcases ok.emplaceBack x with fails | ⟨t', p, same, adds⟩
    · cases fails.symm.trans calls
    · obtain rfl := Except.ok.inj (same.symm.trans calls)
      refine ⟨⟨p, fun r member => ?_, adds.contents⟩, adds.destroyed⟩
      have keyed := adds.ok.chain.keyed
      rw [show live t'.blocks = q.contents ++ [(p, x)] from adds.contents] at keyed
      exact (List.pairwise_append.mp keyed).2.2 r member (p, x) List.mem_cons_self
  | popFront =>
    obtain ⟨r, rest, first, removes⟩ := ok.popFront_eq_ok calls
    refine ⟨r, ?_, removes.destroyed⟩
    have erased := removes.eraseIdx ok (k := 0) (by rw [first]; rfl)
    rw [erased, first]
    rfl
  | erase k =>
    obtain ⟨r, here, removes⟩ := ok.erase_inv calls
    exact ⟨r, here, removes.eraseIdx ok here, removes.destroyed⟩
  | erasePtr p => exact met.elim
  | reserve c => exact met.elim

/-- Invariant of runs without wrap-around. -/
theorem unwrapped_step (ok : q.Ok) (unwrapped : ∀ b ∈ q.blocks, b.Unwrapped) (met : NoWrap q e)
    (taken : step q e = some t) : ∀ b ∈ t.blocks, b.Unwrapped := by
  rcases ok.step_cases met.keepsFilled taken with
    ⟨x, p, rfl, adds⟩ | ⟨r, _, removes⟩ | ⟨c, rfl, _⟩
  · exact adds.unwrapped met unwrapped
  · exact removes.unwrapped unwrapped
  · exact met.elim

theorem unwrapped_empty : ∀ b ∈ (Queue.empty : Queue α).blocks, b.Unwrapped := by
  intro b member
  have none : ({ addr := 0, mSizeMask := DefaultCapacity - 1 } : Block α).occupied = 0 :=
    UInt64.sub_self 0
  rw [List.mem_singleton.mp member, Block.Unwrapped, none]
  exact Nat.zero_le _

theorem contents_empty : (Queue.empty : Queue α).contents = [] := by
  have size := (Ok.empty : (Queue.empty : Queue α).Ok).size
  exact List.length_eq_zero_iff.mp size.symm

theorem ok_of_noWrap (run : Run Queue.step NoWrap Queue.empty events q) :
    q.Ok ∧ ∀ b ∈ q.blocks, b.Unwrapped := by
  induction run with
  | nil => exact ⟨Ok.empty, unwrapped_empty⟩
  | snoc _ met taken ih =>
    exact ⟨ih.1.step met.keepsFilled taken, unwrapped_step ih.1 ih.2 met taken⟩

theorem Moves.listStep (moves : Moves q e t) :
    listStep (q.contents.map (·.2)) e = some (t.contents.map (·.2)) := by
  cases e with
  | pushBack x =>
    obtain ⟨⟨p, _, appended⟩, _⟩ := moves
    rw [Queue.listStep, appended, List.map_append]
    rfl
  | popFront =>
    obtain ⟨r, first, _⟩ := moves
    rw [first]
    rfl
  | erase k =>
    obtain ⟨r, here, erased, _⟩ := moves
    obtain ⟨inside, _⟩ := List.getElem?_eq_some_iff.mp here
    rw [Queue.listStep, List.length_map, if_pos inside, erased, List.eraseIdx_map]
  | erasePtr p => exact moves.elim
  | reserve c => exact moves.elim

theorem Moves.perm (moves : Moves q e t) :
    ((q.destroyed ++ q.contents).map (·.2) ++ pushed [e]).Perm
      ((t.destroyed ++ t.contents).map (·.2)) := by
  cases e with
  | pushBack x =>
    obtain ⟨⟨p, _, appended⟩, destroyed⟩ := moves
    apply List.Perm.of_eq
    rw [appended, destroyed]
    simp [pushed]
  | popFront =>
    obtain ⟨r, first, destroyed⟩ := moves
    rw [first, destroyed, List.append_assoc]
    exact List.Perm.of_eq (List.append_nil _)
  | erase k =>
    obtain ⟨r, here, erased, destroyed⟩ := moves
    obtain ⟨inside, rfl⟩ := List.getElem?_eq_some_iff.mp here
    rw [erased, destroyed, List.append_assoc]
    have split : (pushed [Event.erase k] : List α) = [] := rfl
    rw [split, List.append_nil]
    apply List.Perm.map
    apply List.Perm.append_left
    exact (List.getElem_cons_eraseIdx_perm inside).symm
  | erasePtr p => exact moves.elim
  | reserve c => exact moves.elim

theorem list_of_run (run : Run Queue.step NoWrap Queue.empty events q) :
    Run listStep anyStep [] events (q.contents.map (·.2)) ∧
      (pushed events).Perm ((q.destroyed ++ q.contents).map (·.2)) := by
  induction run with
  | nil =>
    rw [contents_empty]
    exact ⟨.nil, List.Perm.refl []⟩
  | @snoc es q t e before met taken ih =>
    have moves := (ok_of_noWrap before).1.moves met taken
    refine ⟨.snoc ih.1 trivial moves.listStep, ?_⟩
    have split : pushed (es ++ [e]) = pushed es ++ pushed [e] := List.filterMap_append
    rw [split]
    exact (ih.2.append_right _).trans moves.perm

theorem Ok.enabled (ok : q.Ok) (unwrapped : ∀ b ∈ q.blocks, b.Unwrapped) {l : List α}
    (step : listStep (q.contents.map (·.2)) e = some l) :
    q.call e = .error .badAlloc ∨ ∃ t, q.call e = .ok t := by
  cases e with
  | pushBack x =>
    rcases ok.emplaceBack x with fails | ⟨t, _, same, _⟩
    · exact .inl fails
    · exact .inr ⟨t, same⟩
  | popFront =>
    rcases ok.first with ⟨empty, _⟩ | ⟨r, rest, first, _⟩
    · rw [empty] at step
      cases step
    · obtain ⟨t, same, _⟩ := ok.popFront first
      exact .inr ⟨t, same⟩
  | erase k =>
    rw [listStep, List.length_map] at step
    split at step
    · rename_i inside
      obtain ⟨t, same, _⟩ := ok.erase_at unwrapped (List.getElem?_eq_getElem inside)
      exact .inr ⟨t, same⟩
    · cases step
  | erasePtr p => cases step
  | reserve c => cases step

end Queue

open Queue

/-- Under the calls of a list, without counters that wrap, a queue is a list. -/
theorem queue_isList {α : Type} {events : List (Event α)} {q : Queue α}
    (run : Run Queue.step NoWrap Queue.empty events q) : IsList events q := by
  obtain ⟨ok, unwrapped⟩ := ok_of_noWrap run
  obtain ⟨list, once⟩ := list_of_run run
  refine ⟨list, ok.size, fun r first => ?_, ok.visit unwrapped,
    fun e l step => ok.enabled unwrapped step, fun e t => ok.moves, once, fun d gone => ?_⟩
  · obtain ⟨rest, split⟩ := List.head?_eq_some_iff.mp first
    exact ⟨ok.frontEntry split, ok.front_eq split⟩
  · obtain ⟨clean, before⟩ := ok.deleted d gone
    exact ⟨clean, fun last tail => before last (List.mem_of_getLast? tail)⟩

theorem queue_isList_five : ∃ q : Queue Nat,
    IsList [.pushBack 1, .pushBack 2, .erase 0, .pushBack 3, .popFront] q ∧
      q.contents = [(⟨0, 2⟩, 3)] := by
  have reached : (exec Queue.step NoWrap (Queue.empty : Queue Nat)
      [.pushBack 1, .pushBack 2, .erase 0, .pushBack 3, .popFront]).map (·.contents) =
      some [(⟨0, 2⟩, 3)] := by
    decide +kernel
  obtain ⟨q, result, contents⟩ := Option.map_eq_some_iff.mp reached
  exact ⟨q, queue_isList (.of_exec result), contents⟩

/-! ## Counters that pass `2 ^ 64` -/

namespace Queue
variable {n : UInt64} {d : List (EntryPtr × Nat)}

/-- An empty queue with counters at `n`. -/
def spun (n : UInt64) (d : List (EntryPtr × Nat)) : Queue Nat :=
  { blocks := [{ addr := 0, mSizeMask := 7, mBegin := n, mEnd := n }]
    destroyed := d }

/-- The same with one element. -/
def spunOne (n : UInt64) (d : List (EntryPtr × Nat)) : Queue Nat :=
  { mSize := 1
    blocks := [Block.construct { addr := 0, mSizeMask := 7, mBegin := n, mEnd := n } 0]
    destroyed := d }

theorem spun_push : (spun n d).emplaceBack 0 = .ok (spunOne n d) := by
  have room : (Block.mk 0 7 n n (fun _ => (none : Option Nat))).vacant ≠ 0 := by
    have eight : (7 : UInt64) + 1 ≠ 0 := by decide
    rw [Block.vacant, Block.occupied, UInt64.sub_self, UInt64.sub_zero]
    exact eight
  have split : (spun n d).blocks = [] ++ [Block.mk 0 7 n n (fun _ => (none : Option Nat))] := rfl
  exact emplaceBack_room split room 0

theorem spunOne_pop :
    (spunOne n d).popFront = .ok (spun (n + 1) (d ++ [(⟨0, (n &&& 7).toNat⟩, 0)])) := by
  have one : n + 1 - n = 1 := by grind
  have front : (spunOne n d).frontEntry = .ok (some (⟨0, (n &&& 7).toNat⟩, 0)) := by
    simp [frontEntry, spunOne, Block.construct, Block.write, Block.occupied, Block.front,
      Block.entry, Block.element, Block.slot, one]
  have filled : (spunOne n d).mSize ≠ 0 := Nat.one_ne_zero
  rw [popFront, if_neg filled, front, Except.bind]
  simp [resetEntry, spunOne, spun, Block.construct, Block.write, Block.occupied, one, skipHoles,
    Block.front, Block.entry, Block.element, Block.slot, Block.dropFront]
  funext j
  split <;> rfl

/-- `push_back` and `pop_front`, `k` times. -/
def spin (k : Nat) : List (Event Nat) := (List.replicate k [.pushBack 0, .popFront]).flatten

theorem plain_push {q : Queue Nat} : Plain q (.pushBack 0) := rfl

theorem plain_pop {q : Queue Nat} : Plain q .popFront := rfl

theorem spin_run (k : Nat) : ∃ d, Run Queue.step Plain Queue.empty (spin k)
    (spun (UInt64.ofNat k) d) := by
  induction k with
  | zero => exact ⟨[], .nil⟩
  | succ k ih =>
    obtain ⟨d, run⟩ := ih
    have events : spin (k + 1) = spin k ++ [.pushBack 0] ++ [.popFront] := by
      rw [spin, List.replicate_succ', List.flatten_append, List.append_assoc]
      rfl
    have push : Queue.step (spun (UInt64.ofNat k) d) (.pushBack 0) =
        some (spunOne (UInt64.ofNat k) d) := by
      rw [Queue.step, call, spun_push]
      rfl
    have pop : Queue.step (spunOne (UInt64.ofNat k) d) .popFront =
        some (spun (UInt64.ofNat (k + 1)) (d ++ [(⟨0, (UInt64.ofNat k &&& 7).toNat⟩, 0)])) := by
      rw [Queue.step, call, spunOne_pop, UInt64.ofNat_add]
      rfl
    rw [events]
    exact ⟨_, .snoc (.snoc run plain_push push) plain_pop pop⟩

theorem mem_spin {k : Nat} {e : Event Nat} (member : e ∈ spin k) :
    e = .pushBack 0 ∨ e = .popFront := by
  obtain ⟨es, there, inside⟩ := List.mem_flatten.mp member
  rw [List.eq_of_mem_replicate there] at inside
  simpa using inside

end Queue

/-- After `2 ^ 64 - 1` rounds of `push_back` and `pop_front` two more elements are on
different sides of `2 ^ 64`, and the iteration throws at the second one. -/
theorem visit_wrapped : ∃ (events : List (Event Nat)) (q : Queue Nat),
    Run Queue.step Plain Queue.empty events q ∧
      (∀ e ∈ events, e = .pushBack 0 ∨ e = .popFront) ∧ q.mSize = 2 ∧
      q.visit = .error .derefInvalid := by
  obtain ⟨d, run⟩ := spin_run (2 ^ 64 - 1)
  have first : Queue.step (spun (UInt64.ofNat (2 ^ 64 - 1)) d) (.pushBack 0) =
      some (spunOne (UInt64.ofNat (2 ^ 64 - 1)) d) := by
    rw [Queue.step, call, spun_push]
    rfl
  let one : Block Nat := Block.construct
    { addr := 0, mSizeMask := 7, mBegin := UInt64.ofNat (2 ^ 64 - 1),
      mEnd := UInt64.ofNat (2 ^ 64 - 1) } 0
  have room : one.vacant ≠ 0 := by decide +kernel
  have second : Queue.step (spunOne (UInt64.ofNat (2 ^ 64 - 1)) d) (.pushBack 0) = some
      { mSize := 2, blocks := [one.construct 0], destroyed := d } := by
    have split : (spunOne (UInt64.ofNat (2 ^ 64 - 1)) d).blocks = [] ++ [one] := rfl
    rw [Queue.step, call, emplaceBack_room split room]
    rfl
  refine ⟨_, _, .snoc (.snoc run plain_push first) plain_push second, ?_, rfl, ?_⟩
  · intro e member
    rcases List.mem_append.mp member with early | late
    · rcases List.mem_append.mp early with spinning | late
      · exact mem_spin spinning
      · exact .inl (List.mem_singleton.mp late)
    · exact .inl (List.mem_singleton.mp late)
  · have throws : (((Queue.mk 2 [one.construct 0] 1 [] []).visit.map fun _ => none).tryCatch
        fun fault => .ok (some fault)).toOption = some (some QueueFault.derefInvalid) := by
      decide +kernel
    have same : (Queue.mk 2 [one.construct 0] 1 d []).visit =
        (Queue.mk 2 [one.construct 0] 1 [] []).visit := rfl
    rw [same]
    cases h : (Queue.mk 2 [one.construct 0] 1 [] []).visit with
    | ok _ => simp [h, Except.map, Except.tryCatch, Except.toOption] at throws
    | error fault =>
      rw [h] at throws
      rw [Option.some.inj (Option.some.inj throws)]

end Coproto
