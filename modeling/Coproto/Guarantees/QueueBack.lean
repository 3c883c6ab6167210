import Coproto.Guarantees.QueueErase

/-!
# back

Common/Queue.h:183-189, 267-271. `back()` and `back_iterator()` take the entry of the
latest push for the last element. `erase` leaves a hole there, and unlike
`pop_front` at the other end nothing drops it.
-/
namespace Coproto
open Runs

namespace Queue
variable {α : Type} {q : Queue α} {b last : Block α} {init : List (Block α)} {r : EntryPtr × α}

/-- Where the element was constructed that was pushed last. -/
def newest (q : Queue α) : Option EntryPtr :=
  q.mLast.map fun last => ⟨last.addr, last.slot (last.mEnd - 1)⟩

/-- That element is live, and the counters of its block have not passed `2 ^ 64`. -/
def NewestLive (q : Queue α) : Prop :=
  (∃ r ∈ q.contents, q.newest = some r.1) ∧ ∀ last ∈ q.mLast, last.Unwrapped

/-- The last element, and `back_iterator()` refers to it. -/
structure BackIs (q : Queue α) (r : EntryPtr × α) : Prop where
  last : q.contents.getLast? = some r
  back : q.back = .ok r
  iterator : ∃ it, q.backIterator = .ok it ∧ it.deref = .ok r

/-! ## The end of a block -/

namespace Block

/-- The last cell is that of the index before `mEnd`. -/
theorem Ok.getLast_cells (good : b.Ok) (some : b.occupied ≠ 0) :
    b.cells.getLast? = Option.some b.back := by
  have pos : 0 < b.occupied.toNat := by
    rw [Nat.pos_iff_ne_zero]
    exact fun zero => some (UInt64.toNat_inj.mp zero)
  have one : (1 : UInt64).toNat = 1 := rfl
  have index : b.mBegin + UInt64.ofNat (b.occupied.toNat - 1) = b.mEnd - 1 := by
    have less : UInt64.ofNat (b.occupied.toNat - 1) = b.occupied - 1 := by
      apply UInt64.toNat_inj.mp
      have small := b.occupied.toNat_lt
      rw [UInt64.toNat_ofNat', UInt64.toNat_sub_of_le, one, Nat.mod_eq_of_lt (by omega)]
      exact UInt64.le_iff_toNat_le.mpr pos
    rw [less, occupied]
    grind
  rw [List.getLast?_eq_getElem?, length_cells, good.getElem_cells (by omega), index]
  rfl

/-- The index before `mEnd` is not below `mBegin`. -/
theorem Ok.le_back_iff (good : b.Ok) (some : b.occupied ≠ 0) :
    b.mBegin ≤ b.mEnd - 1 ↔ b.Unwrapped := by
  have pos : 0 < b.occupied.toNat := by
    rw [Nat.pos_iff_ne_zero]
    exact fun zero => some (UInt64.toNat_inj.mp zero)
  have small := good.capacity_lt
  have room := good.room
  have low := b.mBegin.toNat_lt
  have index : (b.mEnd - 1).toNat = (b.mBegin.toNat + (b.occupied.toNat - 1)) % 2 ^ 64 := by
    have one : (1 : UInt64).toNat = 1 := rfl
    have sum : b.mEnd - 1 = b.mBegin + (b.occupied - 1) := by
      unfold occupied
      grind
    rw [sum, UInt64.toNat_add, UInt64.toNat_sub_of_le, one]
    exact UInt64.le_iff_toNat_le.mpr pos
  rw [UInt64.le_iff_toNat_le, index, Unwrapped]
  omega

end Block

/-- The element the last block ends with is the last one. -/
theorem getLast_contents (split : q.blocks = init ++ [last]) (good : last.Ok)
    (back : last.back = some r) : q.contents.getLast? = some r := by
  have some : last.occupied ≠ 0 := by
    intro empty
    obtain ⟨_, value⟩ := Block.element_eq_some.mp back
    rw [good.data_empty empty] at value
    cases value
  have cells := good.getLast_cells some
  rw [back] at cells
  obtain ⟨front, ending⟩ := List.getLast?_eq_some_iff.mp cells
  rw [contents, split, live_append, live_cons, ending, List.reduceOption_append, live_nil]
  simp

theorem Ok.backIs_iff (ok : q.Ok) (some : q.mSize ≠ 0) :
    (∃ r, BackIs q r) ↔ NewestLive q := by
  obtain ⟨init, last, split⟩ := ok.blocks_eq
  have good := (Chain.append_iff.mp (split ▸ ok.chain)).1
  have there : last ∈ q.blocks := by rw [split]; simp
  have tail := mLast_eq split
  have starts : q.backIterator = Iterator.make [last] (last.mEnd - 1) := by
    rw [backIterator, if_neg some, tail]
    rfl
  constructor
  · rintro ⟨r, _, back, it, iterates, _⟩
    have entry : last.back = Option.some r := by
      unfold Queue.back value at back
      rw [if_neg some, tail] at back
      cases h : last.back with
      | none => simp [h] at back
      | some r' => simpa [h] using back
    have within : Within q ⟨[last], last.mEnd - 1⟩ := ⟨init, split.symm⟩
    have member := ok.mem_of_entry within entry
    have full : last.occupied ≠ 0 := by
      intro empty
      obtain ⟨_, value⟩ := Block.element_eq_some.mp entry
      rw [good.data_empty empty] at value
      cases value
    refine ⟨⟨r, member, ?_⟩, fun b at_ => ?_⟩
    · rw [newest, tail, Option.map_some, (Block.element_eq_some.mp entry).1]
    · obtain rfl := Option.some.inj (tail.symm.trans at_)
      rw [starts] at iterates
      obtain ⟨rfl, none | valid⟩ := Iterator.make_eq_ok iterates
      · cases none
      · exact (good.le_back_iff full).mp (of_decide_eq_true valid).1
  · rintro ⟨⟨r, member, address⟩, unwrapped⟩
    have home : r.1 = ⟨last.addr, last.slot (last.mEnd - 1)⟩ := by
      rw [newest, tail] at address
      exact (Option.some.inj address).symm
    obtain ⟨b, there', cell⟩ := mem_live.mp member
    obtain ⟨block, value⟩ := Block.mem_cells cell
    obtain rfl := ok.chain.addr_unique there' there (block.symm.trans (congrArg EntryPtr.block home))
    have entry : b.back = Option.some r := by
      apply Block.element_eq_some.mpr
      refine ⟨home, ?_⟩
      rw [home] at value
      exact value
    have full : b.occupied ≠ 0 := by
      intro empty
      rw [good.data_empty empty] at value
      cases value
    have ahead := (good.le_back_iff full).mpr (unwrapped b tail)
    have valid : (⟨[b], b.mEnd - 1⟩ : Iterator α).valid = true := by
      apply decide_eq_true
      exact ⟨ahead, by rw [show b.entry (b.mEnd - 1) = Option.some r from entry]; rfl⟩
    refine ⟨r, getLast_contents split good entry, ?_, ⟨[b], b.mEnd - 1⟩, ?_, ?_⟩
    · rw [Queue.back, if_neg some, tail]
      simp only [entry]
      rfl
    · rw [starts]
      exact if_pos (.inr valid)
    · have at_ : (⟨[b], b.mEnd - 1⟩ : Iterator α).entry = Option.some r := entry
      rw [Iterator.deref, if_pos valid, at_]

end Queue

open Queue

/-- A queue that is not empty gives its last element as `back()` exactly where the
element that was pushed last is still there. -/
theorem back_iff {α : Type} {events : List (Event α)} {q : Queue α}
    (run : Run Queue.step Plain Queue.empty events q) (some : q.mSize ≠ 0) :
    (∃ r, BackIs q r) ↔ NewestLive q :=
  (Ok.of_plain run).backIs_iff some

theorem back_iff_three : ∃ q : Queue Nat,
    Run Queue.step Plain Queue.empty [.pushBack 7, .pushBack 8, .pushBack 9, .popFront] q ∧
      ((∃ r, BackIs q r) ↔ NewestLive q) := by
  have reached : (exec Queue.step Plain (Queue.empty : Queue Nat)
      [.pushBack 7, .pushBack 8, .pushBack 9, .popFront]).map (·.mSize) = some 2 := by
    decide +kernel
  obtain ⟨q, result, size⟩ := Option.map_eq_some_iff.mp reached
  have run := Run.of_exec result
  exact ⟨q, run, back_iff run (by rw [size]; nofun)⟩

/-- Of two elements the second is erased, and `back()` throws. -/
theorem back_erased : ∃ (events : List (Event Nat)) (q : Queue Nat),
    Run Queue.step Plain Queue.empty events q ∧ q.mSize = 1 ∧
      q.back = .error .badOptionalAccess ∧ q.backIterator.toOption.isNone = true := by
  let events : List (Event Nat) := [.pushBack 7, .pushBack 8, .erase 1]
  have reached : (exec Queue.step Plain Queue.empty events).map
      (fun q => (q.mSize, q.backIterator.toOption.isNone, match q.back with
        | .ok _ => none
        | .error fault => some fault)) = some (1, true, some .badOptionalAccess) := by
    decide +kernel
  obtain ⟨q, result, facts⟩ := Option.map_eq_some_iff.mp reached
  obtain ⟨size, rest⟩ := Prod.mk.inj facts
  obtain ⟨iterator, fails⟩ := Prod.mk.inj rest
  refine ⟨events, q, .of_exec result, size, ?_, iterator⟩
  cases h : q.back with
  | ok r => simp [h] at fails
  | error fault =>
    rw [h] at fails
    rw [Option.some.inj fails]

end Coproto
