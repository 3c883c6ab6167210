import Coproto.Lib.Ring
import Coproto.Source.Queue
import Mathlib.Data.List.ReduceOption
import Mathlib.Data.Nat.ModEq

/-!
# One block of a Queue

The cells of a block are its entries from `mBegin` to `mEnd`, `none` for a hole.
The capacity divides `2 ^ 64`, so the cells do not depend on how often the
counters have wrapped.
-/
namespace Coproto
namespace Queue
namespace Block
variable {α : Type} {b : Block α} {x : α} {i j s : Nat}

def cells (b : Block α) : List (Option (EntryPtr × α)) :=
  Ring.contents b.element b.capacity.toNat b.mBegin.toNat b.occupied.toNat

/-- The capacity is a power of two, the ring is not overfull, and there is
nothing outside of it. -/
structure Ok (b : Block α) : Prop where
  size : ∃ n < 62, b.mSizeMask.toNat + 1 = 2 ^ n
  room : b.occupied.toNat ≤ b.capacity.toNat
  clean : ∀ s, b.data s ≠ none →
    ∃ i < b.occupied.toNat, (b.mBegin.toNat + i) % b.capacity.toNat = s

/-! ## Capacity and slots -/

namespace Ok

theorem capacity_toNat (ok : b.Ok) : b.capacity.toNat = b.mSizeMask.toNat + 1 := by
  obtain ⟨n, small, size⟩ := ok.size
  have bound : 2 ^ n < 2 ^ 62 := Nat.pow_lt_pow_right (by decide) small
  have one : (1 : UInt64).toNat = 1 := rfl
  rw [capacity, UInt64.toNat_add, one, Nat.mod_eq_of_lt (by omega)]

theorem capacity_lt (ok : b.Ok) : b.capacity.toNat < 2 ^ 62 := by
  obtain ⟨n, small, size⟩ := ok.size
  rw [ok.capacity_toNat, size]
  exact Nat.pow_lt_pow_right (by decide) small

theorem capacity_pos (ok : b.Ok) : 0 < b.capacity.toNat := by
  rw [ok.capacity_toNat]
  exact Nat.succ_pos _

theorem capacity_dvd (ok : b.Ok) : b.capacity.toNat ∣ 2 ^ 64 := by
  obtain ⟨n, small, size⟩ := ok.size
  rw [ok.capacity_toNat, size]
  exact Nat.pow_dvd_pow 2 (by omega)

/-- Masking an index reduces it modulo the capacity. -/
theorem slot_eq (ok : b.Ok) (index : UInt64) : b.slot index = index.toNat % b.capacity.toNat := by
  obtain ⟨n, small, size⟩ := ok.size
  have mask : b.mSizeMask.toNat = 2 ^ n - 1 := by omega
  rw [slot, UInt64.toNat_and, mask, Nat.and_two_pow_sub_one_eq_mod, ok.capacity_toNat, size]

/-- Reduction modulo `2 ^ 64` does not show in a slot. -/
theorem mod_mod (ok : b.Ok) (m : Nat) : m % 2 ^ 64 % b.capacity.toNat = m % b.capacity.toNat :=
  Nat.mod_mod_of_dvd m ok.capacity_dvd

theorem slot_add (ok : b.Ok) (i : Nat) :
    b.slot (b.mBegin + UInt64.ofNat i) = (b.mBegin.toNat + i) % b.capacity.toNat := by
  rw [ok.slot_eq, UInt64.toNat_add, UInt64.toNat_ofNat', ok.mod_mod, Nat.add_mod, ok.mod_mod,
    ← Nat.add_mod]

theorem slot_mEnd (ok : b.Ok) :
    b.slot b.mEnd = (b.mBegin.toNat + b.occupied.toNat) % b.capacity.toNat := by
  have ending : b.mEnd = b.mBegin + UInt64.ofNat b.occupied.toNat := by
    rw [UInt64.ofNat_toNat, occupied]
    grind
  rw [← ok.slot_add, ← ending]

theorem vacant_toNat (ok : b.Ok) : b.vacant.toNat = b.capacity.toNat - b.occupied.toNat := by
  rw [vacant, UInt64.toNat_sub_of_le]
  exact UInt64.le_iff_toNat_le.mpr ok.room

end Ok

/-! ## Cells -/

@[simp] theorem length_cells (b : Block α) : b.cells.length = b.occupied.toNat :=
  Ring.length_contents

/-- The cell at a distance from the first one. -/
theorem Ok.cell (ok : b.Ok) (i : Nat) :
    b.entry (b.mBegin + UInt64.ofNat i) = b.element ((b.mBegin.toNat + i) % b.capacity.toNat) := by
  rw [entry, ok.slot_add]

theorem Ok.getElem_cells (ok : b.Ok) (inside : i < b.occupied.toNat) :
    b.cells[i]? = some (b.entry (b.mBegin + UInt64.ofNat i)) := by
  rw [ok.cell, cells, Ring.contents, List.getElem?_map, List.getElem?_range inside]
  rfl

/-- A block that occupies nothing has no cells. -/
theorem cells_empty (empty : b.occupied = 0) : b.cells = [] := by
  rw [cells, empty]
  rfl

theorem occupied_dropFront : b.dropFront.occupied = b.occupied - 1 := by
  unfold occupied dropFront
  grind

theorem toNat_occupied_dropFront (some : b.occupied ≠ 0) :
    b.dropFront.occupied.toNat + 1 = b.occupied.toNat := by
  have pos : 0 < b.occupied.toNat := by
    rw [Nat.pos_iff_ne_zero]
    exact fun zero => some (UInt64.toNat_inj.mp zero)
  have one : (1 : UInt64).toNat = 1 := rfl
  rw [occupied_dropFront, UInt64.toNat_sub_of_le, one]
  · omega
  · exact UInt64.le_iff_toNat_le.mpr pos

/-- The first entry, and the cells that are left when it is dropped. -/
theorem Ok.cells_dropFront (ok : b.Ok) (some : b.occupied ≠ 0) :
    b.cells = b.front :: b.dropFront.cells := by
  have first : b.front = b.element (b.mBegin.toNat % b.capacity.toNat) := by
    rw [front, entry, ok.slot_eq]
  rw [cells, ← toNat_occupied_dropFront some, Ring.contents_pop, first]
  congr 1
  apply Ring.contents_mod
  have one : (1 : UInt64).toNat = 1 := rfl
  have next : b.dropFront.mBegin.toNat = (b.mBegin.toNat + 1) % 2 ^ 64 := by
    rw [dropFront, UInt64.toNat_add, one]
  rw [next, ok.mod_mod]

/-- An entry without a value is dropped. -/
theorem Ok.dropFront (ok : b.Ok) (some : b.occupied ≠ 0) (hole : b.front = none) :
    b.dropFront.Ok := by
  have fewer := toNat_occupied_dropFront some
  have one : (1 : UInt64).toNat = 1 := rfl
  have next : b.dropFront.mBegin.toNat = (b.mBegin.toNat + 1) % 2 ^ 64 := by
    rw [Block.dropFront, UInt64.toNat_add, one]
  have same : b.dropFront.capacity = b.capacity := rfl
  refine ⟨ok.size, ?_, fun s full => ?_⟩
  · rw [same]
    have room := ok.room
    omega
  · obtain ⟨i, inside, at_⟩ := ok.clean s full
    cases i with
    | zero =>
      have none : b.data s = none := by
        rw [front, entry, ok.slot_eq, element, Option.map_eq_none_iff] at hole
        rw [← at_, Nat.add_zero]
        exact hole
      exact absurd none full
    | succ i =>
      refine ⟨i, by omega, ?_⟩
      rw [next, same, Nat.add_mod, ok.mod_mod, ← Nat.add_mod, ← at_]
      congr 1
      omega

/-! ## Writing entries -/

theorem occupied_construct (ok : b.Ok) (room : b.vacant ≠ 0) :
    (b.construct x).occupied.toNat = b.occupied.toNat + 1 := by
  have more : (b.construct x).occupied = b.occupied + 1 := by
    unfold construct write occupied
    grind
  have small := ok.capacity_lt
  have free : b.occupied.toNat < b.capacity.toNat := by
    have vacant := ok.vacant_toNat
    have pos : b.vacant.toNat ≠ 0 := fun zero => room (UInt64.toNat_inj.mp zero)
    omega
  have one : (1 : UInt64).toNat = 1 := rfl
  rw [more, UInt64.toNat_add, one, Nat.mod_eq_of_lt (by omega)]

theorem element_construct (s : Nat) : (b.construct x).element s =
    Ring.write b.element (b.slot b.mEnd) (some (⟨b.addr, b.slot b.mEnd⟩, x)) s := by
  unfold construct element Ring.write
  by_cases here : s = b.slot b.mEnd
  · simp [write, here]
  · simp [write, here]

theorem Ok.free (ok : b.Ok) (room : b.vacant ≠ 0) : b.occupied.toNat < b.capacity.toNat := by
  have vacant := ok.vacant_toNat
  have pos : b.vacant.toNat ≠ 0 := fun zero => room (UInt64.toNat_inj.mp zero)
  omega

/-- A new element is the last cell. -/
theorem Ok.cells_construct (ok : b.Ok) (room : b.vacant ≠ 0) (x : α) :
    (b.construct x).cells = b.cells ++ [some (⟨b.addr, b.slot b.mEnd⟩, x)] := by
  have elements : (b.construct x).element =
      Ring.write b.element (b.slot b.mEnd) (some (⟨b.addr, b.slot b.mEnd⟩, x)) :=
    funext element_construct
  rw [cells, occupied_construct ok room, elements, ok.slot_mEnd]
  exact Ring.contents_push (ok.free room) _

theorem Ok.construct (ok : b.Ok) (room : b.vacant ≠ 0) (x : α) : (b.construct x).Ok := by
  have more := occupied_construct (x := x) ok room
  refine ⟨ok.size, ?_, fun s full => ?_⟩
  · rw [more]
    exact ok.free room
  · rw [more]
    by_cases here : s = b.slot b.mEnd
    · exact ⟨b.occupied.toNat, Nat.lt_succ_self _, (here.trans ok.slot_mEnd).symm⟩
    · have old : b.data s ≠ none := by simpa [Block.construct, write, here] using full
      obtain ⟨i, inside, at_⟩ := ok.clean s old
      exact ⟨i, Nat.lt_succ_of_lt inside, at_⟩

/-- What is left of a cell when the element at `p` is destroyed. -/
def without (p : EntryPtr) (c : Option (EntryPtr × α)) : Option (EntryPtr × α) :=
  c.filter fun r => r.1 ≠ p

/-- The block after the element at `p` is destroyed, in this block or another one. -/
def reset (p : EntryPtr) (b : Block α) : Block α :=
  if b.addr = p.block then b.write p.slot none else b

theorem element_eq_some {r : EntryPtr × α} : b.element s = some r ↔
    r.1 = ⟨b.addr, s⟩ ∧ b.data s = some r.2 := by
  obtain ⟨p, y⟩ := r
  unfold element
  rw [Option.map_eq_some_iff]
  constructor
  · rintro ⟨z, there, same⟩
    cases same
    exact ⟨rfl, there⟩
  · rintro ⟨rfl, there⟩
    exact ⟨y, there, rfl⟩

@[simp] theorem without_none (p : EntryPtr) : without p (none : Option (EntryPtr × α)) = none := rfl

theorem without_self (p : EntryPtr) (y : α) : without p (some (p, y)) = none := by
  simp [without, Option.filter]

theorem without_other {p : EntryPtr} {r : EntryPtr × α} (other : r.1 ≠ p) :
    without p (some r) = some r := by
  simp [without, Option.filter, other]

theorem element_reset (p : EntryPtr) (s : Nat) :
    (b.reset p).element s = without p (b.element s) := by
  cases there : b.data s with
  | none =>
    have kept : (b.reset p).data s = none := by
      unfold reset
      split
      · simp [write, there]
      · exact there
    simp [element, there, kept]
  | some y =>
    by_cases here : (⟨b.addr, s⟩ : EntryPtr) = p
    · subst here
      simp [element, reset, write, there, without_self]
    · have kept : (b.reset p).data s = some y ∧ (b.reset p).addr = b.addr := by
        unfold reset
        split
        · rename_i home
          have apart : s ≠ p.slot := fun same => here (by rw [home, same])
          exact ⟨by simp [write, apart, there], rfl⟩
        · exact ⟨there, rfl⟩
      simp [element, there, kept, without_other, here]

@[simp] theorem addr_reset (p : EntryPtr) : (b.reset p).addr = b.addr := by
  unfold reset
  split <;> rfl

@[simp] theorem occupied_reset (p : EntryPtr) : (b.reset p).occupied = b.occupied := by
  unfold reset
  split <;> rfl

@[simp] theorem mBegin_reset (p : EntryPtr) : (b.reset p).mBegin = b.mBegin := by
  unfold reset
  split <;> rfl

@[simp] theorem mSizeMask_reset (p : EntryPtr) : (b.reset p).mSizeMask = b.mSizeMask := by
  unfold reset
  split <;> rfl

@[simp] theorem capacity_reset (p : EntryPtr) : (b.reset p).capacity = b.capacity := by
  rw [capacity, capacity, mSizeMask_reset]

theorem cells_reset (p : EntryPtr) : (b.reset p).cells = b.cells.map (without p) := by
  unfold cells Ring.contents
  rw [List.map_map, occupied_reset, capacity_reset, mBegin_reset]
  apply List.map_congr_left
  intro i _
  exact element_reset p _

theorem Ok.reset (ok : b.Ok) (p : EntryPtr) : (b.reset p).Ok := by
  refine ⟨by rw [mSizeMask_reset]; exact ok.size, by simpa using ok.room, fun s full => ?_⟩
  have old : b.data s ≠ none := by
    intro none
    apply full
    unfold Block.reset
    split
    · simp [write, none]
    · exact none
  simpa using ok.clean s old

/-! ## Counters that wrap -/

/-- No entry has a counter below `mBegin`. -/
def Unwrapped (b : Block α) : Prop := b.mBegin.toNat + b.occupied.toNat ≤ 2 ^ 64

theorem Unwrapped.dropFront (unwrapped : b.Unwrapped) (some : b.occupied ≠ 0) :
    b.dropFront.Unwrapped := by
  have fewer := toNat_occupied_dropFront some
  have one : (1 : UInt64).toNat = 1 := rfl
  have next : b.dropFront.mBegin.toNat = (b.mBegin.toNat + 1) % 2 ^ 64 := by
    rw [Block.dropFront, UInt64.toNat_add, one]
  have small := b.occupied.toNat_lt
  have reduced := Nat.mod_le (b.mBegin.toNat + 1) (2 ^ 64)
  unfold Unwrapped at unwrapped ⊢
  omega

/-! ## Addresses in a block -/

theorem mem_cells {r : EntryPtr × α} (member : some r ∈ b.cells) :
    r.1.block = b.addr ∧ b.data r.1.slot = some r.2 := by
  obtain ⟨i, _, here⟩ := List.mem_map.mp member
  obtain ⟨address, value⟩ := element_eq_some.mp here
  rw [address]
  exact ⟨rfl, value⟩

/-- Whatever the block holds is in one of its cells. -/
theorem Ok.mem_cells (ok : b.Ok) {y : α} (there : b.data s = some y) :
    some (⟨b.addr, s⟩, y) ∈ b.cells := by
  obtain ⟨i, inside, at_⟩ := ok.clean s (by simp [there])
  refine List.mem_map.mpr ⟨i, List.mem_range.mpr inside, ?_⟩
  rw [at_, element, there]
  rfl

/-- Elements of different cells have different addresses. -/
theorem Ok.cells_nodup (ok : b.Ok) : b.cells.Pairwise fun c d =>
    ∀ r ∈ c, ∀ r' ∈ d, r.1 ≠ r'.1 := by
  unfold cells Ring.contents
  apply List.pairwise_map.mpr
  refine List.Pairwise.imp_of_mem ?_ List.pairwise_lt_range
  intro i j left right before r here r' there
  have close : j < i + b.capacity.toNat := by
    have inside := List.mem_range.mp right
    have room := ok.room
    omega
  rw [(element_eq_some.mp here).1, (element_eq_some.mp there).1]
  intro same
  exact Ring.cell_ne before close (congrArg EntryPtr.slot same)

/-- A block that occupies nothing holds nothing. -/
theorem Ok.data_empty (ok : b.Ok) (empty : b.occupied = 0) (s : Nat) : b.data s = none := by
  by_contra full
  obtain ⟨i, inside, _⟩ := ok.clean s full
  rw [empty] at inside
  exact absurd inside (Nat.not_lt_zero i)

/-- A block as it is allocated. -/
theorem Ok.fresh {addr n : Nat} {mask : UInt64} (small : n < 62) (size : mask.toNat + 1 = 2 ^ n) :
    ({ addr := addr, mSizeMask := mask } : Block α).Ok := by
  have occupied : ({ addr := addr, mSizeMask := mask } : Block α).occupied = 0 :=
    UInt64.sub_self 0
  refine ⟨⟨n, small, size⟩, ?_, fun _ full => absurd rfl full⟩
  rw [occupied]
  exact Nat.zero_le _

end Block
end Queue
end Coproto
