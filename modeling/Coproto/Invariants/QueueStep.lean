import Coproto.Invariants.QueueOk
import Coproto.Lib.Smear

/-!
# Steps of a queue

What the calls do to the contents. `emplace_back` fails only where the allocator
does; the other calls that are let through take off one element or none.
-/
namespace Coproto
namespace Queue
variable {α : Type} {q q' t : Queue α} {b last : Block α} {bs init : List (Block α)}
  {p : EntryPtr} {r : EntryPtr × α} {x : α} {c size : UInt64} {it : Iterator α} {e : Event α}

/-! ## Allocation -/

/-- A size that passes the assertions of `allocateBlock` is a power of two. -/
theorem pow_of_assert (some : size ≠ 0) (assert : size &&& (size - 1) = 0) :
    ∃ n, size.toNat = 2 ^ n := by
  have pos : size.toNat ≠ 0 := fun zero => some (UInt64.toNat_inj.mp zero)
  have one : (1 : UInt64).toNat = 1 := rfl
  have less : (size - 1).toNat = size.toNat - 1 := by
    rw [UInt64.toNat_sub_of_le, one]
    exact UInt64.le_iff_toNat_le.mpr (Nat.pos_of_ne_zero pos)
  apply (Nat.and_sub_one_eq_zero_iff_isPowerOfTwo pos).mp
  rw [← less, ← UInt64.toNat_and, assert]
  rfl

theorem assert_of_pow {n : Nat} (power : size.toNat = 2 ^ n) : size &&& (size - 1) = 0 := by
  have pos : size.toNat ≠ 0 := by
    rw [power]
    exact Nat.ne_of_gt (Nat.two_pow_pos n)
  have one : (1 : UInt64).toNat = 1 := rfl
  have less : (size - 1).toNat = size.toNat - 1 := by
    rw [UInt64.toNat_sub_of_le, one]
    exact UInt64.le_iff_toNat_le.mpr (Nat.pos_of_ne_zero pos)
  apply UInt64.toNat_inj.mp
  rw [UInt64.toNat_and, less]
  exact (Nat.and_sub_one_eq_zero_iff_isPowerOfTwo pos).mpr ⟨n, power⟩

/-- The block that `allocateBlock` links. -/
def fresh (q : Queue α) (size : UInt64) : Block α :=
  { addr := q.nextAddr
    mSizeMask := size - 1 }

theorem fresh_occupied (q : Queue α) (size : UInt64) : (q.fresh size).occupied = 0 :=
  UInt64.sub_self 0

theorem fresh_capacity (q : Queue α) (size : UInt64) : (q.fresh size).capacity = size := by
  unfold fresh Block.capacity
  grind

/-- The queue with that block. -/
def extend (q : Queue α) (size : UInt64) : Queue α :=
  { q with
    blocks := q.blocks ++ [q.fresh size]
    nextAddr := q.nextAddr + 1 }

/-- Where `allocateBlock` goes through. -/
theorem allocateBlock_eq_ok (allocates : q.allocateBlock size = .ok q') :
    size.toNat < 2 ^ 62 ∧ size &&& (size - 1) = 0 ∧ q' = q.extend size := by
  unfold allocateBlock at allocates
  split at allocates
  · cases allocates
  · split at allocates
    · cases allocates
    · rename_i small power
      exact ⟨by omega, not_not.mp power, (Except.ok.inj allocates).symm⟩

theorem allocateBlock_of_pow (q : Queue α) {n : Nat} (power : size.toNat = 2 ^ n)
    (small : ¬ 2 ^ 62 ≤ size.toNat) : q.allocateBlock size = .ok (q.extend size) := by
  rw [allocateBlock, if_neg small, if_neg (not_not.mpr (assert_of_pow power))]
  rfl

theorem fresh_ok (q : Queue α) {n : Nat} (power : size.toNat = 2 ^ n) (small : size.toNat < 2 ^ 62) :
    (q.fresh size).Ok := by
  have pos := Nat.two_pow_pos n
  have one : (1 : UInt64).toNat = 1 := rfl
  have less : (size - 1).toNat = size.toNat - 1 := by
    rw [UInt64.toNat_sub_of_le, one]
    exact UInt64.le_iff_toNat_le.mpr (by rw [one]; omega)
  apply Block.Ok.fresh (n := n)
  · exact (Nat.pow_lt_pow_iff_right Nat.one_lt_two).mp (power ▸ small)
  · omega

/-- The list of elements stays as it is. -/
structure Keeps (q q' : Queue α) : Prop where
  ok : q'.Ok
  contents : q'.contents = q.contents
  destroyed : q'.destroyed = q.destroyed
  unwrapped : (∀ b ∈ q.blocks, b.Unwrapped) → ∀ b ∈ q'.blocks, b.Unwrapped

theorem Ok.allocateBlock (ok : q.Ok) (split : q.blocks = init ++ [last]) (some : last.occupied ≠ 0)
    (positive : size ≠ 0) (allocates : q.allocateBlock size = .ok q') :
    Keeps q q' ∧ q'.blocks = q.blocks ++ [q.fresh size] := by
  obtain ⟨small, assert, rfl⟩ := allocateBlock_eq_ok allocates
  obtain ⟨n, power⟩ := pow_of_assert positive assert
  have empty := fresh_occupied q size
  refine ⟨⟨ok.addBlock split some (fresh_ok q power small) rfl empty, ?_, rfl, ?_⟩, rfl⟩
  · have blocks : (q.extend size).blocks = q.blocks ++ [q.fresh size] := rfl
    rw [contents, blocks, live_append, live_cons, Block.cells_empty empty]
    exact List.append_nil _
  · intro unwrapped b member
    rcases List.mem_append.mp member with early | late
    · exact unwrapped b early
    · rw [List.mem_singleton.mp late, Block.Unwrapped, empty]
      exact Nat.le_of_lt (UInt64.toNat_lt _)

/-! ## emplace_back -/

/-- The counters of the last block are about to pass `2 ^ 64` with entries on both
sides. -/
def Wraps (q : Queue α) : Prop :=
  ∃ last ∈ q.mLast, last.vacant ≠ 0 ∧ last.occupied ≠ 0 ∧
    last.mBegin.toNat + last.occupied.toNat = 2 ^ 64

instance (q : Queue α) : Decidable (Wraps q) := by
  unfold Wraps
  infer_instance

/-- An element is appended. -/
structure Adds (q q' : Queue α) (p : EntryPtr) (x : α) : Prop where
  ok : q'.Ok
  contents : q'.contents = q.contents ++ [(p, x)]
  destroyed : q'.destroyed = q.destroyed
  unwrapped : ¬ Wraps q → (∀ b ∈ q.blocks, b.Unwrapped) → ∀ b ∈ q'.blocks, b.Unwrapped

theorem Adds.of_keeps (adds : Adds q' t p x) (keeps : Keeps q q') (below : ¬ Wraps q') :
    Adds q t p x where
  ok := adds.ok
  contents := by rw [adds.contents, keeps.contents]
  destroyed := by rw [adds.destroyed, keeps.destroyed]
  unwrapped _ unwrapped := adds.unwrapped below (keeps.unwrapped unwrapped)

theorem mLast_eq (split : q.blocks = init ++ [last]) : q.mLast = some last := by
  rw [mLast, split, List.getLast?_concat]

theorem Block.Ok.unwrapped_construct (good : b.Ok) (room : b.vacant ≠ 0) (unwrapped : b.Unwrapped)
    (below : b.occupied ≠ 0 → b.mBegin.toNat + b.occupied.toNat ≠ 2 ^ 64) :
    (b.construct x).Unwrapped := by
  have more := Block.occupied_construct (x := x) good room
  have same : (b.construct x).mBegin = b.mBegin := rfl
  unfold Block.Unwrapped at unwrapped ⊢
  rw [same, more]
  by_cases empty : b.occupied = 0
  · have zero : b.occupied.toNat = 0 := by rw [empty]; rfl
    have small := b.mBegin.toNat_lt
    omega
  · have apart := below empty
    omega

theorem Ok.adds (ok : q.Ok) (split : q.blocks = init ++ [last]) (room : last.vacant ≠ 0) (x : α) :
    Adds q { q with
      mSize := q.mSize + 1
      blocks := init ++ [last.construct x] } ⟨last.addr, last.slot last.mEnd⟩ x := by
  have good := (Chain.append_iff.mp (split ▸ ok.chain)).1
  refine ⟨ok.construct split room x, ?_, rfl, fun below unwrapped b member => ?_⟩
  · rw [contents, contents, split, live_append, live_append, live_cons, live_cons,
      good.cells_construct room x]
    simp [List.reduceOption_append]
  · rcases List.mem_append.mp member with early | late
    · exact unwrapped b (by rw [split]; exact List.mem_append_left _ early)
    · rw [List.mem_singleton.mp late]
      apply good.unwrapped_construct room (unwrapped last (by rw [split]; simp))
      intro some reached
      exact below ⟨last, mLast_eq split, room, some, reached⟩

theorem emplaceBack_room (split : q.blocks = init ++ [last]) (room : last.vacant ≠ 0) (x : α) :
    q.emplaceBack x = .ok
      { q with
        mSize := q.mSize + 1
        blocks := init ++ [last.construct x] } := by
  have tail := mLast_eq split
  unfold emplaceBack
  simp only [tail, if_neg room, Except.map]
  rw [split, List.dropLast_concat]
  simp

theorem Block.Ok.capacity_pow (good : b.Ok) : ∃ n < 62, b.capacity.toNat = 2 ^ n := by
  obtain ⟨n, small, size⟩ := good.size
  exact ⟨n, small, good.capacity_toNat.trans size⟩

/-- The size of the next block. -/
theorem Block.Ok.double (good : b.Ok) :
    ∃ n, (2 * b.capacity).toNat = 2 ^ n ∧ 2 * b.capacity ≠ 0 := by
  obtain ⟨n, small, size⟩ := good.capacity_pow
  have two : (2 : UInt64).toNat = 2 := rfl
  have bound : 2 ^ n < 2 ^ 62 := Nat.pow_lt_pow_right (by decide) small
  have power : (2 * b.capacity).toNat = 2 ^ (n + 1) := by
    rw [UInt64.toNat_mul, two, size, Nat.mod_eq_of_lt (by omega), Nat.pow_succ, Nat.mul_comm]
  refine ⟨n + 1, power, fun zero => ?_⟩
  have pos := Nat.two_pow_pos (n + 1)
  rw [zero] at power
  exact absurd power.symm (Nat.ne_of_gt pos)

theorem fresh_vacant (q : Queue α) (positive : size ≠ 0) : (q.fresh size).vacant ≠ 0 := by
  rw [Block.vacant, fresh_capacity, fresh_occupied, UInt64.sub_zero]
  exact positive

theorem emplaceBack_full (split : q.blocks = init ++ [last]) (full : last.vacant = 0)
    (positive : 2 * last.capacity ≠ 0) (x : α) :
    q.emplaceBack x = (q.allocateBlock (2 * last.capacity)).bind (·.emplaceBack x) := by
  have tail := mLast_eq split
  have allocates : q.allocateNext = q.allocateBlock (2 * last.capacity) := by
    rw [allocateNext, tail]
  cases h : q.allocateBlock (2 * last.capacity) with
  | error fault =>
    unfold emplaceBack
    simp only [tail, full, if_true, allocates, h]
    rfl
  | ok q' =>
    obtain ⟨_, _, rfl⟩ := allocateBlock_eq_ok h
    have blocks : (q.extend (2 * last.capacity)).blocks = q.blocks ++ [q.fresh _] := rfl
    have room := fresh_vacant q positive
    rw [Except.bind, emplaceBack_room blocks room]
    unfold emplaceBack
    simp only [tail, full, if_true, allocates, h, Except.map, mLast_eq blocks]
    rw [blocks, List.dropLast_concat]
    rfl

/-- `emplace_back` appends, unless there is no memory. -/
theorem Ok.emplaceBack (ok : q.Ok) (x : α) : q.emplaceBack x = .error .badAlloc ∨
    ∃ q' p, q.emplaceBack x = .ok q' ∧ Adds q q' p x := by
  obtain ⟨init, last, split⟩ := ok.blocks_eq
  have good := (Chain.append_iff.mp (split ▸ ok.chain)).1
  by_cases full : last.vacant = 0
  · obtain ⟨n, power, positive⟩ := good.double
    have assert := assert_of_pow power
    rw [emplaceBack_full split full positive]
    by_cases large : 2 ^ 62 ≤ (2 * last.capacity).toNat
    · left
      rw [Queue.allocateBlock, if_pos large]
      rfl
    · right
      have some : last.occupied ≠ 0 := by
        intro empty
        have pos := good.capacity_pos
        rw [Block.vacant, empty, UInt64.sub_zero] at full
        rw [full] at pos
        cases pos
      have allocates := allocateBlock_of_pow q power large
      obtain ⟨keeps, blocks⟩ := ok.allocateBlock split some positive allocates
      have room := fresh_vacant q positive
      have adds := keeps.ok.adds blocks room x
      have pushes := emplaceBack_room blocks room x
      rw [allocates]
      refine ⟨_, _, pushes, adds.of_keeps keeps ?_⟩
      rintro ⟨d, tail, _, more, _⟩
      obtain rfl : q.fresh (2 * last.capacity) = d :=
        Option.some.inj ((mLast_eq blocks).symm.trans tail)
      exact more (fresh_occupied q _)
  · right
    exact ⟨_, _, emplaceBack_room split full x, ok.adds split full x⟩

/-! ## reserve -/

/-- The rounding of `reserve`. -/
theorem roundUp_pow (positive : 1 ≤ c.toNat) (small : c.toNat ≤ 2 ^ 32) :
    ∃ n ≤ 32, (roundUp c).toNat = 2 ^ n ∧ c.toNat ≤ 2 ^ n := by
  have one : (1 : UInt64).toNat = 1 := rfl
  have less : (c - 1).toNat = c.toNat - 1 := by
    rw [UInt64.toNat_sub_of_le, one]
    exact UInt64.le_iff_toNat_le.mpr positive
  have shifts : ∀ v : UInt64, ∀ k : UInt64, k.toNat < 64 →
      (v ||| (v >>> k)).toNat = v.toNat ||| v.toNat >>> k.toNat := by
    intro v k inside
    rw [UInt64.toNat_or, UInt64.toNat_shiftRight, Nat.mod_eq_of_lt inside]
  have smeared := ((((Smear.Smeared.refl (c - 1).toNat).double.double).double).double).double
  simp only [Nat.reduceMul] at smeared
  have full := smeared.full (by omega)
  have bound := Nat.size_le.mpr (show (c - 1).toNat < 2 ^ 32 by omega)
  have width : 2 ^ (c - 1).toNat.size ≤ 2 ^ 32 := Nat.pow_le_pow_right Nat.two_pos bound
  refine ⟨(c - 1).toNat.size, bound, ?_, ?_⟩
  · unfold roundUp
    rw [UInt64.toNat_add, one, shifts _ 16 (by decide), shifts _ 8 (by decide),
      shifts _ 4 (by decide), shifts _ 2 (by decide), shifts _ 1 (by decide)]
    have sizes : (16 : UInt64).toNat = 16 ∧ (8 : UInt64).toNat = 8 ∧ (4 : UInt64).toNat = 4 ∧
        (2 : UInt64).toNat = 2 := ⟨rfl, rfl, rfl, rfl⟩
    rw [sizes.1, sizes.2.1, sizes.2.2.1, sizes.2.2.2, one, full]
    exact Nat.mod_eq_of_lt (Nat.lt_of_le_of_lt width (by decide))
  · have above := Nat.lt_size_self (c - 1).toNat
    omega

/-- `reserve` may only allocate behind entries. -/
def ReservesBehind (q : Queue α) (c : UInt64) : Prop :=
  ∀ last ∈ q.mLast, last.capacity < roundUp c → last.occupied ≠ 0

instance (q : Queue α) (c : UInt64) : Decidable (ReservesBehind q c) := by
  unfold ReservesBehind
  infer_instance

theorem Ok.reserve (ok : q.Ok) (behind : ReservesBehind q c) (reserves : q.reserve c = .ok q') :
    Keeps q q' ∧ ∃ b ∈ q'.mLast, roundUp c ≤ b.capacity := by
  obtain ⟨init, last, split⟩ := ok.blocks_eq
  have tail := mLast_eq split
  unfold Queue.reserve at reserves
  rw [tail] at reserves
  by_cases more : last.capacity < roundUp c
  · have positive : roundUp c ≠ 0 := fun zero => by
      rw [zero] at more
      exact absurd (UInt64.lt_iff_toNat_lt.mp more) (Nat.not_lt_zero _)
    have allocates : q.allocateBlock (roundUp c) = .ok q' := by simpa [more] using reserves
    obtain ⟨keeps, blocks⟩ := ok.allocateBlock split (behind last tail more) positive allocates
    refine ⟨keeps, _, mLast_eq blocks, ?_⟩
    rw [fresh_capacity]
    exact UInt64.le_refl _
  · obtain rfl : q = q' := by simpa [more] using reserves
    exact ⟨⟨ok, rfl, rfl, id⟩, last, tail, UInt64.not_lt.mp more⟩

/-! ## Iterators of a queue -/

/-- The blocks an iterator moves over. -/
def Within (q : Queue α) (it : Iterator α) : Prop := it.mBlock <:+ q.blocks

namespace Iterator

theorem skipEnds_suffix (bs : List (Block α)) (index : UInt64) :
    (skipEnds bs index).mBlock <:+ bs := by
  fun_induction skipEnds bs index with
  | case1 => exact List.suffix_refl _
  | case2 => exact List.nil_suffix
  | case3 b c cs ih => exact ih.trans (List.suffix_cons _ _)
  | case4 => exact List.suffix_refl _

theorem advance_suffix (n : Nat) (it : Iterator α) : (advance n it).mBlock <:+ it.mBlock := by
  induction n generalizing it with
  | zero => exact List.suffix_refl _
  | succ n ih =>
    have passes := skipEnds_suffix it.mBlock (it.mIndex + 1)
    unfold advance
    dsimp only
    split
    · exact passes
    · exact (ih _).trans passes

theorem next_suffix (it : Iterator α) : it.next.mBlock <:+ it.mBlock := advance_suffix _ it

theorem iterate_suffix (k : Nat) (it : Iterator α) :
    (Nat.iterate next k it).mBlock <:+ it.mBlock := by
  induction k generalizing it with
  | zero => exact List.suffix_refl _
  | succ k ih => exact (ih it.next).trans (next_suffix it)

theorem make_eq_ok (makes : make bs c = .ok it) : it = ⟨bs, c⟩ ∧ (bs = [] ∨ it.valid = true) := by
  unfold make at makes
  dsimp only at makes
  split at makes
  · rename_i good
    obtain rfl := Except.ok.inj makes
    refine ⟨rfl, good.imp_left fun empty => ?_⟩
    simpa using empty
  · cases makes

theorem deref_eq_ok (derefs : it.deref = .ok r) : it.valid = true ∧ it.entry = some r := by
  unfold deref at derefs
  split at derefs
  · rename_i valid
    split at derefs
    · rename_i r' entry
      obtain rfl := Except.ok.inj derefs
      exact ⟨valid, entry⟩
    · cases derefs
  · cases derefs

end Iterator

/-- What an iterator refers to is one of the elements. -/
theorem Ok.mem_of_entry (ok : q.Ok) (within : Within q it) (entry : it.entry = some r) :
    r ∈ q.contents := by
  obtain ⟨blocks, index⟩ := it
  cases blocks with
  | nil => cases entry
  | cons b bs =>
    have there : b ∈ q.blocks := within.subset List.mem_cons_self
    obtain ⟨address, value⟩ := Block.element_eq_some.mp entry
    have cell := (ok.chain.blocks b there).mem_cells value
    have same : r = (⟨b.addr, b.slot index⟩, r.2) := Prod.ext address rfl
    rw [same]
    exact mem_live.mpr ⟨b, there, cell⟩

theorem Ok.iterator_within {k : Nat} (iterates : q.iterator k = .ok it) : Within q it := by
  unfold iterator begin at iterates
  split at iterates
  · obtain rfl := Except.ok.inj iterates
    exact (Iterator.iterate_suffix k finish).trans List.nil_suffix
  · cases makes : Iterator.make q.blocks ((q.blocks.head?.map Block.mBegin).getD 0) with
    | error fault => simp [makes, Except.map] at iterates
    | ok start =>
      rw [makes] at iterates
      obtain rfl := Except.ok.inj iterates
      obtain ⟨rfl, _⟩ := Iterator.make_eq_ok makes
      exact Iterator.iterate_suffix k _

theorem findBlock_suffix {blk : List (Block α)} (finds : findBlock p bs = .ok blk) :
    blk <:+ bs ∧ ∃ b ∈ blk.head?, b.contains p = true := by
  induction bs with
  | nil => cases finds
  | cons b bs ih =>
    unfold findBlock at finds
    split at finds
    · rename_i here
      obtain rfl := Except.ok.inj finds
      exact ⟨List.suffix_refl _, b, rfl, here⟩
    · exact ⟨(ih finds).1.trans (List.suffix_cons b bs), (ih finds).2⟩

/-! ## Steps -/

theorem bind_eq_ok {ε β γ : Type} {x : Except ε β} {f : β → Except ε γ} {y : γ}
    (result : x.bind f = .ok y) : ∃ z, x = .ok z ∧ f z = .ok y := by
  cases x with
  | error fault => cases result
  | ok z => exact ⟨z, rfl, result⟩

/-- `erase(Iterator)` removes what it refers to. -/
theorem Ok.erase_eq_ok (ok : q.Ok) (within : Within q it) (erases : q.erase it = .ok q') :
    ∃ r ∈ q.contents, it.entry = some r ∧ Removes q q' r := by
  have valid : it.valid = true := by
    by_contra invalid
    unfold Queue.erase at erases
    split at erases
    · cases erases
    · rw [if_pos (by simpa using invalid)] at erases
      cases erases
  have entered : ∃ r, it.entry = some r := by
    unfold Iterator.valid at valid
    unfold Iterator.entry
    split at valid
    · cases valid
    · exact Option.isSome_iff_exists.mp (of_decide_eq_true valid).2
  obtain ⟨r, entry⟩ := entered
  have member := ok.mem_of_entry within entry
  obtain ⟨t, same, removes⟩ := ok.erase valid entry member
  obtain rfl := Except.ok.inj (same.symm.trans erases)
  exact ⟨r, member, entry, removes⟩

theorem Ok.erasePtr_eq_ok (ok : q.Ok) (erases : q.erasePtr p = .ok q') :
    ∃ r ∈ q.contents, r.1 = p ∧ Removes q q' r := by
  obtain ⟨blk, finds, erases⟩ := bind_eq_ok erases
  obtain ⟨it, makes, erases⟩ := bind_eq_ok erases
  obtain ⟨r, derefs, erases⟩ := bind_eq_ok erases
  obtain ⟨rfl, _⟩ := Iterator.make_eq_ok makes
  obtain ⟨_, entry⟩ := Iterator.deref_eq_ok derefs
  have within : Within q ⟨blk, UInt64.ofNat p.slot⟩ := (findBlock_suffix finds).1
  split at erases
  · rename_i address
    obtain ⟨r', member, entry', removes⟩ := ok.erase_eq_ok within erases
    obtain rfl := Option.some.inj (entry.symm.trans entry')
    exact ⟨r, member, address, removes⟩
  · cases erases

theorem Ok.popFront_eq_ok (ok : q.Ok) (pops : q.popFront = .ok q') :
    ∃ r rest, q.contents = r :: rest ∧ Removes q q' r := by
  rcases ok.first with ⟨empty, _⟩ | ⟨r, rest, first, _⟩
  · unfold Queue.popFront at pops
    rw [if_pos (by rw [ok.size, empty]; rfl)] at pops
    cases pops
  · obtain ⟨t, same, removes⟩ := ok.popFront first
    obtain rfl := Except.ok.inj (same.symm.trans pops)
    exact ⟨r, rest, first, removes⟩

/-- A `reserve` only allocates behind entries. -/
def KeepsFilled (q : Queue α) : Event α → Prop
  | .reserve c => ReservesBehind q c
  | _ => True

instance (q : Queue α) (e : Event α) : Decidable (KeepsFilled q e) := by
  rcases e with ⟨⟩ <;> dsimp only [KeepsFilled] <;> infer_instance

theorem call_of_step (taken : step q e = some t) : q.call e = .ok t := by
  unfold step at taken
  cases h : q.call e with
  | error fault => simp [h, Except.toOption] at taken
  | ok t' =>
    rw [h] at taken
    rw [Option.some.inj taken]

/-- An element is appended, one is removed, or none. -/
theorem Ok.step_cases (ok : q.Ok) (met : KeepsFilled q e) (taken : step q e = some t) :
    (∃ x p, e = .pushBack x ∧ Adds q t p x) ∨ (∃ r ∈ q.contents, Removes q t r) ∨
      ∃ c, e = .reserve c ∧ Keeps q t := by
  have calls := call_of_step taken
  cases e with
  | pushBack x =>
    left
    rcases ok.emplaceBack x with fails | ⟨t', p, same, adds⟩
    · cases fails.symm.trans calls
    · obtain rfl := Except.ok.inj (same.symm.trans calls)
      exact ⟨x, p, rfl, adds⟩
  | popFront =>
    obtain ⟨r, rest, first, removes⟩ := ok.popFront_eq_ok calls
    exact .inr (.inl ⟨r, first ▸ List.mem_cons_self, removes⟩)
  | erase k =>
    obtain ⟨it, iterates, erases⟩ := bind_eq_ok calls
    obtain ⟨r, member, _, removes⟩ := ok.erase_eq_ok (Ok.iterator_within iterates) erases
    exact .inr (.inl ⟨r, member, removes⟩)
  | erasePtr p =>
    obtain ⟨r, member, _, removes⟩ := ok.erasePtr_eq_ok calls
    exact .inr (.inl ⟨r, member, removes⟩)
  | reserve c => exact .inr (.inr ⟨c, rfl, (ok.reserve met calls).1⟩)

theorem Ok.step (ok : q.Ok) (met : KeepsFilled q e) (taken : Queue.step q e = some t) : t.Ok := by
  rcases ok.step_cases met taken with ⟨_, _, _, adds⟩ | ⟨_, _, removes⟩ | ⟨_, _, keeps⟩
  · exact adds.ok
  · exact removes.ok
  · exact keeps.ok

/-- `Queue()`. -/
theorem Ok.empty : (Queue.empty : Queue α).Ok := by
  have good : ({ addr := 0, mSizeMask := DefaultCapacity - 1 } : Block α).Ok :=
    Block.Ok.fresh (n := 3) (by decide) (by decide)
  have none : ({ addr := 0, mSizeMask := DefaultCapacity - 1 } : Block α).occupied = 0 :=
    UInt64.sub_self 0
  refine ⟨⟨Chain.single good, List.cons_ne_nil _ _, ?_, ?_, nofun⟩, ?_⟩
  · intro b member
    rw [List.mem_singleton.mp member]
    exact Nat.one_pos
  · rw [contents, Queue.empty, live_cons, Block.cells_empty none]
    rfl
  · intro b top full
    obtain rfl := Option.some.inj top
    exact absurd none full

end Queue

open Runs

/-- Every queue reached from a good one is good, however often its counters wrap. -/
theorem Queue.Ok.of_run {α : Type} {start q : Queue α} {events : List (Queue.Event α)}
    (run : Run Queue.step Queue.KeepsFilled start events q) (ok : start.Ok) : q.Ok :=
  run.invariant ok fun _ _ _ good met taken => good.step met taken

end Coproto
