import Coproto.Lib.LowBits
import Coproto.Lib.Runs
import Coproto.Source.Scheduler

/-!
# Session ids of siblings

SessionID.h:41-73. `derive` mixes the child index into both words with five
rounds of a cubic polynomial. In each round the lowest bit in which two indices
differ survives where the derivative of the polynomial is odd; five rounds keep
it, in the second word, exactly when the indices have the parity of the first
word of the parent. Other indices lose their top bit.
-/
namespace Coproto
open LowBits SockScheduler Runs

namespace SessionID

/-- The words of the child `derive` makes when `mChildIdx` is `i`. -/
def childAt (id : SessionID) (i : UInt64) : UInt64 × UInt64 := ({ id with mChildIdx := i }.derive.1).mVal

/-- What a round makes of word `l` with the other word `r`. -/
def mixed (i l r : UInt64) : UInt64 := bHash (r + i + 32243534) ^^^ l ^^^ 9478532833

/-- The polynomial of `bHash` over the integers. -/
noncomputable def hashPoly : Polynomial ℤ :=
  Polynomial.X * (Polynomial.X - 1) * (Polynomial.X - 2) - 23 * Polynomial.X

variable {k : Nat} {d e f : Bool} {i j l l' r r' v v' : UInt64} {id : SessionID}

/-! ## One round -/

theorem hashPoly_eval (z : ℤ) : hashPoly.eval z = z * (z - 1) * (z - 2) - 23 * z := by
  simp [hashPoly]

theorem hashPoly_slope (z : ℤ) : hashPoly.derivative.eval z = 3 * z ^ 2 - 6 * z - 21 := by
  simp [hashPoly]
  ring

theorem bHash_modEq (v : UInt64) :
    ((bHash v).toNat : ℤ) ≡ hashPoly.eval (v.toNat : ℤ) [ZMOD 2 ^ 64] := by
  have one : ((v - 1).toNat : ℤ) ≡ v.toNat - 1 [ZMOD 2 ^ 64] := toNat_sub_modEq v 1
  have two : ((v - 2).toNat : ℤ) ≡ v.toNat - 2 [ZMOD 2 ^ 64] := toNat_sub_modEq v 2
  have square : ((v * (v - 1)).toNat : ℤ) ≡ v.toNat * (v.toNat - 1) [ZMOD 2 ^ 64] :=
    (toNat_mul_modEq v (v - 1)).trans (one.mul_left _)
  have cube : ((v * (v - 1) * (v - 2)).toNat : ℤ) ≡ v.toNat * (v.toNat - 1) * (v.toNat - 2)
      [ZMOD 2 ^ 64] := (toNat_mul_modEq _ _).trans (square.mul two)
  have scaled : ((23 * v).toNat : ℤ) ≡ 23 * v.toNat [ZMOD 2 ^ 64] := toNat_mul_modEq 23 v
  rw [hashPoly_eval]
  exact (toNat_sub_modEq _ _).trans (cube.sub scaled)

/-- The derivative is odd at even words. -/
theorem slope_odd (v : UInt64) :
    decide (hashPoly.derivative.eval (v.toNat : ℤ) % 2 = 1) = !parity v := by
  rw [parity_eq_decide, hashPoly_slope, ← decide_not, decide_eq_decide]
  rcases Int.emod_two_eq_zero_or_one (v.toNat : ℤ) with even | odd
  · simp [pow_two, Int.sub_emod, Int.mul_emod, even]
  · simp [pow_two, Int.sub_emod, Int.mul_emod, odd]

theorem bHash_parity (v : UInt64) : parity (bHash v) = parity v := by
  have same : ((bHash v).toNat : ℤ) ≡ hashPoly.eval (v.toNat : ℤ) [ZMOD 2] :=
    (bHash_modEq v).of_dvd (by decide)
  rw [parity_eq_decide, parity_eq_decide, decide_eq_decide, same, hashPoly_eval]
  rcases Int.emod_two_eq_zero_or_one (v.toNat : ℤ) with even | odd
  · simp [Int.sub_emod, Int.mul_emod, even]
  · simp [Int.sub_emod, Int.mul_emod, odd]

theorem bHash_differs (above : 0 < k) (inside : k < 64) (differs : DiffersAt k d v.toNat v'.toNat) :
    DiffersAt k (d && !parity v') (bHash v).toNat (bHash v').toNat := by
  have narrow : (2 : ℤ) ^ (k + 1) ∣ 2 ^ 64 := pow_dvd_pow 2 inside
  rw [← slope_odd v']
  exact differs.eval above hashPoly ((bHash_modEq v).of_dvd narrow) ((bHash_modEq v').of_dvd narrow)

/-- The round constants are even and odd. -/
theorem mixed_parity (i l r : UInt64) :
    parity (mixed i l r) = !(parity r ^^ parity i ^^ parity l) := by
  have even : parity 32243534 = false := by decide
  have odd : parity 9478532833 = true := by decide
  rw [mixed, parity_xor, parity_xor, bHash_parity, parity_add, parity_add, even, odd]
  cases parity r <;> cases parity i <;> cases parity l <;> rfl

theorem mixed_differs (above : 0 < k) (inside : k < 64) (index : DiffersAt k d i.toNat j.toNat)
    (other : DiffersAt k e r.toNat r'.toNat) (own : DiffersAt k f l.toNat l'.toNat) :
    DiffersAt k (((e ^^ d) && !(parity r' ^^ parity j)) ^^ f) (mixed i l r).toNat
      (mixed j l' r').toNat := by
  have sum := (other.toNat_add inside index).toNat_add inside (.refl k (32243534 : UInt64).toNat)
  have hashed := bHash_differs above inside sum
  have even : parity 32243534 = false := by decide
  rw [parity_add, parity_add, even, Bool.xor_false, Bool.xor_false] at hashed
  have whole := (hashed.xor own).xor (.refl k (9478532833 : UInt64).toNat)
  rw [Bool.xor_false] at whole
  rw [mixed, mixed, UInt64.toNat_xor, UInt64.toNat_xor, UInt64.toNat_xor, UInt64.toNat_xor]
  exact whole

/-! ## Five rounds -/

section Rounds
variable (id : SessionID) (i : UInt64)

/-- The words after each round. -/
def a1 : UInt64 := mixed i id.mVal.1 id.mVal.2

def b1 : UInt64 := mixed i id.mVal.2 (a1 id i)

def a2 : UInt64 := mixed i (a1 id i) (b1 id i)

def b2 : UInt64 := mixed i (b1 id i) (a2 id i)

def a3 : UInt64 := mixed i (a2 id i) (b2 id i)

theorem childAt_eq : id.childAt i = (a3 id i ^^^ id.mVal.1, b2 id i ^^^ id.mVal.2) := by
  have five : List.range 5 = [0, 1, 2, 3, 4] := rfl
  simp only [childAt, derive, five, List.foldl_cons, List.foldl_nil, feistelRound, Nat.reduceMod,
    if_true, one_ne_zero, if_false, a3, b2, a2, b1, a1, mixed]

@[simp] theorem a1_parity :
    parity (a1 id i) = !(parity id.mVal.1 ^^ parity id.mVal.2 ^^ parity i) := by
  rw [a1, mixed_parity]
  cases parity id.mVal.1 <;> cases parity id.mVal.2 <;> cases parity i <;> rfl

@[simp] theorem b1_parity : parity (b1 id i) = parity id.mVal.1 := by
  rw [b1, mixed_parity, a1_parity]
  cases parity id.mVal.1 <;> cases parity id.mVal.2 <;> cases parity i <;> rfl

@[simp] theorem a2_parity : parity (a2 id i) = parity id.mVal.2 := by
  rw [a2, mixed_parity, a1_parity, b1_parity]
  cases parity id.mVal.1 <;> cases parity id.mVal.2 <;> cases parity i <;> rfl

@[simp] theorem b2_parity :
    parity (b2 id i) = !(parity id.mVal.1 ^^ parity id.mVal.2 ^^ parity i) := by
  rw [b2, mixed_parity, b1_parity, a2_parity]
  cases parity id.mVal.1 <;> cases parity id.mVal.2 <;> cases parity i <;> rfl

end Rounds

/-- The second word of a child tells the parity of its index. -/
theorem childAt_parity (id : SessionID) (i : UInt64) :
    parity (id.childAt i).2 = !(parity id.mVal.1 ^^ parity i) := by
  rw [childAt_eq, parity_xor, b2_parity]
  cases parity id.mVal.1 <;> cases parity id.mVal.2 <;> cases parity i <;> rfl

/-- What five rounds leave of a difference between two indices: nothing in the
first word, and in the second one a difference if their parity is the parent's. -/
theorem childAt_differs (id : SessionID) (above : 0 < k) (inside : k < 64)
    (differs : DiffersAt k true i.toNat j.toNat) :
    DiffersAt k false (id.childAt i).1.toNat (id.childAt j).1.toNat ∧
      DiffersAt k (parity id.mVal.1 == parity j) (id.childAt i).2.toNat (id.childAt j).2.toNat := by
  have word1 : DiffersAt k false id.mVal.1.toNat id.mVal.1.toNat := .refl k _
  have word2 : DiffersAt k false id.mVal.2.toNat id.mVal.2.toNat := .refl k _
  have first : DiffersAt k _ (a1 id i).toNat (a1 id j).toNat :=
    mixed_differs above inside differs word2 word1
  have second : DiffersAt k _ (b1 id i).toNat (b1 id j).toNat :=
    mixed_differs above inside differs first word2
  have third : DiffersAt k _ (a2 id i).toNat (a2 id j).toNat :=
    mixed_differs above inside differs second first
  have fourth : DiffersAt k _ (b2 id i).toNat (b2 id j).toNat :=
    mixed_differs above inside differs third second
  have fifth : DiffersAt k _ (a3 id i).toNat (a3 id j).toNat :=
    mixed_differs above inside differs fourth third
  have left := fifth.xor word1
  have right := fourth.xor word2
  rw [childAt_eq, childAt_eq, UInt64.toNat_xor, UInt64.toNat_xor, UInt64.toNat_xor, UInt64.toNat_xor]
  simp only [a1_parity, b1_parity, a2_parity, b2_parity] at left right
  generalize parity id.mVal.1 = a at left right ⊢
  generalize parity id.mVal.2 = b at left right ⊢
  generalize parity j = c at left right ⊢
  constructor
  · cases a <;> cases b <;> cases c <;> exact left
  · cases a <;> cases b <;> cases c <;> exact right

/-- Two indices, one of them of the parity of the parent, make different ids. -/
theorem childAt_ne (id : SessionID) (other : j ≠ i) (same : parity i = parity id.mVal.1) :
    id.childAt i ≠ id.childAt j := by
  intro equal
  have words : (id.childAt i).2 = (id.childAt j).2 := by rw [equal]
  obtain ⟨k, differs⟩ := DiffersAt.exists_of_ne fun h => other (UInt64.toNat_inj.mp h)
  have inside : k < 64 := differs.lt_of_lt j.toNat_lt i.toNat_lt
  rcases Nat.eq_zero_or_pos k with rfl | above
  · have bits : parity j = (parity i ^^ true) := differs.2
    have parities := congrArg parity words
    rw [childAt_parity, childAt_parity, bits] at parities
    revert parities
    cases parity id.mVal.1 <;> cases parity i <;> simp
  · obtain ⟨_, kept⟩ := childAt_differs id above inside differs
    rw [same, beq_self_eq_true, words] at kept
    have bit := kept.2
    simp at bit

/-- The top bit of a word. -/
def topBit : UInt64 := 0x8000000000000000

theorem topBit_toNat : topBit.toNat = 2 ^ 63 := rfl

/-- Indices of the other parity lose their top bit. -/
theorem childAt_top (id : SessionID) (other : parity i ≠ parity id.mVal.1) :
    id.childAt (i + topBit) = id.childAt i := by
  have differs : DiffersAt 63 true (i + topBit).toNat i.toNat := by
    rw [DiffersAt.iff_modEq, UInt64.toNat_add, topBit_toNat, Bool.toNat_true, Nat.mul_one]
    exact Nat.mod_modEq _ _
  obtain ⟨first, second⟩ := childAt_differs id (by decide) (by decide) differs
  have lost : (parity id.mVal.1 == parity i) = false := by
    rw [beq_eq_false_iff_ne]
    exact Ne.symm other
  rw [lost] at second
  have left := UInt64.toNat_inj.mp (first.eq_of_last (UInt64.toNat_lt _) (UInt64.toNat_lt _))
  have right := UInt64.toNat_inj.mp (second.eq_of_last (UInt64.toNat_lt _) (UInt64.toNat_lt _))
  exact Prod.ext left right

end SessionID

/-- The id of a child differs from that of every sibling exactly when its index
has the parity of the first word of the parent. -/
theorem siblings_differ_iff (id : SessionID) (i : UInt64) :
    (∀ j, j ≠ i → id.childAt i ≠ id.childAt j) ↔ i % 2 = id.mVal.1 % 2 := by
  rw [← parity_eq_iff]
  constructor
  · intro distinct
    by_contra other
    have moved : i + SessionID.topBit ≠ i := by
      intro same
      have zero : SessionID.topBit = 0 := by simpa using same
      revert zero
      decide
    exact distinct _ moved (SessionID.childAt_top id other).symm
  · intro same j other
    exact SessionID.childAt_ne id other same

/-- A parent whose first and seventeenth child collide. -/
def collidingParent : SessionID := ⟨(3561574387027561889, 2339136378816295122), 0⟩

/-- Its seventeenth fork meets the slot of its first one and fails the assertion
of `initLocalSocketFork`. -/
theorem siblings_collide : collidingParent.childAt 0 = collidingParent.childAt 16 ∧
    ∃ s, Run step anyStep (init collidingParent)
      (List.replicate 17 (.fork collidingParent.mVal)) s ∧
      s.forkFaults = [.initLocalSocketForkLocalId] := by
  have reached : (exec step anyStep (init collidingParent)
      (List.replicate 17 (.fork collidingParent.mVal))).map (·.forkFaults) =
      some [.initLocalSocketForkLocalId] := by
    decide +kernel
  obtain ⟨s, result, faults⟩ := Option.map_eq_some_iff.mp reached
  exact ⟨by decide +kernel, s, .of_exec result, faults⟩

end Coproto
