import Mathlib.Algebra.Polynomial.Div
import Mathlib.Algebra.Polynomial.Identities
import Mathlib.Data.Int.ModEq
import Mathlib.Tactic.Ring

/-!
# The lowest bit in which two numbers differ

`DiffersAt k d x y`: below bit `k` the numbers agree, and `d` says whether they
differ in it. Sums and exclusive ors add such differences; a polynomial passes
one on exactly where its derivative is odd. Reduction modulo a power of two does
not see any of this below its width.
-/
namespace LowBits
variable {k w : Nat} {d e : Bool} {x y x' y' : Nat}

def DiffersAt (k : Nat) (d : Bool) (x y : Nat) : Prop :=
  x % 2 ^ k = y % 2 ^ k ∧ x.testBit k = (y.testBit k ^^ d)

theorem testBit_toNat (x k : Nat) : (x.testBit k).toNat = x / 2 ^ k % 2 := by
  rw [Nat.testBit_eq_decide_div_mod_eq]
  rcases Nat.mod_two_eq_zero_or_one (x / 2 ^ k) with zero | one
  · simp [zero]
  · simp [one]

/-- A number up to bit `k` is what is below it, and the bit. -/
theorem mod_succ (x k : Nat) : x % 2 ^ (k + 1) = x % 2 ^ k + 2 ^ k * (x.testBit k).toNat := by
  rw [testBit_toNat, Nat.pow_succ, Nat.mod_mul]

theorem mod_succ_eq_iff : x % 2 ^ (k + 1) = y % 2 ^ (k + 1) ↔
    x % 2 ^ k = y % 2 ^ k ∧ x.testBit k = y.testBit k := by
  have small (z : Nat) : z % 2 ^ k < 2 ^ k := Nat.mod_lt z (Nat.two_pow_pos k)
  rw [mod_succ, mod_succ]
  constructor
  · intro same
    have low : x % 2 ^ k = y % 2 ^ k := by
      have reduced := congrArg (· % 2 ^ k) same
      simpa [Nat.mod_eq_of_lt (small _)] using reduced
    refine ⟨low, ?_⟩
    rw [low, Nat.add_left_cancel_iff, Nat.mul_right_inj (Nat.two_pow_pos k).ne'] at same
    revert same
    cases x.testBit k <;> cases y.testBit k <;> simp
  · rintro ⟨low, bit⟩
    rw [low, bit]

/-- The bit that is added to `y` does not carry. -/
theorem testBit_add_pow (y k : Nat) (d : Bool) : (y + 2 ^ k * d.toNat) % 2 ^ k = y % 2 ^ k ∧
    (y + 2 ^ k * d.toNat).testBit k = (y.testBit k ^^ d) := by
  refine ⟨Nat.add_mul_mod_self_left .., ?_⟩
  rw [Nat.testBit_eq_decide_div_mod_eq, Nat.testBit_eq_decide_div_mod_eq,
    Nat.add_mul_div_left _ _ (Nat.two_pow_pos k)]
  cases d with
  | false => simp
  | true =>
    have step : (y / 2 ^ k + 1) % 2 = 1 ↔ ¬ y / 2 ^ k % 2 = 1 := by omega
    have flipped : decide ((y / 2 ^ k + 1) % 2 = 1) = !decide (y / 2 ^ k % 2 = 1) := by
      rw [decide_eq_decide.mpr step, decide_not]
    simpa using flipped

namespace DiffersAt

/-- As a congruence. -/
theorem iff_modEq : DiffersAt k d x y ↔ x ≡ y + 2 ^ k * d.toNat [MOD 2 ^ (k + 1)] := by
  obtain ⟨low, bit⟩ := testBit_add_pow y k d
  unfold DiffersAt Nat.ModEq
  rw [mod_succ_eq_iff, low, bit]

theorem iff_intModEq :
    DiffersAt k d x y ↔ (x : ℤ) ≡ y + 2 ^ k * d.toNat [ZMOD 2 ^ (k + 1)] := by
  rw [iff_modEq, ← Int.natCast_modEq_iff]
  push_cast
  rfl

theorem refl (k x : Nat) : DiffersAt k false x x := ⟨rfl, by simp⟩

/-- Bits that are cut off do not matter. -/
theorem congr (differs : DiffersAt k d x y) (inside : k < w) (left : x' % 2 ^ w = x % 2 ^ w)
    (right : y' % 2 ^ w = y % 2 ^ w) : DiffersAt k d x' y' := by
  have narrow {a b : Nat} (same : a % 2 ^ w = b % 2 ^ w) : a % 2 ^ (k + 1) = b % 2 ^ (k + 1) :=
    Nat.ModEq.of_dvd (Nat.pow_dvd_pow 2 inside) same
  obtain ⟨lowX, bitX⟩ := mod_succ_eq_iff.mp (narrow left)
  obtain ⟨lowY, bitY⟩ := mod_succ_eq_iff.mp (narrow right)
  exact ⟨lowX.trans (differs.1.trans lowY.symm), by rw [bitX, bitY, differs.2]⟩

theorem add (first : DiffersAt k d x y) (second : DiffersAt k e x' y') :
    DiffersAt k (d ^^ e) (x + x') (y + y') := by
  rw [iff_intModEq] at *
  push_cast
  refine (first.add second).trans ?_
  rw [Int.modEq_iff_dvd]
  refine ⟨-(d && e).toNat, ?_⟩
  cases d <;> cases e <;> simp <;> ring

theorem xor (first : DiffersAt k d x y) (second : DiffersAt k e x' y') :
    DiffersAt k (d ^^ e) (x ^^^ x') (y ^^^ y') := by
  constructor
  · rw [Nat.xor_mod_two_pow, Nat.xor_mod_two_pow, first.1, second.1]
  · rw [Nat.testBit_xor, Nat.testBit_xor, first.2, second.2]
    cases d <;> cases e <;> simp

/-- A polynomial passes a difference on where its derivative is odd. -/
theorem eval (differs : DiffersAt k d x y) (above : 0 < k) (p : Polynomial ℤ)
    (left : (x' : ℤ) ≡ p.eval (x : ℤ) [ZMOD 2 ^ (k + 1)])
    (right : (y' : ℤ) ≡ p.eval (y : ℤ) [ZMOD 2 ^ (k + 1)]) :
    DiffersAt k (d && decide (p.derivative.eval (y : ℤ) % 2 = 1)) x' y' := by
  have moved : p.eval (x : ℤ) ≡ p.eval ((y : ℤ) + 2 ^ k * d.toNat) [ZMOD 2 ^ (k + 1)] := by
    apply Int.modEq_of_dvd
    exact (iff_intModEq.mp differs).dvd.trans (Polynomial.sub_dvd_eval_sub _ _ p)
  obtain ⟨rest, expanded⟩ := Polynomial.binomExpansion p (y : ℤ) (2 ^ k * d.toNat)
  have square : (2 : ℤ) ^ (k + 1) ∣ rest * (2 ^ k * d.toNat) ^ 2 := by
    have wide : (2 : ℤ) ^ (k + 1) ∣ 2 ^ (k * 2) := pow_dvd_pow 2 (by omega)
    rw [mul_pow, ← pow_mul, ← mul_assoc]
    exact (wide.mul_left rest).mul_right _
  have slope : (2 : ℤ) ^ (k + 1) ∣ p.derivative.eval (y : ℤ) * (2 ^ k * d.toNat) -
      2 ^ k * (d && decide (p.derivative.eval (y : ℤ) % 2 = 1)).toNat := by
    obtain ⟨half, parts⟩ : ∃ half, p.derivative.eval (y : ℤ) =
        p.derivative.eval (y : ℤ) % 2 + 2 * half := ⟨_, (Int.emod_add_mul_ediv _ 2).symm⟩
    refine ⟨half * d.toNat, ?_⟩
    rcases Int.emod_two_eq_zero_or_one (p.derivative.eval (y : ℤ)) with even | odd
    · rw [even] at parts ⊢
      rw [parts]
      simp
      ring
    · rw [odd] at parts ⊢
      rw [parts]
      simp
      ring
  rw [iff_intModEq]
  refine left.trans (moved.trans ?_)
  refine Int.ModEq.trans ?_ (right.symm.add_right _)
  apply Int.ModEq.symm
  apply Int.modEq_of_dvd
  rw [expanded]
  have total := dvd_add slope square
  ring_nf at total ⊢
  exact total

/-- Different numbers differ first in some bit. -/
theorem exists_of_ne (other : x ≠ y) : ∃ k, DiffersAt k true x y := by
  have some : ∃ k, x.testBit k ≠ y.testBit k := by
    by_contra none
    push Not at none
    exact other (Nat.eq_of_testBit_eq none)
  obtain ⟨bit, below⟩ := And.intro (Nat.find_spec some) fun j (lower : j < Nat.find some) =>
    not_not.mp (Nat.find_min some lower)
  refine ⟨Nat.find some, ?_, ?_⟩
  · apply Nat.eq_of_testBit_eq
    intro j
    rw [Nat.testBit_mod_two_pow, Nat.testBit_mod_two_pow]
    by_cases lower : j < Nat.find some
    · rw [below j lower]
    · simp [lower]
  · revert bit
    cases x.testBit (Nat.find some) <;> cases y.testBit (Nat.find some) <;> simp

/-- In words the bit is inside the word. -/
theorem lt_of_lt (differs : DiffersAt k true x y) (left : x < 2 ^ w) (right : y < 2 ^ w) : k < w := by
  by_contra outside
  have wide : 2 ^ w ≤ 2 ^ k := Nat.pow_le_pow_right Nat.two_pos (Nat.not_lt.mp outside)
  have bit := differs.2
  rw [Nat.testBit_lt_two_pow (left.trans_le wide), Nat.testBit_lt_two_pow (right.trans_le wide)] at bit
  cases bit

/-- Numbers that do not differ in the last bit of the word either are equal. -/
theorem eq_of_last (differs : DiffersAt k false x y) (left : x < 2 ^ (k + 1))
    (right : y < 2 ^ (k + 1)) : x = y := by
  have bit : x.testBit k = y.testBit k := by simpa using differs.2
  have same := mod_succ_eq_iff.mpr ⟨differs.1, bit⟩
  rwa [Nat.mod_eq_of_lt left, Nat.mod_eq_of_lt right] at same

end DiffersAt

/-! ## Arithmetic of words -/

theorem toNat_mul_modEq (x y : UInt64) :
    ((x * y).toNat : ℤ) ≡ x.toNat * y.toNat [ZMOD 2 ^ 64] := by
  rw [UInt64.toNat_mul]
  push_cast
  exact Int.mod_modEq _ _

theorem toNat_sub_modEq (x y : UInt64) :
    ((x - y).toNat : ℤ) ≡ x.toNat - y.toNat [ZMOD 2 ^ 64] := by
  have inside := y.toNat_lt
  rw [UInt64.toNat_sub]
  unfold Int.ModEq
  omega

theorem DiffersAt.toNat_add {x y x' y' : UInt64} (inside : k < 64)
    (first : DiffersAt k d x.toNat y.toNat) (second : DiffersAt k e x'.toNat y'.toNat) :
    DiffersAt k (d ^^ e) (x + x').toNat (y + y').toNat := by
  apply (first.add second).congr inside
  · rw [UInt64.toNat_add, Nat.mod_mod]
  · rw [UInt64.toNat_add, Nat.mod_mod]

/-- The last bit of a word. -/
def parity (x : UInt64) : Bool := x.toNat.testBit 0

theorem parity_eq_decide (x : UInt64) : parity x = decide ((x.toNat : ℤ) % 2 = 1) := by
  rw [parity, Nat.testBit_zero, decide_eq_decide]
  omega

theorem parity_add (x y : UInt64) : parity (x + y) = (parity x ^^ parity y) := by
  have same : (x + y).toNat % 2 = (x.toNat + y.toNat) % 2 := by
    rw [UInt64.toNat_add]
    omega
  rw [parity, parity, parity, Nat.testBit_zero, Nat.testBit_zero, Nat.testBit_zero, same]
  rcases Nat.mod_two_eq_zero_or_one x.toNat with left | left <;>
  rcases Nat.mod_two_eq_zero_or_one y.toNat with right | right <;>
  simp [Nat.add_mod, left, right]

theorem parity_xor (x y : UInt64) : parity (x ^^^ y) = (parity x ^^ parity y) := by
  rw [parity, UInt64.toNat_xor, Nat.testBit_xor]
  rfl

theorem parity_eq_iff (x y : UInt64) : parity x = parity y ↔ x % 2 = y % 2 := by
  rw [← UInt64.toNat_inj, UInt64.toNat_mod, UInt64.toNat_mod, parity, parity, Nat.testBit_zero,
    Nat.testBit_zero, decide_eq_decide]
  have two : (2 : UInt64).toNat = 2 := rfl
  rw [two]
  omega

end LowBits
