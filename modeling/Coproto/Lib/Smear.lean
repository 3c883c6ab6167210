import Mathlib.Algebra.Group.Nat.Defs
import Mathlib.Data.Nat.Size

/-!
# Rounding up to a power of two

Or-ing a number with its own shifts smears its bits downwards. When they reach
all the way down, what is left is one less than a power of two.
-/
namespace Smear
variable {u v w k : Nat}

/-- A bit of `u` says whether one of `w` bits of `v`, from there on, is set. -/
def Smeared (v w u : Nat) : Prop :=
  ∀ i, u.testBit i = true ↔ ∃ j, i ≤ j ∧ j < i + w ∧ v.testBit j = true

theorem Smeared.refl (v : Nat) : Smeared v 1 v := by
  intro i
  constructor
  · exact fun set => ⟨i, Nat.le_refl i, Nat.lt_succ_self i, set⟩
  · rintro ⟨j, low, high, set⟩
    obtain rfl : i = j := by omega
    exact set

theorem Smeared.double (smeared : Smeared v w u) : Smeared v (2 * w) (u ||| u >>> w) := by
  intro i
  rw [Nat.testBit_or, Nat.testBit_shiftRight, Bool.or_eq_true, smeared i, smeared (w + i)]
  constructor
  · rintro (⟨j, low, high, set⟩ | ⟨j, low, high, set⟩)
    · exact ⟨j, low, by omega, set⟩
    · exact ⟨j, by omega, by omega, set⟩
  · rintro ⟨j, low, high, set⟩
    rcases Nat.lt_or_ge j (i + w) with near | far
    · exact .inl ⟨j, low, near, set⟩
    · exact .inr ⟨j, by omega, by omega, set⟩

/-- Smeared over its whole width, a number is one less than a power of two. -/
theorem Smeared.full (smeared : Smeared v w u) (small : v < 2 ^ w) : u + 1 = 2 ^ v.size := by
  have ones : u = 2 ^ v.size - 1 := by
    apply Nat.eq_of_testBit_eq
    intro i
    rw [Bool.eq_iff_iff, smeared i, Nat.testBit_two_pow_sub_one, decide_eq_true_iff, Nat.lt_size]
    constructor
    · rintro ⟨j, low, _, set⟩
      exact Nat.le_trans (Nat.pow_le_pow_right Nat.two_pos low) (Nat.ge_two_pow_of_testBit set)
    · intro large
      obtain ⟨j, low, set⟩ := Nat.exists_ge_and_testBit_of_ge_two_pow large
      have inside : j < w :=
        (Nat.pow_lt_pow_iff_right Nat.one_lt_two).mp
          (Nat.lt_of_le_of_lt (Nat.ge_two_pow_of_testBit set) small)
      exact ⟨j, low, by omega, set⟩
  have pos := Nat.two_pow_pos v.size
  omega

end Smear
