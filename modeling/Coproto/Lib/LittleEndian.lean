import Mathlib.Data.List.Basic
import Mathlib.Tactic.Ring

/-!
# Fixed-width little-endian bytes

`leBytes width n` lays a number out on `width` bytes, least significant first;
`leNat` reads such a field back. A field that is followed by further bytes is
read with `List.take`.
-/
namespace LittleEndian

def leBytes : Nat → Nat → List UInt8
  | 0, _ => []
  | width + 1, n => UInt8.ofNat n :: leBytes width (n / 256)

def leNat : List UInt8 → Nat
  | [] => 0
  | b :: bs => b.toNat + 256 * leNat bs

@[simp] theorem leBytes_length (width n : Nat) : (leBytes width n).length = width := by
  induction width generalizing n with
  | zero => rfl
  | succ width ih => simp [leBytes, ih]

/-- A field read back is the number modulo the range of the field. -/
theorem leNat_leBytes (width n : Nat) : leNat (leBytes width n) = n % 256 ^ width := by
  induction width generalizing n with
  | zero => simp [leBytes, leNat, Nat.mod_one]
  | succ width ih =>
    have split : n % 256 ^ (width + 1) = n % 256 + 256 * (n / 256 % 256 ^ width) := by
      rw [pow_succ, mul_comm, Nat.mod_mul]
    simp only [leBytes, leNat, ih, split, UInt8.toNat_ofNat', Nat.reducePow]

theorem leNat_leBytes_of_lt {width n : Nat} (fits : n < 256 ^ width) :
    leNat (leBytes width n) = n := by
  rw [leNat_leBytes, Nat.mod_eq_of_lt fits]

/-- The first field of a longer text. -/
@[simp] theorem take_leBytes_append (width n : Nat) (rest : List UInt8) :
    (leBytes width n ++ rest).take width = leBytes width n := by
  rw [List.take_append_of_le_length (by simp), List.take_of_length_le (by simp)]

@[simp] theorem drop_leBytes_append (width n : Nat) (rest : List UInt8) :
    (leBytes width n ++ rest).drop width = rest := by
  rw [List.drop_append_of_le_length (by simp), List.drop_of_length_le (by simp), List.nil_append]

end LittleEndian
