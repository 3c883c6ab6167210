import Mathlib.Data.List.Basic

/-!
# Ring buffers

A ring of `cap` cells with a tail counter that is never reduced and a number of
elements: the elements are the cells from the tail on, modulo `cap`. Cells
outside this window are not looked at.
-/
namespace Ring
variable {α : Type*} {cells cells' : Nat → α} {cap tail count : Nat}

def contents (cells : Nat → α) (cap tail count : Nat) : List α :=
  (List.range count).map fun i => cells ((tail + i) % cap)

def write (cells : Nat → α) (i : Nat) (x : α) : Nat → α := fun j => if j = i then x else cells j

@[simp] theorem length_contents : (contents cells cap tail count).length = count := by
  simp [contents]

@[simp] theorem contents_zero : contents cells cap tail 0 = [] := rfl

/-- Two elements of the window sit in different cells. -/
theorem cell_ne {i j : Nat} (before : i < j) (close : j < i + cap) :
    (tail + i) % cap ≠ (tail + j) % cap := by
  intro same
  have divides : cap ∣ (tail + j) - (tail + i) :=
    Nat.dvd_of_mod_eq_zero (Nat.sub_mod_eq_zero_of_mod_eq same.symm)
  have small : (tail + j) - (tail + i) < cap := by omega
  have zero := Nat.eq_zero_of_dvd_of_lt divides small
  omega

/-- Only the cells of the window matter. -/
theorem contents_congr (same : ∀ i < count, cells' ((tail + i) % cap) = cells ((tail + i) % cap)) :
    contents cells' cap tail count = contents cells cap tail count :=
  List.map_congr_left fun i member => same i (List.mem_range.mp member)

/-- The counter may be reduced modulo the size of the ring. -/
theorem contents_mod {tail' : Nat} (same : tail' % cap = tail % cap) :
    contents cells cap tail' count = contents cells cap tail count :=
  List.map_congr_left fun i _ => by rw [Nat.add_mod, same, ← Nat.add_mod]

theorem contents_push (room : count < cap) (x : α) :
    contents (write cells ((tail + count) % cap) x) cap tail (count + 1) =
      contents cells cap tail count ++ [x] := by
  unfold contents
  rw [List.range_succ, List.map_append]
  congr 1
  · refine List.map_congr_left fun i member => ?_
    have before := List.mem_range.mp member
    simp [write, cell_ne before (Nat.lt_of_lt_of_le room (Nat.le_add_left cap i))]
  · simp [write]

theorem contents_pop : contents cells cap tail (count + 1) =
    cells (tail % cap) :: contents cells cap (tail + 1) count := by
  unfold contents
  rw [List.range_succ_eq_map, List.map_cons, List.map_map]
  congr 1
  refine List.map_congr_left fun i _ => ?_
  simp [Nat.add_right_comm, Nat.add_assoc]

/-- What is written to the cell that was popped is not seen. -/
theorem contents_write_popped (room : count < cap) (x : α) :
    contents (write cells (tail % cap) x) cap (tail + 1) count =
      contents cells cap (tail + 1) count := by
  refine contents_congr fun i inside => ?_
  have other : (tail + 0) % cap ≠ (tail + (i + 1)) % cap :=
    cell_ne (Nat.succ_pos i) (by omega : i + 1 < 0 + cap)
  have shift : tail + 1 + i = tail + (i + 1) := by omega
  rw [write, shift, if_neg (fun same => other (by simpa using same.symm))]

end Ring
