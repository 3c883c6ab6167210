import Mathlib.Data.List.Basic

/-!
# A queue kept in chunks

What is pushed stays in the chunks it came in; what is taken may end inside a
chunk, so an offset says how much of the first one is gone. The queue that is
meant is `contents`.
-/
namespace Chunks
variable {α : Type*} {front n : Nat} {chunk : List α} {chunks : List (List α)}

/-- What is left to take: the chunks joined, less the offset. -/
def contents (front : Nat) (chunks : List (List α)) : List α := chunks.flatten.drop front

/-- The offset lies in the first chunk. -/
def Fits (front : Nat) : List (List α) → Prop
  | [] => front = 0
  | chunk :: _ => front ≤ chunk.length

@[simp] theorem contents_nil : contents front ([] : List (List α)) = [] := by simp [contents]

theorem contents_cons (fits : front ≤ chunk.length) :
    contents front (chunk :: chunks) = chunk.drop front ++ chunks.flatten := by
  rw [contents, List.flatten_cons, List.drop_append_of_le_length fits]

theorem fits_zero : Fits 0 chunks := by
  cases chunks with
  | nil => rfl
  | cons => exact Nat.zero_le _

theorem contents_zero : contents 0 chunks = chunks.flatten := List.drop_zero

/-- A chunk is pushed behind what is left, an empty one too. -/
theorem contents_push (fits : Fits front chunks) (new : List α) :
    contents front (chunks ++ [new]) = contents front chunks ++ new := by
  cases chunks with
  | nil => simp only [show front = 0 from fits, List.nil_append, contents_zero]; simp
  | cons chunk chunks =>
    rw [List.cons_append, contents_cons fits, contents_cons fits]
    simp

theorem fits_push (fits : Fits front chunks) (new : List α) : Fits front (chunks ++ [new]) := by
  cases chunks with
  | nil => exact (show front = 0 from fits) ▸ fits_zero
  | cons => exact fits

/-- Part of the first chunk is taken. -/
theorem contents_advance (room : front + n ≤ chunk.length) :
    contents front (chunk :: chunks) =
      (chunk.drop front).take n ++ contents (front + n) (chunk :: chunks) := by
  rw [contents_cons (Nat.le_of_add_right_le room), contents_cons room, ← List.append_assoc,
    ← List.drop_drop, List.take_append_drop]

/-- A chunk that was taken whole is dropped. -/
theorem contents_drop : contents chunk.length (chunk :: chunks) = contents 0 chunks := by
  rw [contents_cons (Nat.le_refl _), List.drop_length, List.nil_append, contents_zero]

end Chunks
