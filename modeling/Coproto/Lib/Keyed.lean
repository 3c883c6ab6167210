import Mathlib.Data.List.Basic
import Mathlib.Data.List.Pairwise

/-!
# Lists with distinct keys

Taking off the entry of a key is taking off one position.
-/
variable {κ α : Type*} {xs ys : List (κ × α)} {x y : κ × α} {k : Nat}

def Keyed (xs : List (κ × α)) : Prop := xs.Pairwise fun x y => x.1 ≠ y.1

namespace Keyed

theorem append (left : Keyed xs) (right : Keyed ys) (apart : ∀ x ∈ xs, ∀ y ∈ ys, x.1 ≠ y.1) :
    Keyed (xs ++ ys) :=
  List.pairwise_append.mpr ⟨left, right, apart⟩

/-- A key says where its entry is. -/
theorem index_unique (keyed : Keyed xs) {i j : Nat} (here : xs[i]? = some x) (there : xs[j]? = some y)
    (same : x.1 = y.1) : i = j := by
  obtain ⟨left, rfl⟩ := List.getElem?_eq_some_iff.mp here
  obtain ⟨right, rfl⟩ := List.getElem?_eq_some_iff.mp there
  rcases Nat.lt_trichotomy i j with before | equal | after
  · exact absurd same (List.pairwise_iff_getElem.mp keyed i j left right before)
  · exact equal
  · exact absurd same.symm (List.pairwise_iff_getElem.mp keyed j i right left after)

theorem eq_of_key (keyed : Keyed xs) (here : x ∈ xs) (there : y ∈ xs) (same : x.1 = y.1) : x = y := by
  obtain ⟨i, left⟩ := List.mem_iff_getElem?.mp here
  obtain ⟨j, right⟩ := List.mem_iff_getElem?.mp there
  obtain rfl := keyed.index_unique left right same
  exact Option.some.inj (left.symm.trans right)

variable [DecidableEq κ]

theorem filter_cons (keyed : Keyed (x :: xs)) : (x :: xs).filter (·.1 ≠ x.1) = xs := by
  obtain ⟨apart, _⟩ := List.pairwise_cons.mp keyed
  have others : xs.filter (·.1 ≠ x.1) = xs := by
    apply List.filter_eq_self.mpr
    intro y member
    simpa using (apart y member).symm
  simpa using others

theorem filter_eq_eraseIdx (keyed : Keyed xs) (here : xs[k]? = some x) :
    xs.filter (·.1 ≠ x.1) = xs.eraseIdx k := by
  induction xs generalizing k with
  | nil => simp at here
  | cons y ys ih =>
    obtain ⟨apart, rest⟩ := List.pairwise_cons.mp keyed
    cases k with
    | zero =>
      obtain rfl := Option.some.inj here
      exact filter_cons keyed
    | succ k =>
      have later : ys[k]? = some x := by simpa using here
      have other := apart x (List.mem_of_getElem? later)
      rw [List.eraseIdx_cons_succ, ← ih rest later, List.filter_cons_of_pos (by simpa using other)]

theorem length_filter (keyed : Keyed xs) (member : x ∈ xs) :
    (xs.filter (·.1 ≠ x.1)).length + 1 = xs.length := by
  obtain ⟨k, here⟩ := List.mem_iff_getElem?.mp member
  obtain ⟨inside, _⟩ := List.getElem?_eq_some_iff.mp here
  rw [keyed.filter_eq_eraseIdx here, List.length_eraseIdx_of_lt inside]
  omega

end Keyed
