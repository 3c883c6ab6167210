import Mathlib.Data.List.Basic

/-!
# Traces that grow

`Appends P xs ys`: the trace `ys` continues `xs` with observations that satisfy
`P`. Steps compose by transitivity, so a property of all that a run shows is
checked where each observation is made.
-/
namespace Traces
variable {α : Type*} {P Q : α → Prop} {xs ys zs : List α} {x : α}

def Appends (P : α → Prop) (xs ys : List α) : Prop := ∃ new, ys = xs ++ new ∧ ∀ x ∈ new, P x

namespace Appends

theorem refl : Appends P xs xs := ⟨[], by simp⟩

theorem of_eq (same : ys = xs) : Appends P xs ys := same ▸ refl

theorem trans (first : Appends P xs ys) (second : Appends P ys zs) : Appends P xs zs := by
  obtain ⟨new, rfl, holds⟩ := first
  obtain ⟨new', rfl, holds'⟩ := second
  refine ⟨new ++ new', List.append_assoc .., fun x member => ?_⟩
  exact (List.mem_append.mp member).elim (holds x) (holds' x)

theorem one (holds : P x) : Appends P xs (xs ++ [x]) := ⟨[x], rfl, by simpa using holds⟩

theorem mono (grows : Appends P xs ys) (weaker : ∀ x, P x → Q x) : Appends Q xs ys := by
  obtain ⟨new, rfl, holds⟩ := grows
  exact ⟨new, rfl, fun x member => weaker x (holds x member)⟩

theorem isPrefix (grows : Appends P xs ys) : xs <+: ys := by
  obtain ⟨new, rfl, _⟩ := grows
  exact List.prefix_append _ _

theorem filterMap {β : Type*} {f : α → Option β} (grows : Appends P xs ys) :
    xs.filterMap f <+: ys.filterMap f := grows.isPrefix.filterMap f

theorem kept (grows : Appends P xs ys) (member : x ∈ xs) : x ∈ ys := by
  obtain ⟨new, rfl, _⟩ := grows
  exact List.mem_append_left _ member

theorem old_or (grows : Appends P xs ys) (member : x ∈ ys) : x ∈ xs ∨ P x := by
  obtain ⟨new, rfl, holds⟩ := grows
  exact (List.mem_append.mp member).imp_right (holds x)

/-- An observation of a kind that is never added was there before. -/
theorem old (grows : Appends P xs ys) (member : x ∈ ys) (never : ¬ P x) : x ∈ xs :=
  (grows.old_or member).resolve_right never

end Appends
end Traces
