import Mathlib.Data.List.Basic
import Mathlib.Order.Basic

/-!
# A relay of queues

Items wait in a shared queue or in one of many lines and end in `done`; each has
an owner and a number. `Ok` keeps the items of every owner in order: they wait in
one place at a time, and who takes the shared queue takes all of it.
-/
namespace Relay
variable {α ω ι : Type*}

section
variable (owner : α → ω) (seq : α → Nat)

/-- Items of one owner are in the order of their numbers. -/
def Before (x y : α) : Prop := owner x = owner y → seq x < seq y

structure Ok (done : List α) (lines : ι → List α) (shared : List α) : Prop where
  doneSorted : done.Pairwise (Before owner seq)
  lineSorted : ∀ i, (lines i).Pairwise (Before owner seq)
  sharedSorted : shared.Pairwise (Before owner seq)
  passed : ∀ i, ∀ x ∈ done, ∀ y ∈ lines i, Before owner seq x y
  apart : ∀ i j, ∀ x ∈ lines i, ∀ y ∈ lines j, owner x = owner y → i = j
  fresh : ∀ x ∈ shared, (∀ y ∈ done, owner y ≠ owner x) ∧ ∀ i, ∀ y ∈ lines i, owner y ≠ owner x

end

namespace Ok
variable {owner : α → ω} {seq : α → Nat} {done shared : List α} {lines lines' : ι → List α} {i : ι}
  {x : α}

theorem empty : Ok owner seq [] (fun _ : ι => []) [] :=
  ⟨.nil, fun _ => .nil, .nil, by simp, by simp, by simp⟩

theorem congr (ok : Ok owner seq done lines shared) (same : ∀ i, lines' i = lines i) :
    Ok owner seq done lines' shared := by
  obtain rfl : lines' = lines := funext same
  exact ok

theorem member (ok : Ok owner seq done lines shared) (fewer : ∀ j, ∀ y ∈ lines' j, y ∈ lines j)
    (sorted : ∀ j, (lines' j).Pairwise (Before owner seq)) : Ok owner seq done lines' shared :=
  ⟨ok.doneSorted, sorted, ok.sharedSorted, fun j x old y new => ok.passed j x old y (fewer j y new),
    fun j k x here y there => ok.apart j k x (fewer j x here) y (fewer k y there),
    fun x new => ⟨(ok.fresh x new).1, fun j y there => (ok.fresh x new).2 j y (fewer j y there)⟩⟩

/-- The front of a line is done. -/
theorem run (ok : Ok owner seq done lines shared) {rest : List α} (front : lines i = x :: rest)
    (here : lines' i = rest) (others : ∀ j, j ≠ i → lines' j = lines j) :
    Ok owner seq (done ++ [x]) lines' shared := by
  have sorted := ok.lineSorted i
  rw [front, List.pairwise_cons] at sorted
  have first : x ∈ lines i := front ▸ List.mem_cons_self
  have fewer : ∀ j, ∀ y ∈ lines' j, y ∈ lines j := by
    intro j y there
    by_cases same : j = i
    · subst same
      rw [front]
      exact List.mem_cons_of_mem _ (here ▸ there)
    · rwa [others j same] at there
  have left := ok.member fewer fun j => by
    by_cases same : j = i
    · subst same
      exact here ▸ sorted.2
    · rw [others j same]
      exact ok.lineSorted j
  refine ⟨?_, left.lineSorted, left.sharedSorted, ?_, left.apart, fun y new => ⟨?_, (left.fresh y new).2⟩⟩
  · refine List.pairwise_append.mpr ⟨ok.doneSorted, List.pairwise_singleton _ _, fun y old z last => ?_⟩
    cases List.mem_singleton.mp last
    exact ok.passed i y old x first
  · intro j y old z there
    rcases List.mem_append.mp old with old | last
    · exact left.passed j y old z there
    · cases List.mem_singleton.mp last
      intro same
      have line := ok.apart i j x first z (fewer j z there) same
      subst line
      exact sorted.1 z (here ▸ there) same
  · intro z old
    rcases List.mem_append.mp old with old | last
    · exact (ok.fresh y new).1 z old
    · cases List.mem_singleton.mp last
      exact (ok.fresh y new).2 i x first

/-- A line takes the shared queue. -/
theorem take (ok : Ok owner seq done lines shared) (here : lines' i = lines i ++ shared)
    (others : ∀ j, j ≠ i → lines' j = lines j) : Ok owner seq done lines' [] := by
  have get : ∀ j, ∀ y ∈ lines' j, y ∈ lines j ∨ j = i ∧ y ∈ shared := by
    intro j y there
    by_cases same : j = i
    · subst same
      rw [here] at there
      exact (List.mem_append.mp there).imp_right fun new => ⟨rfl, new⟩
    · rw [others j same] at there
      exact .inl there
  refine ⟨ok.doneSorted, fun j => ?_, .nil, fun j y old z there => ?_, fun j k y there z there' same => ?_,
    by simp⟩
  · by_cases same : j = i
    · subst same
      rw [here]
      refine List.pairwise_append.mpr ⟨ok.lineSorted j, ok.sharedSorted, fun y old z new equal => ?_⟩
      exact absurd equal ((ok.fresh z new).2 j y old)
    · rw [others j same]
      exact ok.lineSorted j
  · rcases get j z there with old' | ⟨_, new⟩
    · exact ok.passed j y old z old'
    · exact fun equal => absurd equal ((ok.fresh z new).1 y old)
  · rcases get j y there with old | ⟨rfl, new⟩ <;> rcases get k z there' with old' | ⟨rfl, new'⟩
    · exact ok.apart j k y old z old' same
    · exact absurd same ((ok.fresh z new').2 j y old)
    · exact absurd same.symm ((ok.fresh y new).2 k z old')
    · rfl

/-- An item joins the line its owner's items are in. -/
theorem pushLine (ok : Ok owner seq done lines shared) (here : lines' i = lines i ++ [x])
    (others : ∀ j, j ≠ i → lines' j = lines j) (done_ : ∀ y ∈ done, Before owner seq y x)
    (line : ∀ y ∈ lines i, Before owner seq y x) (other : ∀ j, j ≠ i → ∀ y ∈ lines j, owner y ≠ owner x)
    (none : ∀ y ∈ shared, owner y ≠ owner x) : Ok owner seq done lines' shared := by
  have get : ∀ j, ∀ y ∈ lines' j, y ∈ lines j ∨ j = i ∧ y = x := by
    intro j y there
    by_cases same : j = i
    · subst same
      rw [here] at there
      exact (List.mem_append.mp there).imp_right fun new => ⟨rfl, List.mem_singleton.mp new⟩
    · rw [others j same] at there
      exact .inl there
  refine ⟨ok.doneSorted, fun j => ?_, ok.sharedSorted, fun j y old z there => ?_,
    fun j k y there z there' same => ?_, fun y new => ⟨(ok.fresh y new).1, fun j z there => ?_⟩⟩
  · by_cases same : j = i
    · subst same
      rw [here]
      refine List.pairwise_append.mpr ⟨ok.lineSorted j, List.pairwise_singleton _ _, fun y old z new => ?_⟩
      cases List.mem_singleton.mp new
      exact line y old
    · rw [others j same]
      exact ok.lineSorted j
  · rcases get j z there with old' | ⟨_, rfl⟩
    · exact ok.passed j y old z old'
    · exact done_ y old
  · rcases get j y there with old | ⟨rfl, rfl⟩ <;> rcases get k z there' with old' | ⟨rfl, rfl⟩
    · exact ok.apart j k y old z old' same
    · by_contra apart
      exact other j apart y old same
    · by_contra apart
      exact other k (Ne.symm apart) z old' same.symm
    · rfl
  · rcases get j z there with old | ⟨_, rfl⟩
    · exact (ok.fresh y new).2 j z old
    · exact (none y new).symm

/-- An item joins the shared queue, where all its owner's items are. -/
theorem pushShared (ok : Ok owner seq done lines shared) (done_ : ∀ y ∈ done, owner y ≠ owner x)
    (line : ∀ j, ∀ y ∈ lines j, owner y ≠ owner x) (shared_ : ∀ y ∈ shared, Before owner seq y x) :
    Ok owner seq done lines (shared ++ [x]) := by
  refine ⟨ok.doneSorted, ok.lineSorted, ?_, ok.passed, ok.apart, fun y new => ?_⟩
  · refine List.pairwise_append.mpr ⟨ok.sharedSorted, List.pairwise_singleton _ _, fun y old z last => ?_⟩
    cases List.mem_singleton.mp last
    exact shared_ y old
  · rcases List.mem_append.mp new with old | last
    · exact ok.fresh y old
    · cases List.mem_singleton.mp last
      exact ⟨done_, line⟩

end Ok
end Relay
