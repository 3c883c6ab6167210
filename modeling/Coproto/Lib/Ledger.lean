import Mathlib.Data.List.Nodup
import Mathlib.Data.List.Pairwise

/-!
# Numbered items that end once

Items are numbered when they are posted. A posted item has a cell until it is
done, and it is done once; the cell says whether the item can still end.
Failures are reported of items that are done.
-/

structure Ledger (cell : Nat → Option Bool) (posted done failed : List Nat) (next : Nat) : Prop where
  sorted : posted.Pairwise (· < ·)
  bound : ∀ p ∈ posted, p < next
  balance : ∀ p, posted.count p = done.count p + (cell p).isSome.toNat
  pending : ∀ p, cell p ≠ some false
  reported : ∀ p ∈ failed, p ∈ done

namespace Ledger
variable {cell cell' : Nat → Option Bool} {posted done failed : List Nat} {next next' p : Nat}

theorem empty (next : Nat) : Ledger (fun _ => none) [] [] [] next :=
  ⟨.nil, by simp, by simp, by simp, by simp⟩

theorem congr (books : Ledger cell posted done failed next) (same : ∀ p, cell' p = cell p)
    (later : next ≤ next') : Ledger cell' posted done failed next' := by
  obtain rfl : cell' = cell := funext same
  exact ⟨books.sorted, fun p member => Nat.lt_of_lt_of_le (books.bound p member) later, books.balance,
    books.pending, books.reported⟩

theorem nodup (books : Ledger cell posted done failed next) : posted.Nodup :=
  books.sorted.imp Nat.ne_of_lt

theorem posted_of_cell (books : Ledger cell posted done failed next)
    (here : (cell p).isSome = true) : p ∈ posted := by
  have balance := books.balance p
  rw [here] at balance
  exact List.count_pos_iff.mp (by rw [balance]; exact Nat.succ_pos _)

theorem posted_of_done (books : Ledger cell posted done failed next) (ended : p ∈ done) :
    p ∈ posted := by
  have balance := books.balance p
  have positive := List.count_pos_iff.mpr ended
  exact List.count_pos_iff.mp (by omega)

/-- An item with a cell is not done. -/
theorem not_done (books : Ledger cell posted done failed next) (here : (cell p).isSome = true) :
    p ∉ done := by
  intro ended
  have balance := books.balance p
  have once := List.nodup_iff_count_le_one.mp books.nodup p
  have positive := List.count_pos_iff.mpr ended
  rw [here] at balance
  simp only [Bool.toNat_true] at balance
  omega

theorem done_nodup (books : Ledger cell posted done failed next) : done.Nodup := by
  apply List.nodup_iff_count_le_one.mpr
  intro p
  have balance := books.balance p
  have once := List.nodup_iff_count_le_one.mp books.nodup p
  omega

/-- An item whose cell is gone is done, once. -/
theorem done_once (books : Ledger cell posted done failed next) (member : p ∈ posted)
    (gone : cell p = none) : done.count p = 1 := by
  have balance := books.balance p
  rw [List.count_eq_one_of_mem books.nodup member, gone] at balance
  simpa using balance.symm

/-- What has not been posted. -/
theorem cell_next (books : Ledger cell posted done failed next) (later : next ≤ p) :
    cell p = none := by
  by_contra here
  have member := books.posted_of_cell (Option.isSome_iff_ne_none.mpr here)
  exact absurd (books.bound p member) (Nat.not_lt.mpr later)

theorem sorted_post (books : Ledger cell posted done failed next) :
    (posted ++ [next]).Pairwise (· < ·) ∧ ∀ p ∈ posted ++ [next], p < next + 1 := by
  refine ⟨List.pairwise_append.mpr ⟨books.sorted, List.pairwise_singleton _ _, ?_⟩, ?_⟩
  · intro x old y new
    rw [List.mem_singleton.mp new]
    exact books.bound x old
  · intro x member
    rcases List.mem_append.mp member with old | new
    · exact Nat.lt_succ_of_lt (books.bound x old)
    · rw [List.mem_singleton.mp new]
      exact Nat.lt_succ_self next

theorem post (books : Ledger cell posted done failed next)
    (added : ∀ p, cell' p = if p = next then some true else cell p) :
    Ledger cell' (posted ++ [next]) done failed (next + 1) := by
  refine ⟨books.sorted_post.1, books.sorted_post.2, fun p => ?_, fun p => ?_, books.reported⟩
  · rw [added, List.count_append]
    by_cases new : p = next
    · subst new
      have balance := books.balance p
      rw [books.cell_next (Nat.le_refl p)] at balance
      simp only [Option.isSome_none, Bool.toNat_false] at balance
      simp [balance]
    · simp [new, books.balance p, Ne.symm new]
  · rw [added]
    split
    · simp
    · exact books.pending p

/-- An item is posted and done at once. -/
theorem reject (books : Ledger cell posted done failed next) :
    Ledger cell (posted ++ [next]) (done ++ [next]) (failed ++ [next]) (next + 1) := by
  refine ⟨books.sorted_post.1, books.sorted_post.2, fun p => ?_, books.pending, fun p member => ?_⟩
  · rw [List.count_append, List.count_append, books.balance p]
    omega
  · rcases List.mem_append.mp member with old | new
    · exact List.mem_append_left _ (books.reported p old)
    · exact List.mem_append_right _ new

/-- An item is done; it may have been reported to fail. -/
theorem finish (books : Ledger cell posted done failed next) (here : (cell p).isSome = true)
    (gone : ∀ q, cell' q = if q = p then none else cell q) {failures : List Nat}
    (own : ∀ q ∈ failures, q = p) :
    Ledger cell' posted (done ++ [p]) (failed ++ failures) next := by
  refine ⟨books.sorted, books.bound, fun q => ?_, fun q => ?_, fun q member => ?_⟩
  · rw [gone, List.count_append, books.balance q]
    by_cases same : q = p
    · subst same
      simp [here]
    · simp [same, Ne.symm same]
  · rw [gone]
    split
    · simp
    · exact books.pending q
  · rcases List.mem_append.mp member with old | new
    · exact List.mem_append_left _ (books.reported q old)
    · rw [own q new]
      simp

/-! ## Books kept by a sequence of observations

Each observation posts, ends or fails an item, or does none of these. -/

section Shown
variable {Obs : Type*} {posting finishing failing : Obs → Option Nat} {shown : List Obs}

/-- The books that the observations `shown` are. -/
def Shown (posting finishing failing : Obs → Option Nat) (cell : Nat → Option Bool)
    (shown : List Obs) (next : Nat) : Prop :=
  Ledger cell (shown.filterMap posting) (shown.filterMap finishing) (shown.filterMap failing) next

/-- Observations that say nothing of any item. -/
theorem Shown.quiet (books : Shown posting finishing failing cell shown next)
    (same : ∀ p, cell' p = cell p) {os : List Obs}
    (aside : ∀ o ∈ os, posting o = none ∧ finishing o = none ∧ failing o = none)
    (later : next ≤ next') : Shown posting finishing failing cell' (shown ++ os) next' := by
  have posted : os.filterMap posting = [] :=
    List.filterMap_eq_nil_iff.mpr fun o member => (aside o member).1
  have done : os.filterMap finishing = [] :=
    List.filterMap_eq_nil_iff.mpr fun o member => (aside o member).2.1
  have failed : os.filterMap failing = [] :=
    List.filterMap_eq_nil_iff.mpr fun o member => (aside o member).2.2
  unfold Shown
  rw [List.filterMap_append, List.filterMap_append, List.filterMap_append, posted, done, failed,
    List.append_nil, List.append_nil, List.append_nil]
  exact Ledger.congr books same later

theorem Shown.post (books : Shown posting finishing failing cell shown next)
    (added : ∀ p, cell' p = if p = next then some true else cell p) {o : Obs}
    (posted : posting o = some next) (done : finishing o = none) (failed : failing o = none) :
    Shown posting finishing failing cell' (shown ++ [o]) (next + 1) := by
  unfold Shown
  simpa [List.filterMap_cons, posted, done, failed] using Ledger.post books added

/-- An item ends; what is shown before its end are failures of its own. -/
theorem Shown.finish (books : Shown posting finishing failing cell shown next)
    (here : (cell p).isSome = true) (gone : ∀ q, cell' q = if q = p then none else cell q)
    {os : List Obs} {o : Obs}
    (own : ∀ o ∈ os, posting o = none ∧ finishing o = none ∧ failing o = some p)
    (last : posting o = none ∧ finishing o = some p ∧ failing o = none) :
    Shown posting finishing failing cell' (shown ++ os ++ [o]) next := by
  have posted : os.filterMap posting = [] :=
    List.filterMap_eq_nil_iff.mpr fun o member => (own o member).1
  have done : os.filterMap finishing = [] :=
    List.filterMap_eq_nil_iff.mpr fun o member => (own o member).2.1
  have failures : ∀ q ∈ os.filterMap failing, q = p := by
    intro q member
    obtain ⟨o, inside, names⟩ := List.mem_filterMap.mp member
    exact Option.some.inj (names.symm.trans (own o inside).2.2)
  unfold Shown
  simpa [List.filterMap_cons, posted, done, last.1, last.2.1, last.2.2] using
    Ledger.finish books here gone failures

/-- An item is posted by one observation. -/
theorem Shown.posting_unique (books : Shown posting finishing failing cell shown next) {o o' : Obs}
    (here : o ∈ shown) (there : o' ∈ shown) (posts : posting o = some p)
    (posts' : posting o' = some p) : o = o' := by
  by_contra other
  have apart := List.pairwise_filterMap.mp (Ledger.nodup books)
  have : Std.Symm fun a a' : Obs => ∀ b, posting a = some b → ∀ b', posting a' = some b' → b ≠ b' :=
    ⟨fun _ _ ne b first b' second => Ne.symm (ne b' second b first)⟩
  exact apart.forall here there other p posts p posts' rfl

end Shown
end Ledger
