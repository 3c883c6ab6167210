import Mathlib.Algebra.BigOperators.Group.Finset.Basic
import Mathlib.Data.List.Nodup

/-!
# Numbered FIFO queues

Elements are numbered in the order they are created and each sits in the queue
of its home. A queue is then sorted, so it is determined by its members: it is
the creation order restricted to one home.
-/
namespace Queues

/-- `push_back` and removal of one element, on the family of all queues. -/
def push (q : Nat → List Nat) (i p : Nat) : Nat → List Nat :=
  fun j => if j = i then q j ++ [p] else q j

def remove (q : Nat → List Nat) (i p : Nat) : Nat → List Nat :=
  fun j => if j = i then (q j).erase p else q j

/-- Sorted lists are equal when they have the same members. -/
theorem sorted_ext {xs ys : List Nat} (left : xs.Pairwise (· < ·)) (right : ys.Pairwise (· < ·))
    (members : ∀ x, x ∈ xs ↔ x ∈ ys) : xs = ys := by
  have antisymm : ∀ a b, a ∈ xs → b ∈ ys → a < b → b < a → a = b := fun a b _ _ ab ba =>
    absurd ab (Nat.lt_asymm ba)
  apply List.Perm.eq_of_pairwise antisymm left right
  exact (List.perm_ext_iff_of_nodup (left.imp Nat.ne_of_lt) (right.imp Nat.ne_of_lt)).mpr members

/-- A list whose keys are the first keys of another one. -/
theorem prefix_of_keys {α : Type*} (key : α → Nat) {xs ys : List α}
    (keys : xs.map key <+: ys.map key) (once : (ys.map key).Nodup) (members : ∀ x ∈ xs, x ∈ ys) :
    xs <+: ys := by
  induction xs generalizing ys with
  | nil => exact List.nil_prefix
  | cons x xs ih =>
    cases ys with
    | nil => exact absurd (members x List.mem_cons_self) List.not_mem_nil
    | cons y ys =>
      obtain ⟨same, rest⟩ := List.cons_prefix_cons.mp keys
      obtain ⟨fresh, once'⟩ := List.nodup_cons.mp once
      have head : x = y := by
        rcases List.mem_cons.mp (members x List.mem_cons_self) with here | later
        · exact here
        · exact absurd (same ▸ List.mem_map_of_mem later) fresh
      refine List.cons_prefix_cons.mpr ⟨head, ih rest once' fun z member => ?_⟩
      rcases List.mem_cons.mp (members z (List.mem_cons_of_mem x member)) with here | later
      · exact absurd (here ▸ rest.subset (List.mem_map_of_mem member)) fresh
      · exact later

/-- `home p` is the queue that holds `p`, if any does; `next` is the number of
the next element and `slots` the number of queues in use. -/
structure Owned (q : Nat → List Nat) (home : Nat → Option Nat) (next slots : Nat) : Prop where
  sorted : ∀ i, (q i).Pairwise (· < ·)
  mem : ∀ {i p}, p ∈ q i ↔ home p = some i
  bound : ∀ {i p}, home p = some i → p < next ∧ i < slots

namespace Owned
variable {q q' : Nat → List Nat} {home home' : Nat → Option Nat} {next slots i p : Nat}

theorem nodup (own : Owned q home next slots) (j : Nat) : (q j).Nodup :=
  (own.sorted j).imp Nat.ne_of_lt

theorem congr (own : Owned q home next slots) (queues : q' = q) (homes : ∀ x, home' x = home x) :
    Owned q' home' next slots :=
  ⟨queues ▸ own.sorted, by intro j x; rw [queues, homes, own.mem],
    fun here => own.bound (by rwa [homes] at here)⟩

theorem mono {next' slots' : Nat} (own : Owned q home next slots) (elements : next ≤ next')
    (queues : slots ≤ slots') : Owned q home next' slots' :=
  ⟨own.sorted, own.mem, fun h => ⟨(own.bound h).1.trans_le elements, (own.bound h).2.trans_le queues⟩⟩

theorem empty_of_unused (own : Owned q home next slots) (unused : slots ≤ i) : q i = [] := by
  refine List.eq_nil_iff_forall_not_mem.mpr fun op member => ?_
  have inside := (own.bound (own.mem.mp member)).2
  omega

theorem push (own : Owned q home next slots) (inside : i < slots)
    (added : ∀ x, home' x = if x = next then some i else home x) :
    Owned (Queues.push q i next) home' (next + 1) slots where
  sorted j := by
    unfold Queues.push
    split
    · refine List.pairwise_append.mpr ⟨own.sorted j, List.pairwise_singleton _ _, ?_⟩
      intro x member y last
      rw [List.mem_singleton.mp last]
      exact (own.bound (own.mem.mp member)).1
    · exact own.sorted j
  mem := by
    intro j x
    have absent : home next = none := by
      cases h : home next with
      | none => rfl
      | some k => exact absurd (own.bound h).1 (Nat.lt_irrefl next)
    rw [added]
    unfold Queues.push
    by_cases new : x = next
    · subst new
      by_cases here : j = i
      · simp [here]
      · simp [here, own.mem, absent, Ne.symm here]
    · by_cases here : j = i <;> simp [here, own.mem, new]
  bound := by
    intro j x here
    rw [added] at here
    split at here
    · rename_i new
      rw [Option.some.injEq] at here
      exact ⟨new ▸ Nat.lt_succ_self _, here ▸ inside⟩
    · exact ⟨Nat.lt_succ_of_lt (own.bound here).1, (own.bound here).2⟩

theorem remove (own : Owned q home next slots) (here : home p = some i)
    (gone : ∀ x, home' x = if x = p then none else home x) :
    Owned (Queues.remove q i p) home' next slots where
  sorted j := by
    unfold Queues.remove
    split
    · exact (own.sorted j).sublist List.erase_sublist
    · exact own.sorted j
  mem := by
    intro j x
    rw [gone]
    unfold Queues.remove
    by_cases other : x = p
    · subst other
      by_cases slot : j = i
      · simp [slot, (own.nodup i).mem_erase_iff]
      · simp only [slot, if_false, if_true, own.mem, here, Option.some.injEq, reduceCtorEq,
          iff_false]
        exact fun same => slot same.symm
    · by_cases slot : j = i <;> simp [slot, other, own.mem, (own.nodup _).mem_erase_iff]
  bound := by
    intro j x live
    rw [gone] at live
    split at live
    · cases live
    · exact own.bound live

/-- A queue is the elements of its home, in creation order. -/
theorem eq_of_mem_iff (own : Owned q home next slots) {xs : List Nat} (sorted : xs.Pairwise (· < ·))
    (members : ∀ x, x ∈ xs ↔ home x = some i) : xs = q i :=
  sorted_ext sorted (own.sorted i) fun x => (members x).trans own.mem.symm

/-- The front is the oldest element of the queue. -/
theorem head_le (own : Owned q home next slots) {front : Nat} {rest : List Nat} (cells : q i = front :: rest)
    {x : Nat} (member : home x = some i) : front ≤ x := by
  have order := own.sorted i
  rw [cells] at order
  have inside : x ∈ front :: rest := cells ▸ own.mem.mpr member
  rcases List.mem_cons.mp inside with rfl | behind
  · exact le_rfl
  · exact le_of_lt ((List.pairwise_cons.mp order).1 x behind)

end Owned

/-- A listing of queues, restricted to one of them. -/
theorem filter_listing (q : Nat → List Nat) (i : Nat) (js : List Nat) (once : js.Nodup) :
    (((js.flatMap fun j => (q j).map fun p => (j, p)).filter (·.1 = i)).map (·.2)) =
      if i ∈ js then q i else [] := by
  induction js with
  | nil => rfl
  | cons j js ih =>
    obtain ⟨absent, once'⟩ := List.nodup_cons.mp once
    rw [List.flatMap_cons, List.filter_append, List.map_append, ih once']
    by_cases here : j = i
    · subst here
      simp [absent, List.filter_map, Function.comp_def]
    · simp [here, Ne.symm here, List.filter_map, Function.comp_def]

/-- Number of elements in the first `n` queues. -/
def total (n : Nat) (q : Nat → List Nat) : Nat := ∑ i ∈ Finset.range n, (q i).length

section Total
variable {n i p : Nat} {q : Nat → List Nat}

theorem total_split (inside : i < n) :
    total n q = (q i).length + ∑ j ∈ (Finset.range n).erase i, (q j).length :=
  (Finset.add_sum_erase _ _ (Finset.mem_range.mpr inside)).symm

theorem total_push (inside : i < n) : total n (push q i p) = total n q + 1 := by
  have others : ∑ j ∈ (Finset.range n).erase i, (push q i p j).length =
      ∑ j ∈ (Finset.range n).erase i, (q j).length :=
    Finset.sum_congr rfl fun j member => by simp [push, Finset.ne_of_mem_erase member]
  rw [total_split inside, total_split inside, others]
  simp only [push, if_true, List.length_append, List.length_singleton]
  omega

theorem total_remove (inside : i < n) (member : p ∈ q i) :
    total n (remove q i p) + 1 = total n q := by
  have others : ∑ j ∈ (Finset.range n).erase i, (remove q i p j).length =
      ∑ j ∈ (Finset.range n).erase i, (q j).length :=
    Finset.sum_congr rfl fun j other => by simp [remove, Finset.ne_of_mem_erase other]
  have positive := List.length_pos_of_mem member
  rw [total_split inside, total_split inside, others]
  simp only [remove, if_true, List.length_erase_of_mem member]
  omega

theorem total_eq_zero : total n q = 0 ↔ ∀ i < n, q i = [] := by
  simp [total, Finset.sum_eq_zero_iff]

/-- A queue that nobody uses yet does not count. -/
theorem total_succ (unused : q n = []) : total (n + 1) q = total n q := by
  simp [total, Finset.sum_range_succ, unused]

end Total
end Queues
