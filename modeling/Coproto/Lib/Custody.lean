import Mathlib.Data.List.Nodup

/-!
# Items with one holder

Items are numbered as they are made. Each one is held by one holder until it is
gone, and it goes once.
-/

/-- `holds p` is the item that the holder `p` has, and `gone` lists the ones nobody has
any more. -/
structure Custody (holds : Nat → Option Nat) (gone : List Nat) (next : Nat) : Prop where
  unique : ∀ {p q n}, holds p = some n → holds q = some n → p = q
  bound : ∀ {p n}, holds p = some n → n < next ∧ n ∉ gone
  made : ∀ n ∈ gone, n < next
  once : gone.Nodup
  covered : ∀ n < next, n ∈ gone ∨ ∃ p, holds p = some n

namespace Custody
variable {holds holds' : Nat → Option Nat} {gone : List Nat} {next p q : Nat}

theorem empty : Custody (fun _ => none) [] 0 where
  unique := nofun
  bound := nofun
  made := nofun
  once := List.nodup_nil
  covered := nofun

theorem congr (custody : Custody holds gone next) (same : ∀ q, holds' q = holds q) :
    Custody holds' gone next := by
  obtain rfl : holds' = holds := funext same
  exact custody

/-- What a holder has goes, if it has anything. -/
theorem release (custody : Custody holds gone next)
    (left : ∀ q, holds' q = if q = p then none else holds q) :
    Custody holds' (gone ++ (holds p).toList) next := by
  cases held : holds p with
  | none =>
    rw [Option.toList_none, List.append_nil]
    apply custody.congr
    intro q
    rw [left]
    split
    · rename_i here
      rw [here, held]
    · rfl
  | some n =>
    obtain ⟨inside, kept⟩ := custody.bound held
    have other : ∀ {q m}, holds' q = some m → q ≠ p ∧ holds q = some m := by
      intro q m has
      rw [left] at has
      split at has
      · cases has
      · rename_i apart
        exact ⟨apart, has⟩
    refine ⟨fun here there => custody.unique (other here).2 (other there).2, ?_, ?_, ?_, ?_⟩
    · intro q m has
      obtain ⟨apart, had⟩ := other has
      obtain ⟨below, still⟩ := custody.bound had
      refine ⟨below, fun member => ?_⟩
      rcases List.mem_append.mp member with old | new
      · exact still old
      · obtain rfl := List.mem_singleton.mp new
        exact apart (custody.unique had held)
    · intro m member
      rcases List.mem_append.mp member with old | new
      · exact custody.made m old
      · rwa [List.mem_singleton.mp new]
    · refine List.nodup_append.mpr ⟨custody.once, List.nodup_singleton n, ?_⟩
      intro m old l new same
      rw [List.mem_singleton.mp new] at same
      exact kept (same ▸ old)
    · intro m below
      rcases custody.covered m below with old | ⟨q, has⟩
      · exact .inl (List.mem_append_left _ old)
      · by_cases here : q = p
        · subst here
          obtain rfl := Option.some.inj (held.symm.trans has)
          exact .inl (List.mem_append_right _ (List.mem_singleton_self n))
        · exact .inr ⟨q, by rw [left, if_neg here, has]⟩

/-- A new item for a holder that has none. -/
theorem take (custody : Custody holds gone next) (free : holds p = none)
    (added : ∀ q, holds' q = if q = p then some next else holds q) :
    Custody holds' gone (next + 1) := by
  have old : ∀ {q m}, holds' q = some m → q = p ∧ m = next ∨ q ≠ p ∧ holds q = some m := by
    intro q m has
    rw [added] at has
    split at has
    · rename_i here
      exact .inl ⟨here, (Option.some.inj has).symm⟩
    · rename_i apart
      exact .inr ⟨apart, has⟩
  refine ⟨?_, ?_, fun n member => Nat.lt_succ_of_lt (custody.made n member), custody.once, ?_⟩
  · intro q l m here there
    rcases old here with ⟨rfl, new⟩ | ⟨_, had⟩
    · rcases old there with ⟨rfl, _⟩ | ⟨_, had'⟩
      · rfl
      · exact absurd (new ▸ (custody.bound had').1) (Nat.lt_irrefl _)
    · rcases old there with ⟨rfl, new⟩ | ⟨_, had'⟩
      · exact absurd (new ▸ (custody.bound had).1) (Nat.lt_irrefl _)
      · exact custody.unique had had'
  · intro q m has
    rcases old has with ⟨_, rfl⟩ | ⟨_, had⟩
    · exact ⟨Nat.lt_succ_self _, fun member => absurd (custody.made _ member) (Nat.lt_irrefl _)⟩
    · exact ⟨Nat.lt_succ_of_lt (custody.bound had).1, (custody.bound had).2⟩
  · intro m below
    rcases Nat.lt_succ_iff_lt_or_eq.mp below with early | rfl
    · rcases custody.covered m early with before | ⟨q, has⟩
      · exact .inl before
      · refine .inr ⟨q, ?_⟩
        have apart : q ≠ p := by
          rintro rfl
          rw [free] at has
          cases has
        rw [added, if_neg apart, has]
    · exact .inr ⟨p, by rw [added, if_pos rfl]⟩

/-- One holder gives what it has to another one that has nothing. -/
theorem give (custody : Custody holds gone next) (free : holds p = none) (apart : p ≠ q)
    (moved : ∀ l, holds' l = if l = p then holds q else if l = q then none else holds l) :
    Custody holds' gone next := by
  have old : ∀ {l m}, holds' l = some m →
      l = p ∧ holds q = some m ∨ l ≠ p ∧ l ≠ q ∧ holds l = some m := by
    intro l m has
    rw [moved] at has
    split at has
    · rename_i here
      exact .inl ⟨here, has⟩
    · split at has
      · cases has
      · rename_i other other'
        exact .inr ⟨other, other', has⟩
  refine ⟨?_, ?_, custody.made, custody.once, ?_⟩
  · intro l k m here there
    rcases old here with ⟨rfl, had⟩ | ⟨_, away, had⟩
    · rcases old there with ⟨rfl, _⟩ | ⟨_, away, had'⟩
      · rfl
      · exact absurd (custody.unique had' had) away
    · rcases old there with ⟨rfl, had'⟩ | ⟨_, _, had'⟩
      · exact absurd (custody.unique had had') away
      · exact custody.unique had had'
  · intro l m has
    rcases old has with ⟨_, had⟩ | ⟨_, _, had⟩
    · exact custody.bound had
    · exact custody.bound had
  · intro m below
    rcases custody.covered m below with before | ⟨l, has⟩
    · exact .inl before
    · right
      by_cases here : l = q
      · exact ⟨p, by rw [moved, if_pos rfl, ← here, has]⟩
      · have other : l ≠ p := by
          rintro rfl
          rw [free] at has
          cases has
        exact ⟨l, by rw [moved, if_neg other, if_neg here, has]⟩

/-- An item is with its holder, or it went, once. -/
theorem each (custody : Custody holds gone next) {n : Nat} (below : n < next) :
    (gone.count n = 1 ∧ ∀ p, holds p ≠ some n) ∨
      (gone.count n = 0 ∧ ∃ p, holds p = some n ∧ ∀ q, holds q = some n → q = p) := by
  rcases custody.covered n below with member | ⟨p, has⟩
  · left
    refine ⟨List.count_eq_one_of_mem custody.once member, fun p has => ?_⟩
    exact (custody.bound has).2 member
  · right
    refine ⟨List.count_eq_zero.mpr (custody.bound has).2, p, has, fun q has' => ?_⟩
    exact custody.unique has' has

end Custody
