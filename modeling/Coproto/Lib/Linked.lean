import Mathlib.Data.List.Chain

/-!
# Doubly linked lists

Nodes are addresses; `next` and `prev` are the link fields of the live ones. The
list itself is the sequence of its nodes. What the first node's `prev` holds is
left open: an owner that pops the head does not clear it.
-/
namespace Linked
variable {α : Type*}

/-- `a` and `b` point at each other. -/
def Link (next prev : α → Option α) (a b : α) : Prop := next a = some b ∧ prev b = some a

/-- The nodes of `xs` are linked in this order, and the last one points nowhere. -/
structure Chain (next prev : α → Option α) (xs : List α) : Prop where
  links : xs.IsChain (Link next prev)
  last : ∀ a, xs.getLast? = some a → next a = none

variable {next prev next' prev' : α → Option α} {xs ys : List α} {a b n : α}

theorem Chain.nil : Chain next prev [] := ⟨.nil, by simp⟩

theorem Chain.single (ends : next a = none) : Chain next prev [a] :=
  ⟨.singleton a, by simp [ends]⟩

/-- Writes to other nodes, and to the `prev` of the first one. -/
theorem Chain.congr (chain : Chain next prev xs) (nexts : ∀ a ∈ xs, next' a = next a)
    (prevs : ∀ a ∈ xs.tail, prev' a = prev a) : Chain next' prev' xs := by
  constructor
  · refine chain.links.imp_of_mem_tail_imp fun a b member tail link => ?_
    exact ⟨(nexts a member).trans link.1, (prevs b tail).trans link.2⟩
  · intro a ends
    rw [nexts a (List.mem_of_getLast? ends)]
    exact chain.last a ends

theorem Chain.next_head (chain : Chain next prev (a :: xs)) : next a = xs.head? := by
  cases xs with
  | nil => exact chain.last a rfl
  | cons b xs => exact (chain.links.rel_head? rfl).1

theorem Chain.tail (chain : Chain next prev (a :: xs)) : Chain next prev xs := by
  refine ⟨chain.links.tail, fun b ends => chain.last b ?_⟩
  cases xs with
  | nil => cases ends
  | cons c xs => rwa [List.getLast?_cons_cons]

theorem Chain.suffix (chain : Chain next prev (xs ++ ys)) : Chain next prev ys := by
  induction xs with
  | nil => exact chain
  | cons a xs ih => exact ih chain.tail

theorem Chain.next_inner (chain : Chain next prev (xs ++ a :: ys)) : next a = ys.head? :=
  chain.suffix.next_head

theorem Chain.prev_inner (chain : Chain next prev (xs ++ a :: b :: ys)) : prev b = some a :=
  (chain.suffix.links.rel_head? rfl).2

/-- A node that is not the first has one before it. -/
theorem exists_before (member : b ∈ xs.tail) : ∃ as a bs, xs = as ++ a :: b :: bs := by
  cases xs with
  | nil => cases member
  | cons x xs =>
    obtain ⟨front, bs, rfl⟩ := List.append_of_mem (show b ∈ xs from member)
    rcases front.eq_nil_or_concat with rfl | ⟨as, a, rfl⟩
    · exact ⟨[], x, bs, rfl⟩
    · exact ⟨x :: as, a, bs, by simp⟩

/-- `push_back`: the last node and the new one are made to point at each other. -/
theorem Chain.push (chain : Chain next prev xs) (fresh : n ∉ xs) (once : xs.Nodup)
    (last : xs.getLast? = some a) (ends : next' n = none) (link : Link next' prev' a n)
    (nexts : ∀ x ∈ xs, x ≠ a → next' x = next x) (prevs : ∀ x ∈ xs, prev' x = prev x) :
    Chain next' prev' (xs ++ [n]) := by
  obtain ⟨front, rfl⟩ := List.getLast?_eq_some_iff.mp last
  have away : ∀ x ∈ front, x ≠ a := by
    rintro x member rfl
    exact (List.nodup_append.mp once).2.2 x member x (by simp) rfl
  constructor
  · rw [List.append_assoc]
    refine List.isChain_append_cons_cons.mpr ⟨?_, link, .singleton n⟩
    have links := chain.links
    refine links.imp_of_mem_tail_imp fun x y member tail old => ⟨?_, ?_⟩
    · by_cases here : x = a
      · subst here
        have none := chain.last x last
        rw [old.1] at none
        cases none
      · exact (nexts x member here).trans old.1
    · exact (prevs y (List.mem_of_mem_tail tail)).trans old.2
  · intro x final
    rw [List.getLast?_concat, Option.some.injEq] at final
    exact final ▸ ends

/-- Removal of `b`: the nodes around it are made to point at each other. -/
theorem Chain.unlink (chain : Chain next prev (xs ++ a :: b :: ys)) (once : (xs ++ a :: b :: ys).Nodup)
    (skip : next' a = next b) (back : ∀ c, next b = some c → prev' c = some a)
    (nexts : ∀ x ∈ xs ++ a :: b :: ys, x ≠ a → x ≠ b → next' x = next x)
    (prevs : ∀ x ∈ xs ++ a :: b :: ys, x ≠ b → next b ≠ some x → prev' x = prev x) :
    Chain next' prev' (xs ++ a :: ys) := by
  have whole : Chain next prev ((xs ++ [a]) ++ b :: ys) := by simpa using chain
  have after : next b = ys.head? := whole.suffix.next_head
  have split := List.nodup_append.mp once
  have inner := List.nodup_cons.mp split.2.1
  have inner' := List.nodup_cons.mp inner.2
  have inYs : ∀ x ∈ ys, x ≠ a ∧ x ≠ b := by
    intro x member
    refine ⟨?_, ?_⟩ <;> rintro rfl
    · exact inner.1 (List.mem_cons_of_mem _ member)
    · exact inner'.1 member
  have inXs : ∀ x ∈ xs, x ≠ a ∧ x ≠ b ∧ x ∉ ys := by
    intro x member
    refine ⟨?_, ?_, fun there => ?_⟩
    · exact split.2.2 x member a (by simp)
    · exact split.2.2 x member b (by simp)
    · exact split.2.2 x member x (by simp [there]) rfl
  have headYs : ∀ x, next b = some x → x ∈ ys := fun x step => by
    rw [after] at step
    exact List.mem_of_head? step
  have rest : Chain next' prev' ys := by
    have old : Chain next prev ys := chain.suffix.tail.tail
    refine old.congr (fun x member => nexts x (by simp [member]) (inYs x member).1 (inYs x member).2)
      fun x member => prevs x (by simp [List.mem_of_mem_tail member])
        (inYs x (List.mem_of_mem_tail member)).2 fun step => ?_
    rw [after] at step
    have onceYs := inner'.2
    cases ys with
    | nil => cases step
    | cons c ys =>
      cases step
      exact (List.nodup_cons.mp onceYs).1 member
  have front : (xs ++ [a]).IsChain (Link next' prev') := by
    have old : (xs ++ [a]).IsChain (Link next prev) := by
      have whole := chain.links
      rw [List.isChain_append_cons_cons] at whole
      exact (List.isChain_split.mp chain.links).1
    refine old.imp_of_mem_tail_imp fun x y member tail link => ?_
    have inY : y ∈ xs ++ [a] := List.mem_of_mem_tail tail
    have notLast : x ≠ a := by
      rintro rfl
      have step := chain.next_inner
      rw [link.1] at step
      cases step
      rcases List.mem_append.mp inY with old | same
      · exact (inXs b old).2.1 rfl
      · exact inner.1 (List.mem_singleton.mp same ▸ List.mem_cons_self)
    have inX : x ∈ xs := by
      rcases List.mem_append.mp member with old | same
      · exact old
      · exact absurd (List.mem_singleton.mp same) notLast
    refine ⟨(nexts x (by simp [inX]) notLast (inXs x inX).2.1).trans link.1, ?_⟩
    refine (prevs y ?_ ?_ fun step => ?_).trans link.2
    · rcases List.mem_append.mp inY with old | same
      · simp [old]
      · simp [List.mem_singleton.mp same]
    · rcases List.mem_append.mp inY with old | same
      · exact (inXs y old).2.1
      · rintro rfl
        exact inner.1 (List.mem_singleton.mp same ▸ List.mem_cons_self)
    · have there := headYs y step
      rcases List.mem_append.mp inY with old | same
      · exact (inXs y old).2.2 there
      · exact (inYs y there).1 (List.mem_singleton.mp same)
  constructor
  · cases ys with
    | nil => exact front
    | cons c ys =>
      refine List.isChain_append_cons_cons.mpr ⟨front, ⟨skip.trans after, back c after⟩, rest.links⟩
  · intro x final
    cases ys with
    | nil =>
      rw [List.getLast?_concat, Option.some.injEq] at final
      subst final
      rw [skip, after]
      rfl
    | cons c ys =>
      refine rest.last x ?_
      simpa using final

/-- The nodes met from `node` on, at most `fuel` of them. -/
def walk (next : α → Option α) : Nat → Option α → List α
  | fuel + 1, some a => a :: walk next fuel (next a)
  | _, _ => []

/-- A walk from the first node meets the list. -/
theorem Chain.walk (chain : Chain next prev xs) {fuel : Nat} (enough : xs.length ≤ fuel) :
    walk next fuel xs.head? = xs := by
  induction xs generalizing fuel with
  | nil => cases fuel <;> rfl
  | cons a xs ih =>
    cases fuel with
    | zero => simp at enough
    | succ fuel =>
      have rest := ih chain.tail (Nat.le_of_succ_le_succ enough)
      simp only [List.head?_cons, Linked.walk, chain.next_head, rest]

end Linked
