import Coproto.Invariants.QueueStep
import Mathlib.Data.List.DropRight

/-!
# Iterators along the chain

An iterator stands for the cells from its entry on. `operator++` takes the first
of them off and the holes behind it. Whether it is valid depends on the counters,
which have to be below `2 ^ 64`.
-/
namespace Coproto
namespace Queue
variable {α : Type} {q q' : Queue α} {b c : Block α} {bs : List (Block α)} {r : EntryPtr × α}
  {it : Iterator α} {cells : List (Option (EntryPtr × α))} {todo : List (EntryPtr × α)}
  {cell : Option (EntryPtr × α)} {i k n : Nat}

/-- Reduced counters are apart as far as the distances are. -/
theorem Block.index_ne (inside : i < b.occupied.toNat) :
    b.mBegin + UInt64.ofNat i ≠ b.mEnd := by
  intro reached
  have small := b.occupied.toNat_lt
  have distance : UInt64.ofNat i = b.occupied := by
    unfold occupied
    grind
  have same : i = b.occupied.toNat := by
    rw [← distance, UInt64.toNat_ofNat', Nat.mod_eq_of_lt (by omega)]
  omega

theorem Block.index_mEnd (b : Block α) :
    b.mBegin + UInt64.ofNat b.occupied.toNat = b.mEnd := by
  rw [UInt64.ofNat_toNat, occupied]
  grind

namespace Iterator

/-- An iterator and the cells from its entry on. -/
inductive At : Iterator α → List (Option (EntryPtr × α)) → Prop
  | finish : At Queue.finish []
  | entry {b : Block α} {bs : List (Block α)} {i : Nat} (good : ∀ c ∈ b :: bs, c.Ok)
      (inside : i < b.occupied.toNat) :
      At ⟨b :: bs, b.mBegin + UInt64.ofNat i⟩ (b.cells.drop i ++ bs.flatMap Block.cells)

/-- Blocks that are at their end are left. -/
theorem At.skipEnds (good : ∀ c ∈ b :: bs, c.Ok) (inside : i ≤ b.occupied.toNat) :
    At (skipEnds (b :: bs) (b.mBegin + UInt64.ofNat i))
      (b.cells.drop i ++ bs.flatMap Block.cells) := by
  induction bs generalizing b i with
  | nil =>
    have good' := good b List.mem_cons_self
    rcases Nat.lt_or_eq_of_le inside with before | reached
    · rw [Iterator.skipEnds, if_neg (Block.index_ne before)]
      exact .entry good before
    · rw [Iterator.skipEnds, reached, if_pos b.index_mEnd,
        List.drop_eq_nil_of_le (by rw [Block.length_cells])]
      exact .finish
  | cons c cs ih =>
    have good' := good b List.mem_cons_self
    rcases Nat.lt_or_eq_of_le inside with before | reached
    · rw [Iterator.skipEnds, if_neg (Block.index_ne before)]
      exact .entry good before
    · rw [Iterator.skipEnds, reached, if_pos b.index_mEnd,
        List.drop_eq_nil_of_le (by rw [Block.length_cells])]
      have start : c.mBegin = c.mBegin + UInt64.ofNat 0 := (UInt64.add_zero c.mBegin).symm
      rw [start]
      exact ih (List.forall_mem_cons.mp good).2 (Nat.zero_le _)

/-- The entry, and where the inner loop goes from there. -/
theorem At.cons (at_ : At it (cell :: cells)) :
    it.entry = cell ∧ At (Iterator.skipEnds it.mBlock (it.mIndex + 1)) cells := by
  generalize all : cell :: cells = list at at_
  cases at_ with
  | finish => cases all
  | @entry b bs i good inside =>
    have good' := good b List.mem_cons_self
    have here := good'.getElem_cells inside
    obtain ⟨bound, value⟩ := List.getElem?_eq_some_iff.mp here
    rw [List.drop_eq_getElem_cons bound, value, List.cons_append] at all
    obtain ⟨rfl, rfl⟩ := List.cons.inj all
    have further : b.mBegin + UInt64.ofNat i + 1 = b.mBegin + UInt64.ofNat (i + 1) := by
      rw [UInt64.ofNat_add, UInt64.add_assoc]
      rfl
    refine ⟨rfl, ?_⟩
    rw [further]
    exact At.skipEnds good inside

theorem At.nil (at_ : At it []) : it = Queue.finish := by
  generalize none : ([] : List (Option (EntryPtr × α))) = list at at_
  cases at_ with
  | finish => rfl
  | @entry b bs i good inside =>
    have bound : i < b.cells.length := by rw [Block.length_cells]; exact inside
    rw [List.drop_eq_getElem_cons bound] at none
    cases none

theorem At.length_le (at_ : At it cells) : cells.length ≤ (it.mBlock.map (·.occupied.toNat)).sum := by
  cases at_ with
  | finish => exact Nat.le_refl 0
  | @entry b bs i good inside =>
    have lengths : (bs.flatMap Block.cells).length = (bs.map (·.occupied.toNat)).sum := by
      rw [List.length_flatMap]
      simp only [Block.length_cells]
    rw [List.length_append, List.length_drop, Block.length_cells, lengths, List.map_cons,
      List.sum_cons]
    omega

/-- The outer loop passes the holes. -/
theorem At.advance (at_ : At it (cell :: cells)) (rounds : cells.length < n) :
    At (Iterator.advance n it) (cells.dropWhile (·.isNone)) := by
  induction n generalizing it cell cells with
  | zero => cases rounds
  | succ n ih =>
    obtain ⟨_, passed⟩ := at_.cons
    unfold Iterator.advance
    dsimp only
    cases cells with
    | nil =>
      rw [passed.nil]
      exact .finish
    | cons d ds =>
      obtain ⟨entry, _⟩ := passed.cons
      have some : (Iterator.skipEnds it.mBlock (it.mIndex + 1)).mBlock.isEmpty = false := by
        generalize Iterator.skipEnds it.mBlock (it.mIndex + 1) = it' at passed
        generalize all : d :: ds = list at passed
        cases passed with
        | finish => cases all
        | entry good inside => rfl
      cases d with
      | some r =>
        rw [if_pos (.inr (by rw [entry]; rfl))]
        exact passed
      | none =>
        rw [if_neg (by simp [some, entry])]
        have rest := ih passed (Nat.lt_of_succ_lt_succ rounds)
        exact rest

/-- An iterator and the elements from the one it refers to on. -/
def Points (it : Iterator α) (todo : List (EntryPtr × α)) : Prop :=
  ∃ cells, At it cells ∧ cells.dropWhile (·.isNone) = cells ∧ cells.reduceOption = todo

theorem reduceOption_dropWhile (cells : List (Option (EntryPtr × α))) :
    (cells.dropWhile (·.isNone)).reduceOption = cells.reduceOption := by
  induction cells with
  | nil => rfl
  | cons c cs ih =>
    cases c with
    | none => exact ih
    | some r => rfl

theorem Points.of_finish : Points (Queue.finish : Iterator α) [] := ⟨[], .finish, rfl, rfl⟩

theorem Points.nil (points : Points it []) : it = Queue.finish := by
  obtain ⟨cells, at_, solid, elements⟩ := points
  cases cells with
  | nil => exact at_.nil
  | cons c cs =>
    cases c with
    | some r => cases elements
    | none =>
      have shorter := congrArg List.length solid
      have bound := (List.dropWhile_suffix (l := cs) (fun c => c.isNone)).length_le
      rw [List.dropWhile_cons_of_pos rfl, List.length_cons] at shorter
      omega

theorem Points.cons (points : Points it (r :: todo)) :
    (∃ cells, At it (some r :: cells)) ∧ it.entry = some r ∧ Points it.next todo := by
  obtain ⟨cells, at_, solid, elements⟩ := points
  cases cells with
  | nil => cases elements
  | cons c cs =>
    cases c with
    | none =>
      have shorter := congrArg List.length solid
      have bound := (List.dropWhile_suffix (l := cs) (fun c => c.isNone)).length_le
      rw [List.dropWhile_cons_of_pos rfl, List.length_cons] at shorter
      omega
    | some r' =>
      obtain ⟨rfl, rfl⟩ := List.cons.inj elements
      have rounds := at_.length_le
      rw [List.length_cons] at rounds
      refine ⟨⟨cs, at_⟩, at_.cons.1, _, at_.advance (by omega), ?_, reduceOption_dropWhile cs⟩
      exact List.dropWhile_idempotent (p := fun c => c.isNone) cs

theorem Points.iterate (points : Points it todo) (inside : k ≤ todo.length) :
    Points (Nat.iterate next k it) (todo.drop k) := by
  induction k generalizing it todo with
  | zero => exact points
  | succ k ih =>
    cases todo with
    | nil => cases inside
    | cons r rest => exact ih points.cons.2.2 (Nat.le_of_succ_le_succ inside)

/-- The entries of a block that has not wrapped have indices from `mBegin` on. -/
theorem At.valid (at_ : At it (some r :: cells)) (unwrapped : ∀ b ∈ it.mBlock, b.Unwrapped) :
    it.valid = true := by
  obtain ⟨entry, _⟩ := at_.cons
  generalize all : some r :: cells = list at at_
  cases at_ with
  | finish => cases all
  | @entry b bs i good inside =>
    have below := unwrapped b List.mem_cons_self
    unfold Block.Unwrapped at below
    have low := b.mBegin.toNat_lt
    have small := b.occupied.toNat_lt
    have reduced : (UInt64.ofNat i).toNat = i := by
      rw [UInt64.toNat_ofNat', Nat.mod_eq_of_lt (by omega)]
    have ahead : b.mBegin ≤ b.mBegin + UInt64.ofNat i := by
      rw [UInt64.le_iff_toNat_le, UInt64.toNat_add, reduced, Nat.mod_eq_of_lt (by omega)]
      omega
    exact decide_eq_true ⟨ahead, by rw [show b.entry _ = some r from entry]; rfl⟩

theorem Points.deref (points : Points it (r :: todo)) (unwrapped : ∀ b ∈ it.mBlock, b.Unwrapped) :
    it.valid = true ∧ it.deref = .ok r := by
  obtain ⟨⟨cells, at_⟩, entry, _⟩ := points.cons
  have valid := at_.valid unwrapped
  refine ⟨valid, ?_⟩
  rw [Iterator.deref, if_pos valid, entry]

theorem Points.not_atEnd (points : Points it (r :: todo)) : it.atEnd = false := by
  obtain ⟨_, entry, _⟩ := points.cons
  cases it with
  | mk blocks index =>
    cases blocks with
    | nil => cases entry
    | cons b bs => rfl

theorem Points.visitFrom (points : Points it todo) (unwrapped : ∀ b ∈ it.mBlock, b.Unwrapped)
    (rounds : todo.length < n) : visitFrom n it = .ok todo := by
  induction n generalizing it todo with
  | zero => cases rounds
  | succ n ih =>
    unfold Queue.visitFrom
    cases todo with
    | nil =>
      rw [points.nil]
      rfl
    | cons r rest =>
      have later : ∀ b ∈ it.next.mBlock, b.Unwrapped :=
        fun b member => unwrapped b ((next_suffix it).subset member)
      rw [if_neg (by rw [points.not_atEnd]; nofun), (points.deref unwrapped).2, Except.bind,
        ih points.cons.2.2 later (Nat.lt_of_succ_lt_succ rounds)]
      rfl

end Iterator

open Iterator

/-- `begin()` stands for all elements. -/
theorem Ok.begin (ok : q.Ok) : ∃ it, q.begin = .ok it ∧ Points it q.contents := by
  by_cases none : q.mSize = 0
  · have empty : q.contents = [] := List.length_eq_zero_iff.mp (ok.size ▸ none)
    exact ⟨finish, if_pos none, by rw [empty]; exact .of_finish⟩
  · obtain ⟨b, bs, blocks⟩ := List.exists_cons_of_ne_nil ok.nonempty
    rcases ok.first with ⟨empty, _⟩ | ⟨r, rest, first, entry⟩
    · rw [ok.size, empty] at none
      exact absurd rfl none
    · have good : ∀ c ∈ b :: bs, c.Ok := blocks ▸ ok.chain.blocks
      have good' := good b List.mem_cons_self
      unfold Queue.frontEntry at entry
      rw [blocks] at entry
      by_cases empty : b.occupied = 0
      · simp [empty] at entry
      · have front : b.front = some r := by simpa [empty] using entry
        have pos : 0 < b.occupied.toNat := by
          rw [Nat.pos_iff_ne_zero]
          exact fun zero => empty (UInt64.toNat_inj.mp zero)
        have at_ := At.entry good pos
        have start : b.mBegin + UInt64.ofNat 0 = b.mBegin := UInt64.add_zero b.mBegin
        rw [start, List.drop_zero] at at_
        have valid : (⟨b :: bs, b.mBegin⟩ : Iterator α).valid = true := by
          apply decide_eq_true
          exact ⟨UInt64.le_refl _, by rw [show b.entry b.mBegin = some r from front]; rfl⟩
        refine ⟨⟨b :: bs, b.mBegin⟩, ?_, _, at_, ?_, ?_⟩
        · unfold Queue.begin
          rw [if_neg none, blocks]
          exact if_pos (.inr valid)
        · rw [good'.cells_dropFront empty, front]
          rfl
        · rw [contents, blocks]
          rfl

/-- Iteration visits the elements in order. -/
theorem Ok.visit (ok : q.Ok) (unwrapped : ∀ b ∈ q.blocks, b.Unwrapped) :
    q.visit = .ok q.contents := by
  obtain ⟨it, begins, points⟩ := ok.begin
  have within : Within q it := by
    have same : q.iterator 0 = .ok it := by
      rw [iterator, begins]
      rfl
    exact Ok.iterator_within same
  rw [Queue.visit, begins, Except.bind]
  apply points.visitFrom fun b member => unwrapped b (within.subset member)
  rw [ok.size]
  exact Nat.lt_succ_self _

theorem Ok.iterator (ok : q.Ok) (k : Nat) :
    ∃ it, q.iterator k = .ok it ∧ (k ≤ q.contents.length → Points it (q.contents.drop k)) ∧
      (q.contents.length ≤ k → it.mBlock = []) := by
  obtain ⟨it, begins, points⟩ := ok.begin
  refine ⟨Nat.iterate next k it, by rw [Queue.iterator, begins]; rfl, points.iterate, fun beyond => ?_⟩
  obtain ⟨m, rfl⟩ := Nat.exists_eq_add_of_le beyond
  have reached := points.iterate (Nat.le_refl _)
  rw [List.drop_length] at reached
  have blocks := iterate_suffix m (Nat.iterate next q.contents.length it)
  rw [reached.nil] at blocks
  rw [Nat.add_comm, Function.iterate_add_apply, reached.nil]
  exact List.suffix_nil.mp blocks

/-- The element at a position is erased. -/
theorem Ok.erase_at (ok : q.Ok) (unwrapped : ∀ b ∈ q.blocks, b.Unwrapped)
    (here : q.contents[k]? = some r) : ∃ t, q.call (.erase k) = .ok t ∧ Removes q t r := by
  obtain ⟨it, iterates, points, _⟩ := ok.iterator k
  obtain ⟨inside, value⟩ := List.getElem?_eq_some_iff.mp here
  have points := points (Nat.le_of_lt inside)
  rw [List.drop_eq_getElem_cons inside, value] at points
  have within := Ok.iterator_within iterates
  have valid := (points.deref fun b member => unwrapped b (within.subset member)).1
  obtain ⟨t, erases, removes⟩ := ok.erase valid points.cons.2.1 (List.mem_of_getElem? here)
  exact ⟨t, by rw [call, iterates]; exact erases, removes⟩

/-- What a call of `erase(Iterator)` has removed. -/
theorem Ok.erase_inv (ok : q.Ok) (erases : q.call (.erase k) = .ok q') :
    ∃ r, q.contents[k]? = some r ∧ Removes q q' r := by
  obtain ⟨it, iterates, points, ending⟩ := ok.iterator k
  rw [call, iterates, Except.bind] at erases
  obtain ⟨r, _, entry, removes⟩ := ok.erase_eq_ok (Ok.iterator_within iterates) erases
  rcases Nat.lt_or_ge k q.contents.length with inside | beyond
  · have points := points (Nat.le_of_lt inside)
    rw [List.drop_eq_getElem_cons inside] at points
    obtain rfl := Option.some.inj (points.cons.2.1.symm.trans entry)
    exact ⟨_, List.getElem?_eq_getElem inside, removes⟩
  · have none : it.entry = none := by
      unfold Iterator.entry
      rw [ending beyond]
    rw [none] at entry
    cases entry

end Queue
end Coproto
