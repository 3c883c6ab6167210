import Coproto.Invariants.QueueBlock
import Coproto.Lib.Keyed

/-!
# The chain of blocks

The live elements of a queue are the cells of its blocks, in order, without the
holes. Every block but the last has entries, and the first entry of a block that
has any is no hole: `pop_front` restores this by dropping holes and drained blocks.
-/
namespace Coproto
namespace Queue
variable {α : Type} {b c d : Block α} {bs : List (Block α)} {p : EntryPtr} {r : EntryPtr × α}

/-- The elements of a chain in order. -/
def live (bs : List (Block α)) : List (EntryPtr × α) := (bs.flatMap Block.cells).reduceOption

structure Chain (bs : List (Block α)) : Prop where
  blocks : ∀ b ∈ bs, b.Ok
  addresses : bs.Pairwise fun b c => b.addr < c.addr
  filled : ∀ b ∈ bs.dropLast, b.occupied ≠ 0

/-- The first entry is no hole. -/
def Fronted (bs : List (Block α)) : Prop :=
  ∀ b ∈ bs.head?, b.occupied ≠ 0 → b.front.isSome

/-! ## Live elements -/

@[simp] theorem live_nil : live ([] : List (Block α)) = [] := rfl

@[simp] theorem live_cons (b : Block α) (bs : List (Block α)) :
    live (b :: bs) = b.cells.reduceOption ++ live bs := by
  rw [live, List.flatMap_cons, List.reduceOption_append, live]

theorem live_append (bs cs : List (Block α)) : live (bs ++ cs) = live bs ++ live cs := by
  rw [live, List.flatMap_append, List.reduceOption_append, live, live]

theorem mem_live : r ∈ live bs ↔ ∃ b ∈ bs, some r ∈ b.cells := by
  rw [live, List.reduceOption_mem_iff, List.mem_flatMap]

/-- Destroying an element takes it off the cells of its block. -/
theorem reduceOption_without (p : EntryPtr) (cs : List (Option (EntryPtr × α))) :
    (cs.map (Block.without p)).reduceOption = cs.reduceOption.filter (·.1 ≠ p) := by
  induction cs with
  | nil => rfl
  | cons c cs ih =>
    cases c with
    | none => exact ih
    | some r =>
      rw [List.map_cons, List.reduceOption_cons_of_some, List.filter_cons]
      by_cases here : r.1 = p
      · subst here
        simpa [Block.without_self r.1 r.2] using ih
      · simpa [Block.without_other here, here] using ih

theorem live_reset (p : EntryPtr) (bs : List (Block α)) :
    live (bs.map (Block.reset p)) = (live bs).filter (·.1 ≠ p) := by
  induction bs with
  | nil => rfl
  | cons b bs ih =>
    rw [List.map_cons, live_cons, live_cons, List.filter_append, ih, Block.cells_reset,
      reduceOption_without]

namespace Chain

theorem cons_iff : Chain (b :: bs) ↔
    b.Ok ∧ (∀ c ∈ bs, b.addr < c.addr) ∧ (bs ≠ [] → b.occupied ≠ 0) ∧ Chain bs := by
  constructor
  · intro chain
    obtain ⟨below, addresses⟩ := List.pairwise_cons.mp chain.addresses
    refine ⟨chain.blocks b List.mem_cons_self, below, fun more => ?_,
      fun c member => chain.blocks c (List.mem_cons_of_mem b member), addresses,
      fun c member => ?_⟩
    · apply chain.filled
      rw [List.dropLast_cons_of_ne_nil more]
      exact List.mem_cons_self
    · apply chain.filled
      have more : bs ≠ [] := fun none => by simp [none] at member
      rw [List.dropLast_cons_of_ne_nil more]
      exact List.mem_cons_of_mem b member
  · rintro ⟨ok, below, some, chain⟩
    refine ⟨List.forall_mem_cons.mpr ⟨ok, chain.blocks⟩,
      List.pairwise_cons.mpr ⟨below, chain.addresses⟩, fun c member => ?_⟩
    cases bs with
    | nil => simp at member
    | cons d ds =>
      rw [List.dropLast_cons_of_ne_nil (List.cons_ne_nil d ds)] at member
      rcases List.mem_cons.mp member with rfl | later
      · exact some (List.cons_ne_nil d ds)
      · exact chain.filled c later

theorem single (ok : b.Ok) : Chain [b] := by
  refine cons_iff.mpr ⟨ok, nofun, fun more => absurd rfl more, nofun, List.Pairwise.nil, nofun⟩

theorem reset (chain : Chain bs) (p : EntryPtr) : Chain (bs.map (Block.reset p)) := by
  induction bs with
  | nil => exact chain
  | cons b bs ih =>
    obtain ⟨ok, below, some, rest⟩ := cons_iff.mp chain
    refine cons_iff.mpr ⟨ok.reset p, ?_, ?_, ih rest⟩
    · intro c member
      obtain ⟨d, there, rfl⟩ := List.mem_map.mp member
      simpa using below d there
    · intro more
      rw [Block.occupied_reset]
      exact some fun none => more (by rw [none]; rfl)

/-- Elements have different addresses. -/
theorem keyed (chain : Chain bs) : Keyed (live bs) := by
  induction bs with
  | nil => exact List.Pairwise.nil
  | cons b bs ih =>
    obtain ⟨ok, below, _, rest⟩ := cons_iff.mp chain
    rw [live_cons]
    have first : Keyed b.cells.reduceOption :=
      List.pairwise_filterMap.mpr (ok.cells_nodup.imp fun apart r here r' there =>
        apart r here r' there)
    apply first.append (ih rest)
    intro r here r' there same
    obtain ⟨c, later, cell⟩ := mem_live.mp there
    have home := (Block.mem_cells (List.reduceOption_mem_iff.mp here)).1
    have home' := (Block.mem_cells cell).1
    have apart := below c later
    rw [← home, ← home', same] at apart
    exact absurd apart (Nat.lt_irrefl _)

end Chain

/-! ## The loop of pop_front -/

/-- What dropping a hole keeps, the loop keeps. -/
theorem skipHoles_all {P : Block α → Prop} {n : Nat} {deleted : List (Block α)}
    (keep : ∀ b, P b → b.occupied ≠ 0 → b.front = none → P b.dropFront)
    (all : ∀ b ∈ bs, P b) : ∀ b ∈ (skipHoles n bs deleted).1, P b := by
  fun_induction skipHoles n bs deleted with
  | case1 n b bs deleted hole drained ih =>
    exact ih fun c member => all c (List.mem_cons_of_mem b member)
  | case2 n b bs deleted hole more ih =>
    have first := keep b (all b List.mem_cons_self) hole.1 (Option.isNone_iff_eq_none.mp hole.2)
    exact ih (List.forall_mem_cons.mpr ⟨first, (List.forall_mem_cons.mp all).2⟩)
  | case3 => exact all
  | case4 => exact all

/-- Blocks are only taken off at the front. -/
theorem skipHoles_addresses {n : Nat} {deleted : List (Block α)} :
    ((skipHoles n bs deleted).1.map (·.addr)) <:+ bs.map (·.addr) := by
  fun_induction skipHoles n bs deleted with
  | case1 n b bs deleted hole drained ih => exact ih.trans (List.suffix_cons _ _)
  | case2 n b bs deleted hole more ih => exact ih
  | case3 => exact List.suffix_refl _
  | case4 => exact List.suffix_refl _

theorem skipHoles_ne_nil {n : Nat} {deleted : List (Block α)} (some : bs ≠ []) :
    (skipHoles n bs deleted).1 ≠ [] := by
  fun_induction skipHoles n bs deleted with
  | case1 n b bs deleted hole drained ih => exact ih drained.2
  | case2 n b bs deleted hole more ih => exact ih (List.cons_ne_nil _ _)
  | case3 => exact some
  | case4 => exact some

theorem skipHoles_chain {n : Nat} {deleted : List (Block α)} (chain : Chain bs) :
    Chain (skipHoles n bs deleted).1 := by
  fun_induction skipHoles n bs deleted with
  | case1 n b bs deleted hole drained ih => exact ih (Chain.cons_iff.mp chain).2.2.2
  | case2 n b bs deleted hole more ih =>
    obtain ⟨ok, below, _, rest⟩ := Chain.cons_iff.mp chain
    have ok' := ok.dropFront hole.1 (Option.isNone_iff_eq_none.mp hole.2)
    exact ih (Chain.cons_iff.mpr ⟨ok', below, fun later empty => more ⟨empty, later⟩, rest⟩)
  | case3 => exact chain
  | case4 => exact chain

/-- Only holes are dropped. -/
theorem skipHoles_live {n : Nat} {deleted : List (Block α)} (chain : Chain bs) :
    live (skipHoles n bs deleted).1 = live bs := by
  fun_induction skipHoles n bs deleted with
  | case1 n b bs deleted hole drained ih =>
    obtain ⟨ok, _, _, rest⟩ := Chain.cons_iff.mp chain
    rw [ih rest, live_cons, ok.cells_dropFront hole.1, Option.isNone_iff_eq_none.mp hole.2,
      Block.cells_empty drained.1]
    rfl
  | case2 n b bs deleted hole more ih =>
    obtain ⟨ok, below, _, rest⟩ := Chain.cons_iff.mp chain
    have none := Option.isNone_iff_eq_none.mp hole.2
    have ok' := ok.dropFront hole.1 none
    have step := ih (Chain.cons_iff.mpr
      ⟨ok', below, fun later empty => more ⟨empty, later⟩, rest⟩)
    rw [step, live_cons, live_cons, ok.cells_dropFront hole.1, none,
      List.reduceOption_cons_of_none]
  | case3 => rfl
  | case4 => rfl

/-- Every round drops an entry, so the loop ends at one that is no hole. -/
theorem skipHoles_fronted {n : Nat} {deleted : List (Block α)}
    (rounds : (bs.map (·.occupied.toNat)).sum ≤ n) : Fronted (skipHoles n bs deleted).1 := by
  fun_induction skipHoles n bs deleted with
  | case1 n b bs deleted hole drained ih =>
    have fewer := Block.toNat_occupied_dropFront hole.1
    rw [List.map_cons, List.sum_cons] at rounds
    exact ih (by omega)
  | case2 n b bs deleted hole more ih =>
    have fewer := Block.toNat_occupied_dropFront hole.1
    rw [List.map_cons, List.sum_cons] at rounds ih
    exact ih (by omega)
  | case3 n b bs deleted good =>
    intro c first some
    obtain rfl := Option.some.inj first
    by_contra hole
    exact good ⟨some, by simpa using hole⟩
  | case4 n bs deleted base =>
    intro c first some
    cases bs with
    | nil => cases first
    | cons b bs =>
      obtain rfl := Option.some.inj first
      cases n with
      | succ n => exact absurd rfl (base n b bs rfl)
      | zero =>
        rw [List.map_cons, List.sum_cons] at rounds
        exact absurd (UInt64.toNat_inj.mp (by simp; omega)) some

/-- A block that is given back holds nothing and lies before those that stay. -/
theorem skipHoles_deleted (n : Nat) (deleted : List (Block α)) (chain : Chain bs) :
    ∃ freed, (skipHoles n bs deleted).2 = deleted ++ freed ∧
      ∀ d ∈ freed, (∀ s, d.data s = none) ∧ ∀ b ∈ (skipHoles n bs deleted).1, d.addr < b.addr := by
  fun_induction skipHoles n bs deleted with
  | case1 n b bs deleted hole drained ih =>
    obtain ⟨ok, below, _, rest⟩ := Chain.cons_iff.mp chain
    obtain ⟨freed, deletes, each⟩ := ih rest
    have later : ∀ c ∈ (skipHoles n bs (release b.dropFront deleted)).1, b.addr < c.addr := by
      intro c member
      have there := skipHoles_addresses.subset (List.mem_map_of_mem (f := (·.addr)) member)
      obtain ⟨d, old, same⟩ := List.mem_map.mp there
      rw [← same]
      exact below d old
    have drains : ∃ first, release b.dropFront deleted = deleted ++ first ∧
        ∀ d ∈ first, d = b.dropFront := by
      unfold release
      split
      · exact ⟨[], (List.append_nil _).symm, nofun⟩
      · exact ⟨[b.dropFront], rfl, fun d only => List.mem_singleton.mp only⟩
    obtain ⟨first, released, only⟩ := drains
    have ok' := ok.dropFront hole.1 (Option.isNone_iff_eq_none.mp hole.2)
    refine ⟨first ++ freed, by rw [deletes, released, List.append_assoc], fun d member => ?_⟩
    rcases List.mem_append.mp member with here | there
    · rw [only d here]
      exact ⟨ok'.data_empty drained.1, later⟩
    · exact each d there
  | case2 n b bs deleted hole more ih =>
    obtain ⟨ok, below, _, rest⟩ := Chain.cons_iff.mp chain
    have ok' := ok.dropFront hole.1 (Option.isNone_iff_eq_none.mp hole.2)
    exact ih (Chain.cons_iff.mpr ⟨ok', below, fun later empty => more ⟨empty, later⟩, rest⟩)
  | case3 => exact ⟨[], (List.append_nil _).symm, nofun⟩
  | case4 => exact ⟨[], (List.append_nil _).symm, nofun⟩

end Queue
end Coproto
