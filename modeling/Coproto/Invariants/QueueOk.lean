import Coproto.Invariants.QueueChain
import Coproto.Lib.Runs

/-!
# Calls on a queue

Every call that removes an element takes one entry off the list of contents, and
`emplace_back` appends one. The invariant holds for a `reserve` as well, as long
as it does not allocate behind an empty block.
-/
namespace Coproto
namespace Queue
variable {α : Type} {q q' : Queue α} {b last : Block α} {bs init : List (Block α)}
  {p : EntryPtr} {r : EntryPtr × α} {rest : List (EntryPtr × α)}

def contents (q : Queue α) : List (EntryPtr × α) := live q.blocks

/-- What holds while holes are being skipped, too. -/
structure Linked (q : Queue α) : Prop where
  chain : Chain q.blocks
  nonempty : q.blocks ≠ []
  known : ∀ b ∈ q.blocks, b.addr < q.nextAddr
  size : q.mSize = q.contents.length
  deleted : ∀ d ∈ q.deleted, (∀ s, d.data s = none) ∧ ∀ b ∈ q.blocks, d.addr < b.addr

structure Ok (q : Queue α) : Prop extends Linked q where
  front : Fronted q.blocks

/-- An element is taken off and destroyed. -/
structure Removes (q q' : Queue α) (r : EntryPtr × α) : Prop where
  ok : q'.Ok
  contents : q'.contents = q.contents.filter (·.1 ≠ r.1)
  destroyed : q'.destroyed = q.destroyed ++ [r]
  unwrapped : (∀ b ∈ q.blocks, b.Unwrapped) → ∀ b ∈ q'.blocks, b.Unwrapped

/-! ## The first element -/

/-- Either there is one block and it is empty, or the first entry is the first element. -/
theorem Ok.first (ok : q.Ok) :
    (q.contents = [] ∧ ∃ b, q.blocks = [b] ∧ b.occupied = 0) ∨
    ∃ r rest, q.contents = r :: rest ∧ q.frontEntry = .ok (some r) := by
  unfold contents frontEntry
  cases here : q.blocks with
  | nil => exact absurd here ok.nonempty
  | cons b bs =>
    obtain ⟨good, _, more, _⟩ := Chain.cons_iff.mp (here ▸ ok.chain)
    by_cases empty : b.occupied = 0
    · left
      have alone : bs = [] := by
        by_contra others
        exact more others empty
      subst alone
      exact ⟨by rw [live_cons, Block.cells_empty empty]; rfl, b, rfl, empty⟩
    · right
      have fronted := ok.front b (by rw [here]; rfl) empty
      obtain ⟨r, first⟩ := Option.isSome_iff_exists.mp fronted
      refine ⟨r, b.dropFront.cells.reduceOption ++ live bs, ?_, ?_⟩
      · rw [live_cons, good.cells_dropFront empty, first, List.reduceOption_cons_of_some,
          List.cons_append]
      · simp [empty, first]

theorem Ok.frontEntry (ok : q.Ok) (first : q.contents = r :: rest) :
    q.frontEntry = .ok (some r) := by
  rcases ok.first with ⟨empty, _⟩ | ⟨r', rest', first', entry⟩
  · rw [first] at empty
    cases empty
  · rw [first] at first'
    obtain ⟨rfl, rfl⟩ := List.cons.inj first'
    exact entry

theorem Linked.mSize_ne (linked : q.Linked) (member : r ∈ q.contents) : q.mSize ≠ 0 := by
  rw [linked.size]
  exact Nat.ne_of_gt (List.length_pos_of_mem member)

theorem Ok.front_eq (ok : q.Ok) (first : q.contents = r :: rest) :
    Queue.front q = .ok r := by
  have some := ok.mSize_ne (first ▸ List.mem_cons_self)
  rw [Queue.front, if_neg some, ok.frontEntry first]
  rfl

/-! ## Removing an element -/

theorem contents_resetEntry (r : EntryPtr × α) :
    (q.resetEntry r).contents = q.contents.filter (·.1 ≠ r.1) :=
  live_reset r.1 q.blocks

theorem Linked.resetEntry (linked : q.Linked) (member : r ∈ q.contents) :
    (q.resetEntry r).Linked := by
  have blocks : (q.resetEntry r).blocks = q.blocks.map (Block.reset r.1) := rfl
  refine ⟨?_, ?_, ?_, ?_, ?_⟩
  · rw [blocks]
    exact linked.chain.reset r.1
  · rw [blocks]
    exact fun none => linked.nonempty (List.map_eq_nil_iff.mp none)
  · intro b there
    rw [blocks] at there
    obtain ⟨c, old, rfl⟩ := List.mem_map.mp there
    rw [Block.addr_reset]
    exact linked.known c old
  · have fewer := linked.chain.keyed.length_filter member
    have less : (q.resetEntry r).mSize = q.mSize - 1 := rfl
    rw [less, contents_resetEntry, linked.size, contents, ← fewer]
    rfl
  · intro d gone
    obtain ⟨clean, before⟩ := linked.deleted d gone
    refine ⟨clean, fun b there => ?_⟩
    rw [blocks] at there
    obtain ⟨c, old, rfl⟩ := List.mem_map.mp there
    rw [Block.addr_reset]
    exact before c old

theorem unwrapped_resetEntry (unwrapped : ∀ b ∈ q.blocks, b.Unwrapped) :
    ∀ b ∈ (q.resetEntry r).blocks, b.Unwrapped := by
  intro b there
  have blocks : (q.resetEntry r).blocks = q.blocks.map (Block.reset r.1) := rfl
  rw [blocks] at there
  obtain ⟨c, old, rfl⟩ := List.mem_map.mp there
  unfold Block.Unwrapped
  rw [Block.mBegin_reset, Block.occupied_reset]
  exact unwrapped c old

/-- The loop of `pop_front` on a queue. -/
def dropHoles (q : Queue α) : Queue α :=
  let rest := skipHoles (q.blocks.map (·.occupied.toNat)).sum q.blocks q.deleted
  { q with
    blocks := rest.1
    deleted := rest.2 }

theorem Linked.contents_dropHoles (linked : q.Linked) : q.dropHoles.contents = q.contents :=
  skipHoles_live linked.chain

theorem Linked.dropHoles (linked : q.Linked) : q.dropHoles.Ok := by
  refine ⟨⟨skipHoles_chain linked.chain, skipHoles_ne_nil linked.nonempty, ?_, ?_, ?_⟩, ?_⟩
  · exact skipHoles_all (fun b below _ _ => below) linked.known
  · rw [linked.contents_dropHoles]
    exact linked.size
  · obtain ⟨freed, deletes, each⟩ := skipHoles_deleted
      (q.blocks.map (·.occupied.toNat)).sum q.deleted linked.chain
    intro d gone
    have there : d ∈ q.deleted ++ freed := deletes ▸ gone
    rcases List.mem_append.mp there with old | new
    · obtain ⟨clean, before⟩ := linked.deleted d old
      exact ⟨clean, skipHoles_all (fun b below _ _ => below) before⟩
    · exact each d new
  · exact skipHoles_fronted le_rfl

/-- `pop_front` removes the first element. -/
theorem Ok.popFront (ok : q.Ok) (first : q.contents = r :: rest) :
    ∃ q', q.popFront = .ok q' ∧ Removes q q' r := by
  have member : r ∈ q.contents := first ▸ List.mem_cons_self
  have some := ok.mSize_ne member
  have linked := ok.resetEntry member
  refine ⟨(q.resetEntry r).dropHoles, ?_, linked.dropHoles, ?_, rfl, fun unwrapped => ?_⟩
  · rw [Queue.popFront, if_neg some, ok.frontEntry first]
    rfl
  · rw [linked.contents_dropHoles]
    exact contents_resetEntry r
  · exact skipHoles_all (fun b good some _ => good.dropFront some) (unwrapped_resetEntry unwrapped)

/-- What an iterator that is valid refers to is removed. -/
theorem Ok.erase (ok : q.Ok) {it : Iterator α} (valid : it.valid = true) (entry : it.entry = some r)
    (member : r ∈ q.contents) : ∃ q', q.erase it = .ok q' ∧ Removes q q' r := by
  have some := ok.mSize_ne member
  have deref : it.deref = .ok r := by
    rw [Iterator.deref, if_pos valid, entry]
  rcases ok.first with ⟨empty, _⟩ | ⟨f, rest, first, head⟩
  · rw [empty] at member
    cases member
  · unfold Queue.erase
    rw [if_neg some, if_neg (by rw [valid]; nofun), ok.front_eq first, deref]
    by_cases here : f.1 = r.1
    · have same : f = r :=
        ok.chain.keyed.eq_of_key (show f ∈ q.contents by simp [first]) member here
      subst same
      obtain ⟨q', pops, removes⟩ := ok.popFront first
      exact ⟨q', by simpa [Except.bind] using pops, removes⟩
    · refine ⟨q.resetEntry r, by simp [Except.bind, here], ⟨ok.resetEntry member, ?_⟩,
        contents_resetEntry r, rfl, unwrapped_resetEntry⟩
      have blocks : (q.resetEntry r).blocks = q.blocks.map (Block.reset r.1) := rfl
      intro b top full
      obtain ⟨c, cs, chained⟩ := List.exists_cons_of_ne_nil ok.nonempty
      rw [blocks, chained] at top
      obtain rfl := Option.some.inj top
      rw [Block.occupied_reset] at full
      have kept : (c.reset r.1).front = Block.without r.1 c.front := by
        have ok' := ok.chain.blocks c (chained ▸ List.mem_cons_self)
        have cells := (ok'.reset r.1).cells_dropFront (by rwa [Block.occupied_reset])
        rw [Block.cells_reset, ok'.cells_dropFront full, List.map_cons] at cells
        exact (List.cons.inj cells).1.symm
      have leading : c.front = Option.some f := by
        unfold Queue.frontEntry at head
        rw [chained] at head
        simpa [full] using head
      rw [kept, leading, Block.without_other here]
      rfl

/-! ## Appending an element -/

theorem Ok.blocks_eq (ok : q.Ok) : ∃ init last, q.blocks = init ++ [last] := by
  exact ⟨_, _, (List.dropLast_concat_getLast ok.nonempty).symm⟩

theorem Chain.append_iff : Chain (init ++ [last]) ↔ last.Ok ∧ (∀ b ∈ init, b.Ok ∧
    b.addr < last.addr ∧ b.occupied ≠ 0) ∧ init.Pairwise fun b c => b.addr < c.addr := by
  constructor
  · intro chain
    obtain ⟨sorted, _, below⟩ := List.pairwise_append.mp chain.addresses
    refine ⟨chain.blocks last (by simp), fun b member => ⟨?_, ?_, ?_⟩, sorted⟩
    · exact chain.blocks b (List.mem_append_left _ member)
    · exact below b member last List.mem_cons_self
    · exact chain.filled b (by rwa [List.dropLast_concat])
  · rintro ⟨ok, before, sorted⟩
    refine ⟨?_, ?_, fun b member => ?_⟩
    · rintro b member
      rcases List.mem_append.mp member with early | late
      · exact (before b early).1
      · rwa [List.mem_singleton.mp late]
    · refine List.pairwise_append.mpr ⟨sorted, List.pairwise_singleton _ _, ?_⟩
      intro b early c late
      rw [List.mem_singleton.mp late]
      exact (before b early).2.1
    · rw [List.dropLast_concat] at member
      exact (before b member).2.2

/-- A block is linked behind the last one, which has entries. -/
theorem Ok.addBlock (ok : q.Ok) (split : q.blocks = init ++ [last]) (some : last.occupied ≠ 0)
    (good : b.Ok) (at_ : b.addr = q.nextAddr) (empty : b.occupied = 0) :
    Ok { q with
      blocks := q.blocks ++ [b]
      nextAddr := q.nextAddr + 1 } := by
  obtain ⟨okLast, before, sorted⟩ := Chain.append_iff.mp (split ▸ ok.chain)
  have contents : live (q.blocks ++ [b]) = q.contents := by
    rw [live_append, live_cons, Block.cells_empty empty]
    exact List.append_nil _
  refine ⟨⟨?_, by simp, ?_, ?_, ?_⟩, ?_⟩
  · refine Chain.append_iff.mpr ⟨good, fun c member => ⟨?_, ?_, ?_⟩, ok.chain.addresses⟩
    · exact ok.chain.blocks c member
    · rw [at_]
      exact ok.known c member
    · rw [split] at member
      rcases List.mem_append.mp member with early | late
      · exact (before c early).2.2
      · rwa [List.mem_singleton.mp late]
  · intro c member
    rcases List.mem_append.mp member with early | late
    · exact Nat.lt_succ_of_lt (ok.known c early)
    · rw [List.mem_singleton.mp late, at_]
      exact Nat.lt_succ_self _
  · rw [Queue.contents, contents]
    exact ok.size
  · intro d gone
    obtain ⟨clean, below⟩ := ok.deleted d gone
    refine ⟨clean, fun c member => ?_⟩
    rcases List.mem_append.mp member with early | late
    · exact below c early
    · rw [List.mem_singleton.mp late, at_]
      have there : last ∈ q.blocks := by rw [split]; simp
      exact (below last there).trans (ok.known last there)
  · intro c top full
    have same : (q.blocks ++ [b]).head? = q.blocks.head? := by
      rw [List.head?_append_of_ne_nil _ ok.nonempty]
    exact ok.front c (same ▸ top) full

theorem Block.Ok.front_construct (good : b.Ok) (room : b.vacant ≠ 0) (x : α)
    (fronted : b.occupied ≠ 0 → b.front.isSome) : (b.construct x).front.isSome := by
  have more := Block.occupied_construct (x := x) good room
  have some : (b.construct x).occupied ≠ 0 := by
    intro none
    rw [none] at more
    cases more
  have cells := (good.construct room x).cells_dropFront some
  rw [good.cells_construct room x] at cells
  by_cases empty : b.occupied = 0
  · rw [Block.cells_empty empty] at cells
    rw [← (List.cons.inj cells).1]
    rfl
  · rw [good.cells_dropFront empty] at cells
    rw [← (List.cons.inj cells).1]
    exact fronted empty

/-- An element is constructed at the end of the last block. -/
theorem Ok.construct (ok : q.Ok) (split : q.blocks = init ++ [last]) (room : last.vacant ≠ 0)
    (x : α) : Ok { q with
      mSize := q.mSize + 1
      blocks := init ++ [last.construct x] } := by
  obtain ⟨okLast, before, sorted⟩ := Chain.append_iff.mp (split ▸ ok.chain)
  have member : ∀ b ∈ init, b ∈ q.blocks := fun b early => by
    rw [split]
    exact List.mem_append_left _ early
  have there : last ∈ q.blocks := by rw [split]; simp
  have cells := okLast.cells_construct room x
  have contents : live (init ++ [last.construct x]) =
      q.contents ++ [(⟨last.addr, last.slot last.mEnd⟩, x)] := by
    rw [Queue.contents, split, live_append, live_append, live_cons, live_cons, cells]
    simp [List.reduceOption_append]
  refine ⟨⟨?_, by simp, ?_, ?_, ?_⟩, ?_⟩
  · exact Chain.append_iff.mpr ⟨okLast.construct room x, before, sorted⟩
  · intro b here
    rcases List.mem_append.mp here with early | late
    · exact ok.known b (member b early)
    · rw [List.mem_singleton.mp late]
      exact ok.known last there
  · rw [Queue.contents, contents, List.length_append, ← ok.size]
    rfl
  · intro d gone
    obtain ⟨clean, below⟩ := ok.deleted d gone
    refine ⟨clean, fun b here => ?_⟩
    rcases List.mem_append.mp here with early | late
    · exact below b (member b early)
    · rw [List.mem_singleton.mp late]
      exact below last there
  · intro b top full
    cases init with
    | nil =>
      obtain rfl := Option.some.inj top
      exact okLast.front_construct room x (ok.front last (by rw [split]; rfl))
    | cons c cs => exact ok.front b (by rw [split]; exact top) full

end Queue
end Coproto
