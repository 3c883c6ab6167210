import Coproto.Invariants.QueueStep

/-!
# erase by address

Common/Queue.h:358-394. `erase(T*)` takes the number of the slot for the index of
an iterator. Once `mBegin` of the block has passed that number, which it does
after one round through the ring, the iterator is not valid and nothing is erased.
-/
namespace Coproto
open Runs

namespace Queue
variable {α : Type} {q q' : Queue α} {b : Block α} {bs : List (Block α)} {p : EntryPtr} {x : α}
  {r : EntryPtr × α} {k : Nat} {it it' : Iterator α}

/-- All calls but `reserve`. -/
def Event.plain : Event α → Bool
  | .reserve _ => false
  | _ => true

def Plain (_ : Queue α) (e : Event α) : Prop := e.plain = true

instance (q : Queue α) (e : Event α) : Decidable (Plain q e) :=
  inferInstanceAs (Decidable (_ = _))

theorem Plain.keepsFilled {e : Event α} (plain : Plain q e) : KeepsFilled q e := by
  cases e with
  | reserve c => exact absurd plain (by simp [Plain, Event.plain])
  | _ => trivial

theorem Ok.of_plain {events : List (Event α)} (run : Run Queue.step Plain Queue.empty events q) :
    q.Ok :=
  Ok.of_run (run.mono fun _ _ plain => plain.keepsFilled) Ok.empty

/-- The element at position `k`, which lives at `p`, is erased, as it is by an
iterator to it. -/
structure ErasedAt (q q' : Queue α) (k : Nat) (p : EntryPtr) : Prop where
  contents : q'.contents = q.contents.eraseIdx k
  size : q'.mSize + 1 = q.mSize
  destroyed : ∃ x, q'.destroyed = q.destroyed ++ [(p, x)]
  iterator : ∀ it : Iterator α, Within q it → it.valid = true → it.entry.map (·.1) = some p →
    q.erase it = .ok q'

/-! ## Where an element lives -/

theorem Ok.home (ok : q.Ok) (live : (p, x) ∈ q.contents) :
    ∃ b ∈ q.blocks, b.addr = p.block ∧ p.slot < b.capacity.toNat ∧
      b.entry (UInt64.ofNat p.slot) = some (p, x) := by
  obtain ⟨b, there, cell⟩ := mem_live.mp live
  have good := ok.chain.blocks b there
  obtain ⟨home, value⟩ := Block.mem_cells cell
  obtain ⟨i, _, at_⟩ := good.clean p.slot (by simp [value])
  have inside : p.slot < b.capacity.toNat := at_ ▸ Nat.mod_lt _ good.capacity_pos
  have small := good.capacity_lt
  have slot : b.slot (UInt64.ofNat p.slot) = p.slot := by
    have narrow : p.slot % 2 ^ 64 = p.slot := Nat.mod_eq_of_lt (by omega)
    rw [good.slot_eq, UInt64.toNat_ofNat', narrow, Nat.mod_eq_of_lt inside]
  refine ⟨b, there, home.symm, inside, ?_⟩
  rw [Block.entry, slot, Block.element_eq_some]
  exact ⟨by rw [← home], value⟩

theorem Chain.addr_unique (chain : Chain bs) {c : Block α} (here : b ∈ bs) (there : c ∈ bs)
    (same : b.addr = c.addr) : b = c := by
  obtain ⟨i, inside, rfl⟩ := List.getElem_of_mem here
  obtain ⟨j, inside', rfl⟩ := List.getElem_of_mem there
  rcases Nat.lt_trichotomy i j with before | equal | after
  · have apart := List.pairwise_iff_getElem.mp chain.addresses i j inside inside' before
    exact absurd same (Nat.ne_of_lt apart)
  · subst equal
    rfl
  · have apart := List.pairwise_iff_getElem.mp chain.addresses j i inside' inside after
    exact absurd same.symm (Nat.ne_of_lt apart)

/-- The search stops at the block of the element. -/
theorem Chain.findBlock (chain : Chain bs) (there : b ∈ bs) (home : b.addr = p.block)
    (inside : p.slot < b.capacity.toNat) : ∃ after, findBlock p bs = .ok (b :: after) := by
  induction bs with
  | nil => cases there
  | cons c cs ih =>
    unfold Queue.findBlock
    by_cases here : c.contains p = true
    · have address : p.block = c.addr := (of_decide_eq_true here).1
      obtain rfl := chain.addr_unique there List.mem_cons_self (home.trans address)
      exact ⟨cs, if_pos here⟩
    · rw [if_neg here]
      rcases List.mem_cons.mp there with rfl | later
      · exact absurd (decide_eq_true ⟨home.symm, inside⟩) here
      · exact ih (Chain.cons_iff.mp chain).2.2.2 later

/-- Only the entry an iterator refers to matters. -/
theorem erase_congr (valid : it.valid = true) (valid' : it'.valid = true)
    (same : it.entry = it'.entry) : q.erase it = q.erase it' := by
  unfold erase Iterator.deref
  rw [valid, valid', same]

end Queue

open Queue

/-- `erase(T*)` erases a live element exactly where `mBegin` of its block is not
beyond the number of its slot. -/
theorem erasePtr_iff {α : Type} {events : List (Event α)} {q : Queue α} {k : Nat} {p : EntryPtr}
    {x : α} (run : Run Queue.step Plain Queue.empty events q) (live : q.contents[k]? = some (p, x)) :
    (∃ q', q.erasePtr p = .ok q' ∧ ErasedAt q q' k p) ↔
      ∀ b ∈ q.blocks, b.addr = p.block → b.mBegin ≤ UInt64.ofNat p.slot := by
  have ok := Ok.of_plain run
  have member := List.mem_of_getElem? live
  obtain ⟨b, there, home, inside, entry⟩ := ok.home member
  obtain ⟨after, finds⟩ := ok.chain.findBlock there home inside
  have suffix := (findBlock_suffix finds).1
  constructor
  · rintro ⟨q', erases, _⟩ c member' home'
    obtain rfl := ok.chain.addr_unique there member' (home.trans home'.symm)
    obtain ⟨blk, finds', erases⟩ := bind_eq_ok erases
    obtain ⟨it, makes, _⟩ := bind_eq_ok erases
    obtain rfl := Except.ok.inj (finds.symm.trans finds')
    obtain ⟨rfl, none | valid⟩ := Iterator.make_eq_ok makes
    · cases none
    · exact (of_decide_eq_true valid).1
  · intro ahead
    have valid : (⟨b :: after, UInt64.ofNat p.slot⟩ : Iterator α).valid = true :=
      decide_eq_true ⟨ahead b there home, by rw [entry]; rfl⟩
    have within : Within q ⟨b :: after, UInt64.ofNat p.slot⟩ := suffix
    have makes : Iterator.make (b :: after) (UInt64.ofNat p.slot) =
        .ok ⟨b :: after, UInt64.ofNat p.slot⟩ := if_pos (.inr valid)
    have derefs : (⟨b :: after, UInt64.ofNat p.slot⟩ : Iterator α).deref = .ok (p, x) := by
      unfold Iterator.deref
      rw [if_pos valid]
      simp only [Iterator.entry, entry]
    obtain ⟨q', erases, removes⟩ := ok.erase valid entry member
    have contents : q'.contents = q.contents.eraseIdx k := by
      rw [removes.contents]
      exact ok.chain.keyed.filter_eq_eraseIdx live
    refine ⟨q', ?_, contents, ?_, ⟨x, removes.destroyed⟩, ?_⟩
    · rw [erasePtr, finds, Except.bind, makes, Except.bind, derefs, Except.bind, if_pos rfl, erases]
    · obtain ⟨bound, _⟩ := List.getElem?_eq_some_iff.mp live
      rw [removes.ok.size, contents, List.length_eraseIdx_of_lt bound, ok.size]
      omega
    · intro it within' valid' same
      obtain ⟨r, entry', address⟩ := Option.map_eq_some_iff.mp same
      have equal := ok.chain.keyed.eq_of_key (ok.mem_of_entry within' entry') member address
      have agree : it.entry = (⟨b :: after, UInt64.ofNat p.slot⟩ : Iterator α).entry := by
        rw [entry', equal]
        exact entry.symm
      rw [erase_congr valid' valid agree, erases]

theorem erasePtr_iff_second : ∃ q : Queue Nat,
    Run Queue.step Plain Queue.empty [.pushBack 7, .pushBack 8, .pushBack 9] q ∧
      ∃ q', q.erasePtr ⟨0, 1⟩ = .ok q' ∧ ErasedAt q q' 1 ⟨0, 1⟩ := by
  have reached : (exec Queue.step Plain (Queue.empty : Queue Nat)
      [.pushBack 7, .pushBack 8, .pushBack 9]).map (fun q => (q.contents[1]?,
        decide (∀ b ∈ q.blocks, b.addr = 0 → b.mBegin ≤ UInt64.ofNat 1))) =
      some (some (⟨0, 1⟩, 8), true) := by
    decide +kernel
  obtain ⟨q, result, facts⟩ := Option.map_eq_some_iff.mp reached
  obtain ⟨live, ahead⟩ := Prod.mk.inj facts
  have run := Run.of_exec result
  exact ⟨q, run, (erasePtr_iff run live).mpr (of_decide_eq_true ahead)⟩

/-- After one round through the inline buffer its slot 0 is behind `mBegin`. -/
theorem erasePtr_wrapped : ∃ (events : List (Event Nat)) (q : Queue Nat) (k : Nat) (p : EntryPtr)
    (x : Nat), Run Queue.step Plain Queue.empty events q ∧ q.contents[k]? = some (p, x) ∧
      q.erasePtr p = .error .iteratorInvalid := by
  let events : List (Event Nat) := [.pushBack 0, .pushBack 1, .pushBack 2, .pushBack 3,
    .pushBack 4, .pushBack 5, .pushBack 6, .pushBack 7, .popFront, .popFront, .popFront,
    .pushBack 8]
  have reached : (exec Queue.step Plain Queue.empty events).map
      (fun q => (q.contents[5]?, match q.erasePtr ⟨0, 0⟩ with
        | .ok _ => none
        | .error fault => some fault)) = some (some (⟨0, 0⟩, 8), some .iteratorInvalid) := by
    decide +kernel
  obtain ⟨q, result, facts⟩ := Option.map_eq_some_iff.mp reached
  obtain ⟨live, fails⟩ := Prod.mk.inj facts
  refine ⟨events, q, 5, ⟨0, 0⟩, 8, .of_exec result, live, ?_⟩
  cases h : q.erasePtr ⟨0, 0⟩ with
  | ok q' => simp [h] at fails
  | error fault =>
    rw [h] at fails
    rw [Option.some.inj fails]

end Coproto
