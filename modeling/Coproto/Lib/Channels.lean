import Coproto.Lib.Runs
import Mathlib.Logic.Function.Basic

/-!
# Channels with names

What a user of a multiplexed transport reasons with: every name has a queue of payloads that are on
their way and a queue of receivers that wait, and the first payload goes to the first receiver.
The acts of the machine are all that its users see.
-/
namespace Channels
open Runs
variable {κ ρ π α : Type*} [DecidableEq κ]

inductive Act (κ ρ π : Type*) where
  | send (k : κ) (x : π)
  | ask (k : κ) (r : ρ)
  | give (k : κ) (r : ρ) (x : π)
  deriving DecidableEq, Repr

structure Machine (κ ρ π : Type*) where
  transit : κ → List π := fun _ => []
  waiting : κ → List ρ := fun _ => []

def push (q : κ → List α) (k : κ) (x : α) : κ → List α :=
  Function.update q k (q k ++ [x])

def pop (q : κ → List α) (k : κ) : κ → List α :=
  Function.update q k (q k).tail

def step [DecidableEq ρ] [DecidableEq π] (c : Machine κ ρ π) : Act κ ρ π → Option (Machine κ ρ π)
  | .send k x => some { c with transit := push c.transit k x }
  | .ask k r => some { c with waiting := push c.waiting k r }
  | .give k r x =>
    if (c.waiting k).head? = some r ∧ (c.transit k).head? = some x then
      some ⟨pop c.transit k, pop c.waiting k⟩
    else none

/-! ## Histories -/

/-- What a history has under one name. -/
def on (k : κ) (h : List (κ × α)) : List α := (h.filter (·.1 = k)).map Prod.snd

@[simp] theorem on_nil (k : κ) : on k ([] : List (κ × α)) = [] := rfl

theorem on_append (k : κ) (h h' : List (κ × α)) : on k (h ++ h') = on k h ++ on k h' := by
  simp [on]

theorem on_cons (k : κ) (m : κ × α) (h : List (κ × α)) :
    on k (m :: h) = if m.1 = k then m.2 :: on k h else on k h := by
  unfold on
  by_cases here : m.1 = k <;> simp [here]

/-- All that has been sent, asked for and given, each in its order. -/
structure History (κ ρ π : Type*) where
  sent : List (κ × π) := []
  asked : List (κ × ρ) := []
  given : List (κ × ρ × π) := []

namespace History

/-- The k-th receiver of a name has the k-th payload of the name. -/
structure Fair (h : History κ ρ π) : Prop where
  asked : ∀ k, (on k h.given).map Prod.fst <+: on k h.asked
  sent : ∀ k, (on k h.given).map Prod.snd <+: on k h.sent

structure Grows (h h' : History κ ρ π) : Prop where
  sent : h.sent <+: h'.sent
  asked : h.asked <+: h'.asked
  given : h.given <+: h'.given

/-- The acts that lead from one history to a later one. -/
def acts (h h' : History κ ρ π) : List (Act κ ρ π) :=
  (h'.sent.drop h.sent.length).map (fun m => .send m.1 m.2) ++
  (h'.asked.drop h.asked.length).map (fun m => .ask m.1 m.2) ++
  (h'.given.drop h.given.length).map (fun m => .give m.1 m.2.1 m.2.2)

/-- The queues hold what has not been given. -/
structure Leaves (h : History κ ρ π) (c : Machine κ ρ π) : Prop where
  waiting : ∀ k, on k h.asked = (on k h.given).map Prod.fst ++ c.waiting k
  transit : ∀ k, on k h.sent = (on k h.given).map Prod.snd ++ c.transit k

theorem Leaves.init : Leaves ({} : History κ ρ π) {} := ⟨fun _ => rfl, fun _ => rfl⟩

end History

/-! ## Runs of the machine -/

theorem push_on (q : κ → List α) (m : κ × α) (ms : List (κ × α)) (k : κ) :
    push q m.1 m.2 k ++ on k ms = q k ++ on k (m :: ms) := by
  unfold push
  rw [on_cons]
  by_cases here : k = m.1
  · subst here
    rw [Function.update_self, if_pos rfl, List.append_assoc]
    rfl
  · rw [Function.update_of_ne here, if_neg fun same => here same.symm]

section
variable {β : Type*} {q q' : κ → List β} {m : κ × α} {ms : List (κ × α)} {f : α → β}

theorem head_begins (first : ∀ k, (on k (m :: ms)).map f <+: q k) :
    (q m.1).head? = some (f m.2) := by
  obtain ⟨rest, cells⟩ := first m.1
  rw [on_cons, if_pos rfl] at cells
  rw [← cells]
  rfl

theorem pop_begins (first : ∀ k, (on k (m :: ms)).map f <+: q k) (k : κ) :
    (on k ms).map f <+: pop q m.1 k := by
  have whole := first k
  rw [on_cons] at whole
  unfold pop
  by_cases here : k = m.1
  · subst here
    obtain ⟨rest, cells⟩ := whole
    rw [if_pos rfl] at cells
    rw [Function.update_self, ← cells]
    exact List.prefix_append _ _
  · rw [if_neg fun same => here same.symm] at whole
    rwa [Function.update_of_ne here]

theorem unpop (first : ∀ k, (on k (m :: ms)).map f <+: q k) (k : κ)
    (left : pop q m.1 k = (on k ms).map f ++ q' k) : q k = (on k (m :: ms)).map f ++ q' k := by
  unfold pop at left
  rw [on_cons]
  by_cases here : k = m.1
  · subst here
    obtain ⟨rest, cells⟩ := first m.1
    rw [on_cons, if_pos rfl] at cells
    rw [Function.update_self, ← cells] at left
    rw [if_pos rfl, ← cells]
    exact congrArg (f m.2 :: ·) left
  · rw [if_neg fun same => here same.symm, ← left, Function.update_of_ne here]

end

variable [DecidableEq ρ] [DecidableEq π] {c : Machine κ ρ π}

theorem run_sends (c : Machine κ ρ π) (ms : List (κ × π)) :
    Run step anyStep c (ms.map fun m => .send m.1 m.2)
      { c with transit := fun k => c.transit k ++ on k ms } := by
  induction ms generalizing c with
  | nil => simpa using Run.nil
  | cons m ms ih =>
    have first : Run step anyStep c [.send m.1 m.2]
        { c with transit := push c.transit m.1 m.2 } := .snoc .nil trivial rfl
    have rest := first.append (ih _)
    simp only [push_on] at rest
    exact rest

theorem run_asks (c : Machine κ ρ π) (ms : List (κ × ρ)) :
    Run step anyStep c (ms.map fun m => .ask m.1 m.2)
      { c with waiting := fun k => c.waiting k ++ on k ms } := by
  induction ms generalizing c with
  | nil => simpa using Run.nil
  | cons m ms ih =>
    have first : Run step anyStep c [.ask m.1 m.2]
        { c with waiting := push c.waiting m.1 m.2 } := .snoc .nil trivial rfl
    have rest := first.append (ih _)
    simp only [push_on] at rest
    exact rest

/-- What comes first in both queues can be given. -/
theorem run_gives (c : Machine κ ρ π) (gs : List (κ × ρ × π))
    (asked : ∀ k, (on k gs).map Prod.fst <+: c.waiting k)
    (sent : ∀ k, (on k gs).map Prod.snd <+: c.transit k) :
    ∃ c', Run step anyStep c (gs.map fun m => .give m.1 m.2.1 m.2.2) c' ∧
      (∀ k, c.waiting k = (on k gs).map Prod.fst ++ c'.waiting k) ∧
      ∀ k, c.transit k = (on k gs).map Prod.snd ++ c'.transit k := by
  induction gs generalizing c with
  | nil => exact ⟨c, .nil, fun _ => rfl, fun _ => rfl⟩
  | cons g gs ih =>
    have taken : step c (.give g.1 g.2.1 g.2.2) =
        some ⟨pop c.transit g.1, pop c.waiting g.1⟩ :=
      if_pos ⟨head_begins asked, head_begins sent⟩
    obtain ⟨c', run, waits, moves⟩ := ih ⟨pop c.transit g.1, pop c.waiting g.1⟩
      (pop_begins asked) (pop_begins sent)
    refine ⟨c', (Run.snoc .nil trivial taken).append run, ?_, ?_⟩
    · exact fun k => unpop asked k (waits k)
    · exact fun k => unpop sent k (moves k)

/-- A history that grows and stays fair is a run of the machine. -/
theorem History.Leaves.grow {h h' : History κ ρ π} (leaves : h.Leaves c) (grows : h.Grows h')
    (fair : h'.Fair) : ∃ c', Run step anyStep c (h.acts h') c' ∧ h'.Leaves c' := by
  obtain ⟨⟨ms, sent⟩, ⟨rs, asked⟩, ⟨gs, given⟩⟩ := grows
  have split : h.acts h' = ms.map (fun m => .send m.1 m.2) ++ rs.map (fun m => .ask m.1 m.2) ++
      gs.map (fun m => .give m.1 m.2.1 m.2.2) := by
    unfold acts
    rw [← sent, ← asked, ← given]
    simp only [List.drop_left]
  have waiting : ∀ k, (on k gs).map Prod.fst <+: c.waiting k ++ on k rs := by
    intro k
    have whole := fair.asked k
    rw [← given, ← asked, on_append, on_append, leaves.waiting k, List.map_append,
      List.append_assoc] at whole
    exact (List.prefix_append_right_inj _).mp whole
  have transit : ∀ k, (on k gs).map Prod.snd <+: c.transit k ++ on k ms := by
    intro k
    have whole := fair.sent k
    rw [← given, ← sent, on_append, on_append, leaves.transit k, List.map_append,
      List.append_assoc] at whole
    exact (List.prefix_append_right_inj _).mp whole
  have posted := (run_sends c ms).append (run_asks _ rs)
  obtain ⟨c', gives, waits, moves⟩ := run_gives
    ⟨fun k => c.transit k ++ on k ms, fun k => c.waiting k ++ on k rs⟩ gs waiting transit
  refine ⟨c', split ▸ posted.append gives, ?_, ?_⟩
  · intro k
    rw [← given, ← asked, on_append, on_append, leaves.waiting k, List.map_append,
      List.append_assoc, List.append_assoc, ← waits k]
  · intro k
    rw [← given, ← sent, on_append, on_append, leaves.transit k, List.map_append,
      List.append_assoc, List.append_assoc, ← moves k]

end Channels
