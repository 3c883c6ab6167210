import Mathlib.Algebra.GroupWithZero.Nat
import Mathlib.Data.List.Induction
import Mathlib.Order.Basic

/-!
# Runs of an event-driven machine

A machine is a partial step function `σ → ε → Option σ`: `none` says that the
event is not enabled. A run may be asked to meet a condition `ok` at each of
its steps, on the state before the step and the event taken; conditions state
both what an environment promises and what a defect needs to show up.
-/
namespace Runs

variable {σ ε : Type*}

/-- `Run step ok s₀ es s`: from `s₀` the events `es` lead to `s`, and each of
them met `ok` in the state it was taken in. -/
inductive Run (step : σ → ε → Option σ) (ok : σ → ε → Prop) (s₀ : σ) : List ε → σ → Prop
  | nil : Run step ok s₀ [] s₀
  | snoc {es : List ε} {s t : σ} {e : ε} (before : Run step ok s₀ es s)
      (met : ok s e) (taken : step s e = some t) : Run step ok s₀ (es ++ [e]) t

/-- No condition: any enabled event may be taken. -/
def anyStep (_ : σ) (_ : ε) : Prop := True

variable {step : σ → ε → Option σ} {ok ok' : σ → ε → Prop} {s₀ s t : σ} {es fs : List ε}

/-- The invariant rule: what holds at the start and is kept by every step that
meets the condition holds in every state reached. -/
theorem Run.invariant {I : σ → Prop} (run : Run step ok s₀ es s) (start : I s₀)
    (keep : ∀ s e t, I s → ok s e → step s e = some t → I t) : I s := by
  induction run with
  | nil => exact start
  | snoc _ met taken ih => exact keep _ _ _ ih met taken

theorem Run.mono (run : Run step ok s₀ es s) (weaker : ∀ s e, ok s e → ok' s e) :
    Run step ok' s₀ es s := by
  induction run with
  | nil => exact .nil
  | snoc _ met taken ih => exact .snoc ih (weaker _ _ met) taken

theorem Run.any (run : Run step ok s₀ es s) : Run step anyStep s₀ es s :=
  run.mono fun _ _ _ => trivial

theorem Run.append (first : Run step ok s₀ es s) (second : Run step ok s fs t) :
    Run step ok s₀ (es ++ fs) t := by
  induction second with
  | nil => simpa using first
  | snoc _ met taken ih =>
    rw [← List.append_assoc]
    exact .snoc ih met taken

/-- A rank that every step lowers, but for what its event adds, bounds the
length of a run by what its events add. -/
theorem Run.length_le {rank : σ → Nat} {gain : ε → Nat} (run : Run step ok s₀ es s)
    (drops : ∀ s e t, step s e = some t → rank t + 1 ≤ rank s + gain e) :
    es.length + rank s ≤ rank s₀ + (es.map gain).sum := by
  induction run with
  | nil => simp
  | snoc _ _ taken ih =>
    have drop := drops _ _ _ taken
    simp only [List.length_append, List.map_append, List.sum_append, List.length_singleton,
      List.map_singleton, List.sum_singleton]
    omega

/-- The run of a list of events, computed. -/
def exec (step : σ → ε → Option σ) (ok : σ → ε → Prop) [∀ s e, Decidable (ok s e)] :
    σ → List ε → Option σ
  | s, [] => some s
  | s, e :: es => if ok s e then (step s e).bind fun t => exec step ok t es else none

instance (s : σ) (e : ε) : Decidable (anyStep s e) := inferInstanceAs (Decidable True)

theorem Run.of_exec [∀ s e, Decidable (ok s e)] (result : exec step ok s₀ es = some s) :
    Run step ok s₀ es s := by
  induction es generalizing s₀ with
  | nil =>
    cases result
    exact .nil
  | cons e es ih =>
    rw [exec] at result
    split at result
    · rename_i met
      obtain ⟨t, taken, rest⟩ := Option.bind_eq_some_iff.mp result
      exact (Run.snoc .nil met taken).append (ih rest)
    · cases result

/-- A machine that follows every step of another one, keeping them related,
follows its runs. -/
theorem Run.simulate {τ : Type*} {step' : τ → ε → Option τ} {R : σ → τ → Prop} {start : τ}
    (run : Run step ok s₀ es s) (related : R s₀ start)
    (follow : ∀ s e t u, R s u → ok s e → step s e = some t → ∃ v, step' u e = some v ∧ R t v) :
    ∃ u, Run step' anyStep start es u ∧ R s u := by
  induction run with
  | nil => exact ⟨start, .nil, related⟩
  | snoc _ met taken ih =>
    obtain ⟨u, run', rel⟩ := ih
    obtain ⟨v, taken', rel'⟩ := follow _ _ _ _ rel met taken
    exact ⟨v, .snoc run' trivial taken', rel'⟩

/-- What a run shows: the acts of its steps, one after the other. -/
def visible {β : Type*} (step : σ → ε → Option σ) (acts : σ → σ → List β) : σ → List ε → List β
  | _, [] => []
  | s, e :: es =>
    match step s e with
    | none => []
    | some t => acts s t ++ visible step acts t es

theorem Run.visible_append {β : Type*} {acts : σ → σ → List β} (run : Run step ok s₀ es s)
    (fs : List ε) :
    visible step acts s₀ (es ++ fs) = visible step acts s₀ es ++ visible step acts s fs := by
  induction run generalizing fs with
  | nil => rfl
  | @snoc es s t e _ met taken ih =>
    rw [List.append_assoc, ih, ih, List.append_assoc]
    congr 1
    simp [visible, taken]

/-- A machine that answers each step with a run over the acts of the step, keeping them related,
does what the whole run shows. -/
theorem Run.refine {τ β : Type*} {step' : τ → β → Option τ} {acts : σ → σ → List β}
    {R : σ → τ → Prop} {start : τ} (run : Run step ok s₀ es s) (related : R s₀ start)
    (follow : ∀ s e t u, R s u → ok s e → step s e = some t →
      ∃ v, Run step' anyStep u (acts s t) v ∧ R t v) :
    ∃ u, Run step' anyStep start (visible step acts s₀ es) u ∧ R s u := by
  induction run with
  | nil => exact ⟨start, .nil, related⟩
  | @snoc es s t e before met taken ih =>
    obtain ⟨u, run', rel⟩ := ih
    obtain ⟨v, more, rel'⟩ := follow _ _ _ _ rel met taken
    refine ⟨v, ?_, rel'⟩
    have last : visible step acts s [e] = acts s t := by simp [visible, taken]
    rw [before.visible_append, last]
    exact run'.append more

end Runs
