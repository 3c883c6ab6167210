import Mathlib.Data.List.Perm.Basic
import Coproto.Source.ExecutionQueue

/-!
# Where the callbacks of an execution queue are

A callback waits in a line of the handle that will run it or in a shared queue.
`Moves` lists what one event can do with the lines.
-/
namespace Coproto
namespace ExecutionQueue

namespace Handle

/-- The coroutine handle that is resumed when the next one is known. -/
def next (h : Handle) : Option Task :=
  match h.phase with
  | .loop next => next
  | .inner next => next
  | .returned next => next
  | _ => none

/-- The callbacks of a kind the handle will run, first one first. -/
def line (h : Handle) : Kind → List Task
  | .executor => h.mXCBs
  | .coroutine => h.next.toList ++ h.mCBs
  | .function => h.mFns

def held (h : Handle) : List Task := h.line .executor ++ h.line .coroutine ++ h.line .function

/-- The local queues are the runner's, and a handle goes on with empty ones. -/
structure Ok (h : Handle) : Prop where
  runner : h.mAquired = false → h.mCBs = [] ∧ h.mFns = []
  phases : match h.phase with
    | .loop _ | .inner _ => h.mXCBs = []
    | .returned _ | .done => h.mXCBs = [] ∧ h.mAquired = false
    | _ => True

theorem held_perm {h h' : Handle} {kind : Kind} {new : List Task}
    (here : (h'.line kind).Perm (new ++ h.line kind)) (same : ∀ k, k ≠ kind → h'.line k = h.line k) :
    h'.held.Perm (new ++ h.held) := by
  refine List.perm_iff_count.mpr fun x => ?_
  have counts := List.perm_iff_count.mp here x
  have others : ∀ k, k ≠ kind → (h'.line k).count x = (h.line k).count x := fun k other => by
    rw [same k other]
  simp only [held, List.count_append] at counts ⊢
  cases kind with
  | executor =>
    have coroutine := others .coroutine (by decide)
    have function := others .function (by decide)
    omega
  | coroutine =>
    have executor := others .executor (by decide)
    have function := others .function (by decide)
    omega
  | function =>
    have executor := others .executor (by decide)
    have coroutine := others .coroutine (by decide)
    omega

theorem mem_held {h : Handle} {t : Task} : t ∈ h.held ↔ ∃ k, t ∈ h.line k := by
  simp only [held, List.mem_append]
  constructor
  · rintro ((executor | coroutine) | function)
    · exact ⟨.executor, executor⟩
    · exact ⟨.coroutine, coroutine⟩
    · exact ⟨.function, function⟩
  · rintro ⟨k, there⟩
    cases k with
    | executor => exact .inl (.inl there)
    | coroutine => exact .inl (.inr there)
    | function => exact .inr there

end Handle

namespace State

/-- The shared queue of a kind; callbacks with an executor are never shared. -/
def shared (s : State) : Kind → List Task
  | .executor => []
  | .coroutine => s.mCBs
  | .function => s.mFns

/-- The line of a handle. -/
def line (s : State) (k : Kind) (i : Nat) : List Task := ((s.handles[i]?).map (·.line k)).getD []

/-- Every callback there is, executed or not. -/
def tasks (s : State) : List Task :=
  s.executed ++ (s.shared .coroutine ++ s.shared .function ++ s.handles.flatMap Handle.held)

/-- The handle has pushed the callback. -/
def Pushed (s : State) (t : Task) : Prop :=
  ∃ h, s.handles[t.handle]? = some h ∧ h.pushed[t.seq]? = some t.kind

/-- What one event can do. Handle `i` is written; `same` says which lines stay. -/
inductive Moves (s : State) : State → Prop
  | acquired : Moves s s.acquire
  /-- A locked handle pushes to its own line. -/
  | pushedLine {t : State} {i : Nat} {h h' : Handle} (kind : Kind)
      (found : s.handles[i]? = some h) (written : t.handles = s.handles.set i h')
      (locked : h.phase = .locked) (locked' : h'.phase = .locked)
      (joined : h'.line kind = h.line kind ++ [⟨i, h.pushed.length, kind⟩])
      (same : ∀ k, k ≠ kind → h'.line k = h.line k)
      (pushed : h'.pushed = h.pushed ++ [kind]) (role : h'.mAquired = h.mAquired)
      (own : kind ≠ .executor → h.mAquired = true) (fine : h.Ok → h'.Ok)
      (shared : t.shared = s.shared) (executed : t.executed = s.executed)
      (runner : t.mHasRunner = s.mHasRunner) : Moves s t
  /-- A locked handle that is not the runner pushes to the shared queue. -/
  | pushedShared {t : State} {i : Nat} {h h' : Handle} (kind : Kind)
      (found : s.handles[i]? = some h) (written : t.handles = s.handles.set i h')
      (locked : h.phase = .locked) (locked' : h'.phase = .locked)
      (joined : t.shared kind = s.shared kind ++ [⟨i, h.pushed.length, kind⟩])
      (same : ∀ k, k ≠ kind → t.shared k = s.shared k) (sharable : kind ≠ .executor)
      (lines : ∀ k, h'.line k = h.line k)
      (pushed : h'.pushed = h.pushed ++ [kind]) (idle : h.mAquired = false)
      (role : h'.mAquired = h.mAquired) (fine : h.Ok → h'.Ok)
      (executed : t.executed = s.executed) (runner : t.mHasRunner = s.mHasRunner) : Moves s t
  /-- Only the phase changes. -/
  | advanced {t : State} {i : Nat} {h h' : Handle}
      (found : s.handles[i]? = some h) (written : t.handles = s.handles.set i h')
      (lines : ∀ k, h'.line k = h.line k) (pushed : h'.pushed = h.pushed)
      (role : h'.mAquired = h.mAquired) (open_ : h'.phase ≠ .locked) (fine : h.Ok → h'.Ok)
      (shared : t.shared = s.shared) (executed : t.executed = s.executed)
      (runner : t.mHasRunner = s.mHasRunner) : Moves s t
  /-- The front of a line is executed, a coroutine handle only when no function is left. -/
  | ran {t : State} {i : Nat} {h h' : Handle} (kind : Kind) {x : Task}
      (found : s.handles[i]? = some h) (written : t.handles = s.handles.set i h')
      (front : h.line kind = x :: h'.line kind) (same : ∀ k, k ≠ kind → h'.line k = h.line k)
      (drained : h.Ok → kind = .coroutine → h.line .function = [])
      (pushed : h'.pushed = h.pushed) (role : h'.mAquired = h.mAquired)
      (open_ : h'.phase ≠ .locked) (fine : h.Ok → h'.Ok)
      (shared : t.shared = s.shared) (executed : t.executed = s.executed ++ [x])
      (runner : t.mHasRunner = s.mHasRunner) : Moves s t
  /-- The runner takes the shared queues, or goes. -/
  | took {t : State} {i : Nat} {h h' : Handle}
      (found : s.handles[i]? = some h) (written : t.handles = s.handles.set i h')
      (unlocked : s.unlocked = true)
      (lines : ∀ k, h'.line k = h.line k ++ s.shared k) (pushed : h'.pushed = h.pushed)
      (role : h.mAquired = true) (open_ : h'.phase ≠ .locked) (fine : h.Ok → h'.Ok)
      (shared : ∀ k, t.shared k = []) (executed : t.executed = s.executed)
      (runner : h'.mAquired = true ∧ t.mHasRunner = s.mHasRunner ∨
        h'.mAquired = false ∧ t.mHasRunner = false) : Moves s t

section Shared
variable (s : State) (i : Nat) (h : Handle)

@[simp] theorem handles_set : (s.set i h).handles = s.handles.set i h := rfl
@[simp] theorem shared_set : (s.set i h).shared = s.shared := by
  funext k
  cases k <;> rfl
@[simp] theorem executed_set : (s.set i h).executed = s.executed := rfl
@[simp] theorem mHasRunner_set : (s.set i h).mHasRunner = s.mHasRunner := rfl
@[simp] theorem shared_execute (ts : List Task) : (s.execute ts).shared = s.shared := by
  funext k
  cases k <;> rfl

end Shared

theorem pushBack_moves {s : State} {i : Nat} {h : Handle} (found : s.handles[i]? = some h)
    (locked : h.phase = .locked) (kind : Kind) : Moves s (s.pushBack i h kind) := by
  have fine : h.Ok → ∀ h' : Handle, h'.phase = .locked →
      (h'.mAquired = false → h'.mCBs = [] ∧ h'.mFns = []) → h'.Ok := by
    intro _ h' locked' runner
    exact ⟨runner, by rw [locked']; trivial⟩
  cases kind with
  | executor =>
    refine .pushedLine .executor found rfl locked locked rfl ?_ rfl rfl (absurd rfl)
      (fun ok => fine ok _ locked ok.runner) (shared_set ..) rfl rfl
    intro k other
    cases k with
    | executor => exact absurd rfl other
    | coroutine => rfl
    | function => rfl
  | coroutine =>
    unfold pushBack
    dsimp only
    split
    · rename_i acquired
      refine .pushedLine .coroutine found rfl locked locked ?_ ?_ rfl rfl (fun _ => acquired)
        (fun ok => fine ok _ locked fun idle => ?_) (shared_set ..) rfl rfl
      · simp [Handle.line, Handle.next, locked]
      · intro k other
        cases k with
        | coroutine => exact absurd rfl other
        | executor => rfl
        | function => rfl
      · exact absurd idle (by simp [acquired])
    · rename_i idle
      refine .pushedShared .coroutine found rfl locked locked rfl ?_ (by decide)
        (fun k => by cases k <;> rfl) rfl (by simpa using idle) rfl
        (fun ok => fine ok _ locked ok.runner) rfl rfl
      intro k other
      cases k with
      | coroutine => exact absurd rfl other
      | executor => rfl
      | function => rfl
  | function =>
    unfold pushBack
    dsimp only
    split
    · rename_i acquired
      refine .pushedLine .function found rfl locked locked rfl ?_ rfl rfl (fun _ => acquired)
        (fun ok => fine ok _ locked fun idle => ?_) (shared_set ..) rfl rfl
      · intro k other
        cases k with
        | function => exact absurd rfl other
        | executor => rfl
        | coroutine => rfl
      · exact absurd idle (by simp [acquired])
    · rename_i idle
      refine .pushedShared .function found rfl locked locked rfl ?_ (by decide)
        (fun k => by cases k <;> rfl) rfl (by simpa using idle) rfl
        (fun ok => fine ok _ locked ok.runner) rfl rfl
      intro k other
      cases k with
      | function => exact absurd rfl other
      | executor => rfl
      | coroutine => rfl

theorem swap_moves {s : State} {i : Nat} {h : Handle} {next : Option Task}
    (found : s.handles[i]? = some h) (phase : h.phase = .loop next) (acquired : h.mAquired = true)
    (coroutines : h.mCBs = []) (functions : h.mFns = []) (unlocked : s.unlocked = true) :
    Moves s (s.swap i h next) := by
  have before : h.next = next := by rw [Handle.next, phase]
  have lines : ∀ h' : Handle, h'.mXCBs = h.mXCBs → h'.next = next → h'.mCBs = s.mCBs →
      h'.mFns = s.mFns → ∀ k, h'.line k = h.line k ++ s.shared k := by
    intro h' executors next' coroutines' functions' k
    cases k with
    | executor => simpa [Handle.line, shared] using executors
    | coroutine => simp [Handle.line, shared, next', coroutines', coroutines, before]
    | function => simpa [Handle.line, shared, functions] using functions'
  unfold swap
  dsimp only
  split
  · rename_i nothing
    refine .took found rfl unlocked (lines _ rfl rfl rfl rfl) rfl acquired (by simp)
      (fun ok => ⟨fun _ => nothing, ?_⟩) (fun k => by cases k <;> rfl) rfl (.inr ⟨rfl, rfl⟩)
    have phases := ok.phases
    rw [phase] at phases
    exact phases
  · refine .took found rfl unlocked (lines _ rfl rfl rfl rfl) rfl acquired (by simp)
      (fun ok => ⟨fun idle => absurd idle (by simp [acquired]), ?_⟩) (fun k => by cases k <;> rfl) rfl
      (.inl ⟨acquired, rfl⟩)
    have phases := ok.phases
    rw [phase] at phases
    exact phases

theorem runStep_moves {s t : State} {i : Nat} {h : Handle} (found : s.handles[i]? = some h)
    (taken : s.runStep i h = some t) : Moves s t := by
  unfold runStep at taken
  split at taken
  · -- the loop over the callbacks with an executor
    rename_i phase
    split at taken
    · rename_i task rest executors
      cases taken
      refine .ran .executor found rfl (by simp [Handle.line, executors]) ?_ (by simp) rfl rfl
        (by simp [phase]) (fun ok => ⟨ok.runner, by simp [phase]⟩) (by simp) rfl rfl
      intro k other
      cases k with
      | executor => exact absurd rfl other
      | coroutine => rfl
      | function => rfl
    · rename_i executors
      cases taken
      refine .advanced found rfl (fun k => ?_) rfl rfl (by simp) (fun ok => ⟨ok.runner, executors⟩)
        (by simp) rfl rfl
      cases k with
      | executor => rfl
      | coroutine => simp [Handle.line, Handle.next, phase]
      | function => rfl
  · rename_i next phase
    have executors : h.Ok → h.mXCBs = [] := fun ok => by
      have phases := ok.phases
      rwa [phase] at phases
    have before : h.next = next := by rw [Handle.next, phase]
    have lines : ∀ p : Phase, Handle.next { h with phase := p } = next → ∀ k,
        Handle.line { h with phase := p } k = h.line k := by
      intro p same k
      cases k with
      | executor => rfl
      | coroutine => simp only [Handle.line, same, before]
      | function => rfl
    split at taken
    · rename_i acquired
      split at taken
      · rename_i empty
        split at taken
        · rename_i unlocked
          cases taken
          exact swap_moves found phase acquired empty.1 empty.2 unlocked
        · cases taken
      · cases taken
        exact .advanced found rfl (lines _ rfl) rfl rfl (by simp)
          (fun ok => ⟨ok.runner, executors ok⟩) (by simp) rfl rfl
    · rename_i idle
      cases taken
      exact .advanced found rfl (lines _ rfl) rfl rfl (by simp)
        (fun ok => ⟨ok.runner, executors ok, by simpa using idle⟩) (by simp) rfl rfl
  · rename_i next phase
    have executors : h.Ok → h.mXCBs = [] := fun ok => by
      have phases := ok.phases
      rwa [phase] at phases
    have runner : h.Ok → h.mCBs ≠ [] ∨ h.mFns ≠ [] → h.mAquired = true := by
      intro ok left
      by_contra idle
      have none := ok.runner ((Bool.not_eq_true _).mp idle)
      exact left.elim (fun some => some none.1) fun some => some none.2
    split at taken
    · rename_i task rest functions
      cases taken
      refine .ran .function found rfl (by simp [Handle.line, functions]) ?_ (by simp) rfl rfl
        (by simp [phase]) (fun ok => ⟨fun idle => ?_, by simpa [phase] using executors ok⟩) (by simp) rfl rfl
      · intro k other
        cases k with
        | function => exact absurd rfl other
        | executor => rfl
        | coroutine => rfl
      · exact absurd idle (by simp [runner ok (.inr (by simp [functions]))])
    · rename_i task rest functions coroutines
      have fine : h.Ok → Handle.Ok { h with mCBs := rest, phase := .inner (some task) } := fun ok =>
        ⟨fun idle => absurd idle (by simp [runner ok (.inl (by simp [coroutines]))]), executors ok⟩
      cases next with
      | none =>
        cases taken
        refine .advanced found rfl (fun k => ?_) rfl rfl (by simp) fine (by simp) (by simp [execute]) rfl
        cases k with
        | executor => rfl
        | coroutine => simp [Handle.line, Handle.next, phase, coroutines]
        | function => rfl
      | some before =>
        cases taken
        refine .ran .coroutine found rfl
          (by simp [Handle.line, Handle.next, phase, coroutines]) ?_ (fun _ _ => functions) rfl rfl
          (by simp) fine (by simp) rfl rfl
        intro k other
        cases k with
        | coroutine => exact absurd rfl other
        | executor => rfl
        | function => rfl
    · rename_i functions coroutines
      cases taken
      refine .advanced found rfl (fun k => ?_) rfl rfl (by simp) (fun ok => ⟨ok.runner, executors ok⟩)
        (by simp) rfl rfl
      cases k with
      | executor => rfl
      | coroutine => simp [Handle.line, Handle.next, phase]
      | function => rfl
  · cases taken

theorem moves {s t : State} {e : Event} (taken : s.step e = some t) : Moves s t := by
  have split : ∀ i, (s.handles[i]?).bind (fun h => s.handleStep i h e) = some t →
      ∃ h, s.handles[i]? = some h ∧ s.handleStep i h e = some t := fun i => Option.bind_eq_some_iff.mp
  have advanced : ∀ (i : Nat) (h : Handle) (p : Phase), s.handles[i]? = some h → p ≠ .locked →
      Handle.next { h with phase := p } = h.next → (h.Ok → Handle.Ok { h with phase := p }) →
      Moves s (s.set i { h with phase := p }) := by
    intro i h p found open_ next fine
    refine .advanced found rfl (fun k => ?_) rfl rfl open_ fine (by simp) rfl rfl
    cases k with
    | executor => rfl
    | coroutine => simp only [Handle.line, next]
    | function => rfl
  cases e with
  | acquire =>
    cases taken
    exact .acquired
  | pushBack i kind =>
    obtain ⟨h, found, taken⟩ := split i taken
    simp only [handleStep, Option.ite_none_right_eq_some, Option.some.injEq] at taken
    obtain ⟨locked, rfl⟩ := taken
    exact pushBack_moves found locked kind
  | release i =>
    obtain ⟨h, found, taken⟩ := split i taken
    simp only [handleStep, Option.ite_none_right_eq_some, Option.some.injEq] at taken
    obtain ⟨locked, rfl⟩ := taken
    exact advanced i h .released found (by simp) (by simp [Handle.next, locked])
      fun ok => ⟨ok.runner, trivial⟩
  | runReturnLast i =>
    obtain ⟨h, found, taken⟩ := split i taken
    simp only [handleStep, Option.ite_none_right_eq_some, Option.some.injEq] at taken
    obtain ⟨released, rfl⟩ := taken
    exact advanced i h .executors found (by simp) (by simp [Handle.next, released])
      fun ok => ⟨ok.runner, trivial⟩
  | runStep i =>
    obtain ⟨h, found, taken⟩ := split i taken
    exact runStep_moves found taken
  | resume i =>
    obtain ⟨h, found, taken⟩ := split i taken
    unfold handleStep at taken
    dsimp only at taken
    split at taken
    · rename_i next phase
      have ended : h.Ok → h.mXCBs = [] ∧ h.mAquired = false := fun ok => by
        have phases := ok.phases
        rwa [phase] at phases
      cases taken
      cases next with
      | none =>
        refine .advanced found rfl (fun k => ?_) rfl rfl (by simp) (fun ok => ⟨ok.runner, ended ok⟩)
          (by simp) (by simp [execute]) rfl
        cases k with
        | executor => rfl
        | coroutine => simp [Handle.line, Handle.next, phase]
        | function => rfl
      | some last =>
        refine .ran .coroutine found rfl (by simp [Handle.line, Handle.next, phase]) ?_
          (fun ok _ => (ok.runner (ended ok).2).2) rfl rfl (by simp) (fun ok => ⟨ok.runner, ended ok⟩) (by simp) rfl rfl
        intro k other
        cases k with
        | coroutine => exact absurd rfl other
        | executor => rfl
        | function => rfl
    · cases taken

/-! ## After one handle is written -/

section Access
variable {s t : State} {i j : Nat} {h h' : Handle} {k : Kind} {x : Task}

theorem line_of_get (found : s.handles[i]? = some h) : s.line k i = h.line k := by
  simp [line, found]

/-- After one handle is written. -/
theorem line_set (found : s.handles[i]? = some h) (written : t.handles = s.handles.set i h') :
    t.line k j = if j = i then h'.line k else s.line k j := by
  have inside := (List.getElem?_eq_some_iff.mp found).1
  unfold line
  rw [written, List.getElem?_set]
  by_cases same : i = j
  · subst same
    simp [inside]
  · simp [same, Ne.symm same]

theorem get_set (found : s.handles[i]? = some h) (written : t.handles = s.handles.set i h') {g : Handle}
    (there : t.handles[j]? = some g) : j = i ∧ g = h' ∨ j ≠ i ∧ s.handles[j]? = some g := by
  have inside := (List.getElem?_eq_some_iff.mp found).1
  rw [written, List.getElem?_set] at there
  split at there
  · rename_i same
    exact .inl ⟨same.symm, (Option.some.inj there).symm⟩
  · rename_i other
    exact .inr ⟨Ne.symm other, there⟩

theorem get_written (found : s.handles[i]? = some h) (written : t.handles = s.handles.set i h') :
    t.handles[i]? = some h' := by
  have inside := (List.getElem?_eq_some_iff.mp found).1
  rw [written, List.getElem?_set_self inside]

/-- A new handle holds nothing. -/
theorem line_acquire (s : State) (k : Kind) : s.acquire.line k = s.line k := by
  funext j
  simp only [line, acquire, List.getElem?_append]
  split
  · rfl
  · rename_i beyond
    rw [List.getElem?_eq_none (l := s.handles) (by omega)]
    cases there : [({ mAquired := !s.mHasRunner } : Handle)][j - s.handles.length]? with
    | none => rfl
    | some new =>
      obtain rfl := List.mem_singleton.mp (List.mem_of_getElem? there)
      cases k <;> rfl

theorem mem_tasks : x ∈ s.tasks ↔ x ∈ s.executed ∨ (∃ k, x ∈ s.shared k) ∨ ∃ k i, x ∈ s.line k i := by
  have waiting : (∃ k, x ∈ s.shared k) ↔ x ∈ s.shared .coroutine ∨ x ∈ s.shared .function := by
    constructor
    · rintro ⟨k, there⟩
      cases k with
      | executor => simp [shared] at there
      | coroutine => exact .inl there
      | function => exact .inr there
    · exact fun there => there.elim (fun here => ⟨_, here⟩) fun here => ⟨_, here⟩
  have held : (∃ k i, x ∈ s.line k i) ↔ ∃ h ∈ s.handles, x ∈ h.held := by
    constructor
    · rintro ⟨k, i, there⟩
      cases found : s.handles[i]? with
      | none => simp [line, found] at there
      | some h =>
        rw [line_of_get found] at there
        exact ⟨h, List.mem_of_getElem? found, Handle.mem_held.mpr ⟨k, there⟩⟩
    · rintro ⟨h, member, there⟩
      obtain ⟨i, found⟩ := List.mem_iff_getElem?.mp member
      obtain ⟨k, there⟩ := Handle.mem_held.mp there
      exact ⟨k, i, by rwa [line_of_get found]⟩
  rw [waiting, held]
  simp only [tasks, List.mem_append, List.mem_flatMap]

/-- One handle, the shared queues and what was executed change; the rest stays. -/
theorem tasks_perm (found : s.handles[i]? = some h) (written : t.handles = s.handles.set i h')
    (new : List Task) (moved : (t.executed ++ (t.shared .coroutine ++ t.shared .function) ++ h'.held).Perm
      (new ++ (s.executed ++ (s.shared .coroutine ++ s.shared .function) ++ h.held))) :
    t.tasks.Perm (new ++ s.tasks) := by
  have inside := (List.getElem?_eq_some_iff.mp found).1
  have here := (List.getElem?_eq_some_iff.mp found).2
  have before : s.handles = s.handles.take i ++ h :: s.handles.drop (i + 1) := by
    rw [← here, ← List.drop_eq_getElem_cons inside, List.take_append_drop]
  have after : t.handles = s.handles.take i ++ h' :: s.handles.drop (i + 1) := by
    rw [written, List.set_eq_take_append_cons_drop, if_pos inside]
  refine List.perm_iff_count.mpr fun x => ?_
  have counts := List.perm_iff_count.mp moved x
  have rest : s.handles.flatMap Handle.held = (s.handles.take i).flatMap Handle.held ++
      (h.held ++ (s.handles.drop (i + 1)).flatMap Handle.held) := by
    conv_lhs => rw [before, List.flatMap_append, List.flatMap_cons]
  simp only [tasks, after, rest, List.flatMap_append, List.flatMap_cons, List.count_append] at counts ⊢
  omega

theorem pushed_same (found : s.handles[i]? = some h) (written : t.handles = s.handles.set i h')
    (same : h'.pushed = h.pushed) : t.Pushed x ↔ s.Pushed x := by
  have inside := (List.getElem?_eq_some_iff.mp found).1
  unfold Pushed
  rw [written, List.getElem?_set]
  by_cases here : i = x.handle
  · rw [if_pos here, if_pos inside, ← here, found]
    simp [same]
  · rw [if_neg here]

theorem pushed_new {kind : Kind} (found : s.handles[i]? = some h)
    (written : t.handles = s.handles.set i h') (pushed : h'.pushed = h.pushed ++ [kind]) :
    t.Pushed x ↔ x = ⟨i, h.pushed.length, kind⟩ ∨ s.Pushed x := by
  have inside := (List.getElem?_eq_some_iff.mp found).1
  obtain ⟨j, n, k⟩ := x
  unfold Pushed
  rw [written, List.getElem?_set]
  dsimp only
  by_cases here : i = j
  · subst here
    rw [if_pos rfl, if_pos inside, found]
    simp only [Option.some.injEq, exists_eq_left', pushed, Task.mk.injEq, true_and]
    rcases Nat.lt_trichotomy n h.pushed.length with old | rfl | beyond
    · rw [List.getElem?_append_left old]
      simp [Nat.ne_of_lt old]
    · simp [eq_comm]
    · rw [List.getElem?_eq_none (by simp; omega), List.getElem?_eq_none (by omega)]
      simp [Nat.ne_of_gt beyond]
  · rw [if_neg here]
    simp [Ne.symm here]

/-- A callback that has not been pushed yet has a number of its own. -/
theorem not_pushed (found : s.handles[i]? = some h) (k : Kind) : ¬ s.Pushed ⟨i, h.pushed.length, k⟩ := by
  rintro ⟨g, there, number⟩
  dsimp only at there number
  rw [found] at there
  cases there
  simp at number

theorem seq_lt (found : s.handles[i]? = some h) (pushed : s.Pushed x) (owner : x.handle = i) :
    x.seq < h.pushed.length := by
  obtain ⟨g, there, number⟩ := pushed
  rw [owner, found] at there
  cases there
  exact (List.getElem?_eq_some_iff.mp number).1

end Access

end State
end ExecutionQueue
end Coproto
