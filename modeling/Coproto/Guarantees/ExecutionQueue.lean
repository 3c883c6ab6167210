import Coproto.Invariants.ExecutionQueue
import Coproto.Lib.Relay
import Coproto.Lib.Runs

/-!
# An ExecutionQueue runs every callback once

Executor.h:194-381. Any number of handles, each in any phase: acquiring, pushing,
running and resuming interleave freely. What was pushed is executed, or waits in
exactly one queue; the runner goes only when nothing is shared.
-/
namespace Coproto
namespace ExecutionQueue
open Runs

namespace State

/-- A handle in its critical section: there is a runner, nothing the handle pushed
has been executed or is with another handle, and the shared queues hold it only if
it is not the runner itself. -/
structure Locked (s : State) (i : Nat) (h : Handle) : Prop where
  busy : s.mHasRunner = true
  executed : ∀ t ∈ s.executed, t.handle ≠ i
  others : ∀ j k, j ≠ i → ∀ t ∈ s.line k j, t.handle ≠ i
  shared : h.mAquired = true → ∀ k, ∀ t ∈ s.shared k, t.handle ≠ i

structure Inv (s : State) : Prop where
  handles : ∀ (i : Nat) (h : Handle), s.handles[i]? = some h → h.Ok
  single : ∀ (i j : Nat) (h k : Handle), s.handles[i]? = some h → s.handles[j]? = some k → h.mAquired = true →
    k.mAquired = true → i = j
  runner : s.mHasRunner = true ↔ ∃ (i : Nat) (h : Handle), s.handles[i]? = some h ∧ h.mAquired = true
  idle : s.mHasRunner = false → ∀ k, s.shared k = []
  nodup : s.tasks.Nodup
  pushed : ∀ t, t ∈ s.tasks ↔ s.Pushed t
  kinds : ∀ k, (∀ t ∈ s.shared k, t.kind = k) ∧ ∀ i, ∀ t ∈ s.line k i, t.kind = k
  locked : ∀ (i : Nat) (h : Handle), s.handles[i]? = some h → h.phase = .locked → s.Locked i h
  order : ∀ k, Relay.Ok Task.handle Task.seq (s.executed.filter (·.kind = k)) (s.line k) (s.shared k)

namespace Inv
variable {s t : State} {i : Nat} {h h' : Handle} {x : Task}

theorem tasks_same (inv : Inv s) (perm : t.tasks.Perm s.tasks) (same : ∀ x, t.Pushed x ↔ s.Pushed x) :
    t.tasks.Nodup ∧ ∀ x, x ∈ t.tasks ↔ t.Pushed x :=
  ⟨perm.nodup_iff.mpr inv.nodup, fun x => by rw [perm.mem_iff, inv.pushed, same]⟩

theorem tasks_new (inv : Inv s) (perm : t.tasks.Perm (x :: s.tasks)) (fresh : ¬ s.Pushed x)
    (new : ∀ y, t.Pushed y ↔ y = x ∨ s.Pushed y) : t.tasks.Nodup ∧ ∀ y, y ∈ t.tasks ↔ t.Pushed y := by
  refine ⟨perm.nodup_iff.mpr (List.nodup_cons.mpr ⟨fun old => fresh ((inv.pushed x).mp old), inv.nodup⟩),
    fun y => ?_⟩
  rw [perm.mem_iff, List.mem_cons, inv.pushed, new]

/-- The handle that is written keeps its role. -/
theorem roles (inv : Inv s) (found : s.handles[i]? = some h) (written : t.handles = s.handles.set i h')
    (role : h'.mAquired = h.mAquired) (runner : t.mHasRunner = s.mHasRunner) :
    (∀ (i j : Nat) (h k : Handle), t.handles[i]? = some h → t.handles[j]? = some k →
      h.mAquired = true → k.mAquired = true → i = j) ∧
    (t.mHasRunner = true ↔ ∃ (i : Nat) (h : Handle), t.handles[i]? = some h ∧ h.mAquired = true) := by
  have before : ∀ (j : Nat) (g : Handle), t.handles[j]? = some g → g.mAquired = true →
      ∃ g', s.handles[j]? = some g' ∧ g'.mAquired = true := by
    intro j g there acquired
    rcases get_set found written there with ⟨rfl, rfl⟩ | ⟨_, old⟩
    · exact ⟨h, found, role ▸ acquired⟩
    · exact ⟨g, old, acquired⟩
  refine ⟨fun j k g g' there there' acquired acquired' => ?_, ?_⟩
  · obtain ⟨f, old, runs⟩ := before j g there acquired
    obtain ⟨f', old', runs'⟩ := before k g' there' acquired'
    exact inv.single j k f f' old old' runs runs'
  · rw [runner, inv.runner]
    constructor
    · rintro ⟨j, g, there, acquired⟩
      by_cases here : j = i
      · subst here
        rw [found] at there
        cases there
        exact ⟨j, h', get_written found written, role.trans acquired⟩
      · refine ⟨j, g, ?_, acquired⟩
        rw [written, List.getElem?_set_ne (Ne.symm here), there]
    · rintro ⟨j, g, there, acquired⟩
      exact ⟨j, before j g there acquired⟩

theorem handles_set (inv : Inv s) (found : s.handles[i]? = some h)
    (written : t.handles = s.handles.set i h') (fine : h.Ok → h'.Ok) (j : Nat) (g : Handle)
    (there : t.handles[j]? = some g) : g.Ok := by
  rcases get_set found written there with ⟨rfl, rfl⟩ | ⟨_, old⟩
  · exact fine (inv.handles _ h found)
  · exact inv.handles j g old

/-- A handle that is locked after a step that opened no critical section. -/
theorem locked_set (inv : Inv s) (found : s.handles[i]? = some h)
    (written : t.handles = s.handles.set i h') (open_ : h'.phase ≠ .locked) (j : Nat) (g : Handle)
    (there : t.handles[j]? = some g) (locked : g.phase = .locked) :
    j ≠ i ∧ s.handles[j]? = some g ∧ s.Locked j g := by
  rcases get_set found written there with ⟨_, rfl⟩ | ⟨other, old⟩
  · exact absurd locked open_
  · exact ⟨other, old, inv.locked j g old locked⟩

theorem pushed_of_line (inv : Inv s) {k : Kind} {j : Nat} (there : x ∈ s.line k j) : s.Pushed x :=
  (inv.pushed x).mp (mem_tasks.mpr (.inr (.inr ⟨k, j, there⟩)))

theorem pushed_of_shared (inv : Inv s) {k : Kind} (there : x ∈ s.shared k) : s.Pushed x :=
  (inv.pushed x).mp (mem_tasks.mpr (.inr (.inl ⟨k, there⟩)))

theorem pushed_of_executed (inv : Inv s) (there : x ∈ s.executed) : s.Pushed x :=
  (inv.pushed x).mp (mem_tasks.mpr (.inl there))

/-- The callbacks of a handle in its critical section are in its own line, or in
the shared queue. -/
theorem pushedLine (inv : Inv s) {kind : Kind} (found : s.handles[i]? = some h)
    (written : t.handles = s.handles.set i h') (locked : h.phase = .locked)
    (joined : h'.line kind = h.line kind ++ [⟨i, h.pushed.length, kind⟩])
    (same : ∀ k, k ≠ kind → h'.line k = h.line k) (pushed : h'.pushed = h.pushed ++ [kind])
    (role : h'.mAquired = h.mAquired) (own : kind ≠ .executor → h.mAquired = true)
    (fine : h.Ok → h'.Ok) (shared : t.shared = s.shared) (executed : t.executed = s.executed)
    (runner : t.mHasRunner = s.mHasRunner) : Inv t := by
  have here := inv.locked i h found locked
  have lines : ∀ k j, t.line k j = if j = i then h'.line k else s.line k j := fun k j =>
    line_set found written
  have perm : t.tasks.Perm (⟨i, h.pushed.length, kind⟩ :: s.tasks) := by
    have held : h'.held.Perm ([⟨i, h.pushed.length, kind⟩] ++ h.held) :=
      Handle.held_perm (by rw [joined]; exact List.perm_append_comm) same
    refine tasks_perm found written [⟨i, h.pushed.length, kind⟩] ?_
    rw [shared, executed]
    exact (held.append_left _).trans (List.perm_append_comm_assoc _ _ _)
  obtain ⟨nodup, conserved⟩ := inv.tasks_new perm (not_pushed found kind) fun y =>
    pushed_new found written pushed
  obtain ⟨single, runs⟩ := inv.roles found written role runner
  refine ⟨inv.handles_set found written fine, single, runs, ?_, nodup, conserved, ?_, ?_, ?_⟩
  · rw [runner, shared]
    exact inv.idle
  · refine fun k => ⟨shared ▸ (inv.kinds k).1, fun j x there => ?_⟩
    rw [lines] at there
    split at there
    · by_cases this : k = kind
      · subst this
        rw [joined] at there
        rcases List.mem_append.mp there with old | new
        · exact (inv.kinds k).2 i x (line_of_get found ▸ old)
        · rw [List.mem_singleton.mp new]
      · rw [same k this] at there
        exact (inv.kinds k).2 i x (line_of_get found ▸ there)
    · exact (inv.kinds k).2 j x there
  · intro j g there closed
    rcases get_set found written there with ⟨rfl, rfl⟩ | ⟨other, old⟩
    · refine ⟨runner ▸ here.busy, executed ▸ here.executed, fun j' k apart => ?_, fun acquired => ?_⟩
      · rw [lines, if_neg apart]
        exact here.others j' k apart
      · rw [shared]
        exact here.shared (role ▸ acquired)
    · have there' := inv.locked j g old closed
      refine ⟨runner ▸ there'.busy, executed ▸ there'.executed, fun j' k apart x member => ?_, fun acquired => ?_⟩
      · rw [lines] at member
        split at member
        · rename_i same'
          subst same'
          by_cases this : k = kind
          · subst this
            rw [joined] at member
            rcases List.mem_append.mp member with before | new
            · exact there'.others j' k apart x (line_of_get found ▸ before)
            · rw [List.mem_singleton.mp new]
              exact apart
          · rw [same k this] at member
            exact there'.others j' k apart x (line_of_get found ▸ member)
        · exact there'.others j' k apart x member
      · rw [shared]
        exact there'.shared acquired
  · intro k
    rw [executed, shared]
    by_cases this : k = kind
    · subst this
      refine (inv.order k).pushLine (i := i) (x := ⟨i, h.pushed.length, k⟩) ?_ ?_ ?_ ?_ ?_ ?_
      · rw [lines, if_pos rfl, joined, line_of_get found]
      · intro j apart
        rw [lines, if_neg apart]
      · intro y done owner
        exact seq_lt found (inv.pushed_of_executed (List.mem_filter.mp done).1) owner
      · intro y waits owner
        exact seq_lt found (inv.pushed_of_line waits) owner
      · exact fun j apart y waits => here.others j k apart y waits
      · intro y waits
        cases k with
        | executor => cases waits
        | coroutine => exact here.shared (own (by decide)) _ y waits
        | function => exact here.shared (own (by decide)) _ y waits
    · refine (inv.order k).congr fun j => ?_
      rw [lines]
      split
      · rename_i same'
        rw [same k this, same', line_of_get found]
      · rfl

theorem pushedShared (inv : Inv s) {kind : Kind} (found : s.handles[i]? = some h)
    (written : t.handles = s.handles.set i h') (locked : h.phase = .locked)
    (joined : t.shared kind = s.shared kind ++ [⟨i, h.pushed.length, kind⟩])
    (same : ∀ k, k ≠ kind → t.shared k = s.shared k) (sharable : kind ≠ .executor)
    (lines : ∀ k, h'.line k = h.line k) (pushed : h'.pushed = h.pushed ++ [kind])
    (idle : h.mAquired = false) (role : h'.mAquired = h.mAquired) (fine : h.Ok → h'.Ok)
    (executed : t.executed = s.executed) (runner : t.mHasRunner = s.mHasRunner) : Inv t := by
  have here := inv.locked i h found locked
  have lines' : ∀ k, t.line k = s.line k := by
    intro k
    funext j
    rw [line_set found written]
    split
    · rename_i same'
      rw [lines, same', line_of_get found]
    · rfl
  have held : h'.held = h.held := by simp [Handle.held, lines]
  have perm : t.tasks.Perm (⟨i, h.pushed.length, kind⟩ :: s.tasks) := by
    refine tasks_perm found written [⟨i, h.pushed.length, kind⟩] ?_
    rw [executed, held]
    refine List.perm_iff_count.mpr fun x => ?_
    cases kind with
    | executor => exact absurd rfl sharable
    | coroutine =>
      rw [joined, same .function (by decide)]
      simp only [List.count_append]
      omega
    | function =>
      rw [joined, same .coroutine (by decide)]
      simp only [List.count_append]
      omega
  have members : ∀ k x, x ∈ t.shared k → x ∈ s.shared k ∨ k = kind ∧ x = ⟨i, h.pushed.length, kind⟩ := by
    intro k x member
    by_cases this : k = kind
    · subst this
      rw [joined] at member
      exact (List.mem_append.mp member).imp_right fun new => ⟨rfl, List.mem_singleton.mp new⟩
    · rw [same k this] at member
      exact .inl member
  obtain ⟨nodup, conserved⟩ := inv.tasks_new perm (not_pushed found kind) fun y =>
    pushed_new found written pushed
  obtain ⟨single, runs⟩ := inv.roles found written role runner
  refine ⟨inv.handles_set found written fine, single, runs, ?_, nodup, conserved, ?_, ?_, ?_⟩
  · intro none
    rw [runner, here.busy] at none
    cases none
  · refine fun k => ⟨fun x member => ?_, fun j => lines' k ▸ (inv.kinds k).2 j⟩
    rcases members k x member with old | ⟨rfl, rfl⟩
    · exact (inv.kinds k).1 x old
    · rfl
  · intro j g there closed
    rcases get_set found written there with ⟨rfl, rfl⟩ | ⟨other, old⟩
    · refine ⟨runner ▸ here.busy, executed ▸ here.executed, fun j' k apart => lines' k ▸ here.others j' k apart,
        fun acquired => ?_⟩
      rw [role, idle] at acquired
      cases acquired
    · have there' := inv.locked j g old closed
      refine ⟨runner ▸ there'.busy, executed ▸ there'.executed, fun j' k apart => lines' k ▸ there'.others j' k apart,
        fun acquired k x member => ?_⟩
      rcases members k x member with before | ⟨_, rfl⟩
      · exact there'.shared acquired k x before
      · exact Ne.symm other
  · intro k
    rw [executed, lines']
    by_cases this : k = kind
    · subst this
      rw [joined]
      have ok := inv.handles i h found
      refine (inv.order k).pushShared ?_ ?_ ?_
      · exact fun y done => here.executed y (List.mem_filter.mp done).1
      · intro j y waits
        by_cases own : j = i
        · subst own
          rw [line_of_get found] at waits
          obtain ⟨coroutines, functions⟩ := ok.runner idle
          cases k with
          | executor => exact absurd rfl sharable
          | coroutine => simp [Handle.line, Handle.next, locked, coroutines] at waits
          | function => simp [Handle.line, functions] at waits
        · exact here.others j k own y waits
      · exact fun y waits owner => seq_lt found (inv.pushed_of_shared waits) owner
    · rw [same k this]
      exact inv.order k

theorem advanced (inv : Inv s) (found : s.handles[i]? = some h)
    (written : t.handles = s.handles.set i h') (lines : ∀ k, h'.line k = h.line k)
    (pushed : h'.pushed = h.pushed) (role : h'.mAquired = h.mAquired) (open_ : h'.phase ≠ .locked)
    (fine : h.Ok → h'.Ok) (shared : t.shared = s.shared) (executed : t.executed = s.executed)
    (runner : t.mHasRunner = s.mHasRunner) : Inv t := by
  have lines' : ∀ k, t.line k = s.line k := by
    intro k
    funext j
    rw [line_set found written]
    split
    · rename_i same
      rw [lines, same, line_of_get found]
    · rfl
  have held : h'.held = h.held := by simp [Handle.held, lines]
  have perm : t.tasks.Perm s.tasks := by
    refine tasks_perm found written [] ?_
    rw [executed, held, shared]
    exact .refl _
  obtain ⟨nodup, conserved⟩ := inv.tasks_same perm fun y => pushed_same found written pushed
  obtain ⟨single, runs⟩ := inv.roles found written role runner
  refine ⟨inv.handles_set found written fine, single, runs, ?_, nodup, conserved, ?_, ?_, ?_⟩
  · rw [runner, shared]
    exact inv.idle
  · exact fun k => ⟨shared ▸ (inv.kinds k).1, fun j => lines' k ▸ (inv.kinds k).2 j⟩
  · intro j g there closed
    obtain ⟨_, _, old⟩ := inv.locked_set found written open_ j g there closed
    exact ⟨runner ▸ old.busy, executed ▸ old.executed, fun j' k apart => lines' k ▸ old.others j' k apart,
      fun acquired => shared ▸ old.shared acquired⟩
  · intro k
    rw [executed, lines', shared]
    exact inv.order k

theorem ran (inv : Inv s) {kind : Kind} (found : s.handles[i]? = some h)
    (written : t.handles = s.handles.set i h') (front : h.line kind = x :: h'.line kind)
    (same : ∀ k, k ≠ kind → h'.line k = h.line k) (pushed : h'.pushed = h.pushed)
    (role : h'.mAquired = h.mAquired) (open_ : h'.phase ≠ .locked) (fine : h.Ok → h'.Ok)
    (shared : t.shared = s.shared) (executed : t.executed = s.executed ++ [x])
    (runner : t.mHasRunner = s.mHasRunner) : Inv t := by
  have lines : ∀ k j, t.line k j = if j = i then h'.line k else s.line k j := fun k j =>
    line_set found written
  have first : x ∈ s.line kind i := by
    rw [line_of_get found, front]
    exact List.mem_cons_self
  have fewer : ∀ k j y, y ∈ t.line k j → y ∈ s.line k j := by
    intro k j y member
    rw [lines] at member
    split at member
    · rename_i here
      rw [here, line_of_get found]
      by_cases this : k = kind
      · subst this
        rw [front]
        exact List.mem_cons_of_mem _ member
      · rwa [same k this] at member
    · exact member
  have held : h.held.Perm ([x] ++ h'.held) :=
    Handle.held_perm (by rw [front]; rfl) fun k this => (same k this).symm
  have perm : t.tasks.Perm s.tasks := by
    refine tasks_perm found written [] ?_
    rw [executed, shared]
    refine List.perm_iff_count.mpr fun y => ?_
    have counts := List.perm_iff_count.mp held y
    simp only [List.count_append, List.nil_append] at counts ⊢
    omega
  obtain ⟨nodup, conserved⟩ := inv.tasks_same perm fun y => pushed_same found written pushed
  obtain ⟨single, runs⟩ := inv.roles found written role runner
  refine ⟨inv.handles_set found written fine, single, runs, ?_, nodup, conserved, ?_, ?_, ?_⟩
  · rw [runner, shared]
    exact inv.idle
  · exact fun k => ⟨shared ▸ (inv.kinds k).1, fun j y member => (inv.kinds k).2 j y (fewer k j y member)⟩
  · intro j g there closed
    obtain ⟨other, _, old⟩ := inv.locked_set found written open_ j g there closed
    refine ⟨runner ▸ old.busy, fun y done => ?_, fun j' k apart y member =>
      old.others j' k apart y (fewer k j' y member), fun acquired => shared ▸ old.shared acquired⟩
    rw [executed] at done
    rcases List.mem_append.mp done with before | last
    · exact old.executed y before
    · rw [List.mem_singleton.mp last]
      exact old.others i kind (Ne.symm other) x first
  · intro k
    have xKind : x.kind = kind := (inv.kinds kind).2 i x first
    rw [executed, shared, List.filter_append]
    by_cases this : k = kind
    · subst this
      have shown : [x].filter (·.kind = k) = [x] := by simp [xKind]
      rw [shown]
      refine (inv.order k).run (i := i) (by rw [line_of_get found, front]) ?_ ?_
      · rw [lines, if_pos rfl]
      · intro j apart
        rw [lines, if_neg apart]
    · have hidden : [x].filter (·.kind = k) = [] := by simp [xKind, Ne.symm this]
      rw [hidden, List.append_nil]
      refine (inv.order k).congr fun j => ?_
      rw [lines]
      split
      · rename_i here
        rw [same k this, here, line_of_get found]
      · rfl

theorem took (inv : Inv s) (found : s.handles[i]? = some h) (written : t.handles = s.handles.set i h')
    (unlocked : s.unlocked = true) (lines : ∀ k, h'.line k = h.line k ++ s.shared k)
    (pushed : h'.pushed = h.pushed) (role : h.mAquired = true) (open_ : h'.phase ≠ .locked)
    (fine : h.Ok → h'.Ok) (shared : ∀ k, t.shared k = []) (executed : t.executed = s.executed)
    (runner : h'.mAquired = true ∧ t.mHasRunner = s.mHasRunner ∨
      h'.mAquired = false ∧ t.mHasRunner = false) : Inv t := by
  have lines' : ∀ k j, t.line k j = if j = i then h'.line k else s.line k j := fun k j =>
    line_set found written
  have perm : t.tasks.Perm s.tasks := by
    refine tasks_perm found written [] ?_
    rw [executed, shared, shared]
    refine List.perm_iff_count.mpr fun y => ?_
    have none : s.shared .executor = [] := rfl
    simp only [Handle.held, lines, none, List.count_append, List.nil_append, List.append_nil]
    omega
  obtain ⟨nodup, conserved⟩ := inv.tasks_same perm fun y => pushed_same found written pushed
  obtain ⟨single, runs⟩ : (∀ (i j : Nat) (h k : Handle), t.handles[i]? = some h →
      t.handles[j]? = some k → h.mAquired = true → k.mAquired = true → i = j) ∧
      (t.mHasRunner = true ↔ ∃ (i : Nat) (h : Handle), t.handles[i]? = some h ∧ h.mAquired = true) := by
    rcases runner with ⟨stays, runner⟩ | ⟨goes, runner⟩
    · exact inv.roles found written (stays.trans role.symm) runner
    · have none : ∀ (j : Nat) (g : Handle), t.handles[j]? = some g → g.mAquired = false := by
        intro j g there
        rcases get_set found written there with ⟨_, rfl⟩ | ⟨other, old⟩
        · exact goes
        · by_contra acquired
          exact other (inv.single j i g h old found ((Bool.not_eq_false _).mp acquired) role)
      refine ⟨fun j k g g' there _ acquired _ => ?_, ?_⟩
      · simp [none j g there] at acquired
      · refine iff_of_false (by simp [runner]) ?_
        rintro ⟨j, g, there, acquired⟩
        simp [none j g there] at acquired
  refine ⟨inv.handles_set found written fine, single, runs, fun _ => shared, nodup, conserved, ?_, ?_, ?_⟩
  · refine fun k => ⟨by simp [shared], fun j y member => ?_⟩
    rw [lines'] at member
    split at member
    · rw [lines] at member
      rcases List.mem_append.mp member with old | new
      · exact (inv.kinds k).2 i y (line_of_get found ▸ old)
      · exact (inv.kinds k).1 y new
    · exact (inv.kinds k).2 j y member
  · intro j g there closed
    obtain ⟨_, old, _⟩ := inv.locked_set found written open_ j g there closed
    have none := List.all_eq_true.mp unlocked g (List.mem_of_getElem? old)
    simp [closed] at none
  · intro k
    rw [executed, shared]
    refine (inv.order k).take (i := i) ?_ ?_
    · rw [lines', if_pos rfl, lines, line_of_get found]
    · intro j apart
      rw [lines', if_neg apart]

theorem handle_lt (pushed : s.Pushed x) : x.handle < s.handles.length := by
  obtain ⟨g, there, _⟩ := pushed
  exact (List.getElem?_eq_some_iff.mp there).1

theorem acquired (inv : Inv s) : Inv s.acquire := by
  obtain ⟨new, made⟩ : ∃ new : Handle, ({ mAquired := !s.mHasRunner } : Handle) = new := ⟨_, rfl⟩
  have empty : ∀ k, new.line k = [] := by
    intro k
    rw [← made]
    cases k <;> rfl
  have get : ∀ (j : Nat) (g : Handle), s.acquire.handles[j]? = some g →
      s.handles[j]? = some g ∨ j = s.handles.length ∧ g = new := by
    intro j g there
    simp only [acquire, made] at there
    rcases Nat.lt_trichotomy j s.handles.length with before | rfl | after
    · rw [List.getElem?_append_left before] at there
      exact .inl there
    · rw [List.getElem?_concat_length] at there
      exact .inr ⟨rfl, (Option.some.inj there).symm⟩
    · rw [List.getElem?_eq_none (by simp; omega)] at there
      cases there
  have old : ∀ (j : Nat) (g : Handle), s.handles[j]? = some g → s.acquire.handles[j]? = some g := by
    intro j g there
    simp only [acquire]
    rw [List.getElem?_append_left (List.getElem?_eq_some_iff.mp there).1, there]
  have lines := s.line_acquire
  have tasks : s.acquire.tasks = s.tasks := by
    have held : new.held = [] := by simp [Handle.held, empty]
    simp only [State.tasks, acquire, made, List.flatMap_append, List.flatMap_cons, held,
      List.flatMap_nil, List.append_nil]
    rfl
  have pushed : ∀ y, s.acquire.Pushed y ↔ s.Pushed y := by
    intro y
    constructor
    · rintro ⟨g, there, number⟩
      rcases get _ g there with before | ⟨_, rfl⟩
      · exact ⟨g, before, number⟩
      · rw [← made] at number
        simp at number
    · rintro ⟨g, there, number⟩
      exact ⟨g, old _ g there, number⟩
  have shared : s.acquire.shared = s.shared := by
    funext k
    cases k <;> rfl
  have role : new.mAquired = !s.mHasRunner := by rw [← made]
  obtain ⟨nodup, conserved⟩ := inv.tasks_same (by rw [tasks]) pushed
  have none : s.mHasRunner = false → ∀ (j : Nat) (g : Handle), s.handles[j]? = some g →
      g.mAquired = false := by
    intro idle j g there
    by_contra runs
    rw [inv.runner.mpr ⟨j, g, there, (Bool.not_eq_false _).mp runs⟩] at idle
    cases idle
  refine ⟨fun j g there => ?_, fun i j g g' there there' runs runs' => ?_, ?_, ?_, nodup, conserved, ?_,
    fun j g there closed => ?_, fun k => ?_⟩
  · rcases get j g there with before | ⟨_, rfl⟩
    · exact inv.handles j g before
    · rw [← made]
      exact ⟨fun _ => ⟨rfl, rfl⟩, trivial⟩
  · rcases get i g there with before | ⟨rfl, rfl⟩ <;> rcases get j g' there' with before' | ⟨rfl, rfl⟩
    · exact inv.single i j g g' before before' runs runs'
    · have idle : s.mHasRunner = false := by simpa [role] using runs'
      simp [none idle i g before] at runs
    · have idle : s.mHasRunner = false := by simpa [role] using runs
      simp [none idle j g' before'] at runs'
    · rfl
  · refine iff_of_true rfl ?_
    cases runner : s.mHasRunner with
    | true =>
      obtain ⟨j, g, there, runs⟩ := inv.runner.mp runner
      exact ⟨j, g, old j g there, runs⟩
    | false =>
      refine ⟨s.handles.length, new, ?_, by rw [role, runner]; rfl⟩
      simp only [acquire, made]
      exact List.getElem?_concat_length
  · exact fun idle => absurd idle (by simp [acquire])
  · exact fun k => ⟨shared ▸ (inv.kinds k).1, lines k ▸ (inv.kinds k).2⟩
  · rcases get j g there with before | ⟨rfl, _⟩
    · have old := inv.locked j g before closed
      exact ⟨rfl, old.executed, fun j' k apart => lines k ▸ old.others j' k apart,
        fun runs => shared ▸ old.shared runs⟩
    · refine ⟨rfl, fun y done => ?_, fun j' k apart y member => ?_, fun runs k y member => ?_⟩
      · exact Nat.ne_of_lt (handle_lt (inv.pushed_of_executed done))
      · rw [lines] at member
        exact Nat.ne_of_lt (handle_lt (inv.pushed_of_line member))
      · rw [shared] at member
        exact Nat.ne_of_lt (handle_lt (inv.pushed_of_shared member))
  · rw [lines, shared]
    exact inv.order k

theorem step {e : Event} (inv : Inv s) (taken : s.step e = some t) : Inv t := by
  cases moves taken with
  | acquired => exact inv.acquired
  | pushedLine kind found written locked locked' joined same pushed role own fine shared executed
      runner =>
    exact inv.pushedLine found written locked joined same pushed role own fine shared executed runner
  | pushedShared kind found written locked locked' joined same sharable lines pushed idle role fine
      executed runner =>
    exact inv.pushedShared found written locked joined same sharable lines pushed idle role fine
      executed runner
  | advanced found written lines pushed role open_ fine shared executed runner =>
    exact inv.advanced found written lines pushed role open_ fine shared executed runner
  | ran kind found written front same _ pushed role open_ fine shared executed runner =>
    exact inv.ran found written front same pushed role open_ fine shared executed runner
  | took found written unlocked lines pushed role open_ fine shared executed runner =>
    exact inv.took found written unlocked lines pushed role open_ fine shared executed runner

theorem init : Inv {} := by
  refine ⟨by simp, by simp, by simp, fun _ k => by cases k <;> rfl, by simp [tasks, shared],
    fun x => by simp [tasks, shared, Pushed], fun k => ⟨?_, ?_⟩, by simp, fun k => ?_⟩
  · cases k <;> simp [shared]
  · simp [line]
  · have none : ({} : State).shared k = [] := by cases k <;> rfl
    rw [none]
    exact Relay.Ok.empty.congr fun j => by simp [line]

end Inv

/-! ## Functions before coroutine handles -/

/-- What waits in a place, a line or the shared queue. -/
def waiting (s : State) (k : Kind) : Option Nat → List Task
  | none => s.shared k
  | some i => s.line k i

/-- The callbacks a handle pushed without an executor wait in one place, and none of
its functions is left once one of its coroutine handles is resumed. -/
structure FunctionsFirst (s : State) : Prop where
  batch : ∀ p q, ∀ t ∈ s.waiting .coroutine p, ∀ u ∈ s.waiting .function q, t.handle = u.handle → p = q
  resumed : ∀ t ∈ s.executed, t.kind = .coroutine → ∀ q, ∀ u ∈ s.waiting .function q,
    u.handle ≠ t.handle
  order : s.executed.Pairwise fun t u => t.handle = u.handle → t.kind = .coroutine →
    u.kind ≠ .function

namespace FunctionsFirst
variable {s t : State} {i : Nat} {h h' : Handle} {x : Task}

theorem waiting_of_get {k : Kind} (found : s.handles[i]? = some h) :
    x ∈ s.waiting k (some i) ↔ x ∈ h.line k := by
  rw [waiting, line_of_get found]

/-- What waits in a line after one handle was written. -/
theorem waiting_written {k : Kind} {j : Nat} (found : s.handles[i]? = some h)
    (written : t.handles = s.handles.set i h') (waits : x ∈ t.waiting k (some j)) :
    j = i ∧ x ∈ h'.line k ∨ x ∈ s.waiting k (some j) := by
  rw [waiting, line_set found written] at waits
  split at waits
  · exact .inl ⟨‹_›, waits⟩
  · exact .inr waits

/-- Nothing new waits, and what waits stays where it is. -/
theorem fewer (ahead : FunctionsFirst s) (executed : t.executed = s.executed)
    (fewer : ∀ k p, ∀ y ∈ t.waiting k p, y ∈ s.waiting k p) : FunctionsFirst t := by
  refine ⟨fun p q x here y there => ahead.batch p q x (fewer _ p x here) y (fewer _ q y there), ?_,
    executed ▸ ahead.order⟩
  rw [executed]
  exact fun x done kind q y there => ahead.resumed x done kind q y (fewer _ q y there)

/-- A callback joins a place that has everything its handle pushed. -/
theorem pushed (ahead : FunctionsFirst s) (x : Task) (p : Option Nat) (kind : Kind)
    (owner : x.handle = i) (executed : t.executed = s.executed)
    (joined : ∀ k q, ∀ y ∈ t.waiting k q, y ∈ s.waiting k q ∨ y = x ∧ k = kind ∧ q = p)
    (fresh : ∀ y ∈ s.executed, y.handle ≠ i)
    (here : kind ≠ .executor → ∀ k q, k ≠ .executor → ∀ y ∈ s.waiting k q, y.handle = i → q = p) :
    FunctionsFirst t := by
  refine ⟨fun q r y waits z waits' same => ?_, fun y done coroutine q z waits => ?_, executed ▸ ahead.order⟩
  · rcases joined _ q y waits with old | ⟨rfl, new, rfl⟩ <;>
      rcases joined _ r z waits' with old' | ⟨rfl, new', rfl⟩
    · exact ahead.batch q r y old z old' same
    · exact here (new' ▸ by decide) .coroutine q (by decide) y old (same.trans owner)
    · exact (here (new ▸ by decide) .function r (by decide) z old' (same.symm.trans owner)).symm
    · rfl
  · rw [executed] at done
    rcases joined _ q z waits with old | ⟨rfl, _⟩
    · exact ahead.resumed y done coroutine q z old
    · rw [owner]
      exact (fresh y done).symm

theorem waiting_kind (inv : Inv s) {k : Kind} {p : Option Nat} (waits : x ∈ s.waiting k p) : x.kind = k := by
  cases p with
  | none => exact (inv.kinds k).1 x waits
  | some j => exact (inv.kinds k).2 j x waits

theorem pushedLine (ahead : FunctionsFirst s) (inv : Inv s) {kind : Kind}
    (found : s.handles[i]? = some h) (written : t.handles = s.handles.set i h')
    (locked : h.phase = .locked) (joined : h'.line kind = h.line kind ++ [⟨i, h.pushed.length, kind⟩])
    (same : ∀ k, k ≠ kind → h'.line k = h.line k) (own : kind ≠ .executor → h.mAquired = true)
    (shared : t.shared = s.shared) (executed : t.executed = s.executed) : FunctionsFirst t := by
  have here := inv.locked i h found locked
  refine ahead.pushed ⟨i, h.pushed.length, kind⟩ (some i) kind rfl executed
    (fun k q y waits => ?_) here.executed fun shareable k q _ y waits owner => ?_
  · cases q with
    | none => exact .inl (by rw [waiting, ← shared]; exact waits)
    | some j =>
      rcases waiting_written found written waits with ⟨rfl, mine⟩ | old
      · rw [waiting_of_get found]
        by_cases this : k = kind
        · subst this
          rw [joined] at mine
          exact (List.mem_append.mp mine).imp_right fun new => ⟨List.mem_singleton.mp new, rfl, rfl⟩
        · exact .inl (same k this ▸ mine)
      · exact .inl old
  · cases q with
    | none => exact absurd owner (here.shared (own shareable) k y waits)
    | some j =>
      by_contra apart
      exact here.others j k (fun same => apart (same ▸ rfl)) y waits owner

theorem pushedShared (ahead : FunctionsFirst s) (inv : Inv s) {kind : Kind}
    (found : s.handles[i]? = some h) (written : t.handles = s.handles.set i h')
    (locked : h.phase = .locked)
    (joined : t.shared kind = s.shared kind ++ [⟨i, h.pushed.length, kind⟩])
    (same : ∀ k, k ≠ kind → t.shared k = s.shared k) (lines : ∀ k, h'.line k = h.line k)
    (idle : h.mAquired = false) (executed : t.executed = s.executed) : FunctionsFirst t := by
  have here := inv.locked i h found locked
  refine ahead.pushed ⟨i, h.pushed.length, kind⟩ none kind rfl executed
    (fun k q y waits => ?_) here.executed fun _ k q sharable y waits owner => ?_
  · cases q with
    | none =>
      rw [waiting] at waits ⊢
      by_cases this : k = kind
      · subst this
        rw [joined] at waits
        exact (List.mem_append.mp waits).imp_right fun new => ⟨List.mem_singleton.mp new, rfl, rfl⟩
      · exact .inl (same k this ▸ waits)
    | some j =>
      rcases waiting_written found written waits with ⟨rfl, mine⟩ | old
      · exact .inl ((waiting_of_get found).mpr (lines k ▸ mine))
      · exact .inl old
  · cases q with
    | none => rfl
    | some j =>
      by_cases mine : j = i
      · subst mine
        rw [waiting_of_get found] at waits
        obtain ⟨coroutines, functions⟩ := (inv.handles j h found).runner idle
        cases k with
        | executor => exact absurd rfl sharable
        | coroutine => simp [Handle.line, Handle.next, locked, coroutines] at waits
        | function => simp [Handle.line, functions] at waits
      · exact absurd owner (here.others j k mine y waits)

theorem ran (ahead : FunctionsFirst s) (inv : Inv s) {kind : Kind} (found : s.handles[i]? = some h)
    (written : t.handles = s.handles.set i h') (front : h.line kind = x :: h'.line kind)
    (same : ∀ k, k ≠ kind → h'.line k = h.line k)
    (drained : h.Ok → kind = .coroutine → h.line .function = [])
    (shared : t.shared = s.shared) (executed : t.executed = s.executed ++ [x]) : FunctionsFirst t := by
  have first : x ∈ s.waiting kind (some i) :=
    (waiting_of_get found).mpr (front ▸ List.mem_cons_self)
  have xKind := waiting_kind inv first
  have fewer : ∀ k p, ∀ y ∈ t.waiting k p, y ∈ s.waiting k p := by
    intro k p y waits
    cases p with
    | none => rwa [waiting, ← shared]
    | some j =>
      rcases waiting_written found written waits with ⟨rfl, mine⟩ | old
      · rw [waiting_of_get found]
        by_cases this : k = kind
        · subst this
          rw [front]
          exact List.mem_cons_of_mem x mine
        · rwa [← same k this]
      · exact old
  refine ⟨fun p q y here z there => ahead.batch p q y (fewer _ p y here) z (fewer _ q z there),
    fun y done coroutine q z waits => ?_, ?_⟩
  · rw [executed] at done
    rcases List.mem_append.mp done with before | last
    · exact ahead.resumed y before coroutine q z (fewer _ q z waits)
    · obtain rfl := List.mem_singleton.mp last
      -- its functions waited in the line of the same handle, which has none left
      intro owner
      have kind : kind = .coroutine := xKind.symm.trans coroutine
      subst kind
      obtain rfl := ahead.batch (some i) q y first z (fewer _ q z waits) owner.symm
      rw [waiting, line_set found written, if_pos rfl, same .function (by decide),
        drained (inv.handles i h found) rfl] at waits
      cases waits
  · rw [executed, List.pairwise_append]
    refine ⟨ahead.order, List.pairwise_singleton _ _, fun y done z last owner coroutine function => ?_⟩
    obtain rfl := List.mem_singleton.mp last
    have kind : kind = .function := xKind.symm.trans function
    subst kind
    exact ahead.resumed y done coroutine (some i) z first owner.symm

theorem took (ahead : FunctionsFirst s) (found : s.handles[i]? = some h)
    (written : t.handles = s.handles.set i h') (lines : ∀ k, h'.line k = h.line k ++ s.shared k)
    (shared : ∀ k, t.shared k = []) (executed : t.executed = s.executed) : FunctionsFirst t := by
  have source : ∀ k p, ∀ y ∈ t.waiting k p, ∃ p', y ∈ s.waiting k p' ∧ p = some (p'.getD i) := by
    intro k p y waits
    cases p with
    | none =>
      rw [waiting, shared] at waits
      cases waits
    | some j =>
      rcases waiting_written found written waits with ⟨rfl, mine⟩ | other
      · rw [lines] at mine
        rcases List.mem_append.mp mine with old | taken
        · exact ⟨some j, (waiting_of_get found).mpr old, rfl⟩
        · exact ⟨none, taken, rfl⟩
      · exact ⟨some j, other, rfl⟩
  refine ⟨fun p q y here z there owner => ?_, fun y done coroutine q z waits => ?_, executed ▸ ahead.order⟩
  · obtain ⟨p', here', rfl⟩ := source _ p y here
    obtain ⟨q', there', rfl⟩ := source _ q z there
    rw [ahead.batch p' q' y here' z there' owner]
  · rw [executed] at done
    obtain ⟨q', waits', _⟩ := source _ q z waits
    exact ahead.resumed y done coroutine q' z waits'

theorem step {e : Event} (ahead : FunctionsFirst s) (inv : Inv s) (taken : s.step e = some t) :
    FunctionsFirst t := by
  cases moves taken with
  | acquired =>
    refine ahead.fewer rfl fun k p y waits => ?_
    cases p with
    | none => cases k <;> exact waits
    | some j => rwa [waiting, ← line_acquire]
  | pushedLine kind found written locked _ joined same _ _ own _ shared executed _ =>
    exact ahead.pushedLine inv found written locked joined same own shared executed
  | pushedShared kind found written locked _ joined same _ lines _ idle _ _ executed _ =>
    exact ahead.pushedShared inv found written locked joined same lines idle executed
  | advanced found written lines _ _ _ _ shared executed _ =>
    refine ahead.fewer executed fun k p y waits => ?_
    cases p with
    | none => rwa [waiting, ← shared]
    | some j =>
      rcases waiting_written found written waits with ⟨rfl, mine⟩ | old
      · exact (waiting_of_get found).mpr (lines k ▸ mine)
      · exact old
  | ran kind found written front same drained _ _ _ _ shared executed _ =>
    exact ahead.ran inv found written front same drained shared executed
  | took found written _ lines _ _ _ _ shared executed _ =>
    exact ahead.took found written lines shared executed

theorem init : FunctionsFirst {} := by
  have nothing : ∀ k p, ({} : State).waiting k p = [] := by
    intro k p
    cases p with
    | none => cases k <;> rfl
    | some j => simp [waiting, line]
  exact ⟨by simp [nothing], by simp, .nil⟩

end FunctionsFirst

theorem inv_of_run {es : List Event} {s : State} (run : Run State.step anyStep {} es s) :
    Inv s ∧ FunctionsFirst s :=
  run.invariant (I := fun s => Inv s ∧ FunctionsFirst s) ⟨.init, .init⟩
    fun _ _ _ inv _ taken => ⟨inv.1.step taken, inv.2.step inv.1 taken⟩

/-- Handles that are done hold nothing. -/
theorem Inv.ended {s : State} (inv : Inv s) (done : ∀ h ∈ s.handles, h.phase = .done) :
    s.mHasRunner = false ∧ s.tasks = s.executed := by
  have idle : ∀ h ∈ s.handles, h.mAquired = false ∧ h.held = [] := by
    intro h member
    obtain ⟨i, found⟩ := List.mem_iff_getElem?.mp member
    have ok := inv.handles i h found
    have phases := ok.phases
    rw [done h member] at phases
    obtain ⟨executors, released⟩ := phases
    obtain ⟨coroutines, functions⟩ := ok.runner released
    exact ⟨released, by
      simp [Handle.held, Handle.line, Handle.next, done h member, executors, coroutines, functions]⟩
  have runner : s.mHasRunner = false := by
    by_contra runs
    obtain ⟨i, h, found, acquired⟩ := inv.runner.mp ((Bool.not_eq_false _).mp runs)
    simp [(idle h (List.mem_of_getElem? found)).1] at acquired
  have held : s.handles.flatMap Handle.held = [] :=
    List.flatMap_eq_nil_iff.mpr fun h member => (idle h member).2
  refine ⟨runner, ?_⟩
  rw [tasks, inv.idle runner, inv.idle runner, held]
  simp

end State

/-- What comes first of two callbacks that one handle pushed without an executor. -/
def Task.Before (t u : Task) : Prop :=
  t.kind = .function ∧ u.kind = .coroutine ∨ t.kind = u.kind ∧ t.seq < u.seq

/-- In every state: at most one handle has the runner's role, nothing is shared
without a runner, and what was pushed is executed or waits, once. Callbacks of one
kind that one handle pushed are executed in push order, and its functions before its
coroutine handles. When all handles are done, everything was executed once and nothing
is left. -/
theorem executionQueue_ok {es : List State.Event} {s : State}
    (run : Run State.step anyStep {} es s) :
    (∀ (i j : Nat) (h k : Handle), s.handles[i]? = some h → s.handles[j]? = some k →
      h.mAquired = true → k.mAquired = true → i = j) ∧
    (s.mHasRunner = false → s.mCBs = [] ∧ s.mFns = []) ∧
    s.tasks.Nodup ∧ (∀ t, t ∈ s.tasks ↔ s.Pushed t) ∧
    (∀ kind, (s.executed.filter (·.kind = kind)).Pairwise fun t u =>
      t.handle = u.handle → t.seq < u.seq) ∧
    ((s.executed.filter (·.kind ≠ .executor)).Pairwise fun t u => t.handle = u.handle → t.Before u) ∧
    ((∀ h ∈ s.handles, h.phase = .done) → s.mHasRunner = false ∧ s.tasks = s.executed ∧
      s.executed.Nodup ∧ ∀ t, t ∈ s.executed ↔ s.Pushed t) := by
  obtain ⟨inv, ahead⟩ := State.inv_of_run run
  have sorted : ∀ kind, (s.executed.filter (·.kind = kind)).Pairwise fun t u =>
      t.handle = u.handle → t.seq < u.seq := fun kind => (inv.order kind).doneSorted
  refine ⟨inv.single, fun idle => ?_, inv.nodup, inv.pushed, sorted, ?_, fun done => ?_⟩
  · exact ⟨inv.idle idle .coroutine, inv.idle idle .function⟩
  · have functions := List.pairwise_filter.mp (sorted .function)
    have coroutines := List.pairwise_filter.mp (sorted .coroutine)
    refine List.pairwise_filter.mpr ?_
    refine (functions.and (coroutines.and ahead.order)).imp ?_
    rintro t u ⟨function, coroutine, ahead⟩ direct direct' owner
    unfold Task.Before
    cases kind : t.kind <;> cases kind' : u.kind <;> simp_all
  · obtain ⟨runner, all⟩ := inv.ended done
    exact ⟨runner, all, all ▸ inv.nodup, all ▸ inv.pushed⟩

/-- The runner runs a callback of its own; another handle pushes two to the shared
queue, which the runner takes over before it goes. -/
def sharedRun : List State.Event :=
  [.acquire, .pushBack 0 .coroutine, .release 0,
   .acquire, .pushBack 1 .coroutine, .pushBack 1 .coroutine, .pushBack 1 .executor, .release 1,
   .runReturnLast 0, .runStep 0, .runStep 0, .runStep 0, .runStep 0,
   .runReturnLast 1, .runStep 1, .runStep 1, .runStep 1, .resume 1,
   .runStep 0, .runStep 0, .runStep 0, .runStep 0, .runStep 0, .runStep 0, .resume 0]

theorem executionQueue_ok_shared : ∃ s, Run State.step anyStep {} sharedRun s ∧
    s.executed = [⟨1, 2, .executor⟩, ⟨0, 0, .coroutine⟩, ⟨1, 0, .coroutine⟩, ⟨1, 1, .coroutine⟩] ∧
    s.mHasRunner = false ∧ s.executed.Nodup := by
  have reached : (exec State.step anyStep {} sharedRun).map (fun s =>
      (s.executed, decide (∀ h ∈ s.handles, h.phase = .done))) =
      some ([⟨1, 2, .executor⟩, ⟨0, 0, .coroutine⟩, ⟨1, 0, .coroutine⟩, ⟨1, 1, .coroutine⟩], true) := by
    decide
  obtain ⟨s, result, facts⟩ := Option.map_eq_some_iff.mp reached
  simp only [Prod.mk.injEq, decide_eq_true_eq] at facts
  obtain ⟨_, _, _, _, _, _, ended⟩ := executionQueue_ok (.of_exec result)
  exact ⟨s, .of_exec result, facts.1, (ended facts.2).1, (ended facts.2).2.2.1⟩

/-! ## Functions first

The loop of a runner takes functions before coroutine handles. -/

def mixedRun : List State.Event :=
  [.acquire, .pushBack 0 .coroutine, .pushBack 0 .function, .release 0, .runReturnLast 0,
   .runStep 0, .runStep 0, .runStep 0, .runStep 0, .runStep 0, .runStep 0, .runStep 0, .resume 0]

/-- A function runs before the coroutine handle that was pushed before it. -/
theorem mixedRun_reorders : ∃ s, Run State.step anyStep {} mixedRun s ∧
    s.executed = [⟨0, 1, .function⟩, ⟨0, 0, .coroutine⟩] ∧
    ¬ s.executed.Pairwise fun t u => t.handle = u.handle → t.seq < u.seq := by
  have reached : (exec State.step anyStep {} mixedRun).map State.executed =
      some [⟨0, 1, .function⟩, ⟨0, 0, .coroutine⟩] := by
    decide
  obtain ⟨s, result, executed⟩ := Option.map_eq_some_iff.mp reached
  refine ⟨s, .of_exec result, executed, ?_⟩
  rw [executed]
  decide

end ExecutionQueue
end Coproto
