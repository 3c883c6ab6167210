import Coproto.Lib.Runs
import Coproto.Source.StopThreads
import Mathlib.Data.List.Nodup

/-!
# Locks and stop callbacks

LocalAsyncSock.h:515-528 resets stop callbacks outside the lock, as a thread may be
blocked on it inside one. The scheduler destroys operations under `mMutex`
(SocketScheduler.h:741-805, 969-1026; SocketScheduler.cpp:205-256), and their stop
callbacks take the same mutex.
-/
namespace Coproto
namespace StopThreads
open Runs

/-- A thread holds the mutex and waits for the stop callback of an operation it
destroys; the thread inside that callback waits for the mutex. -/
def LockCycle (s : State) : Prop :=
  ∃ t e op, s.holder = some (t, e, op) ∧
    ∃ i ∈ s.inside, i.op = op ∧ i.thread ≠ t ∧ i.thread ∈ s.waiting

/-- Other threads inside the callback of the operation are leaving it: they have passed
its critical section, are not the runner and have nothing left to resume. -/
def State.Past (s : State) (t : ThreadId) (op : OpId) : Prop :=
  ∀ i ∈ s.inside, i.op = op → i.thread ≠ t → i.phase = .leaving

/-- An operation is destroyed under the mutex while other threads are inside its callback
only if they are leaving it. -/
def LeavesFreely (s : State) : Event → Prop
  | .block t _ op => s.Past t op
  | _ => True

instance (s : State) (t : ThreadId) (op : OpId) : Decidable (s.Past t op) :=
  inferInstanceAs (Decidable (∀ i ∈ s.inside, _))

instance (s : State) (e : Event) : Decidable (LeavesFreely s e) := by
  rcases e with ⟨⟩ <;> dsimp only [LeavesFreely] <;> infer_instance

namespace State
variable {s u : State}

structure Inv (s : State) : Prop where
  entered : ∀ i ∈ s.inside, i.op ∈ s.entered
  distinct : (s.inside.map Inside.op).Nodup
  innermost : ∀ i ∈ s.inside, i.phase ≠ .running → s.top i.thread = some i
  awake : ∀ i ∈ s.inside, i.phase = .leaving → i.thread ∉ s.waiting
  awaited : ∀ t e op, s.holder = some (t, e, op) → op ∈ s.entered

/-- Nobody the holder waits for waits for the holder. -/
def Clear (s : State) : Prop := ∀ t e op, s.holder = some (t, e, op) → s.Past t op

theorem Clear.not_lockCycle (clear : s.Clear) (inv : s.Inv) : ¬ LockCycle s := by
  rintro ⟨t, e, op, holder, i, member, same, other, waits⟩
  exact inv.awake i member (clear t e op holder i member same other) waits

theorem top_thread {t : ThreadId} {i : Inside} (top : s.top t = some i) : i.thread = t := by
  simpa using List.find?_some top

theorem exists_top {i : Inside} (member : i ∈ s.inside) : ∃ j, s.top i.thread = some j := by
  refine Option.isSome_iff_exists.mp ?_
  rw [State.top, List.find?_isSome]
  exact ⟨i, member, by simp⟩

theorem top_mem {t : ThreadId} {i : Inside} (top : s.top t = some i) : i ∈ s.inside :=
  List.mem_of_find?_eq_some top

/-- Callbacks are rewritten, each on its thread. -/
theorem find?_map_thread (l : List Inside) {f : Inside → Inside} (thread : ∀ i, (f i).thread = i.thread)
    (t : ThreadId) : (l.map f).find? (·.thread = t) = (l.find? (·.thread = t)).map f := by
  have same : (fun i : Inside => decide (i.thread = t)) ∘ f = fun i => decide (i.thread = t) := by
    funext i
    simp only [Function.comp_apply, thread]
  rw [List.find?_map, same]

theorem find?_erase {l : List Inside} {i : Inside} {p : Inside → Bool} (out : p i = false) :
    (l.erase i).find? p = l.find? p := by
  induction l with
  | nil => rfl
  | cons j l ih =>
    by_cases same : j = i
    · subst same
      simp [out]
    · rw [List.erase_cons_tail (by simpa using same)]
      simp only [List.find?_cons, ih]

theorem top_erase {t t' : ThreadId} {i : Inside} (top : s.top t = some i) (other : t' ≠ t) :
    (s.inside.erase i).find? (·.thread = t') = s.top t' :=
  find?_erase (by simpa [top_thread top] using Ne.symm other)

theorem idle_spec {t : ThreadId} (idle : s.idle t = true) : t ∉ s.waiting ∧
    (∀ i, s.top t = some i → i.phase = .running) ∧ ∀ h, s.holder = some h → h.1 ≠ t := by
  simp only [State.idle, Bool.decide_and, Bool.and_eq_true, decide_eq_true_eq] at idle
  refine ⟨idle.1, fun i top => ?_, fun h holder => ?_⟩
  · simpa [top] using idle.2.1
  · simpa [holder] using idle.2.2

/-- All callbacks of an idle thread are running. -/
theorem Inv.running (inv : Inv s) {t : ThreadId} (idle : s.idle t = true) {i : Inside}
    (member : i ∈ s.inside) (thread : i.thread = t) : i.phase = .running := by
  by_contra other
  exact other ((idle_spec idle).2.1 i (thread ▸ inv.innermost i member other))

/-- The innermost callback of a thread that may make a call. -/
theorem Inv.calling (inv : Inv s) {t : ThreadId} {e : SockScheduler.Event}
    (calls : s.mayCall t e = true) {i : Inside} (member : i ∈ s.inside) (thread : i.thread = t) :
    i.phase ≠ .leaving := by
  intro leaving
  have top := inv.innermost i member (by simp [leaving])
  obtain ⟨thread', op, phase, role⟩ := i
  cases leaving
  cases thread
  simp [mayCall, top] at calls

theorem Inv.enter (inv : Inv s) {t : ThreadId} {op : OpId} (idle : s.idle t = true)
    (fresh : op ∉ s.entered) :
    Inv { s with inside := { thread := t, op := op } :: s.inside, entered := op :: s.entered } := by
  refine ⟨fun i member => ?_, ?_, fun i member phase => ?_, fun i member leaving => ?_,
    fun t' e op' holder => List.mem_cons_of_mem _ (inv.awaited t' e op' holder)⟩
  · rcases List.mem_cons.mp member with rfl | old
    · exact List.mem_cons_self
    · exact List.mem_cons_of_mem _ (inv.entered i old)
  · refine List.nodup_cons.mpr ⟨fun member => ?_, inv.distinct⟩
    obtain ⟨i, there, same⟩ := List.mem_map.mp member
    have same : i.op = op := same
    exact fresh (same ▸ inv.entered i there)
  · rcases List.mem_cons.mp member with rfl | old
    · simp [top]
    · have other : i.thread ≠ t := fun same => phase (inv.running idle old same)
      have before := inv.innermost i old phase
      simpa [top, Ne.symm other] using before
  · rcases List.mem_cons.mp member with rfl | old
    · cases leaving
    · exact inv.awake i old leaving

/-- Callbacks are rewritten, each on its thread; one whose phase is a new one, and
not `running`, is the innermost of a thread that does not wait. -/
theorem Inv.map (inv : Inv s) {f : Inside → Inside} (inside : u.inside = s.inside.map f)
    (entered : u.entered = s.entered) (thread : ∀ i, (f i).thread = i.thread) (op : ∀ i, (f i).op = i.op)
    (waiting : ∀ t ∈ u.waiting, t ∈ s.waiting) (holder : ∀ h, u.holder = some h → s.holder = some h)
    (phase : ∀ i ∈ s.inside, (f i).phase ≠ .running → (f i).phase = i.phase ∨
      s.top i.thread = some i ∧ i.thread ∉ u.waiting) : Inv u := by
  have old : ∀ i ∈ u.inside, ∃ j ∈ s.inside, i = f j := by
    intro i member
    rw [inside] at member
    obtain ⟨j, there, rfl⟩ := List.mem_map.mp member
    exact ⟨j, there, rfl⟩
  refine ⟨fun i member => ?_, ?_, fun i member other => ?_, fun i member leaving => ?_,
    fun t e op' awaits => entered ▸ inv.awaited t e op' (holder _ awaits)⟩
  · obtain ⟨j, there, rfl⟩ := old i member
    rw [entered, op]
    exact inv.entered j there
  · have same : Inside.op ∘ f = Inside.op := funext op
    rw [inside, List.map_map, same]
    exact inv.distinct
  · obtain ⟨j, there, rfl⟩ := old i member
    have top : s.top j.thread = some j := by
      rcases phase j there other with same | ⟨top, _⟩
      · exact inv.innermost j there (same ▸ other)
      · exact top
    rw [State.top, inside, find?_map_thread _ thread, thread]
    exact congrArg (Option.map f) top
  · obtain ⟨j, there, rfl⟩ := old i member
    rw [thread]
    rcases phase j there (by simp [leaving]) with same | ⟨_, awake⟩
    · exact fun waits => inv.awake j there (same ▸ leaving) (waiting _ waits)
    · exact awake

theorem Inv.finish (inv : Inv s) (t : ThreadId) (s' : SockScheduler) : Inv (s.finish t s') := by
  refine inv.map (f := fun i => if i.thread = t ∧ i.phase = .entering then s.passed s' i else i) rfl rfl
    (fun i => by split <;> rfl) (fun i => by split <;> rfl) (by simp [State.finish])
    (by simp [State.finish]) fun i member _ => ?_
  split
  · rename_i entering
    exact .inr ⟨inv.innermost i member (by simp [entering.2]), by simp [State.finish]⟩
  · exact .inl rfl

/-- The innermost callback of an idle thread is rewritten. -/
theorem Inv.set (inv : Inv s) {t : ThreadId} {i i' : Inside} (idle : s.idle t = true)
    (top : s.top t = some i) (thread : i'.thread = i.thread) (op : i'.op = i.op) (runner : Bool) :
    Inv { s.set i i' with mHasRunner := runner } := by
  have awake := (idle_spec idle).1
  have here := top_thread top
  refine inv.map (f := fun j => if j = i then i' else j) rfl rfl (fun j => ?_) (fun j => ?_)
    (fun _ => id) (fun _ => id) fun j _ _ => ?_
  · split
    · rename_i same
      rw [same, thread]
    · rfl
  · split
    · rename_i same
      rw [same, op]
    · rfl
  · by_cases same : j = i
    · subst same
      exact .inr ⟨here ▸ top, here ▸ awake⟩
    · exact .inl (by rw [if_neg same])

/-- One more thread waits for the mutex, and it is not leaving a callback. -/
theorem Inv.wait (inv : Inv s) {t : ThreadId}
    (stays : ∀ i ∈ s.inside, i.thread = t → i.phase ≠ .leaving) :
    Inv { s with waiting := t :: s.waiting } := by
  refine ⟨inv.entered, inv.distinct, inv.innermost, fun i member leaving => ?_, inv.awaited⟩
  have other : i.thread ≠ t := fun same => stays i member same leaving
  simp [other, inv.awake i member leaving]

/-- A callback that has been left is not there a second time. -/
theorem Inv.not_mem_erase (inv : Inv s) (i : Inside) : i ∉ s.inside.erase i :=
  (List.Nodup.of_map _ inv.distinct).not_mem_erase

theorem Inv.leave (inv : Inv s) {t : ThreadId} {i : Inside} (top : s.top t = some i) :
    Inv { s with inside := s.inside.erase i } := by
  refine ⟨fun j member => inv.entered j (List.mem_of_mem_erase member),
    inv.distinct.sublist ((List.erase_sublist).map _), fun j member phase => ?_,
    fun j member => inv.awake j (List.mem_of_mem_erase member), inv.awaited⟩
  have before := inv.innermost j (List.mem_of_mem_erase member) phase
  have other : j.thread ≠ t := by
    intro same
    rw [same, top] at before
    cases before
    exact inv.not_mem_erase i member
  exact (top_erase top other).trans before

theorem Inv.block (inv : Inv s) {t : ThreadId} {e : SockScheduler.Event} {op : OpId} {i : Inside}
    (member : i ∈ s.inside) (same : i.op = op) : Inv { s with holder := some (t, e, op) } := by
  refine ⟨inv.entered, inv.distinct, inv.innermost, inv.awake, fun t' e' op' holder => ?_⟩
  cases holder
  exact same ▸ inv.entered i member

/-- What an event can do. -/
inductive ThreadStep (s : State) : Event → State → Prop
  | entered (t : ThreadId) (op : OpId) (idle : s.idle t = true) (fresh : op ∉ s.entered) :
      ThreadStep s (.enter t op)
        { s with inside := { thread := t, op := op } :: s.inside, entered := op :: s.entered }
  | waits (t : ThreadId) (e : SockScheduler.Event) (calls : s.mayCall t e = true) :
      ThreadStep s (.call t e) { s with waiting := t :: s.waiting }
  | ran (t : ThreadId) (e : SockScheduler.Event) (s' : SockScheduler) :
      ThreadStep s (.call t e) { s with sched := s' }
  | finished (t : ThreadId) (e : SockScheduler.Event) (s' : SockScheduler) :
      ThreadStep s (.call t e) (s.finish t s')
  | blocked (t : ThreadId) (e : SockScheduler.Event) (i : Inside) (member : i ∈ s.inside) :
      ThreadStep s (.block t e i.op) { s with holder := some (t, e, i.op) }
  | swapWaits (t : ThreadId) (idle : s.idle t = true) :
      ThreadStep s (.swap t) { s with waiting := t :: s.waiting }
  | swapped (t : ThreadId) : ThreadStep s (.swap t) s
  | passes {e : Event} (t : ThreadId) (i : Inside) (phase : Phase) (mAquired runner : Bool)
      (idle : s.idle t = true) (top : s.top t = some i) :
      ThreadStep s e
        { s.set i { i with phase := phase, mAquired := mAquired } with mHasRunner := runner }
  | left (t : ThreadId) (i : Inside) (top : s.top t = some i) :
      ThreadStep s (.leave t) { s with inside := s.inside.erase i }
  | role (runner : Bool) : ThreadStep s (.role runner) { s with mHasRunner := runner }

theorem threadStep {e : Event} (taken : s.step e = some u) : ThreadStep s e u := by
  cases e with
  | enter t op =>
    simp only [State.step, Option.ite_none_right_eq_some, Option.some.injEq] at taken
    obtain ⟨⟨idle, fresh, _⟩, rfl⟩ := taken
    exact .entered t op idle fresh
  | call t e =>
    simp only [State.step, Option.ite_none_right_eq_some] at taken
    obtain ⟨calls, taken⟩ := taken
    split at taken
    · split at taken
      · cases taken
        exact .waits t e calls
      · obtain ⟨s', _, rfl⟩ := Option.map_eq_some_iff.mp taken
        exact .ran t e s'
    · obtain ⟨s', _, taken⟩ := Option.bind_eq_some_iff.mp taken
      simp only [Option.ite_none_right_eq_some, Option.some.injEq] at taken
      obtain ⟨_, rfl⟩ := taken
      exact .finished t e s'
  | block t e op =>
    simp only [State.step, Option.ite_none_right_eq_some, Option.some.injEq] at taken
    obtain ⟨⟨_, _, contends⟩, rfl⟩ := taken
    obtain ⟨s', _, contends⟩ := (Option.any_eq_true _ _).mp contends
    simp only [decide_eq_true_eq, contended, List.mem_filter, othersInside, List.any_eq_true] at contends
    obtain ⟨_, i, member, rfl, _⟩ := contends
    exact .blocked t e i member
  | swap t =>
    simp only [State.step, Option.ite_none_right_eq_some, Option.some.injEq] at taken
    obtain ⟨idle, rfl⟩ := taken
    split
    · exact .swapWaits t idle
    · exact .swapped t
  | release t last =>
    simp only [State.step, Option.ite_none_right_eq_some] at taken
    obtain ⟨⟨idle, _⟩, taken⟩ := taken
    obtain ⟨i, top, taken⟩ := Option.bind_eq_some_iff.mp taken
    simp only [Option.ite_none_right_eq_some, Option.some.injEq] at taken
    obtain ⟨_, rfl⟩ := taken
    exact .passes t i _ false false idle top
  | resumed t =>
    simp only [State.step, Option.ite_none_right_eq_some] at taken
    obtain ⟨idle, taken⟩ := taken
    obtain ⟨i, top, taken⟩ := Option.bind_eq_some_iff.mp taken
    simp only [Option.ite_none_left_eq_some, Option.some.injEq] at taken
    obtain ⟨_, rfl⟩ := taken
    exact .passes t i .leaving i.mAquired s.mHasRunner idle top
  | leave t =>
    obtain ⟨i, top, taken⟩ := Option.bind_eq_some_iff.mp taken
    simp only [Option.ite_none_right_eq_some, Option.some.injEq] at taken
    obtain ⟨_, rfl⟩ := taken
    exact .left t i top
  | role runner =>
    simp only [State.step, Option.ite_none_left_eq_some, Option.some.injEq] at taken
    obtain ⟨_, rfl⟩ := taken
    exact .role runner

theorem Inv.step {e : Event} (inv : Inv s) (step : ThreadStep s e u) : Inv u := by
  cases step with
  | entered t op idle fresh => exact inv.enter idle fresh
  | waits t e calls => exact inv.wait fun i member same => inv.calling calls member same
  | ran t e s' => exact ⟨inv.entered, inv.distinct, inv.innermost, inv.awake, inv.awaited⟩
  | finished t e s' => exact inv.finish t s'
  | blocked t e i member => exact inv.block member rfl
  | swapWaits t idle => exact inv.wait fun i member same => by simp [inv.running idle member same]
  | swapped t => exact inv
  | passes t i phase mAquired runner idle top =>
    refine inv.set idle top ?_ ?_ runner <;> rfl
  | left t i top => exact inv.leave top
  | role runner => exact ⟨inv.entered, inv.distinct, inv.innermost, inv.awake, inv.awaited⟩

/-- Who leaves a callback goes on leaving it when another one is rewritten. -/
theorem Clear.set (clear : Clear s) (inv : Inv s) {t : ThreadId} {i i' : Inside}
    (idle : s.idle t = true) (top : s.top t = some i) (runner : Bool) (thread : i'.thread = i.thread)
    (same : i'.op = i.op) : Clear { s.set i i' with mHasRunner := runner } := by
  intro t' e op holder j member of other
  obtain ⟨k, there, rfl⟩ := List.mem_map.mp member
  by_cases here : k = i
  · rw [if_pos here] at of other
    have leaving := clear t' e op holder i (top_mem top) (same ▸ of) (thread ▸ other)
    rw [inv.running idle (top_mem top) (top_thread top)] at leaving
    cases leaving
  · rw [if_neg here] at of other ⊢
    exact clear t' e op holder k there of other

theorem Clear.step {e : Event} (clear : Clear s) (inv : Inv s) (met : LeavesFreely s e)
    (step : ThreadStep s e u) : Clear u := by
  cases step with
  | entered t op idle fresh =>
    intro t' e op' holder i member same other
    rcases List.mem_cons.mp member with rfl | old
    · have entered := inv.awaited t' e op' holder
      rw [← same] at entered
      exact absurd entered fresh
    · exact clear t' e op' holder i old same other
  | finished t e s' =>
    intro t' e' op holder
    cases holder
  | blocked t e i member =>
    intro t' e' op holder
    cases holder
    exact met
  | passes t i phase mAquired runner idle top => exact clear.set inv idle top runner rfl rfl
  | left t i top =>
    exact fun t' e op holder j member => clear t' e op holder j (List.mem_of_mem_erase member)
  | waits t e calls => exact clear
  | ran t e s' => exact clear
  | swapWaits t idle => exact clear
  | swapped t => exact clear
  | role runner => exact clear

theorem Inv.init (sid : SessionID) : Inv (State.init sid) :=
  ⟨by simp [State.init], by simp [State.init], by simp [State.init], by simp [State.init],
    by simp [State.init]⟩

/-! ## What leaves the condition -/

/-- A thread inside a callback that is not about to leave it goes for the mutex: for
the section of the callback, as the runner, or with a call of what it resumes. -/
theorem waits_of_top {h : ThreadId × SockScheduler.Event × OpId} (holder : s.holder = some h)
    {t : ThreadId} {i : Inside} (top : s.top t = some i) (stays : i.phase ≠ .leaving)
    (other : h.1 ≠ t) (awake : t ∉ s.waiting) :
    ∃ e, s.step e = some { s with waiting := t :: s.waiting } := by
  have held : s.held t = true := by simp [State.held, holder, other]
  cases phase : i.phase with
  | leaving => exact absurd phase stays
  | entering =>
    refine ⟨.call t (.stopSend i.op), ?_⟩
    have calls : s.mayCall t (.stopSend i.op) = true := by
      obtain ⟨thread, op, phase', role⟩ := i
      cases phase
      simp [mayCall, top, isStopOf, holder, other, awake]
    simp [State.step, calls, held, takesMutex]
  | running =>
    have idle : s.idle t = true := by simp [State.idle, awake, top, phase, holder, other]
    cases role : i.mAquired with
    | true => exact ⟨.swap t, by simp [State.step, idle, held]⟩
    | false =>
      refine ⟨.call t (.send SessionID.root.mVal [0] .none), ?_⟩
      have calls : s.mayCall t (.send SessionID.root.mVal [0] .none) = true := by
        obtain ⟨thread, op, phase', role'⟩ := i
        cases phase
        simp [mayCall, top, isStop, holder, other, awake]
      simp [State.step, calls, held, takesMutex]

/-- A step that breaks the condition leads to a cycle, as soon as the thread inside
the callback goes for the mutex; first it leaves the callback it is in further down. -/
theorem Inv.cycle {e : Event} (inv : Inv s) (broken : ¬ LeavesFreely s e) (taken : s.step e = some u) :
    ∃ es v, Run State.step anyStep u es v ∧ LockCycle v := by
  cases e with
  | block t e op =>
    simp only [State.step, Option.ite_none_right_eq_some, Option.some.injEq] at taken
    obtain ⟨_, rfl⟩ := taken
    simp only [LeavesFreely, Past, not_forall] at broken
    obtain ⟨i, member, same, other, stays⟩ := broken
    obtain ⟨u, blocked⟩ : ∃ u, ({ s with holder := some (t, e, op) } : State) = u := ⟨_, rfl⟩
    have inv' : Inv u := blocked ▸ inv.block member same
    have holder : u.holder = some (t, e, op) := blocked ▸ rfl
    have member : i ∈ u.inside := blocked ▸ member
    rw [blocked]
    by_cases waits : i.thread ∈ u.waiting
    · exact ⟨[], u, .nil, t, e, op, holder, i, member, same, other, waits⟩
    obtain ⟨j, top⟩ := exists_top member
    by_cases leaving : j.phase = .leaving
    · have left : u.step (.leave i.thread) = some { u with inside := u.inside.erase j } := by
        simp [State.step, top, leaving]
      have apart : i ≠ j := by
        rintro rfl
        exact stays leaving
      have member' : i ∈ u.inside.erase j := (List.mem_erase_of_ne apart).mpr member
      obtain ⟨k, top'⟩ := exists_top (s := { u with inside := u.inside.erase j }) member'
      have running : k.phase ≠ .leaving := by
        intro leaving'
        have there := top_mem top'
        have before := inv'.innermost k (List.mem_of_mem_erase there) (by simp [leaving'])
        rw [top_thread top', top] at before
        cases before
        exact inv'.not_mem_erase j there
      obtain ⟨e', closes⟩ := waits_of_top (s := { u with inside := u.inside.erase j }) holder top' running
        (Ne.symm other) waits
      exact ⟨_, _, (Run.snoc .nil trivial left).snoc trivial closes, t, e, op, holder, i, member', same,
        other, List.mem_cons_self⟩
    · obtain ⟨e', closes⟩ := waits_of_top holder top leaving (Ne.symm other) waits
      exact ⟨_, _, Run.snoc .nil trivial closes, t, e, op, holder, i, member, same, other,
        List.mem_cons_self⟩
  | _ => exact absurd trivial broken

end State

/-- In a run whose steps meet the condition there is no lock cycle, and any step
that breaks it leads to one. -/
theorem noLockCycle {sid : SessionID} {es : List Event} {s : State}
    (run : Run State.step LeavesFreely (State.init sid) es s) :
    ¬ LockCycle s ∧ ∀ e u, ¬ LeavesFreely s e → s.step e = some u →
      ∃ fs v, Run State.step anyStep u fs v ∧ LockCycle v := by
  have all : s.Inv ∧ s.Clear := by
    refine run.invariant (I := fun s => s.Inv ∧ s.Clear) ⟨.init sid, fun t e op holder => by cases holder⟩ ?_
    exact fun s e u inv met taken => ⟨inv.1.step (State.threadStep taken),
      inv.2.step inv.1 met (State.threadStep taken)⟩
  exact ⟨all.2.not_lockCycle all.1, fun e u broken taken => all.1.cycle broken taken⟩

/-- A send whose body is being written. -/
def sendingRun : List Event :=
  [.call 1 (.send SessionID.root.mVal [7] .live),
   .call 1 (.run .sendTask),
   .call 1 (.sendReturned Code.success 24),
   .call 1 (.sendReturned Code.success 8)]

/-- A thread stops the send, and is through with `exQueue.run()`. -/
def stoppedRun : List Event :=
  sendingRun ++ [.enter 2 0, .call 2 (.stopSend 0), .swap 2, .release 2 false]

/-- The send completes while that thread is still inside the callback; the section ends
when the thread has left. -/
theorem noLockCycle_left : ∃ s, Run State.step LeavesFreely (State.init SessionID.root)
    (stoppedRun ++ [.block 1 (.sendReturned Code.success 1) 0, .leave 2,
      .call 1 (.sendReturned Code.success 1)]) s ∧
    (s.sched.tx.ops 0).isSome = false ∧ ¬ LockCycle s := by
  have reached : (exec State.step LeavesFreely (State.init SessionID.root)
      (stoppedRun ++ [.block 1 (.sendReturned Code.success 1) 0, .leave 2,
        .call 1 (.sendReturned Code.success 1)])).map
      (fun s => (s.sched.tx.ops 0).isSome) = some false := by decide
  obtain ⟨s, result, gone⟩ := Option.map_eq_some_iff.mp reached
  exact ⟨s, .of_exec result, gone, (noLockCycle (.of_exec result)).1⟩

/-! ## The failing run

A stop is requested while the last call of the send returns. -/

/-- `completePrev` destroys the send under the mutex, and its stop callback waits
for the mutex. -/
theorem stoppedSendRun_cycles : ∃ s, Run State.step anyStep (State.init SessionID.root)
    (sendingRun ++ [.enter 2 0, .block 1 (.sendReturned Code.success 1) 0, .call 2 (.stopSend 0)]) s ∧
    LockCycle s := by
  have reached : (exec State.step anyStep (State.init SessionID.root)
      (sendingRun ++ [.enter 2 0, .block 1 (.sendReturned Code.success 1) 0,
        .call 2 (.stopSend 0)])).map (fun s => (s.holder, s.inside, s.waiting)) =
      some (some (1, .sendReturned Code.success 1, 0), [{ thread := 2, op := 0 }], [2]) := by decide
  obtain ⟨s, result, facts⟩ := Option.map_eq_some_iff.mp reached
  simp only [Prod.mk.injEq] at facts
  obtain ⟨holder, inside, waiting⟩ := facts
  refine ⟨s, .of_exec result, 1, _, 0, holder, { thread := 2, op := 0 }, ?_, rfl, by decide, ?_⟩
  · simp [inside]
  · simp [waiting]

end StopThreads
end Coproto
