import Coproto.Invariants.TableStep

/-!
# What the receive task serves

The operation the receive task has been given is the oldest of its slot, and a
frame it is parked on belongs to a slot whose queue is empty. Both rest on the
remote map: the slot a posted receive is matched with by its remote id is the
slot the frame was mapped to.
-/
namespace Coproto

/-- The operation the task has been given. -/
def RecvTask.serving : RecvTask → Option OpId
  | .getRequested _ (some (.ok op)) => some op
  | .body _ op _ => some op
  | _ => none

namespace RecvSide

/-- The operation is the oldest of its slot. -/
def AtFront (rx : RecvSide) (op : OpId) : Prop :=
  ∃ slot, rx.home op = some slot ∧ (rx.mRecvOps slot).head? = some op

structure FrontOk (rx : RecvSide) (table : ForkTable) : Prop where
  serving : ∀ (op : OpId), rx.mRecvTask.serving = some op → rx.AtFront op
  parked : ∀ (k : UInt32), rx.mRecvTask.requested = some k →
    ∃ slot, table.mRemoteSocketForkMapping_ k = some slot ∧ rx.mRecvOps slot = []

variable {rx rx' : RecvSide} {table : ForkTable} {op p : OpId} {ec mEC : ErrorCode}

theorem AtFront.congr (front : rx.AtFront p) (queues : rx'.mRecvOps = rx.mRecvOps)
    (homes : ∀ x, rx'.home x = rx.home x) : rx'.AtFront p := by
  obtain ⟨slot, home, head⟩ := front
  exact ⟨slot, (homes p).trans home, queues ▸ head⟩

/-- A task that serves nothing and is not parked on a frame. -/
theorem FrontOk.idle (serving : rx.mRecvTask.serving = none)
    (requested : rx.mRecvTask.requested = none) : rx.FrontOk table :=
  ⟨by simp [serving], by simp [requested]⟩

theorem FrontOk.congr (ok : rx.FrontOk table) (task : rx'.mRecvTask = rx.mRecvTask)
    (queues : rx'.mRecvOps = rx.mRecvOps) (homes : ∀ x, rx'.home x = rx.home x) :
    rx'.FrontOk table := by
  constructor
  · intro op serving
    exact (ok.serving op (task ▸ serving)).congr queues homes
  · intro k requested
    rw [queues]
    exact ok.parked k (task ▸ requested)

theorem FrontOk.mapping {table' : ForkTable} (ok : rx.FrontOk table)
    (same : table'.mRemoteSocketForkMapping_ = table.mRemoteSocketForkMapping_) :
    rx.FrontOk table' :=
  ⟨ok.serving, fun k requested => same ▸ ok.parked k requested⟩

theorem FrontOk.wakeError (ok : rx.FrontOk table) (e : ErrorCode) :
    (rx.wakeError e).FrontOk table := by
  unfold RecvSide.wakeError
  split
  · exact .idle rfl rfl
  · exact .idle rfl rfl
  · exact ok

/-! ## Stop callbacks -/

/-- What the task has been given has been started. -/
def ServesStarted (rx : RecvSide) : Prop :=
  ∀ op, rx.mRecvTask.serving = some op → rx.Started op

theorem TaskOk.servesStarted (ok : rx.TaskOk mEC) : rx.ServesStarted := by
  intro op serving
  unfold TaskOk at ok
  unfold RecvTask.serving at serving
  split at serving
  · rename_i frame p task
    simp only [task] at ok
    exact Option.some.inj serving ▸ ok.2
  · rename_i frame p token task
    simp only [task] at ok
    exact Option.some.inj serving ▸ ok.2
  · cases serving

theorem head?_erase {xs : List OpId} (head : xs.head? = some p) (other : p ≠ op) :
    (xs.erase op).head? = some p := by
  cases xs with
  | nil => cases head
  | cons x xs =>
    cases head
    rw [List.erase_cons_tail (by simpa using other)]
    rfl

/-- A stop callback erases an operation that was not started, so not the one the
task has been given. -/
theorem FrontOk.stop (ok : rx.FrontOk table) (started : rx.ServesStarted) (op : OpId)
    (failed : Bool) : (rx.stop op failed).FrontOk table := by
  have task : (rx.stop op failed).mRecvTask = rx.mRecvTask := rx.stop_mRecvTask failed
  unfold RecvSide.stop at task ⊢
  cases live : rx.ops op with
  | none => exact ok
  | some o =>
    by_cases idle : o.mStatus = .NotStarted
    · simp only [live, idle, if_true] at task ⊢
      constructor
      · intro p serving
        rw [task] at serving
        have other : p ≠ op := by
          rintro rfl
          obtain ⟨o', live', status⟩ := started p serving
          rw [live, Option.some.injEq] at live'
          exact status (live' ▸ idle)
        obtain ⟨slot, home, head⟩ := ok.serving p serving
        refine ⟨slot, ?_, ?_⟩
        · simpa [abort, RecvSide.home, Heap.erase_of_ne other, Heap.modify_of_ne other] using home
        · have erased := head?_erase head other
          by_cases here : slot = o.mSocketFork
          · simpa [abort, here] using here ▸ erased
          · simpa [abort, here] using head
      · intro k requested
        obtain ⟨slot, mapped, empty⟩ := ok.parked k (task ▸ requested)
        refine ⟨slot, mapped, ?_⟩
        simp [abort, empty]
    · simp only [live, idle, if_false] at task ⊢
      refine ok.congr task rfl fun x => ?_
      simp [halt, RecvSide.home, Heap.modify_apply]
      split <;> simp [Option.map_map, Function.comp_def]

theorem FrontOk.arm (ok : rx.FrontOk table) (started : rx.ServesStarted) (op : OpId)
    (token : StopToken) : (rx.arm op token).FrontOk table := by
  have marked : (rx.setReg op .registered).FrontOk table := ok.congr rfl rfl home_setReg
  cases token with
  | none => exact ok
  | live => exact marked
  | stopped => exact marked.stop (fun p serving => (started p serving).setReg op _) op false

/-! ## Posting a receive -/

section Posted
variable {slot nextOp slots : Nat} {buffer : RecvBuffer}

theorem home_emplace (x : OpId) : (rx.emplace slot op buffer).home x =
    if x = op then some slot else rx.home x := by
  by_cases same : x = op <;> simp [RecvSide.home, Heap.set_apply, same]

theorem AtFront.emplace (front : rx.AtFront p) (other : p ≠ op) :
    (rx.emplace slot op buffer).AtFront p := by
  obtain ⟨i, home, head⟩ := front
  refine ⟨i, by simpa [home_emplace, other] using home, ?_⟩
  by_cases here : i = slot
  · simp only [emplace_mRecvOps, here, if_true, List.head?_append]
    rw [← here, head]
    rfl
  · simpa [here] using head

theorem Started.emplace (started : rx.Started p) (other : p ≠ op) :
    (rx.emplace slot op buffer).Started p := by
  obtain ⟨o, live, status⟩ := started
  exact ⟨o, by simpa [Heap.set_of_ne other] using live, status⟩

/-- The first operation of an empty slot, once it has been started. -/
theorem atFront_first (empty : rx.mRecvOps slot = []) (status : OpStatus) :
    ((rx.emplace slot op buffer).setStatus op status).AtFront op := by
  refine ⟨slot, by simp [home_emplace], ?_⟩
  simp [empty]

theorem started_first (slot : Nat) (op : OpId) (buffer : RecvBuffer) :
    ((rx.emplace slot op buffer).setStatus op .InProgress).Started op := by
  refine ⟨{ mRecvBuffer := { buffer with mExPtr := .unset, mData := [] }, mSocketFork := slot,
            mStatus := .InProgress }, ?_, by simp⟩
  simp

/-- A posted receive wakes a task that is parked on its slot, and joins the end
of its queue otherwise. `mine` and `other` say what the remote ids mean. -/
theorem FrontOk.enqueue (ok : rx.FrontOk table) (started : rx.ServesStarted)
    (fresh : ∀ p, rx.mRecvTask.serving = some p → p ≠ op) (remoteId : UInt32)
    (mine : ∀ i, table.mRemoteSocketForkMapping_ remoteId = some i → i = slot)
    (other : ∀ k, k ≠ remoteId → table.mRemoteSocketForkMapping_ k ≠ some slot)
    (buffer : RecvBuffer) :
    (rx.enqueue slot remoteId op buffer).FrontOk table ∧
      (rx.enqueue slot remoteId op buffer).ServesStarted := by
  have queued (busy : rx.mRecvTask.requested ≠ some remoteId) :
      (rx.emplace slot op buffer).FrontOk table ∧ (rx.emplace slot op buffer).ServesStarted := by
    refine ⟨⟨fun p serving => (ok.serving p serving).emplace (fresh p serving), fun k requested => ?_⟩,
      fun p serving => (started p serving).emplace (fresh p serving)⟩
    obtain ⟨i, mapped, empty⟩ := ok.parked k requested
    have away : i ≠ slot := by
      rintro rfl
      refine other k ?_ mapped
      rintro rfl
      exact busy requested
    exact ⟨i, mapped, by simpa [away] using empty⟩
  unfold RecvSide.enqueue
  split
  · exact ⟨.idle rfl rfl, fun p serving => by cases serving⟩
  · rename_i frame task
    have requested : rx.mRecvTask.requested = some frame.header.mForkId := by
      rw [task]
      rfl
    split
    · rename_i same
      obtain ⟨i, mapped, empty⟩ := ok.parked _ requested
      have here : i = slot := mine i (same ▸ mapped)
      constructor
      · refine ⟨fun p serving => ?_, fun k parked => by cases parked⟩
        cases serving
        exact (atFront_first (here ▸ empty) .InProgress).congr rfl fun _ => rfl
      · intro p serving
        cases serving
        exact started_first slot op buffer
    · rename_i differs
      exact queued (by simpa [requested] using differs)
  · rename_i any parked
    refine queued fun requested => ?_
    unfold RecvTask.requested at requested
    split at requested
    · rename_i frame task
      exact parked frame task
    · cases requested

end Posted

/-! ## The awaiters -/

theorem Await.front {slots : Nat} (awaits : rx.Await mEC slots ec rx') : rx'.FrontOk table := by
  cases awaits with
  | shut failed code same => exact .idle (by simp [RecvTask.serving]) (by simp [RecvTask.requested])
  | next ok num => exact .idle rfl rfl
  | park ok num => exact .idle rfl rfl

theorem Request.front {frame : Frame} {nextOp slots : Nat} (queues : rx.QueuesOk nextOp slots)
    (request : rx.Request table mEC frame rx') : rx'.FrontOk table := by
  cases request with
  | unknown unmapped e error => exact .idle rfl rfl
  | failed slot mapped error => exact .idle rfl rfl
  | park slot mapped ok empty =>
    refine ⟨by simp [RecvTask.serving], fun k requested => ?_⟩
    cases requested
    exact ⟨slot, mapped, empty⟩
  | serve slot op ops mapped ok cells =>
    refine ⟨fun p serving => ?_, by simp [RecvTask.requested]⟩
    cases serving
    have home := queues.mem.mp (cells ▸ List.mem_cons_self : op ∈ rx.mRecvOps slot)
    have front : rx.AtFront op := ⟨slot, home, by rw [cells]; rfl⟩
    exact front.congr rfl home_setStatus

end RecvSide

/-! ## Steps -/

namespace SockScheduler
variable {s t : SockScheduler}

/-- Only a meta message that was read in full writes the remote map. -/
theorem TableStep.mapping {e : Event} (step : TableStep s e t) :
    t.table.mRemoteSocketForkMapping_ = s.table.mRemoteSocketForkMapping_ ∨
      ∃ header token, s.rx.mRecvTask = .control header token := by
  cases step with
  | quiet table held faults => exact .inl (by rw [table])
  | initiated slot table held faults => exact .inl (by rw [table]; rfl)
  | forked session slot slotHeld table held faults =>
    refine .inl ?_
    rw [table]
    exact ForkTable.emplace_remote
  | remote header token task size full table held faults => exact .inr ⟨header, token, task⟩

/-- The slot of a posted receive and the slots that frames are mapped to. -/
theorem heldSlot_remote (ids : s.table.IdsOk) (remotes : s.table.RemotesOk)
    {session : UInt64 × UInt64} {slot : Nat} (held : s.heldSlot session = some slot) :
    (∀ i, s.table.mRemoteSocketForkMapping_ (s.table.fork slot).mRemoteId = some i → i = slot) ∧
      ∀ k, k ≠ (s.table.fork slot).mRemoteId →
        s.table.mRemoteSocketForkMapping_ k ≠ some slot := by
  have found : s.table.mSocketForks_[slot]? = some (s.table.fork slot) := by
    unfold heldSlot at held
    split at held
    · exact (ids.get held).1
    · cases held
  constructor
  · intro i mapped
    obtain ⟨f, there, key, assigned⟩ := (remotes _ i).mp mapped
    have here := (remotes _ slot).mpr ⟨_, found, rfl, assigned⟩
    rw [mapped, Option.some.injEq] at here
    exact here
  · intro k differs mapped
    exact differs (remotes.get mapped).2.1.symm

theorem front_recvStep {e : Event} (inv : BaseInv s) (remotes : s.table.RemotesOk)
    (front : s.rx.FrontOk s.table) (table : TableStep s e t) (step : RecvStep s e t) :
    t.rx.FrontOk t.table := by
  have kept : ∀ {rx : RecvSide}, rx.FrontOk s.table → (∀ header token, s.rx.mRecvTask = .control header token →
      rx.mRecvTask.requested = none) → rx.FrontOk t.table := by
    intro rx ok away
    rcases table.mapping with same | ⟨header, token, task⟩
    · exact ok.mapping same
    · exact ⟨ok.serving, by simp [away header token task]⟩
  have control : ∀ header token, s.rx.mRecvTask = .control header token →
      s.rx.mRecvTask.requested = none := by
    intro header token task
    rw [task]
    rfl
  have started := inv.recv.task.servesStarted
  cases step with
  | quiet rx mEC nextOp =>
    rw [rx]
    exact kept front control
  | woken code error rx first failed nextOp =>
    rw [rx]
    refine kept (front.wakeError code) fun header token task => ?_
    simp [RecvSide.wakeError, task, RecvTask.requested]
  | rejected session buffer token ec error rx mEC nextOp =>
    rw [rx]
    exact kept (front.congr rfl rfl fun _ => rfl) control
  | posted session buffer token slot held ok rx mEC nextOp =>
    obtain ⟨mine, other⟩ := heldSlot_remote inv.ids remotes held
    have logged : (s.rx.log (.posted s.nextOp session)).FrontOk s.table :=
      front.congr rfl rfl (RecvSide.home_log _)
    have fresh : ∀ p, s.rx.mRecvTask.serving = some p → p ≠ s.nextOp := by
      intro p serving
      obtain ⟨i, home, _⟩ := front.serving p serving
      exact Nat.ne_of_lt (inv.recv.queues.bound home).1
    obtain ⟨queued, begun⟩ := logged.enqueue started fresh (s.table.fork slot).mRemoteId mine other
      buffer
    have same : t.table.mRemoteSocketForkMapping_ = s.table.mRemoteSocketForkMapping_ := by
      cases table with
      | quiet table held faults => rw [table]
      | initiated slot table held faults => rw [table]; rfl
    rw [rx]
    exact (queued.arm begun s.nextOp token).mapping same
  | stopped op armed rx frame =>
    rw [rx, frame.table]
    exact front.stop started op _
  | closed r task error rx frame =>
    rw [rx]
    exact .idle rfl rfl
  | header r task ok rx frame =>
    rw [rx]
    exact .idle rfl rfl
  | abandoned f e task awaits frame => exact awaits.front
  | body f op task fits rx frame =>
    rw [rx]
    refine ⟨fun p serving => ?_, by simp [RecvTask.requested]⟩
    cases serving
    have given := front.serving op (by rw [task]; rfl)
    exact given.congr rfl (RecvSide.home_modify rfl fun _ => rfl)
  | mismatch f op task misfits awaits frame => exact awaits.front
  | headerFailed x call task failed awaits frame => exact awaits.front
  | control x call token task size full control rx frame =>
    rw [rx]
    exact .idle rfl rfl
  | data x call token task size full data request frame =>
    rw [frame.table]
    exact request.front (inv.recv.queues.log _)
  | refused x call header token task size full table code faults init error awaits mEC nextOp table'
      faults' =>
    exact awaits.front
  | accepted x call header token task size full table code faults init ok rx mEC nextOp table'
      faults' =>
    rw [rx]
    exact .idle rfl rfl
  | filled x call f op token task size awaits frame => exact awaits.front

end SockScheduler
end Coproto
