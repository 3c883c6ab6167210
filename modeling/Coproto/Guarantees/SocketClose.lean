import Coproto.Guarantees.ErrorDrain

/-!
# What Socket::close completes

SocketScheduler.h:668-722, 1142-1174, Socket.h:225-231. `close` reaches the transport only: the
operations are failed by whichever task has a call in flight or starts one. A receive task that is
parked on a frame starts none; if the send task is parked as well, nothing wakes it.
-/
namespace Coproto
open SockScheduler Runs Traces

instance (s : SockScheduler) : Decidable s.Quiescent := inferInstanceAs (Decidable (_ ∧ _ ∧ _))

/-- A closed transport: every call returns an error. -/
def CallsFail : Event → Prop
  | .sendReturned ec _ => ec.isError = true
  | .recvReturned ec _ _ => ec.isError = true
  | _ => True

instance (e : Event) : Decidable (CallsFail e) := by
  rcases e with ⟨⟩ <;> dsimp only [CallsFail] <;> infer_instance

/-- After the close: the transport fails, and the queues are kept. -/
def AfterClose (s : SockScheduler) (e : Event) : Prop := KeepsQueues s e ∧ CallsFail e

instance (s : SockScheduler) (e : Event) : Decidable (AfterClose s e) :=
  inferInstanceAs (Decidable (_ ∧ _))

/-- The receive task waits for a receive of one fork, and the send task for a send. -/
def BothParked (s : SockScheduler) : Prop :=
  s.rx.mGetRequestedRecvSocketFork.isSome = true ∧ s.tx.mNextSendOp = true

instance (s : SockScheduler) : Decidable (BothParked s) := inferInstanceAs (Decidable (_ ∧ _))

/-- What was pending in `s₀` has completed with an error in `s`, where nothing is pending. -/
structure CloseComplete (s₀ s : SockScheduler) : Prop where
  idle : ∀ op, ¬ s.Pending op
  sends : ∀ op, (s₀.tx.ops op).isSome = true → ∃ e, .completed op (some e) ∈ s.tx.trace
  recvs : ∀ op, (s₀.rx.ops op).isSome = true → ∃ e data, .completed op (some e) data ∈ s.rx.trace

/-- An observation of a direction whose calls fail: what completes has an error. -/
def SendObs.Fails : SendObs → Prop
  | .completed _ error => error.isSome = true
  | _ => True

def RecvObs.Fails : RecvObs → Prop
  | .completed _ error _ => error.isSome = true
  | _ => True

namespace SockScheduler
variable {s t : SockScheduler} {e : Event}

/-! ## One step of a closed transport -/

theorem recvStep_fails (step : RecvStep s e t) (closed : CallsFail e) :
    Appends RecvObs.Fails s.rx.trace t.rx.trace := by
  have drained : ∀ {rx : RecvSide} {ops ec}, Appends RecvObs.Fails rx.trace (rx.close ops ec).trace :=
    RecvSide.appends_close _ (fun _ _ _ => trivial) fun _ _ _ => rfl
  -- an awaiter that is entered with an error drains
  have awaited : ∀ {rx rx' : RecvSide} {mEC slots ec}, rx.Await mEC slots ec rx' →
      Appends RecvObs.Fails rx.trace rx'.trace := by
    intro rx rx' mEC slots ec awaits
    cases awaits with
    | shut failed code same => exact drained
    | next ok num => exact .refl
    | park ok num => exact .refl
  have finished : ∀ {rx : RecvSide} {op ec}, ec.isError = true →
      Appends RecvObs.Fails rx.trace (rx.finish op ec).trace := by
    intro rx op ec error
    refine RecvSide.appends_finish (fun _ => trivial) (fun _ _ _ => rfl) fun ok => ?_
    rw [error] at ok
    cases ok
  cases step with
  | quiet rx mEC nextOp => exact .of_eq (by rw [rx])
  | woken code error rx first failed nextOp => exact .of_eq (by rw [rx, RecvSide.trace_wakeError])
  | rejected session buffer token ec error rx mEC nextOp =>
    rw [rx]
    exact RecvSide.appends_reject session trivial trivial rfl
  | posted session buffer token slot held ok rx mEC nextOp =>
    rw [rx]
    have logged : Appends RecvObs.Fails s.rx.trace (s.rx.log (.posted s.nextOp session)).trace :=
      .one trivial
    have queued : Appends RecvObs.Fails s.rx.trace
        ((s.rx.log (.posted s.nextOp session)).enqueue slot (s.table.fork slot).mRemoteId s.nextOp
          buffer).trace := logged.trans (.of_eq (RecvSide.trace_enqueue _ _ _))
    exact queued.trans (RecvSide.appends_arm token trivial trivial fun _ _ => rfl)
  | stopped op armed rx frame =>
    rw [rx]
    exact RecvSide.appends_stop _ trivial trivial fun _ _ => rfl
  | closed r task error rx frame => exact .of_eq (by rw [rx]; rfl)
  | header r task ok rx frame => exact .of_eq (by rw [rx]; rfl)
  | abandoned f e task awaits frame => exact awaited awaits
  | body f op task fits rx frame => exact .of_eq (by rw [rx]; rfl)
  | mismatch f op task misfits awaits frame =>
    have failed : Appends RecvObs.Fails s.rx.trace
        (((s.rx.asSpan op f.header.mSize.toNat).renew s.nextStop).finish op
          Code.badBufferSize).trace := finished rfl
    exact failed.trans (awaited awaits)
  | headerFailed x call task failed awaits frame =>
    have logged : Appends RecvObs.Fails s.rx.trace (s.rx.log (.header x)).trace := .one trivial
    exact logged.trans (awaited awaits)
  | control x call token task size full control rx frame =>
    rw [rx]
    exact .one trivial
  | data x call token task size full data request frame =>
    have error : x.ec.isError = true := call ▸ closed
    rw [full.1] at error
    cases error
  | refused x call header token task size full table code faults init error awaits mEC nextOp =>
    have logged : Appends RecvObs.Fails s.rx.trace (s.rx.log (.header x)).trace := .one trivial
    exact logged.trans (awaited awaits)
  | accepted x call header token task size full table code faults init ok rx mEC nextOp =>
    rw [rx]
    exact .one trivial
  | @filled _ ec bt bytes x call f op token task size awaits frame =>
    have logged : Appends RecvObs.Fails s.rx.trace (s.rx.log (.body op f.call x)).trace := .one trivial
    have filled : Appends RecvObs.Fails s.rx.trace
        ((((s.rx.log (.body op f.call x)).fill op bytes).renew s.nextStop).finish op ec).trace :=
      logged.trans (finished closed)
    exact filled.trans (awaited awaits)

theorem sendStep_fails (step : SendStep s e t) (closed : CallsFail e) :
    Appends SendObs.Fails s.tx.trace t.tx.trace := by
  cases step with
  | quiet tx mEC nextOp => exact .of_eq (by rw [tx])
  | woken tx first failed nextOp => exact .of_eq (by rw [tx, SendSide.trace_wakeError])
  | rejected session data token ec error tx mEC nextOp =>
    rw [tx]
    exact SendSide.appends_reject session data trivial trivial rfl
  | posted session data token slot held full ok tx mEC nextOp =>
    rw [tx]
    have logged : Appends SendObs.Fails s.tx.trace (s.tx.log (.posted s.nextOp session data)).trace :=
      .one trivial
    have queued : Appends SendObs.Fails s.tx.trace
        ((s.tx.log (.posted s.nextOp session data)).enqueue slot s.nextOp data).trace :=
      logged.trans (.of_eq (SendSide.trace_enqueue _ _))
    exact queued.trans (SendSide.appends_arm token trivial trivial rfl)
  | stopped op armed tx mEC nextOp =>
    rw [tx]
    exact SendSide.appends_stop _ trivial trivial rfl
  | closed e task tx mEC nextOp => exact .of_eq (by rw [tx]; rfl)
  | started op part task opening tx mEC nextOp =>
    rw [tx]
    exact .one trivial
  | advanced part part' op token task x call full follows tx mEC nextOp =>
    rw [tx]
    exact .one trivial
  | finished part op token task x call reason awaits mEC nextOp =>
    have error : _ = true := closed
    have logged : Appends SendObs.Fails s.tx.trace (s.tx.log (.xfer op part x)).trace := .one trivial
    refine logged.trans (Appends.trans ?_ (SendSide.appends_await awaits (fun _ _ _ _ => trivial)
      fun _ _ _ _ => rfl))
    refine SendSide.appends_finish (fun _ => trivial) fun o live => ?_
    rw [if_pos error]
    rfl

/-- A task that is parked on a frame was parked on it before. -/
theorem requested_before (step : RecvStep s e t) (closed : CallsFail e)
    (parked : t.rx.mRecvTask.requested ≠ none) : s.rx.mRecvTask.requested ≠ none := by
  have awaited : ∀ {rx rx' : RecvSide} {mEC slots ec}, rx.Await mEC slots ec rx' →
      rx'.mRecvTask.requested = none := by
    intro rx rx' mEC slots ec awaits
    cases awaits with
    | shut failed code same => simp [RecvTask.requested]
    | next ok num => rfl
    | park ok num => rfl
  cases step with
  | quiet rx mEC nextOp => rwa [rx] at parked
  | woken code error rx first failed nextOp =>
    rw [rx] at parked
    unfold RecvSide.wakeError at parked
    split at parked
    · exact absurd rfl parked
    · exact absurd rfl parked
    · exact parked
  | rejected session buffer token ec error rx mEC nextOp => rwa [rx] at parked
  | posted session buffer token slot held ok rx mEC nextOp =>
    rw [rx, RecvSide.arm_mRecvTask] at parked
    unfold RecvSide.enqueue at parked
    split at parked
    · exact absurd rfl parked
    · rename_i frame task
      have before : s.rx.mRecvTask = .getRequested frame none := task
      rw [before]
      intro none
      cases none
    · exact parked
  | stopped op armed rx frame => rwa [rx, RecvSide.stop_mRecvTask] at parked
  | closed r task error rx frame =>
    rw [rx] at parked
    exact absurd rfl parked
  | header r task ok rx frame =>
    rw [rx] at parked
    exact absurd rfl parked
  | abandoned f e task awaits frame => exact absurd (awaited awaits) parked
  | body f op task fits rx frame =>
    rw [rx] at parked
    exact absurd rfl parked
  | mismatch f op task misfits awaits frame => exact absurd (awaited awaits) parked
  | headerFailed x call task failed awaits frame => exact absurd (awaited awaits) parked
  | control x call token task size full control rx frame =>
    rw [rx] at parked
    exact absurd rfl parked
  | data x call token task size full data request frame =>
    have error : x.ec.isError = true := call ▸ closed
    rw [full.1] at error
    cases error
  | refused x call header token task size full table code faults init error awaits mEC nextOp =>
    exact absurd (awaited awaits) parked
  | accepted x call header token task size full table code faults init ok rx mEC nextOp =>
    rw [rx] at parked
    exact absurd rfl parked
  | filled x call f op token task size awaits frame => exact absurd (awaited awaits) parked

theorem waits_before (step : SendStep s e t) (closed : CallsFail e) (flags : s.tx.FlagsOk)
    (parked : t.tx.mSendTask.waits = true) : s.tx.mSendTask.waits = true := by
  cases step with
  | quiet tx mEC nextOp => rwa [tx] at parked
  | woken tx first failed nextOp =>
    rw [tx] at parked
    unfold SendSide.wakeError at parked
    split at parked
    · cases parked
    · exact parked
  | rejected session data token ec error tx mEC nextOp => rwa [tx] at parked
  | posted session data token slot held full ok tx mEC nextOp =>
    rw [tx, SendSide.arm_mSendTask] at parked
    have flags' : (s.tx.log (.posted s.nextOp session data)).FlagsOk := flags
    rcases SendSide.enqueue_cases flags' slot s.nextOp data with ⟨_, woken, _⟩ | ⟨_, same, _⟩
    · rw [woken] at parked
      cases parked
    · rwa [same] at parked
  | stopped op armed tx mEC nextOp => rwa [tx, SendSide.stop_mSendTask] at parked
  | closed e task tx mEC nextOp =>
    rw [tx] at parked
    cases parked
  | started op part task opening tx mEC nextOp =>
    rw [tx] at parked
    cases parked
  | advanced part part' op token task x call full follows tx mEC nextOp =>
    rw [tx] at parked
    cases parked
  | finished part op token task x call reason awaits mEC nextOp =>
    have error : _ = true := closed
    obtain ⟨u, result⟩ : ∃ u, t.tx = u := ⟨_, rfl⟩
    rw [result] at awaits parked
    cases awaits with
    | shut failed => cases parked
    | take op ok begin => cases parked
    | park ok begin =>
      rw [error] at ok
      cases ok.1

/-! ## From the close on -/

/-- What a closed transport keeps, seen from the state `s₀` it was closed in. -/
structure ClosedInv (s₀ s : SockScheduler) : Prop where
  queues : QueuesInv s
  awake : s.rx.mRecvTask.requested = none ∨ s.tx.mSendTask.waits = false
  recvs : Appends RecvObs.Fails s₀.rx.trace s.rx.trace
  sends : Appends SendObs.Fails s₀.tx.trace s.tx.trace

theorem ClosedInv.close {s₀ s₁ : SockScheduler} (inv : QueuesInv s₀) (awake : ¬ BothParked s₀)
    (closes : step s₀ .socketClose = some s₁) : ClosedInv s₀ s₁ := by
  have queues := inv.step (e := .socketClose) ⟨id, id⟩ closes
  cases closes
  refine ⟨queues, ?_, .refl, .refl⟩
  show s₀.rx.mRecvTask.requested = none ∨ s₀.tx.mSendTask.waits = false
  unfold BothParked at awake
  rw [inv.base.recv.flags.requested, show s₀.tx.mNextSendOp = _ from inv.base.send.flags] at awake
  cases requested : s₀.rx.mRecvTask.requested with
  | none => exact .inl rfl
  | some k =>
    right
    apply (Bool.not_eq_true _).mp
    exact fun waits => awake ⟨by rw [requested]; rfl, waits⟩

theorem ClosedInv.step {s₀ : SockScheduler} (inv : ClosedInv s₀ s) (met : AfterClose s e)
    (taken : step s e = some t) : ClosedInv s₀ t := by
  have base := inv.queues.base
  have recv := recvStep base taken
  have send := sendStep base taken
  refine ⟨inv.queues.step met.1 taken, ?_, inv.recvs.trans (recvStep_fails recv met.2),
    inv.sends.trans (sendStep_fails send met.2)⟩
  by_contra parked
  obtain ⟨requested, waits⟩ := not_or.mp parked
  have before := requested_before recv met.2 requested
  have waited := waits_before send met.2 base.send.flags ((Bool.not_eq_false _).mp waits)
  rcases inv.awake with none | busy
  · exact before none
  · rw [busy] at waited
    cases waited

/-- Nothing is left to run and one of the tasks is not parked: nothing is pending. -/
theorem ClosedInv.idle {s₀ : SockScheduler} (inv : ClosedInv s₀ s) (quiet : s.Quiescent)
    (op : OpId) : ¬ s.Pending op := by
  have base := inv.queues.base
  obtain ⟨xs, chain⟩ := inv.queues.chained.chain
  -- the queues are empty when the counter is zero and the list is empty
  have empty : s.rx.mNumRecvs = 0 → s.tx.mSendBufferBegin = none → ¬ s.Pending op := by
    rintro count begin (recv | send)
    · obtain ⟨o, live⟩ := Option.isSome_iff_exists.mp recv
      have member := base.recv.queues.mem.mpr (RecvSide.home_eq_some live)
      have inside := (base.recv.queues.bound (RecvSide.home_eq_some live)).2
      rw [Queues.total_eq_zero.mp (base.recv.counted.symm.trans count) _ inside] at member
      cases member
    · have none : xs = [] := List.head?_eq_none_iff.mp (chain.begin.symm.trans begin)
      have member := chain.mem.mpr send
      rw [none] at member
      cases member
  cases failed : s.mEC.isError with
  | true =>
    have recvs := recvTask_done base.recv failed quiet
    have sends := sendTask_done base.send failed quiet
    have recvTask := base.recv.task
    have sendTask := base.send.task
    simp only [RecvSide.TaskOk, recvs] at recvTask
    simp only [SendSide.TaskOk, sends] at sendTask
    exact empty recvTask.2.2 sendTask.2.2.1
  | false =>
    have unready : s.rx.mRecvTask.ready = false ∧ s.tx.mSendTask.ready = false := by
      constructor
      · refine (Bool.not_eq_true _).mp fun ready => ?_
        have queued := base.recv.ready ready
        rw [quiet.1] at queued
        cases queued
      · refine (Bool.not_eq_true _).mp fun ready => ?_
        have queued := base.send.ready ready
        rw [quiet.1] at queued
        cases queued
    -- without an error neither task has ended, so both are parked
    have sendTask := base.send.task
    have sends : s.tx.mSendTask.waits = true ∧ s.tx.mSendBufferBegin = none := by
      have ready := unready.2
      have call := quiet.2.2
      unfold SendSide.TaskOk at sendTask
      cases task : s.tx.mSendTask with
      | nextSendOp r =>
        rw [task] at sendTask ready
        cases r with
        | none => exact ⟨rfl, sendTask.2.1⟩
        | some r => cases ready
      | sending part op token =>
        rw [task] at call
        cases call
      | done =>
        rw [task] at sendTask
        rw [sendTask.1] at failed
        cases failed
    have recvTask := base.recv.task
    have requested : s.rx.mRecvTask.requested = none := by
      rcases inv.awake with none | busy
      · exact none
      · rw [sends.1] at busy
        cases busy
    have recvs : s.rx.mNumRecvs = 0 := by
      have ready := unready.1
      have call := quiet.2.1
      unfold RecvSide.TaskOk at recvTask
      cases task : s.rx.mRecvTask with
      | anyRecvOp r =>
        rw [task] at recvTask ready
        cases r with
        | none => exact recvTask.2.1
        | some r => cases ready
      | header token =>
        rw [task] at call
        cases call
      | control header token =>
        rw [task] at call
        cases call
      | getRequested frame r =>
        rw [task] at requested ready
        cases r with
        | none => cases requested
        | some r => cases ready
      | body frame op token =>
        rw [task] at call
        cases call
      | done =>
        rw [task] at recvTask
        rw [recvTask.1] at failed
        cases failed
    exact empty recvs sends.2

theorem ClosedInv.complete {s₀ : SockScheduler} (inv : ClosedInv s₀ s) (before : QueuesInv s₀)
    (quiet : s.Quiescent) : CloseComplete s₀ s := by
  have idle := inv.idle quiet
  refine ⟨idle, fun op live => ?_, fun op live => ?_⟩
  · obtain ⟨o, there⟩ := Option.isSome_iff_exists.mp live
    obtain ⟨_, _, _, untouched⟩ := before.sends.untouched there
    have posted : op ∈ s₀.tx.postedOps := Ledger.posted_of_cell before.sends (by simpa using live)
    have gone : s.tx.cell op = none := by
      apply Option.not_isSome_iff_eq_none.mp
      rw [SendSide.isSome_cell]
      exact fun here => idle op (.inr here)
    have once := Ledger.done_once inv.queues.sends (inv.sends.filterMap.subset posted) gone
    obtain ⟨o, shown, names⟩ := List.mem_filterMap.mp (List.count_pos_iff.mp (Nat.lt_of_lt_of_eq Nat.one_pos once.symm))
    cases o with
    | completed p error =>
      cases names
      have fails := (inv.sends.old_or shown).resolve_left (untouched error)
      obtain ⟨e, rfl⟩ := Option.isSome_iff_exists.mp fails
      exact ⟨e, shown⟩
    | _ => cases names
  · obtain ⟨o, there⟩ := Option.isSome_iff_exists.mp live
    obtain ⟨_, _, _, untouched⟩ := before.recvs.untouched there
    have posted : op ∈ s₀.rx.postedOps := Ledger.posted_of_cell before.recvs (by simpa using live)
    have gone : s.rx.cell op = none := by
      apply Option.not_isSome_iff_eq_none.mp
      rw [RecvSide.isSome_cell]
      exact fun here => idle op (.inl here)
    have once := Ledger.done_once inv.queues.recvs (inv.recvs.filterMap.subset posted) gone
    obtain ⟨o, shown, names⟩ := List.mem_filterMap.mp (List.count_pos_iff.mp (Nat.lt_of_lt_of_eq Nat.one_pos once.symm))
    cases o with
    | completed p error data =>
      cases names
      have fails := (inv.recvs.old_or shown).resolve_left (untouched error data)
      obtain ⟨e, rfl⟩ := Option.isSome_iff_exists.mp fails
      exact ⟨e, data, shown⟩
    | _ => cases names

end SockScheduler

/-- `Socket::close` in any state that is reached, unless both tasks are parked, the receive task on
a frame: when nothing is left to run, every operation has completed, what was pending with an
error. -/
theorem close_complete {sid : SessionID} {es fs : List Event} {s₀ s₁ s : SockScheduler}
    (run : Run step KeepsQueues (init sid) es s₀) (awake : ¬ BothParked s₀)
    (closes : step s₀ .socketClose = some s₁) (later : Run step AfterClose s₁ fs s)
    (quiet : s.Quiescent) : CloseComplete s₀ s := by
  have before := QueuesInv.of_run run
  have inv : ClosedInv s₀ s :=
    later.invariant (.close before awake closes) fun _ _ _ inv met taken => inv.step met taken
  exact inv.complete before quiet

/-- A header is read and a send is under way; one more receive and one more send wait. -/
def closingRun : List Event :=
  [.recv SessionID.root.mVal { allowResize := false, size := 1 } .none,
   .recv SessionID.root.mVal { allowResize := false, size := 1 } .none,
   .run .recvTask,
   .send SessionID.root.mVal [1] .none,
   .send SessionID.root.mVal [2] .none,
   .run .sendTask]

/-- Both calls fail, and what is queued then is run. -/
def failingRun : List Event :=
  [.recvReturned Code.operation_aborted 0 (List.replicate 8 0),
   .run .recvTask,
   .sendReturned Code.operation_aborted 0,
   .run .sendTask,
   .run (.completion 0),
   .run (.completion 1),
   .run (.completion 2),
   .run (.completion 3)]

theorem close_complete_closing : ∃ s₀ s, Run step KeepsQueues (init SessionID.root) closingRun s₀ ∧
    s₀.rx.mRecvOps 0 = [0, 1] ∧ s₀.tx.mSendOps 0 = [2, 3] ∧ CloseComplete s₀ s := by
  have reached : (exec step KeepsQueues (init SessionID.root) closingRun).bind (fun s₀ =>
      (step s₀ .socketClose).bind fun s₁ => (exec step AfterClose s₁ failingRun).map fun s =>
        (decide (BothParked s₀), s₀.rx.mRecvOps 0, s₀.tx.mSendOps 0, decide s.Quiescent)) =
      some (false, [0, 1], [2, 3], true) := by
    decide
  obtain ⟨s₀, before, rest⟩ := Option.bind_eq_some_iff.mp reached
  obtain ⟨s₁, closes, rest⟩ := Option.bind_eq_some_iff.mp rest
  obtain ⟨s, after, facts⟩ := Option.map_eq_some_iff.mp rest
  simp only [Prod.mk.injEq, decide_eq_false_iff_not, decide_eq_true_eq] at facts
  obtain ⟨awake, recvs, sends, quiet⟩ := facts
  exact ⟨s₀, s, .of_exec before, recvs, sends,
    close_complete (.of_exec before) awake closes (.of_exec after) quiet⟩

/-- A receive on a fork waits while the frame that has been read is one of the root session. -/
def parkedCloseRun : List Event :=
  [.fork SessionID.root.mVal,
   .recv SessionID.root.derive.1.mVal { allowResize := false, size := 1 } .none,
   .run .recvTask,
   .recvReturned Code.success 8 (Header.bytes ⟨0, 1⟩),
   .recvReturned Code.success 16 (controlBlockBytes SessionID.root),
   .recvReturned Code.success 8 (Header.bytes ⟨1, 1⟩)]

/-- The close changes nothing, and nothing is left to run. -/
theorem parked_close_incomplete : ¬ ∀ es fs s₀ s₁ s,
    Run step KeepsQueues (init SessionID.root) es s₀ → step s₀ .socketClose = some s₁ →
      Run step AfterClose s₁ fs s → s.Quiescent → CloseComplete s₀ s := by
  intro complete
  have reached : (exec step KeepsQueues (init SessionID.root) parkedCloseRun).bind (fun s₀ =>
      (step s₀ .socketClose).map fun s => (decide (s.Pending 0), decide s.Quiescent)) =
      some (true, true) := by
    decide
  obtain ⟨s₀, before, rest⟩ := Option.bind_eq_some_iff.mp reached
  obtain ⟨s, closes, facts⟩ := Option.map_eq_some_iff.mp rest
  simp only [Prod.mk.injEq, decide_eq_true_eq] at facts
  exact (complete _ _ s₀ s s (.of_exec before) closes .nil facts.2).idle 0 facts.1

end Coproto
