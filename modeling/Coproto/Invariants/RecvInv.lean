import Coproto.Invariants.Paths
import Coproto.Invariants.ForkTable

/-!
# The receive task and what it works on

Where the receive task is decides the parking flags, the status and what is
known of the queues; `RecvInv` is kept by every event, whatever the peer sends
and however the transport calls return.
-/
namespace Coproto

/-- An operation that is queued and has been started. -/
def RecvSide.Started (rx : RecvSide) (op : OpId) : Prop :=
  ∃ o, rx.ops op = some o ∧ o.mStatus ≠ .NotStarted

/-- What holds while the receive task is where it is. -/
def RecvSide.TaskOk (rx : RecvSide) (mEC : ErrorCode) : Prop :=
  match rx.mRecvTask with
  | .anyRecvOp none => rx.mRecvStatus = .Idle ∧ rx.mNumRecvs = 0 ∧ mEC.isError = false
  | .anyRecvOp (some r) =>
    if r.isError then mEC.isError = true ∧ rx.mRecvStatus ≠ .InUse ∧ rx.mNumRecvs = 0
    else rx.mRecvStatus = .InUse
  | .header _ => rx.mRecvStatus = .InUse
  | .control _ _ => rx.mRecvStatus = .InUse
  | .getRequested _ none => rx.mRecvStatus = .RequestedRecvOp ∧ mEC.isError = false
  | .getRequested _ (some (.ok op)) => rx.mRecvStatus = .InUse ∧ rx.Started op
  | .getRequested _ (some (.error e)) => e.isError = true ∧ mEC.isError = true
  | .body _ op _ => rx.mRecvStatus = .InUse ∧ rx.Started op
  | .done => mEC.isError = true ∧ rx.mRecvStatus ≠ .InUse ∧ rx.mNumRecvs = 0

structure RecvInv (s : SockScheduler) : Prop where
  flags : s.rx.FlagsOk
  ready : s.rx.mRecvTask.ready = true → .recvTask ∈ s.queued
  queues : s.rx.QueuesOk s.nextOp s.table.mSocketForks_.length
  counted : s.rx.Counted s.table.mSocketForks_.length
  task : s.rx.TaskOk s.mEC

namespace RecvSide
variable {rx rx' : RecvSide} {op : OpId} {mEC : ErrorCode}

/-- The receive task is not parked. -/
def Busy (rx : RecvSide) : Prop :=
  rx.mRecvTask.waitsAny = false ∧ rx.mRecvTask.requested = none

theorem wakeError_busy (busy : rx.Busy) (e : ErrorCode) : rx.wakeError e = rx := by
  obtain ⟨any, requested⟩ := busy
  unfold wakeError
  split
  · rename_i task
    simp [task, RecvTask.waitsAny] at any
  · rename_i task
    simp [task, RecvTask.requested] at requested
  · rfl

theorem flagsOk_of_busy (busy : rx.Busy) (running : rx.Running) : rx.FlagsOk :=
  ⟨running.1.trans busy.1.symm, running.2.trans busy.2.symm⟩

theorem running_of_busy (busy : rx.Busy) (flags : rx.FlagsOk) : rx.Running :=
  ⟨flags.anyRecvOp.trans busy.1, flags.requested.trans busy.2⟩

/-- A write to one operation does not unstart others, nor itself unless it says so. -/
theorem Started.modify {p : OpId} {f : RecvOperation → RecvOperation}
    (started : rx.Started p) (ops : rx'.ops = rx.ops.modify op f)
    (keeps : ∀ o, o.mStatus ≠ .NotStarted → (f o).mStatus ≠ .NotStarted) : rx'.Started p := by
  obtain ⟨o, live, status⟩ := started
  by_cases same : p = op
  · refine ⟨f o, ?_, keeps o status⟩
    rw [ops, same, Heap.modify_self, ← same, live]
    rfl
  · exact ⟨o, by rw [ops, Heap.modify_of_ne same, live], status⟩

theorem Started.setReg {p : OpId} (started : rx.Started p) (op : OpId) (reg : StopCallback) :
    (rx.setReg op reg).Started p :=
  started.modify rfl fun _ h => h

theorem Started.setStatus {p : OpId} (started : rx.Started p) (op : OpId) {status : OpStatus}
    (goes : status ≠ .NotStarted) : (rx.setStatus op status).Started p :=
  started.modify rfl fun _ _ => goes

end RecvSide

namespace SockScheduler
variable {s t : SockScheduler}

/-! ## cancel by the receive task -/

theorem cancel_recver_rx (flags : s.rx.FlagsOk) (tx : s.tx.FlagsOk) (busy : s.rx.Busy)
    (ec : ErrorCode) : (s.cancel .Recver ec).rx = s.rx.close s.queuedRecvs ec := by
  have requested : s.rx.mGetRequestedRecvSocketFork = none := flags.requested.trans busy.2
  cases failed : s.mEC.isError with
  | true => simp only [cancel, failed, if_true, drainRecvs_rx]; rfl
  | false =>
    have drain : (s.enterError .Recver ec).2 = ec := by simp [enterError, check, requested]
    simp only [cancel, failed, Bool.false_eq_true, if_false, drainRecvs_rx, drain]
    rw [enterError_eq .Recver ec flags tx]
    simp only [RecvSide.wakeError_busy busy]
    rfl

theorem cancel_recver_mEC (flags : s.rx.FlagsOk) (tx : s.tx.FlagsOk) (ec : ErrorCode) :
    (s.cancel .Recver ec).mEC = if s.mEC.isError then s.mEC else ec := by
  have drained : ∀ (m : SockScheduler) ops e, ({ m.drainRecvs ops e with rx.mNumRecvs := 0 } :
      SockScheduler).mEC = m.mEC := fun m ops e => (drainRecvs_onlyRecv m ops e).mEC
  cases failed : s.mEC.isError with
  | true =>
    simp only [cancel, failed, if_true]
    exact drained _ _ _
  | false =>
    simp only [cancel, failed, Bool.false_eq_true, if_false]
    refine (drained _ _ _).trans ?_
    rw [enterError_eq .Recver ec flags tx]

/-! ## AnyRecvOp -/

namespace AnyRecvOp

theorem prev_onlyRecv (prevOp : Option OpId) (ec : ErrorCode) :
    OnlyRecv s (prev s prevOp ec).1 := by
  cases prevOp with
  | none => exact .refl
  | some op => exact completePrev_onlyRecv s op ec

/-- Completing the previous operation keeps the flags and where the task is. -/
theorem prev_task (prevOp : Option OpId) (ec : ErrorCode) :
    (prev s prevOp ec).1.rx.mRecvTask = s.rx.mRecvTask ∧
      (prev s prevOp ec).1.rx.mAnyRecvOp = s.rx.mAnyRecvOp ∧
      (prev s prevOp ec).1.rx.mGetRequestedRecvSocketFork = s.rx.mGetRequestedRecvSocketFork ∧
      (prev s prevOp ec).1.rx.mRecvStatus = s.rx.mRecvStatus := by
  cases prevOp with
  | none => exact ⟨rfl, rfl, rfl, rfl⟩
  | some op =>
    simp only [prev, completePrev_rx, RecvSide.finish]
    split <;> split <;> exact ⟨rfl, rfl, rfl, rfl⟩

/-- The saved error: `code::cancel` once the previous operation has taken it. -/
theorem prev_snd_isError (prevOp : Option OpId) (ec : ErrorCode) :
    (prev s prevOp ec).2.isError = ec.isError := by
  cases prevOp with
  | none => rfl
  | some op =>
    simp only [prev, completePrev]
    cases h : ec.isError <;> simp [h]

theorem prev_queues (prevOp : Option OpId) (ec : ErrorCode) {nextOp slots : Nat}
    (queues : s.rx.QueuesOk nextOp slots) : (prev s prevOp ec).1.rx.QueuesOk nextOp slots := by
  cases prevOp with
  | none => exact queues
  | some op =>
    simp only [prev, completePrev_rx]
    split
    · have renewed : s.resetRecvToken.rx.QueuesOk nextOp slots := queues.congr rfl fun _ => rfl
      exact renewed.finish
    · exact RecvSide.QueuesOk.finish queues

theorem prev_counted {prevOp : Option OpId} (ec : ErrorCode) {nextOp slots : Nat}
    (queues : s.rx.QueuesOk nextOp slots) (counted : s.rx.Counted slots)
    (live : ∀ op, prevOp = some op → (s.rx.ops op).isSome) :
    (prev s prevOp ec).1.rx.Counted slots := by
  cases prevOp with
  | none => exact counted
  | some op =>
    obtain ⟨o, found⟩ := Option.isSome_iff_exists.mp (live op rfl)
    have home := RecvSide.home_eq_some found
    simp only [prev, completePrev_rx]
    split
    · have renewed : s.resetRecvToken.rx.QueuesOk nextOp slots := queues.congr rfl fun _ => rfl
      have counted' : s.resetRecvToken.rx.Counted slots := counted
      exact counted'.finish renewed home
    · exact RecvSide.Counted.finish counted queues home

/-- The state in which the awaiter calls `cancel`. -/
def failing (s : SockScheduler) (prevOp : Option OpId) (ec : ErrorCode) : SockScheduler :=
  { (prev s prevOp ec).1 with rx.mRecvTask := .anyRecvOp (some Code.cancel) }

theorem failing_busy (prevOp : Option OpId) (ec : ErrorCode) : (failing s prevOp ec).rx.Busy :=
  ⟨rfl, rfl⟩

theorem failing_flags (prevOp : Option OpId) (ec : ErrorCode) (running : s.rx.Running) :
    (failing s prevOp ec).rx.FlagsOk := by
  obtain ⟨_, any, requested, _⟩ := prev_task (s := s) prevOp ec
  exact RecvSide.flagsOk_of_busy (failing_busy prevOp ec)
    ⟨any.trans running.1, requested.trans running.2⟩

theorem failing_onlyRecv (prevOp : Option OpId) (ec : ErrorCode) :
    OnlyRecv s (failing s prevOp ec) :=
  (prev_onlyRecv prevOp ec).trans (onlyRecv_of_rx rfl)

/-- The receive side after the awaiter has closed it. -/
theorem failed_shape (prevOp : Option OpId) (ec : ErrorCode) (running : s.rx.Running)
    (tx : s.tx.FlagsOk) : ∃ queues heap trace,
    ((failing s prevOp ec).cancel .Recver (prev s prevOp ec).2).rx =
      { (failing s prevOp ec).rx with
        mRecvStatus := .Closed
        mNumRecvs := 0
        mRecvOps := queues
        ops := heap
        trace := trace } := by
  rw [cancel_recver_rx (failing_flags prevOp ec running)
    ((failing_onlyRecv (s := s) prevOp ec).tx ▸ tx) (failing_busy prevOp ec)]
  exact RecvSide.close_shape _ _ _

/-- The three ways on: close, look at the next header, park. -/
theorem awaitSuspend_cases (prevOp : Option OpId) (ec : ErrorCode) :
    ((ec.isError = true ∨ s.mEC.isError = true) ∧
      awaitSuspend s prevOp ec =
        ((failing s prevOp ec).cancel .Recver (prev s prevOp ec).2).push .recvTask) ∨
    ((ec.isError = false ∧ s.mEC.isError = false) ∧ (prev s prevOp ec).1.rx.mNumRecvs ≠ 0 ∧
      awaitSuspend s prevOp ec = ({ (prev s prevOp ec).1 with
        rx.mRecvTask := .anyRecvOp (some Code.success) } : SockScheduler).push .recvTask) ∨
    ((ec.isError = false ∧ s.mEC.isError = false) ∧ (prev s prevOp ec).1.rx.mNumRecvs = 0 ∧
      awaitSuspend s prevOp ec = { (prev s prevOp ec).1 with
        rx.mRecvStatus := .Idle
        rx.mAnyRecvOp := true
        rx.mRecvTask := .anyRecvOp none }) := by
  have mEC := (prev_onlyRecv (s := s) prevOp ec).mEC
  have error := prev_snd_isError (s := s) prevOp ec
  rw [← error, ← mEC]
  simp only [awaitSuspend]
  by_cases failed : (prev s prevOp ec).2.isError = true ∨ (prev s prevOp ec).1.mEC.isError = true
  · rw [if_pos failed]
    exact .inl ⟨failed, rfl⟩
  · rw [if_neg failed]
    simp only [not_or, Bool.not_eq_true] at failed
    by_cases num : (prev s prevOp ec).1.rx.mNumRecvs = 0
    · exact .inr (.inr ⟨failed, num, by simp [num]⟩)
    · exact .inr (.inl ⟨failed, num, by simp [num]⟩)

theorem awaitSuspend_path (prevOp : Option OpId) (ec : ErrorCode) (running : s.rx.Running) :
    RecvPath s (awaitSuspend s prevOp ec) := by
  have start := prev_onlyRecv (s := s) prevOp ec
  rcases awaitSuspend_cases (s := s) prevOp ec with
    ⟨failed, result⟩ | ⟨_, _, result⟩ | ⟨_, _, result⟩ <;> rw [result]
  · have path := cancel_recver_path (prev s prevOp ec).2
      (failing_flags prevOp ec running) ?_
    · exact (path.of_quiet (failing_onlyRecv prevOp ec)).trans_quiet
        (onlyRecv_of_queued [.recvTask] rfl rfl (by simp))
    · intro first
      rw [(failing_onlyRecv prevOp ec).mEC] at first
      rw [prev_snd_isError]
      exact failed.resolve_right (by simp [first])
  · exact .quiet (start.trans (onlyRecv_of_queued [.recvTask] rfl rfl (by simp)))
  · exact .quiet (start.trans (onlyRecv_of_rx rfl))

end AnyRecvOp

/-! ## GetRequestedRecvSocketFork -/

namespace GetRequestedRecvSocketFork

/-- The ways on: refuse an unknown slot id, give up after an error, park, or
take the front of the fork. -/
theorem awaitSuspend_cases (frame : Frame) :
    (s.table.mRemoteSocketForkMapping_ frame.header.mForkId = none ∧
      awaitSuspend s frame = ({ s.cancel .Recver Code.badCoprotoMessageHeader with
        rx.mRecvTask := .getRequested frame
          (some (.error (s.cancel .Recver Code.badCoprotoMessageHeader).mEC)) } :
        SockScheduler).push .recvTask) ∨
    ∃ slot, s.table.mRemoteSocketForkMapping_ frame.header.mForkId = some slot ∧
      ((s.mEC.isError = true ∧ awaitSuspend s frame = ({ s with
          rx.mRecvTask := .getRequested frame (some (.error s.mEC)) } :
          SockScheduler).push .recvTask) ∨
       (s.mEC.isError = false ∧ s.rx.mRecvOps slot = [] ∧ awaitSuspend s frame = { s with
          rx.mRecvStatus := .RequestedRecvOp
          rx.mGetRequestedRecvSocketFork := some frame.header.mForkId
          rx.mRecvTask := .getRequested frame none }) ∨
       (s.mEC.isError = false ∧ ∃ op ops, s.rx.mRecvOps slot = op :: ops ∧
          awaitSuspend s frame = ({ s.recvSetStatus op .InProgress with
            rx.mRecvTask := .getRequested frame (some (.ok op)) } : SockScheduler).push .recvTask)) := by
  unfold awaitSuspend
  cases mapped : s.table.mRemoteSocketForkMapping_ frame.header.mForkId with
  | none => exact .inl ⟨rfl, rfl⟩
  | some slot =>
    refine .inr ⟨slot, rfl, ?_⟩
    cases failed : s.mEC.isError with
    | true => exact .inl ⟨rfl, by simp only [if_true]⟩
    | false =>
      refine .inr ?_
      cases cells : s.rx.mRecvOps slot with
      | nil => exact .inl ⟨rfl, rfl, by simp only [cells]; rfl⟩
      | cons op ops => exact .inr ⟨rfl, op, ops, rfl, by simp only [cells]; rfl⟩

theorem awaitSuspend_path (frame : Frame) (flags : s.rx.FlagsOk) :
    RecvPath s (awaitSuspend s frame) := by
  rcases awaitSuspend_cases (s := s) frame with
    ⟨_, result⟩ | ⟨slot, _, ⟨_, result⟩ | ⟨_, _, result⟩ | ⟨_, op, ops, _, result⟩⟩ <;> rw [result]
  · exact (cancel_recver_path _ flags fun _ => rfl).trans_quiet
      (onlyRecv_of_queued [.recvTask] rfl rfl (by simp))
  · exact .quiet (onlyRecv_of_queued [.recvTask] rfl rfl (by simp))
  · exact .quiet (onlyRecv_of_rx rfl)
  · exact .quiet (onlyRecv_of_queued [.recvTask] rfl rfl (by simp))

end GetRequestedRecvSocketFork
end SockScheduler

/-! ## The invariant is kept -/

namespace RecvSide
variable {rx : RecvSide} {mEC mEC' e : ErrorCode}

theorem wakeError_flags (flags : rx.FlagsOk) (e : ErrorCode) : (rx.wakeError e).FlagsOk := by
  obtain ⟨any, requested⟩ := flags
  unfold wakeError
  split
  · rename_i task
    rw [task] at requested
    exact ⟨rfl, requested⟩
  · rename_i task
    rw [task] at any
    exact ⟨any, rfl⟩
  · exact ⟨any, requested⟩

theorem TaskOk.wakeError (ok : rx.TaskOk mEC) (error : e.isError = true) (failed : mEC'.isError = true) :
    (rx.wakeError e).TaskOk mEC' := by
  unfold RecvSide.wakeError
  unfold TaskOk at ok
  split
  · rename_i task
    simp only [task] at ok
    simp [TaskOk, failed, ok]
  · rename_i task
    simp only [task] at ok
    simp [TaskOk, failed, error]
  · rename_i any requested
    unfold TaskOk
    split at ok <;> simp_all
    split at ok <;> simp_all

theorem ready_wakeError (rx : RecvSide) (e : ErrorCode) (ready : (rx.wakeError e).mRecvTask.ready = true) :
    rx.mRecvTask.ready = true ∨ rx.mRecvTask.waitsAny = true ∨
      rx.mRecvTask.requested.isSome = true := by
  unfold wakeError at ready
  split at ready
  · rename_i task
    simp [task, RecvTask.waitsAny]
  · rename_i task
    simp [task, RecvTask.requested]
  · exact .inl ready

@[simp] theorem wakeError_mRecvOps (e : ErrorCode) : (rx.wakeError e).mRecvOps = rx.mRecvOps := by
  unfold wakeError
  split <;> rfl

@[simp] theorem wakeError_ops (e : ErrorCode) : (rx.wakeError e).ops = rx.ops := by
  unfold wakeError
  split <;> rfl

@[simp] theorem wakeError_mNumRecvs (e : ErrorCode) : (rx.wakeError e).mNumRecvs = rx.mNumRecvs := by
  unfold wakeError
  split <;> rfl

end RecvSide

namespace RecvInv
open SockScheduler
variable {s t : SockScheduler}

theorem total_mono {rx : RecvSide} {nextOp slots slots' : Nat} (ok : rx.QueuesOk nextOp slots)
    (grown : slots ≤ slots') : Queues.total slots' rx.mRecvOps = Queues.total slots rx.mRecvOps := by
  obtain ⟨n, rfl⟩ := Nat.exists_eq_add_of_le grown
  clear grown
  induction n with
  | zero => rfl
  | succ n ih => rw [← ih]; exact Queues.total_succ (ok.empty_of_unused (Nat.le_add_right _ n))

/-- Work that the receive direction does not see, and new operations and slots. -/
theorem congr (inv : RecvInv s) (rx : t.rx = s.rx) (mEC : t.mEC = s.mEC) (nextOp : s.nextOp ≤ t.nextOp)
    (slots : s.table.mSocketForks_.length ≤ t.table.mSocketForks_.length)
    (queued : .recvTask ∈ s.queued → .recvTask ∈ t.queued) : RecvInv t where
  flags := rx ▸ inv.flags
  ready h := queued (inv.ready (rx ▸ h))
  queues := rx ▸ inv.queues.mono nextOp slots
  counted := by
    rw [RecvSide.Counted, rx, total_mono inv.queues slots]
    exact inv.counted
  task := by
    rw [rx, mEC]
    exact inv.task

theorem of_sendPath (inv : RecvInv s) (path : SendPath s t) : RecvInv t := by
  have crossing := path.crossing inv.flags
  rcases path.rx_cases inv.flags with ⟨rx, _, mEC, _⟩ | ⟨_, failed, rx, _, _, woken⟩
  · exact inv.congr rx mEC crossing.nextOp.ge (crossing.table ▸ le_rfl) (crossing.queued _)
  · constructor
    · exact rx ▸ RecvSide.wakeError_flags inv.flags _
    · intro ready
      rw [rx] at ready
      rcases s.rx.ready_wakeError _ ready with before | parked
      · exact crossing.queued _ (inv.ready before)
      · exact woken parked
    · rw [rx, crossing.nextOp, crossing.table]
      exact inv.queues.congr (by simp) fun p => by simp [RecvSide.home]
    · rw [rx, crossing.table]
      simpa [RecvSide.Counted] using inv.counted
    · rw [rx]
      exact inv.task.wakeError rfl failed

/-- `close` enters the error state from outside. -/
theorem close (inv : RecvInv s) (tx : s.tx.FlagsOk) : RecvInv s.close := by
  unfold SockScheduler.close
  cases failed : s.mEC.isError with
  | true => simpa only [cancel, failed, if_true] using inv
  | false =>
    simp only [cancel, failed, Bool.false_eq_true, if_false]
    rw [enterError_eq .Extern Code.closed inv.flags tx]
    refine ⟨RecvSide.wakeError_flags inv.flags _, fun ready => ?_, ?_, ?_, ?_⟩
    · rcases s.rx.ready_wakeError _ ready with before | parked
      · exact List.mem_append_left _ (inv.ready before)
      · exact List.mem_append_right _ (List.mem_append_left _ (by simp [parked]))
    · exact inv.queues.congr (by simp) fun p => by simp [RecvSide.home]
    · simpa [RecvSide.Counted] using inv.counted
    · exact inv.task.wakeError rfl rfl

/-- All receives have been failed. -/
theorem cancel_recver {ec : ErrorCode} (flags : s.rx.FlagsOk) (tx : s.tx.FlagsOk) (busy : s.rx.Busy)
    (queues : s.rx.QueuesOk s.nextOp s.table.mSocketForks_.length)
    (error : s.mEC.isError = false → ec.isError = true) {t : SockScheduler}
    (cancelled : s.cancel .Recver ec = t) :
    t.rx.mRecvStatus = .Closed ∧ t.rx.mNumRecvs = 0 ∧ t.mEC.isError = true ∧
      t.rx.mRecvTask = s.rx.mRecvTask ∧ t.rx.Running ∧
      t.nextOp = s.nextOp ∧ t.table = s.table ∧
      t.rx.QueuesOk s.nextOp s.table.mSocketForks_.length ∧ ∀ slot, t.rx.mRecvOps slot = [] := by
  have rx := cancel_recver_rx flags tx busy ec
  have mEC := cancel_recver_mEC flags tx ec
  have crossing := (cancel_recver_path ec flags error).crossing tx
  rw [cancelled] at rx mEC crossing
  have drained := queues.close s.queuedRecvs ec
  have empty := close_all queues ec
  have failed : t.mEC.isError = true := by
    rw [mEC]
    cases h : s.mEC.isError with
    | true => simpa using h
    | false => simpa using error h
  obtain ⟨qs, heap, trace, shape⟩ := s.rx.close_shape s.queuedRecvs ec
  rw [shape] at rx drained empty
  have running := RecvSide.running_of_busy busy flags
  rw [rx]
  exact ⟨rfl, rfl, failed, rfl, running, crossing.nextOp, crossing.table,
    drained.congr rfl fun _ => rfl, empty⟩

theorem counted_of_empty {rx : RecvSide} {slots : Nat} (num : rx.mNumRecvs = 0)
    (empty : ∀ slot, rx.mRecvOps slot = []) : rx.Counted slots := by
  rw [RecvSide.Counted, num]
  exact (Queues.total_eq_zero.mpr fun i _ => empty i).symm

/-- What the receive task has established when it enters `AnyRecvOp`. -/
structure Awaiting (s : SockScheduler) (prevOp : Option OpId) (ec : ErrorCode) : Prop where
  running : s.rx.Running
  tx : s.tx.FlagsOk
  queues : s.rx.QueuesOk s.nextOp s.table.mSocketForks_.length
  counted : s.rx.Counted s.table.mSocketForks_.length
  live : ∀ op, prevOp = some op → (s.rx.ops op).isSome
  status : s.rx.mRecvStatus = .InUse ∨ ec.isError = true ∨ s.mEC.isError = true ∨
    (prevOp = none ∧ s.rx.mNumRecvs = 0)

theorem anyRecvOp {prevOp : Option OpId} {ec : ErrorCode} (start : Awaiting s prevOp ec) :
    RecvInv (AnyRecvOp.awaitSuspend s prevOp ec) := by
  obtain ⟨_, any, requested, status⟩ := AnyRecvOp.prev_task (s := s) prevOp ec
  have prev := AnyRecvOp.prev_onlyRecv (s := s) prevOp ec
  have queues := AnyRecvOp.prev_queues prevOp ec start.queues
  have counted := AnyRecvOp.prev_counted ec start.queues start.counted start.live
  rcases AnyRecvOp.awaitSuspend_cases (s := s) prevOp ec with
    ⟨failed, result⟩ | ⟨ok, num, result⟩ | ⟨ok, num, result⟩ <;> rw [result]
  · have failing := AnyRecvOp.failing_onlyRecv (s := s) prevOp ec
    obtain ⟨t, cancelled⟩ : ∃ t, (AnyRecvOp.failing s prevOp ec).cancel .Recver
      (AnyRecvOp.prev s prevOp ec).2 = t := ⟨_, rfl⟩
    obtain ⟨closed, none, error, task, running, nextOp, table, queues', empty⟩ := cancel_recver
      (AnyRecvOp.failing_flags prevOp ec start.running) (failing.tx ▸ start.tx)
      (AnyRecvOp.failing_busy prevOp ec)
      (by rw [failing.nextOp, failing.table]; exact queues.congr rfl fun _ => rfl)
      (fun first => by
        rw [failing.mEC] at first
        rw [AnyRecvOp.prev_snd_isError]
        exact failed.resolve_right (by simp [first])) cancelled
    have task' : t.rx.mRecvTask = .anyRecvOp (some Code.cancel) := task
    rw [cancelled]
    refine ⟨RecvSide.flagsOk_of_busy ⟨?_, ?_⟩ running, fun _ => by simp [push], ?_,
      counted_of_empty none empty, ?_⟩
    · simp [push, task', RecvTask.waitsAny]
    · simp [push, task', RecvTask.requested]
    · rw [← table, ← nextOp] at queues'
      exact queues'
    · simp [push, RecvSide.TaskOk, task', error, closed, none]
  · refine ⟨⟨any.trans start.running.1, requested.trans start.running.2⟩, fun _ => by simp [push],
      ?_, ?_, ?_⟩
    · rw [← prev.nextOp, ← prev.table] at queues
      exact queues.congr rfl fun _ => rfl
    · rw [← prev.table] at counted
      exact counted
    · rcases start.status with inUse | error | error | ⟨fresh, zero⟩
      · simpa [push, RecvSide.TaskOk] using status.trans inUse
      · simp [error] at ok
      · simp [error] at ok
      · subst fresh
        exact absurd zero num
  · refine ⟨⟨rfl, requested.trans start.running.2⟩, fun ready => by simp [RecvTask.ready] at ready,
      ?_, ?_, ?_⟩
    · rw [← prev.nextOp, ← prev.table] at queues
      exact queues.congr rfl fun _ => rfl
    · rw [← prev.table] at counted
      exact counted
    · exact ⟨rfl, num, prev.mEC ▸ ok.2⟩

theorem getRequested {frame : Frame} (inv : RecvInv s) (busy : s.rx.Busy)
    (inUse : s.rx.mRecvStatus = .InUse) (tx : s.tx.FlagsOk) :
    RecvInv (GetRequestedRecvSocketFork.awaitSuspend s frame) := by
  have running := RecvSide.running_of_busy busy inv.flags
  rcases GetRequestedRecvSocketFork.awaitSuspend_cases (s := s) frame with
    ⟨_, result⟩ | ⟨slot, _, ⟨failed, result⟩ | ⟨ok, _, result⟩ | ⟨_, op, ops, cells, result⟩⟩ <;>
    rw [result]
  · obtain ⟨t, cancelled⟩ : ∃ t, s.cancel .Recver Code.badCoprotoMessageHeader = t := ⟨_, rfl⟩
    obtain ⟨closed, none, error, task, running, nextOp, table, queues, empty⟩ :=
      cancel_recver inv.flags tx busy inv.queues (fun _ => rfl) cancelled
    rw [cancelled]
    refine ⟨⟨running.1, running.2⟩, fun _ => by simp [push], ?_, counted_of_empty none empty, ?_⟩
    · rw [← table, ← nextOp] at queues
      exact queues.congr rfl fun _ => rfl
    · exact ⟨error, error⟩
  · exact ⟨⟨running.1, running.2⟩, fun _ => by simp [push], inv.queues.congr rfl fun _ => rfl,
      inv.counted, failed, failed⟩
  · exact ⟨⟨running.1, rfl⟩, fun ready => by simp [RecvTask.ready] at ready,
      inv.queues.congr rfl fun _ => rfl, inv.counted, rfl, ok⟩
  · have home := inv.queues.mem.mp (cells ▸ List.mem_cons_self : op ∈ s.rx.mRecvOps slot)
    have queues := inv.queues.setStatus op .InProgress
    refine ⟨⟨running.1, running.2⟩, fun _ => by simp [push], queues.congr rfl fun _ => rfl,
      inv.counted, inUse, ?_⟩
    obtain ⟨o, live, _⟩ := Option.map_eq_some_iff.mp home
    exact ⟨{ o with mStatus := .InProgress }, by
      simp [push, recvSetStatus, RecvSide.setStatus, live], by simp⟩

theorem isSome_of_started {rx : RecvSide} {op : OpId} (started : rx.Started op) :
    (rx.ops op).isSome := by
  obtain ⟨o, live, _⟩ := started
  simp [live]

/-- The receive task is resumed. -/
theorem receiveDataTask (inv : RecvInv s) (tx : s.tx.FlagsOk) {queued : List Callback}
    (same : t = { s with queued := queued }) : RecvInv t.receiveDataTask := by
  have rx : t.rx = s.rx := by rw [same]
  have queues : t.rx.QueuesOk t.nextOp t.table.mSocketForks_.length := by rw [same]; exact inv.queues
  have counted : t.rx.Counted t.table.mSocketForks_.length := by rw [same]; exact inv.counted
  have flags : t.rx.FlagsOk := rx ▸ inv.flags
  have taskOk : t.rx.TaskOk t.mEC := by rw [same]; exact inv.task
  have txOk : t.tx.FlagsOk := by rw [same]; exact tx
  have any := flags.anyRecvOp
  have requested := flags.requested
  unfold SockScheduler.receiveDataTask
  unfold RecvSide.TaskOk at taskOk
  cases task : t.rx.mRecvTask with
  | anyRecvOp mRes =>
    rw [task] at any requested
    simp only [task] at taskOk
    cases mRes with
    | none => exact ⟨flags, by simp [task, RecvTask.ready], queues, counted, by
        simp only [RecvSide.TaskOk, task]; exact taskOk⟩
    | some r =>
      dsimp only at taskOk ⊢
      split
      · rename_i error
        simp only [error, if_true] at taskOk
        exact ⟨⟨any, requested⟩, by simp [RecvTask.ready], queues.congr rfl fun _ => rfl, counted,
          taskOk⟩
      · rename_i ok
        simp only [ok] at taskOk
        exact ⟨⟨any, requested⟩, by simp [recvHeader, RecvTask.ready],
          queues.congr rfl fun _ => rfl, counted, taskOk⟩
  | getRequested frame mRes =>
    rw [task] at any requested
    simp only [task] at taskOk
    cases mRes with
    | none => exact ⟨flags, by simp [task, RecvTask.ready], queues, counted, by
        simp only [RecvSide.TaskOk, task]; exact taskOk⟩
    | some r =>
      cases r with
      | error e =>
        exact anyRecvOp ⟨⟨any, requested⟩, txOk, queues, counted, by simp, .inr (.inl taskOk.1)⟩
      | ok op =>
        obtain ⟨inUse, started⟩ := taskOk
        have kept : (t.rx.asSpan op frame.header.mSize.toNat).Started op :=
          started.modify rfl fun _ h => h
        dsimp only
        split
        · exact ⟨⟨any, requested⟩, by simp [RecvTask.ready], (queues.asSpan _ _).congr rfl fun _ => rfl,
            counted, inUse, kept⟩
        · refine anyRecvOp ⟨⟨any, requested⟩, txOk, queues.asSpan _ _, counted, ?_, .inl inUse⟩
          intro p same
          cases same
          exact isSome_of_started kept
  | _ => exact ⟨flags, by simp [task, RecvTask.ready], queues, counted, by
      simp only [RecvSide.TaskOk, task]; simpa only [task] using taskOk⟩

/-- The transport call of the receive task returns. -/
theorem recvReturned {ec : ErrorCode} {bt : Nat} {bytes : List UInt8} (inv : RecvInv s)
    (tx : s.tx.FlagsOk) (returned : s.recvReturned ec bt bytes = some t) : RecvInv t := by
  have any := inv.flags.anyRecvOp
  have requested := inv.flags.requested
  have taskOk := inv.task
  unfold SockScheduler.recvReturned at returned
  unfold RecvSide.TaskOk at taskOk
  split at returned
  · cases returned
  · dsimp only at returned
    split at returned
    · rename_i token task
      rw [task] at any requested
      simp only [task] at taskOk
      have inUse : s.rx.mRecvStatus = .InUse := taskOk
      split at returned
      · cases returned
        exact anyRecvOp ⟨⟨any, requested⟩, tx, inv.queues.congr rfl fun _ => rfl, inv.counted,
          by simp, .inl inUse⟩
      · split at returned
        · cases returned
          exact ⟨⟨any, requested⟩, by simp [RecvTask.ready], inv.queues.congr rfl fun _ => rfl,
            inv.counted, inUse⟩
        · cases returned
          refine getRequested (s := s.logRecv _) ?_ ?_ inUse tx
          · refine ⟨⟨inv.flags.anyRecvOp, inv.flags.requested⟩, inv.ready,
              inv.queues.congr rfl fun _ => rfl, inv.counted, ?_⟩
            simp only [RecvSide.TaskOk, logRecv, RecvSide.log, task]
            exact inUse
          · simp [RecvSide.Busy, logRecv, RecvSide.log, task, RecvTask.waitsAny, RecvTask.requested]
    · rename_i header token task
      rw [task] at any requested
      simp only [task] at taskOk
      have inUse : s.rx.mRecvStatus = .InUse := taskOk
      split at returned
      · cases returned
        exact anyRecvOp ⟨⟨any, requested⟩, tx, inv.queues.congr rfl fun _ => rfl, inv.counted,
          by simp, .inl inUse⟩
      · have grown := s.table.length_initRemoteSocketFork header.mForkId (controlBlockSessionID bytes)
        have queues := inv.queues.mono le_rfl grown
        have counted : s.rx.Counted (s.table.initRemoteSocketFork header.mForkId
            (controlBlockSessionID bytes)).1.mSocketForks_.length := by
          rw [RecvSide.Counted, total_mono inv.queues grown]
          exact inv.counted
        split at returned
        · cases returned
          exact anyRecvOp ⟨⟨any, requested⟩, tx, queues.congr rfl fun _ => rfl, counted,
            by simp, .inl inUse⟩
        · cases returned
          exact ⟨⟨any, requested⟩, by simp [recvHeader, RecvTask.ready],
            queues.congr rfl fun _ => rfl, counted, inUse⟩
    · rename_i frame op token task
      rw [task] at any requested
      simp only [task] at taskOk
      cases returned
      have kept : (s.rx.fill op bytes).Started op := taskOk.2.modify rfl fun _ h => h
      refine anyRecvOp ⟨⟨any, requested⟩, tx, ?_, inv.counted, ?_, .inl taskOk.1⟩
      · exact (inv.queues.fill op bytes).congr rfl fun _ => rfl
      · intro p same
        cases same
        exact isSome_of_started kept
    · cases returned

end RecvInv

/-! ## Posting a receive -/

namespace SockScheduler
variable {s : SockScheduler} (slot : Nat) (op : OpId) (buffer : RecvBuffer)

/-- A posted receive wakes the task, if it waits for it, or is only queued. -/
theorem enqueueRecv_cases (flags : s.rx.FlagsOk) :
    (s.rx.mRecvTask = .anyRecvOp none ∧
      s.enqueueRecv slot op buffer = (s.emplaceRecv slot op buffer).wakeAnyRecv op) ∨
    (∃ frame, s.rx.mRecvTask = .getRequested frame none ∧
      frame.header.mForkId = (s.table.fork slot).mRemoteId ∧
      s.enqueueRecv slot op buffer = (s.emplaceRecv slot op buffer).wakeRequestedRecv op) ∨
    (s.rx.mRecvTask.waitsAny = false ∧
      s.rx.mRecvTask.requested ≠ some (s.table.fork slot).mRemoteId ∧
      s.enqueueRecv slot op buffer = s.emplaceRecv slot op buffer) := by
  have any : (s.emplaceRecv slot op buffer).rx.mAnyRecvOp = s.rx.mRecvTask.waitsAny :=
    flags.anyRecvOp
  have requested : (s.emplaceRecv slot op buffer).rx.mGetRequestedRecvSocketFork =
    s.rx.mRecvTask.requested := flags.requested
  have woken : ((s.emplaceRecv slot op buffer).wakeAnyRecv op).rx.mGetRequestedRecvSocketFork =
    s.rx.mRecvTask.requested := requested
  have table : (s.emplaceRecv slot op buffer).table = s.table := rfl
  unfold enqueueRecv
  dsimp only
  rw [any]
  cases task : s.rx.mRecvTask with
  | anyRecvOp mRes =>
    rw [task] at requested woken
    cases mRes with
    | none =>
      simp only [RecvTask.requested] at woken
      refine .inl ⟨rfl, ?_⟩
      simp [RecvTask.waitsAny, woken]
    | some r =>
      simp only [RecvTask.requested] at requested
      refine .inr (.inr ⟨rfl, by simp [RecvTask.requested], ?_⟩)
      simp [RecvTask.waitsAny, requested]
  | getRequested frame mRes =>
    rw [task] at requested
    cases mRes with
    | none =>
      simp only [RecvTask.requested] at requested
      simp only [RecvTask.waitsAny, Bool.false_eq_true, if_false, requested, table]
      by_cases mine : frame.header.mForkId = (s.table.fork slot).mRemoteId
      · exact .inr (.inl ⟨frame, rfl, mine, by simp [mine]⟩)
      · refine .inr (.inr ⟨trivial, ?_, by simp [mine]⟩)
        simpa [RecvTask.requested] using mine
    | some r =>
      simp only [RecvTask.requested] at requested
      refine .inr (.inr ⟨rfl, by simp [RecvTask.requested], ?_⟩)
      simp [RecvTask.waitsAny, requested]
  | _ =>
    rw [task] at requested
    simp only [RecvTask.requested] at requested
    refine .inr (.inr ⟨rfl, by simp [RecvTask.requested], ?_⟩)
    simp [RecvTask.waitsAny, requested]

end SockScheduler

namespace RecvInv
open SockScheduler
variable {s t : SockScheduler}

/-- Started operations stay started, and 0 receives stay 0. -/
theorem taskOk_congr {rx rx' : RecvSide} {mEC : ErrorCode} (ok : rx.TaskOk mEC)
    (task : rx'.mRecvTask = rx.mRecvTask) (status : rx'.mRecvStatus = rx.mRecvStatus)
    (num : rx.mNumRecvs = 0 → rx.mRecvTask.waitsAny = true ∨ mEC.isError = true → rx'.mNumRecvs = 0)
    (started : ∀ op, rx.Started op → rx'.Started op) : rx'.TaskOk mEC := by
  unfold RecvSide.TaskOk at ok ⊢
  rw [task, status]
  cases h : rx.mRecvTask with
  | anyRecvOp mRes =>
    simp only [h] at ok
    cases mRes with
    | none => exact ⟨ok.1, num ok.2.1 (.inl (by simp [h, RecvTask.waitsAny])), ok.2.2⟩
    | some r =>
      dsimp only at ok ⊢
      split
      · rename_i error
        simp only [error, if_true] at ok
        exact ⟨ok.1, ok.2.1, num ok.2.2 (.inr ok.1)⟩
      · rename_i fine
        rwa [if_neg fine] at ok
  | getRequested frame mRes =>
    simp only [h] at ok
    cases mRes with
    | none => exact ok
    | some r =>
      cases r with
      | error e => exact ok
      | ok op => exact ⟨ok.1, started op ok.2⟩
  | body frame op token =>
    simp only [h] at ok
    exact ⟨ok.1, started op ok.2⟩
  | done =>
    simp only [h] at ok
    exact ⟨ok.1, ok.2.1, num ok.2.2 (.inr ok.1)⟩
  | _ =>
    simp only [h] at ok
    exact ok

/-- A receive is posted while no error has been recorded. -/
theorem enqueueRecv (inv : RecvInv s) {slot : Nat} (inside : slot < s.table.mSocketForks_.length)
    (ok : s.mEC.isError = false) (buffer : RecvBuffer)
    (same : t = { s with nextOp := s.nextOp + 1 }) :
    RecvInv (t.enqueueRecv slot s.nextOp buffer) := by
  have flags : t.rx.FlagsOk := by rw [same]; exact inv.flags
  obtain ⟨o, made⟩ : ∃ o : RecvOperation, o =
    { mRecvBuffer := { buffer with mExPtr := .unset, mData := [] }, mSocketFork := slot } := ⟨_, rfl⟩
  obtain ⟨m, placed⟩ : ∃ m, t.emplaceRecv slot s.nextOp buffer = m := ⟨_, rfl⟩
  have rx : m.rx = { s.rx.pushBack slot s.nextOp o with mNumRecvs := s.rx.mNumRecvs + 1 } := by
    rw [← placed, made, same]
    rfl
  have mEC : m.mEC = s.mEC := by rw [← placed, same]; rfl
  have nextOp : m.nextOp = s.nextOp + 1 := by rw [← placed, same]; rfl
  have table : m.table = s.table := by rw [← placed, same]; rfl
  have queued : m.queued = s.queued := by rw [← placed, same]; rfl
  have queues : m.rx.QueuesOk m.nextOp m.table.mSocketForks_.length := by
    rw [rx, nextOp, table]
    exact (inv.queues.pushBack inside (by rw [made])).congr rfl fun _ => rfl
  have counted : m.rx.Counted m.table.mSocketForks_.length := by
    rw [RecvSide.Counted, rx, table, inv.counted]
    exact (Queues.total_push inside).symm
  have live : m.rx.ops s.nextOp = some o := by simp [rx, RecvSide.pushBack]
  have flags' : m.rx.FlagsOk := by rw [rx]; exact ⟨inv.flags.anyRecvOp, inv.flags.requested⟩
  have task : m.rx.mRecvTask = s.rx.mRecvTask := by rw [rx]; rfl
  have mine : t.rx.mRecvTask = s.rx.mRecvTask := by rw [same]
  have started : (m.rx.setStatus s.nextOp .InProgress).Started s.nextOp :=
    ⟨{ o with mStatus := .InProgress }, by simp [RecvSide.setStatus, live], by simp⟩
  rcases enqueueRecv_cases slot s.nextOp buffer flags with
    ⟨parked, result⟩ | ⟨frame, parked, _, result⟩ | ⟨idle, _, result⟩ <;> rw [result, placed]
  · have requested : m.rx.mGetRequestedRecvSocketFork = none := by
      rw [flags'.requested, task, ← mine, parked]
      rfl
    exact ⟨⟨rfl, requested⟩, fun _ => by simp [wakeAnyRecv, AnyRecvOp.getHandle, push],
      (queues.setStatus _ _).congr rfl fun _ => rfl, counted, rfl⟩
  · have any : m.rx.mAnyRecvOp = false := by
      rw [flags'.anyRecvOp, task, ← mine, parked]
      rfl
    have task' : (m.wakeRequestedRecv s.nextOp).rx.mRecvTask =
        .getRequested frame (some (.ok s.nextOp)) := by
      simp [wakeRequestedRecv, GetRequestedRecvSocketFork.getHandle, push, recvSetStatus,
        RecvSide.setStatus, check, task, ← mine, parked]
    refine ⟨⟨any.trans (by rw [task']; rfl), ?_⟩, fun _ => ?_,
      (queues.setStatus _ _).congr rfl fun _ => rfl, counted, ?_⟩
    · rw [task']
      rfl
    · simp [wakeRequestedRecv, GetRequestedRecvSocketFork.getHandle, push]
    · unfold RecvSide.TaskOk
      rw [task']
      exact ⟨rfl, started⟩
  · refine ⟨flags', fun ready => ?_, queues, counted, ?_⟩
    · rw [queued]
      exact inv.ready (task ▸ ready)
    · rw [mEC]
      refine taskOk_congr inv.task task (by rw [rx]; rfl) (fun _ stuck => ?_) (fun p => ?_)
      · rcases stuck with waits | failed
        · rw [← mine, idle] at waits
          cases waits
        · rw [ok] at failed
          cases failed
      · rintro ⟨o', live', status⟩
        have fresh := (inv.queues.bound (RecvSide.home_eq_some live')).1
        refine ⟨o', ?_, status⟩
        rw [rx]
        simp [RecvSide.pushBack, Heap.set_of_ne (Nat.ne_of_lt fresh), live']

/-- The stop callback of a receive. -/
theorem recvStopCallback (inv : RecvInv s) (op : OpId) : RecvInv (s.recvStopCallback op) := by
  have work := s.recvStopCallback_onlyRecv op
  cases live : s.rx.ops op with
  | none =>
    have still : s.recvStopCallback op = s := by simp [SockScheduler.recvStopCallback, live]
    rwa [still]
  | some o =>
    have home := RecvSide.home_eq_some live
    have marked := (inv.queues.log (.stopRequested op s.mEC.isError)).setReg op .invoked
    by_cases idle : o.mStatus = .NotStarted
    · have rx := recvStopCallback_notStarted live idle
      have task : (s.recvStopCallback op).rx.mRecvTask = s.rx.mRecvTask := by simp [rx]
      refine ⟨?_, fun ready => ?_, ?_, ?_, ?_⟩
      · exact inv.flags.congr task (by simp [rx]) (by simp [rx])
      · exact work.queued_mem (inv.ready (task ▸ ready))
      · rw [rx, work.nextOp, work.table]
        exact marked.cut (by simpa using home)
      · rw [rx, work.table]
        refine RecvSide.Counted.cut ?_ marked (by simpa using home)
        simpa [RecvSide.Counted] using inv.counted
      · rw [work.mEC]
        refine taskOk_congr inv.task task (by simp [rx]) (fun zero _ => ?_) fun p => ?_
        · simp [rx, zero]
        · rintro ⟨o', live', status⟩
          have other : p ≠ op := by
            rintro rfl
            rw [live, Option.some.injEq] at live'
            exact status (live' ▸ idle)
          refine ⟨o', ?_, status⟩
          rw [rx]
          simpa [Heap.erase_of_ne other, Heap.modify_of_ne other] using live'
    · have rx := recvStopCallback_started live idle
      have task : (s.recvStopCallback op).rx.mRecvTask = s.rx.mRecvTask := by simp [rx]
      refine ⟨?_, fun ready => ?_, ?_, ?_, ?_⟩
      · exact inv.flags.congr task (by simp [rx]) (by simp [rx])
      · exact work.queued_mem (inv.ready (task ▸ ready))
      · rw [rx, work.nextOp, work.table]
        exact (marked.setStatus op .Canceling).congr rfl fun _ => rfl
      · rw [work.table]
        simpa [rx, RecvSide.Counted] using inv.counted
      · rw [work.mEC]
        refine taskOk_congr inv.task task (by simp [rx])
          (fun zero _ => by simp [rx, zero]) fun p started => ?_
        rw [rx]
        have marked : ((s.rx.log (.stopRequested op s.mEC.isError)).setReg op .invoked).Started p :=
          started.modify rfl fun _ h => h
        exact marked.setStatus op (by simp)

end RecvInv
end Coproto
