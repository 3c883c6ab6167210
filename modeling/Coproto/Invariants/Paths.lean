import Coproto.Invariants.EnterError

/-!
# How one direction reaches the other

A function of one direction leaves the other alone, except that the first error
wakes and stops it. `SendPath` and `RecvPath` say so for the awaiters, which are
the only functions that call `cancel` from a task.
-/
namespace Coproto
namespace SockScheduler

/-- Work of the send direction, with the first error at most once in it. -/
inductive SendPath (s t : SockScheduler) : Prop
  | quiet (path : OnlySend s t)
  | failed (m : SockScheduler) (ec : ErrorCode) (before : OnlySend s m)
      (first : s.mEC.isError = false) (error : ec.isError = true) (flags : m.tx.FlagsOk)
      (after : OnlySend (m.enterError .Sender ec).1 t)

/-- Work of the receive direction, with the first error at most once in it. -/
inductive RecvPath (s t : SockScheduler) : Prop
  | quiet (path : OnlyRecv s t)
  | failed (m : SockScheduler) (ec : ErrorCode) (before : OnlyRecv s m)
      (first : s.mEC.isError = false) (error : ec.isError = true) (flags : m.rx.FlagsOk)
      (after : OnlyRecv (m.enterError .Recver ec).1 t)

variable {s t u : SockScheduler}

/-- What the other direction sees of a path. -/
structure Crossing (s t : SockScheduler) : Prop where
  table : t.table = s.table
  mClosed : t.mClosed = s.mClosed
  held : t.held = s.held
  nextOp : t.nextOp = s.nextOp
  forkFaults : t.forkFaults = s.forkFaults
  queued : ∀ cb ∈ s.queued, cb ∈ t.queued

theorem SendPath.crossing (path : SendPath s t) (rx : s.rx.FlagsOk) : Crossing s t := by
  cases path with
  | quiet path =>
    exact ⟨path.table, path.mClosed, path.held, path.nextOp, path.forkFaults,
      fun _ => path.queued_mem⟩
  | failed m ec before _ _ flags after =>
    have entered := enterError_eq .Sender ec (before.rx ▸ rx) flags
    rw [entered] at after
    exact ⟨after.table.trans before.table, after.mClosed.trans before.mClosed,
      after.held.trans before.held, after.nextOp.trans before.nextOp,
      after.forkFaults.trans before.forkFaults,
      fun _ old => after.queued_mem (List.mem_append_left _ (before.queued_mem old))⟩

theorem RecvPath.crossing (path : RecvPath s t) (tx : s.tx.FlagsOk) : Crossing s t := by
  cases path with
  | quiet path =>
    exact ⟨path.table, path.mClosed, path.held, path.nextOp, path.forkFaults,
      fun _ => path.queued_mem⟩
  | failed m ec before _ _ flags after =>
    have entered := enterError_eq .Recver ec flags (before.tx ▸ tx)
    rw [entered] at after
    exact ⟨after.table.trans before.table, after.mClosed.trans before.mClosed,
      after.held.trans before.held, after.nextOp.trans before.nextOp,
      after.forkFaults.trans before.forkFaults,
      fun _ old => after.queued_mem (List.mem_append_left _ (before.queued_mem old))⟩

/-- The receive side after work of the send direction. -/
theorem SendPath.rx_cases (path : SendPath s t) (rx : s.rx.FlagsOk) :
    (t.rx = s.rx ∧ t.nextStop = s.nextStop ∧ t.mEC = s.mEC ∧ t.stopped = s.stopped) ∨
    (s.mEC.isError = false ∧ t.mEC.isError = true ∧ t.rx = s.rx.wakeError Code.cancel ∧
      t.nextStop = s.nextStop ∧ (∃ ids, t.stopped = ids ++ (s.rx.stops ++ s.stopped)) ∧
      (s.rx.mRecvTask.waitsAny = true ∨ s.rx.mRecvTask.requested.isSome = true →
        .recvTask ∈ t.queued)) := by
  cases path with
  | quiet path => exact .inl ⟨path.rx, path.nextStop, path.mEC, path.stopped⟩
  | failed m ec before first error flags after =>
    have entered := enterError_eq .Sender ec (before.rx ▸ rx) flags
    rw [entered] at after
    refine .inr ⟨first, by rw [after.mEC]; exact error, ?_, after.nextStop.trans before.nextStop,
      ⟨m.tx.stops, ?_⟩, fun waits => after.queued_mem ?_⟩
    · rw [after.rx, ← before.rx]
      rfl
    · rw [after.stopped, ← before.rx, ← before.stopped]
    · refine List.mem_append_right _ (List.mem_append_left _ ?_)
      rw [← before.rx] at waits
      simp [waits]

/-- The send side after work of the receive direction. -/
theorem RecvPath.tx_cases (path : RecvPath s t) (tx : s.tx.FlagsOk) :
    (t.tx = s.tx ∧ t.mEC = s.mEC ∧ t.stopped = s.stopped) ∨
    (s.mEC.isError = false ∧ t.mEC.isError = true ∧ t.tx = s.tx.wakeError ∧
      (∃ ids, t.stopped = s.tx.stops ++ ids ∧ ∀ id ∈ s.stopped, id ∈ ids) ∧
      (s.tx.mSendTask.waits = true → .sendTask ∈ t.queued)) := by
  cases path with
  | quiet path => exact .inl ⟨path.tx, path.mEC, path.stopped⟩
  | failed m ec before first error flags after =>
    have entered := enterError_eq .Recver ec flags (before.tx ▸ tx)
    rw [entered] at after
    refine .inr ⟨first, by rw [after.mEC]; exact error, ?_, ⟨m.rx.stops ++ m.stopped, ?_, ?_⟩,
      fun waits => after.queued_mem ?_⟩
    · rw [after.tx, ← before.tx]
    · rw [after.stopped, ← before.tx]
    · intro id old
      exact List.mem_append_right _ (before.stopped ▸ old)
    · refine List.mem_append_right _ (List.mem_append_right _ ?_)
      rw [← before.tx] at waits
      simp [waits]

/-! ## The awaiters -/

theorem SendPath.trans_quiet (path : SendPath s t) (rest : OnlySend t u) : SendPath s u := by
  cases path with
  | quiet path => exact .quiet (path.trans rest)
  | failed m ec before first error flags after =>
    exact .failed m ec before first error flags (after.trans rest)

theorem RecvPath.trans_quiet (path : RecvPath s t) (rest : OnlyRecv t u) : RecvPath s u := by
  cases path with
  | quiet path => exact .quiet (path.trans rest)
  | failed m ec before first error flags after =>
    exact .failed m ec before first error flags (after.trans rest)

theorem SendPath.of_quiet (start : OnlySend s t) (path : SendPath t u) : SendPath s u := by
  cases path with
  | quiet path => exact .quiet (start.trans path)
  | failed m ec before first error flags after =>
    exact .failed m ec (start.trans before) (start.mEC ▸ first) error flags after

theorem RecvPath.of_quiet (start : OnlyRecv s t) (path : RecvPath t u) : RecvPath s u := by
  cases path with
  | quiet path => exact .quiet (start.trans path)
  | failed m ec before first error flags after =>
    exact .failed m ec (start.trans before) (start.mEC ▸ first) error flags after

/-- `cancel` from the send task; a first error is an error. -/
theorem cancel_sender_path (ec : ErrorCode) (flags : s.tx.FlagsOk)
    (error : s.mEC.isError = false → ec.isError = true) : SendPath s (s.cancel .Sender ec) := by
  have drained : ∀ m e, OnlySend m (({ m with
      tx.mSendStatus := .Closed
      tx.mSendBufferBegin := none
      tx.mSendBufferLast := none } : SockScheduler).drainSends m.nextOp m.tx.mSendBufferBegin e) :=
    fun m e => OnlySend.trans (onlySend_of_tx rfl) (drainSends_onlySend _ _ _ _)
  cases failed : s.mEC.isError with
  | true =>
    refine .quiet ?_
    simp only [cancel, failed, if_true]
    exact drained s ec
  | false =>
    refine .failed s ec .refl failed (error failed) flags ?_
    simp only [cancel, failed, Bool.false_eq_true, if_false]
    exact drained _ _

theorem cancel_recver_path (ec : ErrorCode) (flags : s.rx.FlagsOk)
    (error : s.mEC.isError = false → ec.isError = true) : RecvPath s (s.cancel .Recver ec) := by
  have drained : ∀ m e, OnlyRecv m { ({ m with rx.mRecvStatus := .Closed } : SockScheduler).drainRecvs
      m.queuedRecvs e with rx.mNumRecvs := 0 } := fun m e =>
    OnlyRecv.trans (OnlyRecv.trans (onlyRecv_of_rx rfl) (drainRecvs_onlyRecv _ _ _))
      (onlyRecv_of_rx rfl)
  cases failed : s.mEC.isError with
  | true =>
    refine .quiet ?_
    simp only [cancel, failed, if_true]
    exact drained s ec
  | false =>
    refine .failed s ec .refl failed (error failed) flags ?_
    simp only [cancel, failed, Bool.false_eq_true, if_false]
    generalize s.enterError .Recver ec = entered
    exact drained _ _

end SockScheduler
end Coproto
