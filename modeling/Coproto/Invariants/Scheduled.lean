import Coproto.Invariants.RecvBooks
import Coproto.Invariants.SendBooks

/-!
# Completions are scheduled as they are shown

`Schedules s t`: between `s` and `t` a completion was queued for every
completion that the traces show, and nothing was posted. The functions of the
scheduler are gone through one by one.
-/
namespace Coproto
namespace SockScheduler

/-- How often an operation has been shown to complete. -/
def completions (s : SockScheduler) (op : OpId) : Nat :=
  s.rx.doneOps.count op + s.tx.doneOps.count op

structure Schedules (s t : SockScheduler) : Prop where
  queued : ∃ cbs : List Callback, t.queued = s.queued ++ cbs ∧
    ∀ op, t.completions op = s.completions op + cbs.count (.completion op)
  recvs : t.rx.postedOps = s.rx.postedOps
  sends : t.tx.postedOps = s.tx.postedOps

namespace Schedules
variable {s t u : SockScheduler}

theorem trans (first : Schedules s t) (second : Schedules t u) : Schedules s u := by
  obtain ⟨cbs, queued, counted⟩ := first.queued
  obtain ⟨cbs', queued', counted'⟩ := second.queued
  refine ⟨⟨cbs ++ cbs', by rw [queued', queued, List.append_assoc], fun op => ?_⟩,
    second.recvs.trans first.recvs, second.sends.trans first.sends⟩
  rw [counted', counted, List.count_append, Nat.add_assoc]

/-- Work that shows nothing and queues no completion. -/
theorem of_push (cbs : List Callback) (queued : t.queued = s.queued ++ cbs)
    (other : ∀ op, .completion op ∉ cbs) (recvs : t.rx.trace = s.rx.trace)
    (sends : t.tx.trace = s.tx.trace) : Schedules s t := by
  refine ⟨⟨cbs, queued, fun op => ?_⟩, ?_, ?_⟩
  · rw [completions, completions, RecvSide.doneOps, SendSide.doneOps, recvs, sends,
      List.count_eq_zero.mpr (other op)]
    rfl
  · rw [RecvSide.postedOps, recvs]
    rfl
  · rw [SendSide.postedOps, sends]
    rfl

theorem of_eq (queued : t.queued = s.queued) (recvs : t.rx.trace = s.rx.trace)
    (sends : t.tx.trace = s.tx.trace) : Schedules s t :=
  of_push [] (by rw [queued, List.append_nil]) (by simp) recvs sends

theorem refl : Schedules s s := of_eq rfl rfl rfl

/-- A callback is queued that is no completion. -/
theorem push {cb : Callback} (other : ∀ op, cb ≠ .completion op) : Schedules s (s.push cb) :=
  of_push [cb] rfl (fun op member => other op (List.mem_singleton.mp member).symm) rfl rfl

/-- An observation of a receive that is no posting and no completion. -/
theorem logRecv {o : RecvObs} (posting : o.posting = none) (finishing : o.finishing = none)
    (queued : t.queued = s.queued) (recvs : t.rx.trace = s.rx.trace ++ [o])
    (sends : t.tx.trace = s.tx.trace) : Schedules s t := by
  have done : t.rx.doneOps = s.rx.doneOps := by
    simp [RecvSide.doneOps, recvs, finishing]
  refine ⟨⟨[], by rw [queued, List.append_nil], fun op => ?_⟩, ?_, ?_⟩
  · rw [completions, completions, done, SendSide.doneOps, sends]
    rfl
  · simp [RecvSide.postedOps, recvs, posting]
  · rw [SendSide.postedOps, sends]
    rfl

theorem logSend {o : SendObs} (posting : o.posting = none) (finishing : o.finishing = none)
    (queued : t.queued = s.queued) (recvs : t.rx.trace = s.rx.trace)
    (sends : t.tx.trace = s.tx.trace ++ [o]) : Schedules s t := by
  have done : t.tx.doneOps = s.tx.doneOps := by
    simp [SendSide.doneOps, sends, finishing]
  refine ⟨⟨[], by rw [queued, List.append_nil], fun op => ?_⟩, ?_, ?_⟩
  · rw [completions, completions, done, RecvSide.doneOps, recvs]
    rfl
  · rw [RecvSide.postedOps, recvs]
    rfl
  · simp [SendSide.postedOps, sends, posting]

end Schedules

/-! ## Operations that leave their queues -/

section Leave
variable (s : SockScheduler) (op : OpId) (slot : Nat) (ec : ErrorCode)

theorem recvSetError_schedules : Schedules s (s.recvSetError op ec) :=
  .logRecv (o := .setError op ec) rfl rfl rfl rfl rfl

theorem sendSetError_schedules : Schedules s (s.sendSetError op ec) :=
  .logSend (o := .setError op ec) rfl rfl rfl rfl rfl

theorem completeFlushes_schedules : Schedules s (s.completeFlushes op) := by
  obtain ⟨hs, queued⟩ := s.completeFlushes_queued op
  refine .of_push _ queued (fun p member => ?_) ?_ ?_
  · obtain ⟨h, _, same⟩ := List.mem_map.mp member
    cases same
  · rw [completeFlushes_rx]
  · rw [completeFlushes_tx]

theorem recvCompleteOn_schedules : Schedules s (s.recvCompleteOn op) := by
  unfold recvCompleteOn
  split
  · rename_i live
    obtain ⟨o, there⟩ := Option.isSome_iff_exists.mp live
    have trace := RecvSide.trace_completed there
    refine Schedules.trans ?_ (completeFlushes_schedules _ op)
    refine ⟨⟨[.completion op], rfl, fun p => ?_⟩, ?_, rfl⟩
    · rw [completions, completions]
      simp only [RecvSide.doneOps, trace]
      simp only [List.filterMap_append, List.count_append, List.filterMap_cons, List.filterMap_nil,
        RecvObs.finishing, List.count_singleton, beq_iff_eq, Callback.completion.injEq]
      exact Nat.add_right_comm _ _ _
    · simp only [RecvSide.postedOps, trace]
      simp [List.filterMap_cons, RecvObs.posting]
  · exact .refl

theorem sendCompleteOn_schedules : Schedules s (s.sendCompleteOn op) := by
  unfold sendCompleteOn
  split
  · rename_i live
    obtain ⟨o, there⟩ := Option.isSome_iff_exists.mp live
    have trace := SendSide.trace_completed there
    refine Schedules.trans ?_ (completeFlushes_schedules _ op)
    refine ⟨⟨[.completion op], rfl, fun p => ?_⟩, rfl, ?_⟩
    · rw [completions, completions]
      simp only [SendSide.doneOps, trace]
      simp only [List.filterMap_append, List.count_append, List.filterMap_cons, List.filterMap_nil,
        SendObs.finishing, List.count_singleton, beq_iff_eq, Callback.completion.injEq]
      exact (Nat.add_assoc _ _ _).symm
    · simp only [SendSide.postedOps, trace]
      simp [List.filterMap_cons, SendObs.posting]
  · exact .refl

theorem eraseRecv_schedules : Schedules s (s.eraseRecv slot op) :=
  .of_eq (clearFlushes_queued s op) rfl (clearFlushes_tx s op ▸ rfl)

theorem eraseSend_schedules : Schedules s (s.eraseSend slot op) :=
  .of_eq (clearFlushes_queued s op) (clearFlushes_rx s op ▸ rfl) rfl

theorem popFrontRecv_schedules : Schedules s (s.popFrontRecv slot) := by
  unfold popFrontRecv
  split
  · exact .refl
  · exact eraseRecv_schedules s _ slot

theorem popFrontSend_schedules : Schedules s (s.popFrontSend slot) := by
  unfold popFrontSend
  split
  · exact .refl
  · exact eraseSend_schedules s _ slot

theorem failRecv_schedules : Schedules s (s.failRecv slot op ec) := by
  apply Schedules.trans (recvSetError_schedules s op ec)
  apply Schedules.trans (recvCompleteOn_schedules _ op)
  exact popFrontRecv_schedules _ slot

theorem drainRecvs_schedules (ops : List (Nat × OpId)) : Schedules s (s.drainRecvs ops ec) := by
  induction ops generalizing s ec with
  | nil => exact .refl
  | cons op ops ih => exact (failRecv_schedules s _ _ ec).trans (ih _ _)

theorem drainSends_schedules (n : Nat) (iter : Option OpId) :
    Schedules s (s.drainSends n iter ec) := by
  induction n generalizing s iter ec with
  | zero => exact .refl
  | succ n ih =>
    cases iter with
    | none => exact .refl
    | some op =>
      simp only [drainSends]
      refine Schedules.trans ?_ (ih _ _ _)
      refine Schedules.trans ?_ (popFrontSend_schedules _ _)
      refine Schedules.trans ?_ (sendCompleteOn_schedules _ _)
      refine Schedules.trans ?_ (sendSetError_schedules _ op ec)
      exact .of_eq rfl rfl rfl

theorem unlinkSend_schedules (o : SendOperation) : Schedules s (s.unlinkSend o) := by
  unfold unlinkSend
  dsimp only
  split <;> exact .of_eq rfl rfl rfl

end Leave

/-! ## cancel -/

section Cancel
variable (s : SockScheduler) (ec : ErrorCode)

theorem wakeParked_schedules (e : ErrorCode) : Schedules s (s.wakeParked e) := by
  have any : Schedules s (AnyRecvOp.wake s) := by
    unfold AnyRecvOp.wake
    split
    · exact .of_push [.recvTask] rfl (by simp) rfl rfl
    · exact .refl
  have requested (m : SockScheduler) : Schedules m (GetRequestedRecvSocketFork.wake m e) := by
    unfold GetRequestedRecvSocketFork.wake
    split
    · exact .of_push [.recvTask] rfl (by simp) rfl rfl
    · exact .refl
  have next (m : SockScheduler) : Schedules m (NextSendOp.wake m) := by
    unfold NextSendOp.wake
    split
    · exact .of_push [.sendTask] rfl (by simp) rfl rfl
    · exact .refl
  exact (any.trans (requested _)).trans (next _)

theorem enterError_schedules (c : Caller) : Schedules s (s.enterError c ec).1 := by
  unfold enterError
  dsimp only
  refine Schedules.trans ?_ (wakeParked_schedules _ _)
  rw [stopTransports_eq]
  exact .of_eq rfl rfl rfl

theorem cancel_schedules (c : Caller) : Schedules s (s.cancel c ec) := by
  obtain ⟨r, entering⟩ : ∃ r, (if s.mEC.isError then (s, ec) else s.enterError c ec) = r := ⟨_, rfl⟩
  have entered : Schedules s r.1 := by
    rw [← entering]
    split
    · exact .refl
    · exact enterError_schedules s ec c
  unfold cancel
  dsimp only
  rw [entering]
  apply entered.trans
  cases c with
  | Sender =>
    refine Schedules.trans ?_ (drainSends_schedules _ _ _ _)
    exact .of_eq rfl rfl rfl
  | Recver =>
    obtain ⟨u, closed⟩ : ∃ u, { r.1 with rx.mRecvStatus := .Closed } = u := ⟨_, rfl⟩
    have start : Schedules r.1 u := by
      rw [← closed]
      exact .of_eq rfl rfl rfl
    dsimp only
    rw [closed]
    apply start.trans
    apply (drainRecvs_schedules u r.2 u.queuedRecvs).trans
    exact .of_eq rfl rfl rfl
  | Extern => exact .refl

end Cancel

/-! ## The awaiters -/

section Awaiters
variable (s : SockScheduler)

theorem AnyRecvOp.completePrev_schedules (op : OpId) (ec : ErrorCode) :
    Schedules s (AnyRecvOp.completePrev s op ec).1 := by
  obtain ⟨m, renewed⟩ : ∃ m, (if s.rx.mRecvCancelSrc = none then s.resetRecvToken else s) = m :=
    ⟨_, rfl⟩
  have start : Schedules s m := by
    rw [← renewed]
    split <;> exact .of_eq rfl rfl rfl
  have fail (u : SockScheduler) : Schedules u (if ec.isError then u.recvSetError op ec else u) := by
    split
    · exact recvSetError_schedules u op ec
    · exact .refl
  unfold completePrev
  dsimp only
  rw [renewed]
  obtain ⟨u, checked⟩ : ∃ u, m.check (require (m.rx.mNumRecvs ≠ 0 ∧
    (m.rx.mRecvOps (m.rx.slotOf op)).head? = some op) .anyRecvOpFront) = u := ⟨_, rfl⟩
  have tested : Schedules m u := by
    rw [← checked]
    exact .of_eq rfl rfl rfl
  rw [checked]
  apply (start.trans tested).trans
  apply (fail u).trans
  apply (recvCompleteOn_schedules _ op).trans
  apply (popFrontRecv_schedules _ _).trans
  exact .of_eq rfl rfl rfl

theorem AnyRecvOp.awaitSuspend_schedules (prevOp : Option OpId) (ec : ErrorCode) :
    Schedules s (AnyRecvOp.awaitSuspend s prevOp ec) := by
  have left : Schedules s (AnyRecvOp.prev s prevOp ec).1 := by
    cases prevOp with
    | none => exact .refl
    | some op => exact completePrev_schedules s op ec
  apply left.trans
  rcases awaitSuspend_cases (s := s) prevOp ec with
    ⟨_, result⟩ | ⟨_, _, result⟩ | ⟨_, _, result⟩ <;> rw [result]
  · have start : Schedules (prev s prevOp ec).1 (failing s prevOp ec) := .of_eq rfl rfl rfl
    apply start.trans
    exact (cancel_schedules _ _ .Recver).trans (.push (by simp))
  · exact .of_push [.recvTask] rfl (by simp) rfl rfl
  · exact .of_eq rfl rfl rfl

theorem GetRequestedRecvSocketFork.awaitSuspend_schedules (frame : Frame) :
    Schedules s (GetRequestedRecvSocketFork.awaitSuspend s frame) := by
  rcases awaitSuspend_cases (s := s) frame with
    ⟨_, result⟩ | ⟨slot, _, ⟨_, result⟩ | ⟨_, _, result⟩ | ⟨_, op, ops, _, result⟩⟩ <;> rw [result]
  · exact (cancel_schedules _ _ _).trans (.of_push [.recvTask] rfl (by simp) rfl rfl)
  · exact .of_push [.recvTask] rfl (by simp) rfl rfl
  · exact .of_eq rfl rfl rfl
  · exact .of_push [.recvTask] rfl (by simp) rfl rfl

theorem NextSendOp.completePrev_schedules (op : OpId) (ec : ErrorCode) :
    Schedules s (NextSendOp.completePrev s op ec).1 := by
  have fail : Schedules s (if ec.isError then s.sendSetError op ec else s) := by
    split
    · exact sendSetError_schedules s op ec
    · exact .refl
  unfold completePrev
  dsimp only
  apply fail.trans
  apply (sendCompleteOn_schedules _ op).trans
  refine Schedules.trans ?_ (popFrontSend_schedules _ _)
  exact .of_eq rfl rfl rfl

theorem NextSendOp.awaitSuspend_schedules (prevOp : Option OpId) (ec : ErrorCode) :
    Schedules s (NextSendOp.awaitSuspend s prevOp ec) := by
  have left : Schedules s (NextSendOp.prev s prevOp ec).1 := by
    cases prevOp with
    | none => exact .refl
    | some op => exact completePrev_schedules s op ec
  apply left.trans
  rcases awaitSuspend_cases (s := s) prevOp ec with
    ⟨_, result⟩ | ⟨_, op, fs, _, result⟩ | ⟨_, _, result⟩ <;> rw [result]
  · have start : Schedules (prev s prevOp ec).1 (failing s prevOp ec) := .of_eq rfl rfl rfl
    apply start.trans
    apply (cancel_schedules _ _ .Sender).trans
    exact .of_push [.sendTask] rfl (by simp) rfl rfl
  · exact .of_push [.sendTask] rfl (by simp) rfl rfl
  · exact .of_eq rfl rfl rfl

end Awaiters

/-! ## Stop callbacks and calls -/

section Calls
variable (s : SockScheduler) (op : OpId)

theorem sendStopCallback_schedules : Schedules s (s.sendStopCallback op) := by
  have stopped : Schedules s ((s.logSend (.stopRequested op s.mEC.isError)).sendSetReg op .invoked) :=
    .logSend (o := .stopRequested op s.mEC.isError) rfl rfl rfl rfl rfl
  unfold sendStopCallback
  split
  · exact .refl
  · dsimp only
    split
    · apply stopped.trans
      apply (sendSetError_schedules _ op _).trans
      apply (sendCompleteOn_schedules _ op).trans
      apply (unlinkSend_schedules _ _).trans
      exact eraseSend_schedules _ _ _
    · apply stopped.trans
      exact .of_push [.requestStop s.tx.mSendCancelSrc] rfl (by simp) rfl rfl

theorem recvStopCallback_schedules : Schedules s (s.recvStopCallback op) := by
  have stopped : Schedules s ((s.logRecv (.stopRequested op s.mEC.isError)).recvSetReg op .invoked) :=
    .logRecv (o := .stopRequested op s.mEC.isError) rfl rfl rfl rfl rfl
  unfold recvStopCallback
  split
  · exact .refl
  · dsimp only
    split
    · apply stopped.trans
      refine Schedules.trans ?_ ((recvSetError_schedules _ op _).trans
        ((recvCompleteOn_schedules _ op).trans (eraseRecv_schedules _ _ _)))
      exact .of_eq rfl rfl rfl
    · apply stopped.trans
      exact .of_push [.requestStop s.rx.mRecvCancelSrc] rfl (by simp) rfl rfl

theorem sendSetCancelation_schedules (token : StopToken) :
    Schedules s (s.sendSetCancelation op token) := by
  cases token with
  | none => exact .refl
  | live => exact .of_eq rfl rfl rfl
  | stopped =>
    refine Schedules.trans ?_ (sendStopCallback_schedules _ op)
    exact .of_eq rfl rfl rfl

theorem recvSetCancelation_schedules (token : StopToken) :
    Schedules s (s.recvSetCancelation op token) := by
  cases token with
  | none => exact .refl
  | live => exact .of_eq rfl rfl rfl
  | stopped =>
    refine Schedules.trans ?_ (recvStopCallback_schedules _ op)
    exact .of_eq rfl rfl rfl

theorem enqueueSend_schedules (slot : Nat) (data : List UInt8) :
    Schedules s (s.enqueueSend slot op data) := by
  unfold enqueueSend
  dsimp only
  split
  · exact .of_push [.sendTask] rfl (by simp) rfl rfl
  · unfold linkSend
    dsimp only
    split
    · exact .of_eq rfl rfl rfl
    · exact .of_eq rfl rfl rfl

theorem enqueueRecv_schedules (flags : s.rx.FlagsOk) (slot : Nat) (buffer : RecvBuffer) :
    Schedules s (s.enqueueRecv slot op buffer) := by
  rcases enqueueRecv_cases slot op buffer flags with
    ⟨_, result⟩ | ⟨frame, _, _, result⟩ | ⟨_, _, result⟩ <;> rw [result]
  · exact .of_push [.recvTask] rfl (by simp) rfl rfl
  · exact .of_push [.recvTask] rfl (by simp) rfl rfl
  · exact .of_eq rfl rfl rfl

end Calls

/-! ## Events -/

/-- To which of the two directions something was posted. -/
inductive Posts (s t : SockScheduler) : Prop
  | none (recvs : t.rx.postedOps = s.rx.postedOps) (sends : t.tx.postedOps = s.tx.postedOps)
  | recv (recvs : t.rx.postedOps = s.rx.postedOps ++ [s.nextOp])
      (sends : t.tx.postedOps = s.tx.postedOps) (nextOp : t.nextOp = s.nextOp + 1)
  | send (recvs : t.rx.postedOps = s.rx.postedOps)
      (sends : t.tx.postedOps = s.tx.postedOps ++ [s.nextOp]) (nextOp : t.nextOp = s.nextOp + 1)

/-- The queue an event finds: a callback that is run has left it. -/
def queuedAt (s : SockScheduler) : Event → List Callback
  | .run cb => s.queued.erase cb
  | _ => s.queued

/-- What an event posts, and what it schedules. -/
structure Accounts (s : SockScheduler) (e : Event) (t : SockScheduler) : Prop where
  queued : ∃ cbs : List Callback, t.queued = s.queuedAt e ++ cbs ∧
    ∀ op, t.completions op = s.completions op + cbs.count (.completion op)
  posts : Posts s t

theorem Schedules.accounts {s m t : SockScheduler} {e : Event} (work : Schedules m t)
    (queued : m.queued = s.queuedAt e) (rx : m.rx = s.rx) (tx : m.tx = s.tx) : Accounts s e t := by
  obtain ⟨cbs, grown, counted⟩ := work.queued
  refine ⟨⟨cbs, by rw [grown, queued], fun op => ?_⟩, .none ?_ ?_⟩
  · rw [counted, completions, completions, rx, tx]
  · rw [work.recvs, rx]
  · rw [work.sends, tx]

theorem send_accounts (s : SockScheduler) (slot : Nat) (session : UInt64 × UInt64)
    (data : List UInt8) (token : StopToken) :
    Accounts s (.send session data token) (s.send slot session data token) := by
  have nextOp := (s.send_onlySend slot session data token).nextOp
  obtain ⟨m, posted⟩ : ∃ m, { s.logSend (.posted s.nextOp session data) with
    nextOp := s.nextOp + 1 } = m := ⟨_, rfl⟩
  have rx : m.rx = s.rx := by rw [← posted]; rfl
  have queued : m.queued = s.queued := by rw [← posted]; rfl
  have sends : m.tx.postedOps = s.tx.postedOps ++ [s.nextOp] := by
    rw [← posted]
    simp [logSend, SendSide.postedOps, SendObs.posting]
  have done : m.tx.doneOps = s.tx.doneOps := by
    rw [← posted]
    simp [logSend, SendSide.doneOps, SendObs.finishing]
  have reject (ec : ErrorCode) : Schedules m (m.rejectSend s.nextOp ec) := by
    refine ⟨⟨[.completion s.nextOp], rfl, fun op => ?_⟩, rfl, ?_⟩
    · simp [completions, rejectSend, SendSide.doneOps, List.filterMap_cons, SendObs.finishing,
        List.count_cons, Nat.add_assoc]
    · simp [rejectSend, SendSide.postedOps, List.filterMap_cons, SendObs.posting]
  have work : Schedules m (s.send slot session data token) := by
    unfold send
    dsimp only
    split
    · rw [posted]
      exact reject _
    · split
      · rw [posted]
        exact reject _
      · rw [posted]
        exact (enqueueSend_schedules m _ _ _).trans (sendSetCancelation_schedules _ _ _)
  obtain ⟨cbs, grown, counted⟩ := work.queued
  refine ⟨⟨cbs, by rw [grown, queued]; rfl, fun op => ?_⟩, .send ?_ ?_ nextOp⟩
  · rw [counted, completions, completions, rx, done]
  · rw [work.recvs, rx]
  · rw [work.sends, sends]

theorem recv_accounts (s : SockScheduler) (flags : s.rx.FlagsOk) (slot : Nat)
    (session : UInt64 × UInt64) (buffer : RecvBuffer) (token : StopToken) :
    Accounts s (.recv session buffer token) (s.recv slot session buffer token) := by
  have nextOp := (s.recv_onlyRecv slot session buffer token).nextOp
  obtain ⟨m, posted⟩ : ∃ m, { s.logRecv (.posted s.nextOp session) with
    nextOp := s.nextOp + 1 } = m := ⟨_, rfl⟩
  have tx : m.tx = s.tx := by rw [← posted]; rfl
  have queued : m.queued = s.queued := by rw [← posted]; rfl
  have flags' : m.rx.FlagsOk := by rw [← posted]; exact flags.congr rfl rfl rfl
  have recvs : m.rx.postedOps = s.rx.postedOps ++ [s.nextOp] := by
    rw [← posted]
    simp [logRecv, RecvSide.postedOps, RecvObs.posting]
  have done : m.rx.doneOps = s.rx.doneOps := by
    rw [← posted]
    simp [logRecv, RecvSide.doneOps, RecvObs.finishing]
  have reject (ec : ErrorCode) : Schedules m (m.rejectRecv s.nextOp ec) := by
    refine ⟨⟨[.completion s.nextOp], rfl, fun op => ?_⟩, ?_, rfl⟩
    · simp [completions, rejectRecv, RecvSide.doneOps, List.filterMap_cons, RecvObs.finishing,
        List.count_cons, Nat.add_right_comm]
    · simp [rejectRecv, RecvSide.postedOps, List.filterMap_cons, RecvObs.posting]
  have work : Schedules m (s.recv slot session buffer token) := by
    unfold recv
    dsimp only
    split
    · rw [posted]
      exact reject _
    · rw [posted]
      exact (enqueueRecv_schedules m _ flags' _ _).trans (recvSetCancelation_schedules _ _ _)
  obtain ⟨cbs, grown, counted⟩ := work.queued
  refine ⟨⟨cbs, by rw [grown, queued]; rfl, fun op => ?_⟩, .recv ?_ ?_ nextOp⟩
  · rw [counted, completions, completions, tx, done]
  · rw [work.recvs, recvs]
  · rw [work.sends, tx]

/-! ### The tasks: what they do when they are resumed and when a call returns -/

section Tasks
variable {s t : SockScheduler}

theorem makeSendTask_schedules (s : SockScheduler) : Schedules s s.makeSendTask := by
  unfold makeSendTask
  split
  · exact .of_eq rfl rfl rfl
  · rename_i op task
    dsimp only
    split
    · exact .logSend (o := .started op) rfl rfl rfl rfl rfl
    · exact .logSend (o := .started op) rfl rfl rfl rfl rfl
  · exact .refl

theorem sendReturned_schedules {ec : ErrorCode} {bt : Nat}
    (returned : s.sendReturned ec bt = some t) : Schedules s t := by
  have logged (op : OpId) (part : SendPart) (x : Xfer) :
      Schedules s (s.logSend (.xfer op part x)) :=
    .logSend (o := .xfer op part x) rfl rfl rfl rfl rfl
  cases sendReturned_cases returned with
  | failed part op token task x call failed =>
    exact (logged op part x).trans (NextSendOp.awaitSuspend_schedules _ _ _)
  | next part part' op token task x call full follows =>
    apply (logged op part x).trans
    exact .of_eq rfl rfl rfl
  | body op token task x call full =>
    exact (logged op .body x).trans (NextSendOp.awaitSuspend_schedules _ _ _)

theorem receiveDataTask_schedules (s : SockScheduler) : Schedules s s.receiveDataTask := by
  have resumed := receiveDataTask_cases s
  obtain ⟨u, result⟩ : ∃ u, s.receiveDataTask = u := ⟨_, rfl⟩
  rw [result] at resumed ⊢
  cases resumed with
  | idle waits => exact .refl
  | done r task error => exact .of_eq rfl rfl rfl
  | header r task ok => exact .of_eq rfl rfl rfl
  | failed frame e task => exact AnyRecvOp.awaitSuspend_schedules _ _ _
  | body frame op task fits => exact .of_eq rfl rfl rfl
  | mismatch frame op task misfits =>
    refine Schedules.trans ?_ (AnyRecvOp.awaitSuspend_schedules _ _ _)
    exact .of_eq rfl rfl rfl

theorem recvReturned_schedules {ec : ErrorCode} {bt : Nat} {bytes : List UInt8}
    (returned : s.recvReturned ec bt bytes = some t) : Schedules s t := by
  have logged (x : Xfer) : Schedules s (s.logRecv (.header x)) :=
    .logRecv (o := .header x) rfl rfl rfl rfl rfl
  cases recvReturned_cases returned with
  | headerFailed token task failed =>
    exact (logged _).trans (AnyRecvOp.awaitSuspend_schedules _ _ _)
  | headerMeta token task size full control =>
    apply (logged _).trans
    exact .of_eq rfl rfl rfl
  | headerData token task size full data =>
    exact (logged _).trans (GetRequestedRecvSocketFork.awaitSuspend_schedules _ _)
  | controlFailed header token task failed =>
    exact (logged _).trans (AnyRecvOp.awaitSuspend_schedules _ _ _)
  | refused header token task size full table code faults init error =>
    apply (logged (recvCall ec bt bytes)).trans
    refine Schedules.trans ?_ (AnyRecvOp.awaitSuspend_schedules _ _ _)
    exact .of_eq rfl rfl rfl
  | accepted header token task size full table code faults init ok =>
    apply (logged (recvCall ec bt bytes)).trans
    exact .of_eq rfl rfl rfl
  | body frame op token task size =>
    refine Schedules.trans ?_ (AnyRecvOp.awaitSuspend_schedules _ _ _)
    exact .logRecv (o := .body op frame.call (recvCall ec bt bytes)) rfl rfl rfl rfl rfl

theorem step_accounts {e : Event} (flags : s.rx.FlagsOk) (taken : step s e = some t) :
    Accounts s e t := by
  cases e with
  | fork session =>
    obtain ⟨slot, _, rfl⟩ := Option.map_eq_some_iff.mp taken
    have work : Schedules s (s.fork slot) := .of_eq rfl rfl rfl
    exact work.accounts rfl rfl rfl
  | send session data token =>
    obtain ⟨slot, _, rfl⟩ := Option.map_eq_some_iff.mp taken
    exact send_accounts s slot session data token
  | recv session buffer token =>
    obtain ⟨slot, _, rfl⟩ := Option.map_eq_some_iff.mp taken
    exact recv_accounts s flags slot session buffer token
  | stopSend op =>
    simp only [step] at taken
    split at taken <;> cases taken
    exact (sendStopCallback_schedules s op).accounts rfl rfl rfl
  | stopRecv op =>
    simp only [step] at taken
    split at taken <;> cases taken
    exact (recvStopCallback_schedules s op).accounts rfl rfl rfl
  | flush handle =>
    cases taken
    obtain ⟨_, _, _, _, _, queued, shape, cbs, grown, other⟩ := s.flush_shape handle
    rw [shape]
    have work : Schedules s (s.flush handle) := by
      rw [shape]
      exact .of_push cbs grown other.2.2 rfl rfl
    rw [shape] at work
    exact work.accounts rfl rfl rfl
  | socketClose =>
    cases taken
    have work : Schedules s s.socketClose := .of_eq rfl rfl rfl
    exact work.accounts rfl rfl rfl
  | close =>
    cases taken
    exact (cancel_schedules s Code.closed .Extern).accounts rfl rfl rfl
  | run cb =>
    simp only [step] at taken
    split at taken <;> cases taken
    obtain ⟨m, left⟩ : ∃ m, { s with queued := s.queued.erase cb } = m := ⟨_, rfl⟩
    have queued : m.queued = s.queuedAt (.run cb) := by rw [← left]; rfl
    have rx : m.rx = s.rx := by rw [← left]
    have tx : m.tx = s.tx := by rw [← left]
    rw [left]
    cases cb with
    | recvTask => exact (receiveDataTask_schedules m).accounts queued rx tx
    | sendTask => exact (makeSendTask_schedules m).accounts queued rx tx
    | requestStop src =>
      have work : Schedules m (m.requestStop src) := by
        rw [requestStop_eq]
        exact .of_eq rfl rfl rfl
      exact work.accounts queued rx tx
    | completion op => exact Schedules.refl.accounts queued rx tx
    | flush handle => exact Schedules.refl.accounts queued rx tx
  | sendReturned ec bt => exact (sendReturned_schedules taken).accounts rfl rfl rfl
  | recvReturned ec bt bytes => exact (recvReturned_schedules taken).accounts rfl rfl rfl

end Tasks

/-! ## Runs -/

/-- A completion that was shown is queued, or has been run. -/
theorem completions_of_run {ok : SockScheduler → Event → Prop} {sid : SessionID} {es : List Event}
    {s : SockScheduler} (run : Runs.Run step ok (init sid) es s) (op : OpId) :
    s.completions op = s.queued.count (.completion op) + es.count (.run (.completion op)) := by
  induction run with
  | nil =>
    rw [BaseInv.init_eq]
    rfl
  | @snoc es s t e before met taken ih =>
    obtain ⟨cbs, grown, counted⟩ := (step_accounts (BaseInv.of_run before.any).recv.flags taken).queued
    rw [counted, ih, grown, List.count_append, List.count_append, List.count_singleton]
    have left : s.queued.count (.completion op) =
        (s.queuedAt e).count (.completion op) + if e == .run (.completion op) then 1 else 0 := by
      cases e with
      | run cb =>
        simp only [step] at taken
        split at taken
        · rename_i member
          by_cases same : cb = .completion op
          · subst same
            have positive := List.count_pos_iff.mpr member
            simp only [queuedAt, List.count_erase_self, beq_self_eq_true, if_true]
            omega
          · have other : Callback.completion op ≠ cb := fun eq => same eq.symm
            simp [queuedAt, List.count_erase_of_ne other, same]
        · cases taken
      | _ => simp [queuedAt]
    omega

/-- What has been posted, and on one direction only. -/
structure Apart (s : SockScheduler) : Prop where
  recvs : ∀ p ∈ s.rx.postedOps, p < s.nextOp
  sends : ∀ p ∈ s.tx.postedOps, p < s.nextOp
  apart : ∀ p ∈ s.rx.postedOps, p ∉ s.tx.postedOps

theorem RecvStep.nextOp_le {s t : SockScheduler} {e : Event} (step : RecvStep s e t) :
    s.nextOp ≤ t.nextOp := by
  cases step with
  | quiet rx mEC nextOp => exact nextOp
  | woken code error rx first failed nextOp => exact nextOp.ge
  | rejected session buffer token ec error rx mEC nextOp => exact nextOp ▸ Nat.le_succ _
  | posted session buffer token slot held ok rx mEC nextOp => exact nextOp ▸ Nat.le_succ _
  | stopped op armed rx frame => exact frame.nextOp.ge
  | closed r task error rx frame => exact frame.nextOp.ge
  | header r task ok rx frame => exact frame.nextOp.ge
  | abandoned f e task awaits frame => exact frame.nextOp.ge
  | body f op task fits rx frame => exact frame.nextOp.ge
  | mismatch f op task misfits awaits frame => exact frame.nextOp.ge
  | headerFailed x call task failed awaits frame => exact frame.nextOp.ge
  | control x call token task size full control rx frame => exact frame.nextOp.ge
  | data x call token task size full data request frame => exact frame.nextOp.ge
  | refused x call header token task size full table code faults init error awaits mEC nextOp =>
    exact nextOp.ge
  | accepted x call header token task size full table code faults init ok rx mEC nextOp =>
    exact nextOp.ge
  | filled x call f op token task size awaits frame => exact frame.nextOp.ge

theorem Apart.step {s t : SockScheduler} (ok : Apart s) (later : s.nextOp ≤ t.nextOp)
    (posts : Posts s t) : Apart t := by
  cases posts with
  | none recvs sends =>
    refine ⟨fun p member => ?_, fun p member => ?_, by rw [recvs, sends]; exact ok.apart⟩
    · exact Nat.lt_of_lt_of_le (ok.recvs p (recvs ▸ member)) later
    · exact Nat.lt_of_lt_of_le (ok.sends p (sends ▸ member)) later
  | recv recvs sends nextOp =>
    refine ⟨fun p member => ?_, fun p member => ?_, fun p member => ?_⟩
    · rw [recvs] at member
      rw [nextOp]
      rcases List.mem_append.mp member with old | new
      · exact Nat.lt_succ_of_lt (ok.recvs p old)
      · rw [List.mem_singleton.mp new]
        exact Nat.lt_succ_self _
    · exact Nat.lt_of_lt_of_le (ok.sends p (sends ▸ member)) later
    · rw [recvs] at member
      rw [sends]
      rcases List.mem_append.mp member with old | new
      · exact ok.apart p old
      · rw [List.mem_singleton.mp new]
        exact fun inside => Nat.lt_irrefl _ (ok.sends _ inside)
  | send recvs sends nextOp =>
    refine ⟨fun p member => ?_, fun p member => ?_, fun p member => ?_⟩
    · exact Nat.lt_of_lt_of_le (ok.recvs p (recvs ▸ member)) later
    · rw [sends] at member
      rw [nextOp]
      rcases List.mem_append.mp member with old | new
      · exact Nat.lt_succ_of_lt (ok.sends p old)
      · rw [List.mem_singleton.mp new]
        exact Nat.lt_succ_self _
    · rw [recvs] at member
      rw [sends]
      intro inside
      rcases List.mem_append.mp inside with old | new
      · exact ok.apart p member old
      · rw [List.mem_singleton.mp new] at member
        exact Nat.lt_irrefl _ (ok.recvs _ member)

theorem Apart.init (sid : SessionID) : Apart (init sid) := by
  rw [BaseInv.init_eq]
  exact ⟨nofun, nofun, nofun⟩

end SockScheduler
end Coproto
