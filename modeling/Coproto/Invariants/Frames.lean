import Coproto.Lib.Runs
import Coproto.Source.Scheduler

/-!
# What each function leaves alone

The two directions of a scheduler share the fork tables, `mEC`, the callback
queue and the stop states. `OnlySend s t` says that `t` was reached from `s` by
work of the send direction alone, `OnlyRecv s t` the same for the receive
direction; the functions that belong to one direction are shown to stay in it.
-/
namespace Coproto
namespace SockScheduler

/-- Neither direction's work changes these; callbacks are only added, and none
of them is `other`. -/
structure Shared (s t : SockScheduler) (other : Callback) : Prop where
  table : t.table = s.table
  mEC : t.mEC = s.mEC
  mClosed : t.mClosed = s.mClosed
  held : t.held = s.held
  nextOp : t.nextOp = s.nextOp
  stopped : t.stopped = s.stopped
  forkFaults : t.forkFaults = s.forkFaults
  queued : ∃ cbs, t.queued = s.queued ++ cbs ∧ other ∉ cbs

structure OnlySend (s t : SockScheduler) : Prop extends Shared s t .recvTask where
  rx : t.rx = s.rx
  nextStop : t.nextStop = s.nextStop

structure OnlyRecv (s t : SockScheduler) : Prop extends Shared s t .sendTask where
  tx : t.tx = s.tx

section Frames
variable {s t u : SockScheduler} {other : Callback}

theorem Shared.refl : Shared s s other := by
  constructor <;> first | rfl | exact ⟨[], by simp⟩

theorem Shared.trans (st : Shared s t other) (tu : Shared t u other) : Shared s u other := by
  obtain ⟨cbs, first, quiet⟩ := st.queued
  obtain ⟨cbs', second, quiet'⟩ := tu.queued
  exact ⟨tu.table.trans st.table, tu.mEC.trans st.mEC, tu.mClosed.trans st.mClosed,
    tu.held.trans st.held, tu.nextOp.trans st.nextOp, tu.stopped.trans st.stopped,
    tu.forkFaults.trans st.forkFaults, cbs ++ cbs', by simp [second, first], by simp [quiet, quiet']⟩

theorem Shared.queued_mem (frame : Shared s t other) {cb : Callback} (queued : cb ∈ s.queued) :
    cb ∈ t.queued := by
  obtain ⟨cbs, appended, _⟩ := frame.queued
  rw [appended]
  exact List.mem_append_left _ queued

theorem OnlySend.refl : OnlySend s s := ⟨.refl, rfl, rfl⟩

theorem OnlySend.trans (st : OnlySend s t) (tu : OnlySend t u) : OnlySend s u :=
  ⟨st.toShared.trans tu.toShared, tu.rx.trans st.rx, tu.nextStop.trans st.nextStop⟩

theorem OnlyRecv.refl : OnlyRecv s s := ⟨.refl, rfl⟩

theorem OnlyRecv.trans (st : OnlyRecv s t) (tu : OnlyRecv t u) : OnlyRecv s u :=
  ⟨st.toShared.trans tu.toShared, tu.tx.trans st.tx⟩

end Frames

/-! ## Flush tokens -/

/-- Completing or dropping flush tokens touches the tokens, their list and the
queue, which gains flush handles only. -/
theorem completeFlush_queued (s : SockScheduler) (f : FlushId) :
    ∃ hs : List Nat, (s.completeFlush f).queued = s.queued ++ hs.map .flush := by
  unfold completeFlush
  split
  · exact ⟨[_], rfl⟩
  · exact ⟨[], by simp⟩

theorem completeFlushes_queued (s : SockScheduler) (op : OpId) :
    ∃ hs : List Nat, (s.completeFlushes op).queued = s.queued ++ hs.map .flush := by
  have release : ∀ (fs : List FlushId) (s : SockScheduler),
      (fs.foldl releaseFlush s).queued = s.queued := by
    intro fs
    induction fs with
    | nil => intro s; rfl
    | cons f fs ih => intro s; exact ih _
  have complete : ∀ (fs : List FlushId) (s : SockScheduler),
      ∃ hs : List Nat, (fs.foldl completeFlush s).queued = s.queued ++ hs.map .flush := by
    intro fs
    induction fs with
    | nil => intro s; exact ⟨[], by simp⟩
    | cons f fs ih =>
      intro s
      obtain ⟨hs, first⟩ := completeFlush_queued s f
      obtain ⟨hs', rest⟩ := ih (s.completeFlush f)
      exact ⟨hs ++ hs', by simp [List.foldl_cons, rest, first]⟩
  obtain ⟨hs, done⟩ := complete (s.mFlushes op) s
  exact ⟨hs, by simp only [completeFlushes, clearFlushes, release, done]⟩

/-- Any view that does not read the tokens or their list is kept. -/
theorem clearFlushes_frame {γ : Type*} (view : SockScheduler → γ)
    (blind : ∀ s tokens flushes,
      view { s with flushTokens := tokens, mFlushes := flushes } = view s)
    (s : SockScheduler) (op : OpId) : view (s.clearFlushes op) = view s := by
  have release : ∀ (fs : List FlushId) (s : SockScheduler),
      view (fs.foldl releaseFlush s) = view s := by
    intro fs
    induction fs with
    | nil => intro s; rfl
    | cons f fs ih => intro s; exact (ih _).trans (blind s _ s.mFlushes)
  exact (blind _ ((s.mFlushes op).foldl releaseFlush s).flushTokens _).trans (release _ s)

theorem completeFlushes_frame {γ : Type*} (view : SockScheduler → γ)
    (blind : ∀ s tokens flushes queued scheduled,
      view { s with flushTokens := tokens, mFlushes := flushes, queued := queued,
                    flushScheduled := scheduled } = view s)
    (s : SockScheduler) (op : OpId) : view (s.completeFlushes op) = view s := by
  have complete : ∀ (fs : List FlushId) (s : SockScheduler),
      view (fs.foldl completeFlush s) = view s := by
    intro fs
    induction fs with
    | nil => intro s; rfl
    | cons f fs ih =>
      intro s
      refine (ih _).trans ?_
      unfold completeFlush
      split
      · exact blind s _ s.mFlushes _ _
      · rfl
  exact (clearFlushes_frame view (fun s tokens flushes =>
    blind s tokens flushes s.queued s.flushScheduled) _ op).trans (complete _ s)

section FlushFrames
variable (s : SockScheduler) (op : OpId)

@[simp] theorem completeFlushes_rx : (s.completeFlushes op).rx = s.rx :=
  completeFlushes_frame (·.rx) (fun _ _ _ _ _ => rfl) s op

@[simp] theorem completeFlushes_tx : (s.completeFlushes op).tx = s.tx :=
  completeFlushes_frame (·.tx) (fun _ _ _ _ _ => rfl) s op

@[simp] theorem clearFlushes_rx : (s.clearFlushes op).rx = s.rx :=
  clearFlushes_frame (·.rx) (fun _ _ _ => rfl) s op

@[simp] theorem clearFlushes_tx : (s.clearFlushes op).tx = s.tx :=
  clearFlushes_frame (·.tx) (fun _ _ _ => rfl) s op

@[simp] theorem clearFlushes_queued : (s.clearFlushes op).queued = s.queued :=
  clearFlushes_frame (·.queued) (fun _ _ _ => rfl) s op

theorem completeFlushes_nextStop : (s.completeFlushes op).nextStop = s.nextStop :=
  completeFlushes_frame (·.nextStop) (fun _ _ _ _ _ => rfl) s op

theorem clearFlushes_nextStop : (s.clearFlushes op).nextStop = s.nextStop :=
  clearFlushes_frame (·.nextStop) (fun _ _ _ => rfl) s op

/-- Completing tokens is work that both directions do. -/
theorem completeFlushes_shared {other : Callback} (noFlush : ∀ h, other ≠ .flush h) :
    Shared s (s.completeFlushes op) other where
  table := completeFlushes_frame (·.table) (fun _ _ _ _ _ => rfl) s op
  mEC := completeFlushes_frame (·.mEC) (fun _ _ _ _ _ => rfl) s op
  mClosed := completeFlushes_frame (·.mClosed) (fun _ _ _ _ _ => rfl) s op
  held := completeFlushes_frame (·.held) (fun _ _ _ _ _ => rfl) s op
  nextOp := completeFlushes_frame (·.nextOp) (fun _ _ _ _ _ => rfl) s op
  stopped := completeFlushes_frame (·.stopped) (fun _ _ _ _ _ => rfl) s op
  forkFaults := completeFlushes_frame (·.forkFaults) (fun _ _ _ _ _ => rfl) s op
  queued := by
    obtain ⟨hs, appended⟩ := s.completeFlushes_queued op
    refine ⟨_, appended, fun flushed => ?_⟩
    obtain ⟨h, _, same⟩ := List.mem_map.mp flushed
    exact noFlush h same.symm

theorem clearFlushes_shared {other : Callback} : Shared s (s.clearFlushes op) other where
  table := clearFlushes_frame (·.table) (fun _ _ _ => rfl) s op
  mEC := clearFlushes_frame (·.mEC) (fun _ _ _ => rfl) s op
  mClosed := clearFlushes_frame (·.mClosed) (fun _ _ _ => rfl) s op
  held := clearFlushes_frame (·.held) (fun _ _ _ => rfl) s op
  nextOp := clearFlushes_frame (·.nextOp) (fun _ _ _ => rfl) s op
  stopped := clearFlushes_frame (·.stopped) (fun _ _ _ => rfl) s op
  forkFaults := clearFlushes_frame (·.forkFaults) (fun _ _ _ => rfl) s op
  queued := ⟨[], by simp⟩

end FlushFrames

/-! ## The send direction -/

section Send
variable (s : SockScheduler) (op : OpId)

/-- Straight-line work on `tx`, with the callbacks it adds. -/
theorem onlySend_of_queued {s t : SockScheduler} (cbs : List Callback)
    (rest : t = { s with tx := t.tx, queued := t.queued, faults := t.faults })
    (queued : t.queued = s.queued ++ cbs) (quiet : .recvTask ∉ cbs) : OnlySend s t := by
  rw [rest]
  exact ⟨⟨rfl, rfl, rfl, rfl, rfl, rfl, rfl, cbs, queued, quiet⟩, rfl, rfl⟩

/-- Straight-line work on `tx` that adds no callback. -/
theorem onlySend_of_tx {s t : SockScheduler}
    (rest : t = { s with tx := t.tx, faults := t.faults }) : OnlySend s t := by
  rw [rest]
  exact ⟨⟨rfl, rfl, rfl, rfl, rfl, rfl, rfl, [], by simp⟩, rfl, rfl⟩

theorem sendCompleteOn_onlySend : OnlySend s (s.sendCompleteOn op) := by
  unfold sendCompleteOn
  split
  · have first : OnlySend s
        { s with tx := s.tx.completeOn op, queued := s.queued ++ [.completion op] } :=
      onlySend_of_queued [.completion op] rfl rfl (by simp)
    exact first.trans ⟨completeFlushes_shared _ op (by simp), completeFlushes_rx _ op,
      completeFlushes_nextStop _ op⟩
  · exact .refl

theorem eraseSend_onlySend (slot : Nat) : OnlySend s (s.eraseSend slot op) :=
  OnlySend.trans ⟨s.clearFlushes_shared op, s.clearFlushes_rx op, s.clearFlushes_nextStop op⟩
    (onlySend_of_tx rfl)

theorem popFrontSend_onlySend (slot : Nat) : OnlySend s (s.popFrontSend slot) := by
  unfold popFrontSend
  split
  · exact .refl
  · exact s.eraseSend_onlySend _ slot

theorem drainSends_onlySend (n : Nat) (iter : Option OpId) (ec : ErrorCode) :
    OnlySend s (s.drainSends n iter ec) := by
  induction n generalizing s iter ec with
  | zero => exact .refl
  | succ n ih =>
    cases iter with
    | none => exact .refl
    | some op =>
      simp only [drainSends]
      refine OnlySend.trans ?_ (ih _ _ _)
      refine OnlySend.trans ?_ (popFrontSend_onlySend _ _)
      refine OnlySend.trans ?_ (sendCompleteOn_onlySend _ op)
      exact onlySend_of_tx rfl

theorem NextSendOp.completePrev_onlySend (ec : ErrorCode) :
    OnlySend s (NextSendOp.completePrev s op ec).1 := by
  have failed : OnlySend s (if ec.isError then s.sendSetError op ec else s) := by
    split
    · exact onlySend_of_tx rfl
    · exact .refl
  refine failed.trans ?_
  refine (sendCompleteOn_onlySend _ op).trans ?_
  refine OnlySend.trans ?_ (popFrontSend_onlySend _ _)
  exact onlySend_of_tx rfl

theorem unlinkSend_onlySend (o : SendOperation) : OnlySend s (s.unlinkSend o) := by
  unfold unlinkSend
  cases o.mPrev <;> exact onlySend_of_tx rfl

theorem sendStopCallback_onlySend : OnlySend s (s.sendStopCallback op) := by
  unfold sendStopCallback
  split
  · exact .refl
  · rename_i o live
    split
    · refine OnlySend.trans ?_ (eraseSend_onlySend _ op _)
      refine OnlySend.trans ?_ (unlinkSend_onlySend _ o)
      refine OnlySend.trans ?_ (sendCompleteOn_onlySend _ op)
      exact onlySend_of_tx rfl
    · exact onlySend_of_queued [.requestStop s.tx.mSendCancelSrc] rfl rfl (by simp)

theorem sendSetCancelation_onlySend (token : StopToken) :
    OnlySend s (s.sendSetCancelation op token) := by
  cases token with
  | none => exact .refl
  | live => exact onlySend_of_tx rfl
  | stopped =>
    have armed : OnlySend s (s.sendSetReg op .registered) := onlySend_of_tx rfl
    exact armed.trans (sendStopCallback_onlySend _ op)

theorem rejectSend_onlySend (ec : ErrorCode) : OnlySend s (s.rejectSend op ec) :=
  onlySend_of_queued [.completion op] rfl rfl (by simp)

theorem wakeSend_onlySend : OnlySend s (s.wakeSend op) :=
  onlySend_of_queued [.sendTask] rfl rfl (by simp)

theorem linkSend_onlySend : OnlySend s (s.linkSend op) := by
  unfold linkSend
  cases h : s.tx.mSendBufferLast <;> simp only [check, h] <;> exact onlySend_of_tx rfl

theorem enqueueSend_onlySend (slot : Nat) (data : List UInt8) :
    OnlySend s (s.enqueueSend slot op data) := by
  have placed : OnlySend s (s.emplaceSend slot op data) := onlySend_of_tx rfl
  unfold enqueueSend
  refine placed.trans ?_
  dsimp only
  split
  · exact wakeSend_onlySend _ op
  · exact linkSend_onlySend _ op

end Send

/-! ## The receive direction -/

section Recv
variable (s : SockScheduler) (op : OpId)

theorem onlyRecv_of_queued {s t : SockScheduler} (cbs : List Callback)
    (rest : t = { s with rx := t.rx, queued := t.queued, faults := t.faults,
                         nextStop := t.nextStop })
    (queued : t.queued = s.queued ++ cbs) (quiet : .sendTask ∉ cbs) : OnlyRecv s t := by
  rw [rest]
  exact ⟨⟨rfl, rfl, rfl, rfl, rfl, rfl, rfl, cbs, queued, quiet⟩, rfl⟩

theorem onlyRecv_of_rx {s t : SockScheduler}
    (rest : t = { s with rx := t.rx, faults := t.faults, nextStop := t.nextStop }) :
    OnlyRecv s t := by
  rw [rest]
  exact ⟨⟨rfl, rfl, rfl, rfl, rfl, rfl, rfl, [], by simp⟩, rfl⟩

theorem recvCompleteOn_onlyRecv : OnlyRecv s (s.recvCompleteOn op) := by
  unfold recvCompleteOn
  split
  · have first : OnlyRecv s
        { s with rx := s.rx.completeOn op, queued := s.queued ++ [.completion op] } :=
      onlyRecv_of_queued [.completion op] rfl rfl (by simp)
    exact first.trans ⟨completeFlushes_shared _ op (by simp), completeFlushes_tx _ op⟩
  · exact .refl

theorem eraseRecv_onlyRecv (slot : Nat) : OnlyRecv s (s.eraseRecv slot op) :=
  OnlyRecv.trans ⟨s.clearFlushes_shared op, s.clearFlushes_tx op⟩ (onlyRecv_of_rx rfl)

theorem popFrontRecv_onlyRecv (slot : Nat) : OnlyRecv s (s.popFrontRecv slot) := by
  unfold popFrontRecv
  split
  · exact .refl
  · exact s.eraseRecv_onlyRecv _ slot

theorem failRecv_onlyRecv (slot : Nat) (ec : ErrorCode) : OnlyRecv s (s.failRecv slot op ec) := by
  refine OnlyRecv.trans ?_ (popFrontRecv_onlyRecv _ slot)
  refine OnlyRecv.trans ?_ (recvCompleteOn_onlyRecv _ op)
  exact onlyRecv_of_rx rfl

theorem drainRecvs_onlyRecv (ops : List (Nat × OpId)) (ec : ErrorCode) :
    OnlyRecv s (s.drainRecvs ops ec) := by
  induction ops generalizing s ec with
  | nil => exact .refl
  | cons op ops ih => exact (s.failRecv_onlyRecv op.2 op.1 ec).trans (ih _ _)

theorem AnyRecvOp.completePrev_onlyRecv (ec : ErrorCode) :
    OnlyRecv s (AnyRecvOp.completePrev s op ec).1 := by
  unfold completePrev
  refine OnlyRecv.trans ?_ (onlyRecv_of_rx rfl)
  refine OnlyRecv.trans ?_ (popFrontRecv_onlyRecv _ _)
  refine OnlyRecv.trans ?_ (recvCompleteOn_onlyRecv _ op)
  split <;> split <;> exact onlyRecv_of_rx rfl

theorem recvStopCallback_onlyRecv : OnlyRecv s (s.recvStopCallback op) := by
  unfold recvStopCallback
  split
  · exact .refl
  · rename_i o live
    split
    · refine OnlyRecv.trans ?_ (eraseRecv_onlyRecv _ op _)
      refine OnlyRecv.trans ?_ (recvCompleteOn_onlyRecv _ op)
      exact onlyRecv_of_rx rfl
    · exact onlyRecv_of_queued [.requestStop s.rx.mRecvCancelSrc] rfl rfl (by simp)

theorem recvSetCancelation_onlyRecv (token : StopToken) :
    OnlyRecv s (s.recvSetCancelation op token) := by
  cases token with
  | none => exact .refl
  | live => exact onlyRecv_of_rx rfl
  | stopped =>
    have armed : OnlyRecv s (s.recvSetReg op .registered) := onlyRecv_of_rx rfl
    exact armed.trans (recvStopCallback_onlyRecv _ op)

theorem rejectRecv_onlyRecv (ec : ErrorCode) : OnlyRecv s (s.rejectRecv op ec) :=
  onlyRecv_of_queued [.completion op] rfl rfl (by simp)

theorem wakeAnyRecv_onlyRecv : OnlyRecv s (s.wakeAnyRecv op) :=
  onlyRecv_of_queued [.recvTask] rfl rfl (by simp)

theorem wakeRequestedRecv_onlyRecv : OnlyRecv s (s.wakeRequestedRecv op) :=
  onlyRecv_of_queued [.recvTask] rfl rfl (by simp)

theorem enqueueRecv_onlyRecv (slot : Nat) (buffer : RecvBuffer) :
    OnlyRecv s (s.enqueueRecv slot op buffer) := by
  have placed : OnlyRecv s (s.emplaceRecv slot op buffer) := onlyRecv_of_rx rfl
  unfold enqueueRecv
  refine placed.trans ?_
  dsimp only
  split
  · split
    · exact (wakeAnyRecv_onlyRecv _ op).trans (wakeRequestedRecv_onlyRecv _ op)
    · exact wakeAnyRecv_onlyRecv _ op
  · split
    · exact wakeRequestedRecv_onlyRecv _ op
    · exact .refl

end Recv
end SockScheduler
end Coproto
