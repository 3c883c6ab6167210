import Coproto.Invariants.RecvInv
import Coproto.Invariants.SendInv

/-!
# What every event keeps

The fork tables describe the slots by session, and both tasks are where their
flags, statuses and queues say. No condition on the peer, the transport or the
caller is needed.
-/
namespace Coproto
open SockScheduler

structure BaseInv (s : SockScheduler) : Prop where
  ids : s.table.IdsOk
  recv : RecvInv s
  send : SendInv s

namespace SockScheduler
variable (s : SockScheduler)

/-! ## Flush -/

theorem addFlush_shape (f : FlushId) (op : Option OpId) : ∃ tokens flushes,
    s.addFlush f op = { s with flushTokens := tokens, mFlushes := flushes } := by
  cases op with
  | none => exact ⟨_, _, rfl⟩
  | some op => exact ⟨_, _, rfl⟩

theorem tagLast_shape (f : FlushId) (slots : List Nat) : ∃ tokens flushes,
    slots.foldl (tagLast f) s = { s with flushTokens := tokens, mFlushes := flushes } := by
  induction slots generalizing s with
  | nil => exact ⟨_, _, rfl⟩
  | cons slot slots ih =>
    obtain ⟨tokens, flushes, first⟩ := s.addFlush_shape f (s.rx.mRecvOps slot).getLast?
    obtain ⟨tokens', flushes', second⟩ :=
      (s.addFlush f (s.rx.mRecvOps slot).getLast?).addFlush_shape f (s.tx.mSendOps slot).getLast?
    obtain ⟨tokens'', flushes'', rest⟩ := ih (s.tagLast f slot)
    refine ⟨tokens'', flushes'', ?_⟩
    have slotShape : tagLast f s slot = { s with flushTokens := tokens', mFlushes := flushes' } := by
      unfold tagLast
      rw [second, first]
    rw [List.foldl_cons, rest, slotShape]

/-- A flush touches the tokens and the queue only. -/
theorem flush_shape (handle : Nat) : ∃ tokens flushes next calls scheduled queued,
    s.flush handle = { s with
      flushTokens := tokens
      mFlushes := flushes
      nextFlush := next
      flushCalls := calls
      flushScheduled := scheduled
      queued := queued } ∧
      ∃ cbs, queued = s.queued ++ cbs ∧ .recvTask ∉ cbs ∧ .sendTask ∉ cbs ∧
        ∀ op, .completion op ∉ cbs := by
  unfold flush
  dsimp only
  split
  · exact ⟨_, _, _, _, _, _, rfl, [.flush handle], rfl, by simp, by simp, by simp⟩
  · obtain ⟨tokens, flushes, tagged⟩ := tagLast_shape { s with
        nextFlush := s.nextFlush + 1
        flushCalls := s.flushCalls ++ [(s.nextFlush, s.queuedOps)]
        flushTokens := s.flushTokens.set s.nextFlush ⟨some handle, 1⟩ } s.nextFlush
      (List.range s.table.mSocketForks_.length)
    rw [tagged]
    exact ⟨_, _, _, _, _, _, rfl, [], by simp⟩

/-! ## Calls as work of one direction -/

theorem send_onlySend (slot : Nat) (session : UInt64 × UInt64) (data : List UInt8)
    (token : StopToken) :
    OnlySend { s with nextOp := s.nextOp + 1 } (s.send slot session data token) := by
  have posted : OnlySend { s with nextOp := s.nextOp + 1 }
      { s.logSend (.posted s.nextOp session data) with nextOp := s.nextOp + 1 } :=
    onlySend_of_tx rfl
  unfold send
  refine posted.trans ?_
  dsimp only
  split
  · exact rejectSend_onlySend _ _ _
  · split
    · exact rejectSend_onlySend _ _ _
    · exact (enqueueSend_onlySend _ _ _ _).trans (sendSetCancelation_onlySend _ _ _)

theorem recv_onlyRecv (slot : Nat) (session : UInt64 × UInt64) (buffer : RecvBuffer)
    (token : StopToken) :
    OnlyRecv { s with nextOp := s.nextOp + 1 } (s.recv slot session buffer token) := by
  have posted : OnlyRecv { s with nextOp := s.nextOp + 1 }
      { s.logRecv (.posted s.nextOp session) with nextOp := s.nextOp + 1 } :=
    onlyRecv_of_rx rfl
  unfold recv
  refine posted.trans ?_
  dsimp only
  split
  · exact rejectRecv_onlyRecv _ _ _
  · exact (enqueueRecv_onlyRecv _ _ _ _).trans (recvSetCancelation_onlyRecv _ _ _)

end SockScheduler

namespace RecvInv
variable {s t : SockScheduler}

theorem logRecv (inv : RecvInv s) (o : RecvObs) : RecvInv (s.logRecv o) :=
  ⟨⟨inv.flags.anyRecvOp, inv.flags.requested⟩, inv.ready, inv.queues.congr rfl fun _ => rfl,
    inv.counted, inv.task⟩

theorem recvSetReg (inv : RecvInv s) (op : OpId) (reg : StopCallback) :
    RecvInv (s.recvSetReg op reg) :=
  ⟨⟨inv.flags.anyRecvOp, inv.flags.requested⟩, inv.ready, inv.queues.setReg op reg, inv.counted,
    taskOk_congr inv.task rfl rfl (fun zero _ => zero) fun _ started =>
      started.setReg op reg⟩

theorem rejectRecv (inv : RecvInv s) (op : OpId) (ec : ErrorCode) : RecvInv (s.rejectRecv op ec) :=
  ⟨⟨inv.flags.anyRecvOp, inv.flags.requested⟩, fun ready => List.mem_append_left _ (inv.ready ready),
    inv.queues.congr rfl fun _ => rfl, inv.counted, inv.task⟩

theorem recv (inv : RecvInv s) {slot : Nat} (inside : slot < s.table.mSocketForks_.length)
    (session : UInt64 × UInt64) (buffer : RecvBuffer) (token : StopToken) :
    RecvInv (s.recv slot session buffer token) := by
  have posted := inv.logRecv (.posted s.nextOp session)
  have counted : RecvInv { s.logRecv (.posted s.nextOp session) with nextOp := s.nextOp + 1 } :=
    posted.congr rfl rfl (Nat.le_succ _) le_rfl id
  unfold SockScheduler.recv
  dsimp only
  split
  · exact counted.rejectRecv _ _
  · rename_i ok
    have queued := posted.enqueueRecv inside (by simpa using ok) buffer rfl
    cases token with
    | none => exact queued
    | live => exact queued.recvSetReg _ _
    | stopped => exact (queued.recvSetReg _ _).recvStopCallback _

end RecvInv

namespace SendInv
variable {s t : SockScheduler}

theorem sendSetReg (inv : SendInv s) (op : OpId) (reg : StopCallback) :
    SendInv (s.sendSetReg op reg) :=
  ⟨inv.flags, inv.ready, inv.queues.setReg op reg, inv.links.setReg op reg,
    inv.task.congr rfl rfl rfl (.inl rfl)⟩

theorem rejectSend (inv : SendInv s) (op : OpId) (ec : ErrorCode) : SendInv (s.rejectSend op ec) :=
  ⟨inv.flags, fun ready => List.mem_append_left _ (inv.ready ready),
    inv.queues.congr rfl fun _ => rfl, inv.links.congr rfl rfl rfl, inv.task⟩

theorem send (inv : SendInv s) {slot : Nat} (inside : slot < s.table.mSocketForks_.length)
    (session : UInt64 × UInt64) (data : List UInt8) (token : StopToken) :
    SendInv (s.send slot session data token) := by
  have posted := inv.logSend (.posted s.nextOp session data)
  have counted : SendInv { s.logSend (.posted s.nextOp session data) with nextOp := s.nextOp + 1 } :=
    posted.congr rfl rfl (Nat.le_succ _) le_rfl id
  unfold SockScheduler.send
  dsimp only
  split
  · exact counted.rejectSend _ _
  · split
    · exact counted.rejectSend _ _
    · rename_i ok
      have queued := posted.enqueueSend inside (by simpa using ok) data rfl
      cases token with
      | none => exact queued
      | live => exact queued.sendSetReg _ _
      | stopped => exact (queued.sendSetReg _ _).sendStopCallback _

end SendInv

namespace BaseInv
variable {s t : SockScheduler}

theorem heldSlot_lt (inv : BaseInv s) {session : UInt64 × UInt64} {slot : Nat}
    (held : s.heldSlot session = some slot) : slot < s.table.mSocketForks_.length := by
  unfold heldSlot at held
  split at held
  · exact inv.ids.lt held
  · cases held

theorem sendPath (inv : BaseInv s) (path : SendPath s t) (send : SendInv t) : BaseInv t :=
  ⟨(path.crossing inv.recv.flags).table ▸ inv.ids, inv.recv.of_sendPath path, send⟩

theorem recvPath (inv : BaseInv s) (path : RecvPath s t) (recv : RecvInv t) : BaseInv t :=
  ⟨(path.crossing inv.send.flags).table ▸ inv.ids, recv, inv.send.of_recvPath path⟩

/-- A callback leaves the queue. -/
theorem dequeue (inv : BaseInv s) (cb : Callback) (other : cb ≠ .recvTask) (other' : cb ≠ .sendTask) :
    BaseInv { s with queued := s.queued.erase cb } :=
  ⟨inv.ids,
    inv.recv.congr rfl rfl le_rfl le_rfl fun h => (List.mem_erase_of_ne (Ne.symm other)).mpr h,
    inv.send.congr rfl rfl le_rfl le_rfl fun h => (List.mem_erase_of_ne (Ne.symm other')).mpr h⟩

theorem fork (inv : BaseInv s) (slot : Nat) : BaseInv (s.fork slot) :=
  ⟨inv.ids.forkSlot slot, inv.recv.congr rfl rfl le_rfl (s.table.length_forkSlot slot) id,
    inv.send.congr rfl rfl le_rfl (s.table.length_forkSlot slot) id⟩

theorem flush (inv : BaseInv s) (handle : Nat) : BaseInv (s.flush handle) := by
  obtain ⟨tokens, flushes, next, calls, scheduled, queued, shape, cbs, appended, _⟩ :=
    s.flush_shape handle
  rw [shape, appended]
  exact ⟨inv.ids, inv.recv.congr rfl rfl le_rfl le_rfl (List.mem_append_left _),
    inv.send.congr rfl rfl le_rfl le_rfl (List.mem_append_left _)⟩

/-! ## The functions of the two tasks as paths -/

theorem receiveDataTask_path (inv : BaseInv s) {queued : List Callback}
    (same : t = { s with queued := queued }) : RecvPath t t.receiveDataTask := by
  have any : t.rx.mAnyRecvOp = t.rx.mRecvTask.waitsAny := by rw [same]; exact inv.recv.flags.anyRecvOp
  have requested : t.rx.mGetRequestedRecvSocketFork = t.rx.mRecvTask.requested := by
    rw [same]; exact inv.recv.flags.requested
  unfold receiveDataTask
  split
  · split
    · exact .quiet (onlyRecv_of_rx rfl)
    · exact .quiet (onlyRecv_of_rx rfl)
  · rename_i frame e task
    rw [task] at any requested
    exact AnyRecvOp.awaitSuspend_path _ _ ⟨any, requested⟩
  · rename_i frame op task
    rw [task] at any requested
    have placed : OnlyRecv t { t with rx := t.rx.asSpan op frame.header.mSize.toNat } :=
      onlyRecv_of_rx rfl
    dsimp only
    split
    · exact .quiet (placed.trans (onlyRecv_of_rx rfl))
    · refine RecvPath.of_quiet placed (AnyRecvOp.awaitSuspend_path _ _ ⟨any, requested⟩)
  · exact .quiet .refl

/-- The receive task after a transport call: work of its direction, on the
tables a meta message leaves. -/
theorem recvReturned_path {ec : ErrorCode} {bt : Nat} {bytes : List UInt8} (inv : BaseInv s)
    (returned : s.recvReturned ec bt bytes = some t) :
    RecvPath s t ∨ ∃ header token, s.rx.mRecvTask = .control header token ∧
      (⟨ec, bt, bytes.length⟩ : Xfer).check.isError = false ∧
      RecvPath { s with
        table := (s.table.initRemoteSocketFork header.mForkId (controlBlockSessionID bytes)).1
        forkFaults := s.forkFaults ++
          (s.table.initRemoteSocketFork header.mForkId (controlBlockSessionID bytes)).2.2 } t := by
  have any := inv.recv.flags.anyRecvOp
  have requested := inv.recv.flags.requested
  unfold recvReturned at returned
  split at returned
  · cases returned
  · dsimp only at returned
    split at returned
    · rename_i token task
      rw [task] at any requested
      have logged : OnlyRecv s (s.logRecv (.header ⟨ec, bt, bytes.length⟩)) := onlyRecv_of_rx rfl
      refine .inl ?_
      split at returned
      · cases returned
        exact .of_quiet logged (AnyRecvOp.awaitSuspend_path _ _ ⟨any, requested⟩)
      · split at returned
        · cases returned
          exact .quiet (logged.trans (onlyRecv_of_rx rfl))
        · cases returned
          refine .of_quiet logged (GetRequestedRecvSocketFork.awaitSuspend_path _ ?_)
          exact ⟨inv.recv.flags.anyRecvOp, inv.recv.flags.requested⟩
    · rename_i header token task
      rw [task] at any requested
      split at returned
      · cases returned
        exact .inl (.of_quiet (onlyRecv_of_rx rfl) (AnyRecvOp.awaitSuspend_path _ _ ⟨any, requested⟩))
      · rename_i full
        refine .inr ⟨header, token, task, by simpa using full, ?_⟩
        split at returned
        · cases returned
          exact .of_quiet (onlyRecv_of_rx rfl) (AnyRecvOp.awaitSuspend_path _ _ ⟨any, requested⟩)
        · cases returned
          exact .quiet (onlyRecv_of_rx rfl)
    · rename_i frame op token task
      rw [task] at any requested
      cases returned
      exact .inl (.of_quiet (onlyRecv_of_rx rfl) (AnyRecvOp.awaitSuspend_path _ _ ⟨any, requested⟩))
    · cases returned

theorem sendReturned_path {ec : ErrorCode} {bt : Nat} (inv : BaseInv s)
    (returned : s.sendReturned ec bt = some t) : SendPath s t := by
  unfold sendReturned at returned
  split at returned
  · rename_i part op token task
    have enter : NextSendOp.Entering (s.logSend (.xfer op part ⟨ec, bt, (s.sendBytes part op).length⟩)) :=
      have busy : s.tx.mSendTask.waits = false := by simp [task, SendTask.waits]
      ⟨inv.send.flags.trans busy, busy, inv.recv.flags⟩
    have logged : OnlySend s (s.logSend (.xfer op part ⟨ec, bt, (s.sendBytes part op).length⟩)) :=
      onlySend_of_tx rfl
    dsimp only at returned
    split at returned
    · cases returned
      exact .of_quiet logged (NextSendOp.awaitSuspend_path _ _ enter)
    · split at returned <;> cases returned
      · exact .quiet (logged.trans (onlySend_of_tx rfl))
      · exact .quiet (logged.trans (onlySend_of_tx rfl))
      · exact .of_quiet logged (NextSendOp.awaitSuspend_path _ _ enter)
  · cases returned

/-! ## Steps -/

theorem makeSendTask (inv : BaseInv s) {queued : List Callback}
    (same : t = { s with queued := queued })
    (kept : .recvTask ∈ s.queued → .recvTask ∈ t.queued) : BaseInv t.makeSendTask := by
  have base : t.table.IdsOk := by rw [same]; exact inv.ids
  have recv : RecvInv t := by
    rw [same] at kept ⊢
    exact inv.recv.congr rfl rfl le_rfl le_rfl kept
  refine ⟨?_, ?_, inv.send.makeSendTask same⟩
  · rcases SendInv.makeSendTask_eq t with ⟨result, _⟩ | ⟨e, _, result⟩ | ⟨op, fs, _, _, result⟩ |
      ⟨op, fs, _, _, result⟩ <;> rw [result]
    · exact base
    · exact base
    · exact base
    · exact base.modify _ fun _ => rfl
  · rcases SendInv.makeSendTask_eq t with ⟨result, _⟩ | ⟨e, _, result⟩ | ⟨op, fs, _, _, result⟩ |
      ⟨op, fs, _, _, result⟩ <;> rw [result]
    · exact recv
    · exact recv.congr rfl rfl le_rfl le_rfl id
    · exact recv.congr rfl rfl le_rfl le_rfl id
    · exact recv.congr rfl rfl le_rfl (by simp [startSend]) id

theorem receiveDataTask (inv : BaseInv s) {queued : List Callback}
    (same : t = { s with queued := queued })
    (kept : .sendTask ∈ s.queued → .sendTask ∈ t.queued) : BaseInv t.receiveDataTask := by
  have send : SendInv t := by
    rw [same] at kept ⊢
    exact inv.send.congr rfl rfl le_rfl le_rfl kept
  have path := inv.receiveDataTask_path same
  have ids : t.table.IdsOk := by rw [same]; exact inv.ids
  exact ⟨(path.crossing send.flags).table ▸ ids, inv.recv.receiveDataTask inv.send.flags same,
    send.of_recvPath path⟩

theorem recvReturned {ec : ErrorCode} {bt : Nat} {bytes : List UInt8} (inv : BaseInv s)
    (returned : s.recvReturned ec bt bytes = some t) : BaseInv t := by
  have recv := inv.recv.recvReturned inv.send.flags returned
  rcases inv.recvReturned_path returned with path | ⟨header, token, _, _, path⟩
  · exact inv.recvPath path recv
  · have grown := s.table.length_initRemoteSocketFork header.mForkId (controlBlockSessionID bytes)
    have send := inv.send.congr (t := { s with
      table := (s.table.initRemoteSocketFork header.mForkId (controlBlockSessionID bytes)).1
      forkFaults := s.forkFaults ++
        (s.table.initRemoteSocketFork header.mForkId (controlBlockSessionID bytes)).2.2 })
      rfl rfl le_rfl grown id
    have ids := inv.ids.initRemoteSocketFork header.mForkId (controlBlockSessionID bytes)
    exact ⟨(path.crossing send.flags).table ▸ ids, recv, send.of_recvPath path⟩

/-- The invariant rule of one step. -/
theorem step {e : Event} (inv : BaseInv s) (taken : SockScheduler.step s e = some t) : BaseInv t := by
  cases e with
  | fork session =>
    obtain ⟨slot, _, rfl⟩ := Option.map_eq_some_iff.mp taken
    exact inv.fork slot
  | send session data token =>
    obtain ⟨slot, held, rfl⟩ := Option.map_eq_some_iff.mp taken
    have work := s.send_onlySend slot session data token
    exact ⟨work.table ▸ inv.ids,
      (inv.recv.congr (t := { s with nextOp := s.nextOp + 1 }) rfl rfl (Nat.le_succ _) le_rfl
        id).of_sendPath (.quiet work),
      inv.send.send (inv.heldSlot_lt held) session data token⟩
  | recv session buffer token =>
    obtain ⟨slot, held, rfl⟩ := Option.map_eq_some_iff.mp taken
    have work := s.recv_onlyRecv slot session buffer token
    exact ⟨work.table ▸ inv.ids, inv.recv.recv (inv.heldSlot_lt held) session buffer token,
      (inv.send.congr (t := { s with nextOp := s.nextOp + 1 }) rfl rfl (Nat.le_succ _) le_rfl
        id).of_recvPath (.quiet work)⟩
  | stopSend op =>
    simp only [SockScheduler.step] at taken
    split at taken <;> cases taken
    exact inv.sendPath (.quiet (s.sendStopCallback_onlySend op)) (inv.send.sendStopCallback op)
  | stopRecv op =>
    simp only [SockScheduler.step] at taken
    split at taken <;> cases taken
    exact inv.recvPath (.quiet (s.recvStopCallback_onlyRecv op)) (inv.recv.recvStopCallback op)
  | flush handle =>
    cases taken
    exact inv.flush handle
  | socketClose =>
    cases taken
    exact ⟨inv.ids, inv.recv.congr rfl rfl le_rfl le_rfl id, inv.send.congr rfl rfl le_rfl le_rfl id⟩
  | close =>
    cases taken
    refine ⟨?_, inv.recv.close inv.send.flags, inv.send.close inv.recv.flags⟩
    unfold SockScheduler.close cancel
    dsimp only
    split
    · exact inv.ids
    · rw [enterError_eq .Extern Code.closed inv.recv.flags inv.send.flags]
      exact inv.ids
  | run cb =>
    simp only [SockScheduler.step] at taken
    split at taken <;> cases taken
    cases cb with
    | completion op => exact inv.dequeue _ (by simp) (by simp)
    | flush handle => exact inv.dequeue _ (by simp) (by simp)
    | recvTask =>
      exact inv.receiveDataTask rfl fun h => (List.mem_erase_of_ne (by simp)).mpr h
    | sendTask =>
      exact inv.makeSendTask rfl fun h => (List.mem_erase_of_ne (by simp)).mpr h
    | requestStop src =>
      have inv' := inv.dequeue (.requestStop src) (by simp) (by simp)
      simp only [runCallback, requestStop_eq]
      exact ⟨inv'.ids, inv'.recv.congr rfl rfl le_rfl le_rfl id,
        inv'.send.congr rfl rfl le_rfl le_rfl id⟩
  | sendReturned ec bt =>
    exact inv.sendPath (inv.sendReturned_path taken) (inv.send.sendReturned inv.recv.flags taken)
  | recvReturned ec bt bytes => exact inv.recvReturned taken

/-! ## A new scheduler -/

/-- Both tasks are parked. -/
theorem init_eq (sid : SessionID) : SockScheduler.init sid =
    { table := ForkTable.init sid
      rx := { mRecvToken := 0, mRecvCancelSrc := some 0, mAnyRecvOp := true,
              mRecvTask := .anyRecvOp none }
      tx := { mSendToken := 1, mSendCancelSrc := some 1, mNextSendOp := true,
              mSendTask := .nextSendOp none }
      held := [sid] } := rfl

theorem init (sid : SessionID) : BaseInv (SockScheduler.init sid) := by
  rw [init_eq]
  refine ⟨ForkTable.IdsOk.init sid, ⟨⟨rfl, rfl⟩, by simp [RecvTask.ready], ?_, ?_, rfl, rfl, rfl⟩,
    ⟨rfl, by simp [SendTask.ready], ?_, ?_, rfl, rfl, rfl, rfl⟩⟩
  · exact ⟨fun _ => List.Pairwise.nil, by simp [RecvSide.home], by simp [RecvSide.home]⟩
  · simp [RecvSide.Counted, Queues.total]
  · exact ⟨fun _ => List.Pairwise.nil, by simp [SendSide.home], by simp [SendSide.home]⟩
  · exact ⟨by simp [SendSide.next], by simp, by simp, by simp⟩

/-- The invariant holds in every state a run reaches. -/
theorem of_run {sid : SessionID} {ok : SockScheduler → Event → Prop} {es : List Event}
    (run : Runs.Run SockScheduler.step ok (SockScheduler.init sid) es s) : BaseInv s :=
  run.invariant (init sid) fun _ _ _ inv _ taken => inv.step taken

end BaseInv
end Coproto
