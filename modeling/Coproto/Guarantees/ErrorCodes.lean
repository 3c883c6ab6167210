import Coproto.Invariants.Base
import Coproto.Invariants.Returns

/-!
# Codes of failed operations

SocketScheduler.cpp:214-258, SocketScheduler.h:741-805, 969-1026. `setError` is
given the saved code of an awaiter. An awaiter that is entered with success while
the scheduler has failed hands `success` to the first operation of the drain:
`if (mPrevEc || mSched.mEC)` closes the direction with `mPrevEc` as it is.
-/
namespace Coproto
open SockScheduler Runs

/-- The send task goes on to `NextSendOp`, and finds a further send there. -/
def SendSide.LeavesSends (tx : SendSide) (full : SendPart → OpId → Bool) : Prop :=
  match tx.mSendTask with
  | .sending part op _ => (part = .body ∨ full part op = false) ∧ tx.next op ≠ none
  | _ => False

/-- The receive task goes on to `AnyRecvOp`, and finds a further receive there. -/
def RecvSide.LeavesRecvs (rx : RecvSide) (full : Bool) : Prop :=
  match rx.mRecvTask with
  | .header _ => full = false ∧ rx.mNumRecvs ≠ 0
  | .control _ _ => full = false ∧ rx.mNumRecvs ≠ 0
  | .body _ _ _ => rx.mNumRecvs ≠ 1
  | _ => False

instance (tx : SendSide) (full : SendPart → OpId → Bool) : Decidable (tx.LeavesSends full) := by
  unfold SendSide.LeavesSends
  split <;> infer_instance

instance (rx : RecvSide) (full : Bool) : Decidable (rx.LeavesRecvs full) := by
  unfold RecvSide.LeavesRecvs
  split <;> infer_instance

/-- A transport call succeeds after the scheduler has failed, and its direction
has an operation left to drain. -/
def DrainsWithSuccess (s : SockScheduler) : Event → Prop
  | .sendReturned ec bt =>
    ec.isError = false ∧ s.mEC.isError = true ∧
      s.tx.LeavesSends fun part op => bt = (s.sendBytes part op).length
  | .recvReturned ec bt bytes =>
    ec.isError = false ∧ s.mEC.isError = true ∧ s.rx.LeavesRecvs (bt = bytes.length)
  | _ => False

instance (s : SockScheduler) (e : Event) : Decidable (DrainsWithSuccess s e) := by
  rcases e with ⟨⟩ <;> dsimp only [DrainsWithSuccess] <;> infer_instance

/-- Every code given to `setError` so far is an error. -/
def SendSide.CodesOk (tx : SendSide) : Prop :=
  ∀ op ec, .setError op ec ∈ tx.trace → ec.isError = true

def RecvSide.CodesOk (rx : RecvSide) : Prop :=
  ∀ op ec, .setError op ec ∈ rx.trace → ec.isError = true

/-! ## The send direction -/

namespace SendSide
variable {tx tx' : SendSide} {op : OpId} {ec : ErrorCode}

theorem CodesOk.congr (ok : tx.CodesOk) (trace : tx'.trace = tx.trace) : tx'.CodesOk := by
  unfold CodesOk
  rw [trace]
  exact ok

theorem CodesOk.log (ok : tx.CodesOk) {o : SendObs} (other : ∀ op ec, o ≠ .setError op ec) :
    (tx.log o).CodesOk := by
  intro op ec logged
  rcases List.mem_append.mp logged with old | new
  · exact ok op ec old
  · exact absurd (List.mem_singleton.mp new).symm (other op ec)

theorem CodesOk.setError (ok : tx.CodesOk) (op : OpId) (error : ec.isError = true) :
    (tx.setError op ec).CodesOk := by
  intro p e logged
  rcases List.mem_append.mp logged with old | new
  · exact ok p e old
  · cases List.mem_singleton.mp new
    exact error

theorem CodesOk.completeOn (ok : tx.CodesOk) (op : OpId) : (tx.completeOn op).CodesOk := by
  intro p e logged
  rcases List.mem_append.mp logged with old | new
  · exact ok p e old
  · cases live : tx.ops op <;> simp [live] at new

theorem CodesOk.finish (ok : tx.CodesOk) (ec : ErrorCode) : (tx.finish op ec).CodesOk := by
  have done : ((if ec.isError then tx.setError op ec else tx).completeOn op).CodesOk := by
    split
    · rename_i error
      exact (ok.setError op error).completeOn op
    · exact ok.completeOn op
  exact done.congr rfl

theorem CodesOk.cut (ok : tx.CodesOk) (o : SendOperation) : (tx.cut op o).CodesOk := by
  have done : ((tx.setError op Code.operation_aborted).completeOn op).CodesOk :=
    (ok.setError op rfl).completeOn op
  unfold SendSide.cut
  cases o.mPrev <;> exact done.congr rfl

/-- A drain hands its code to the first operation and `code::cancel` to the others. -/
theorem CodesOk.drain (ok : tx.CodesOk) (n : Nat) (iter : Option OpId)
    (error : ec.isError = true ∨ iter = none) : (tx.drain n iter ec).CodesOk := by
  induction n generalizing tx iter ec with
  | zero => exact ok
  | succ n ih =>
    cases iter with
    | none => exact ok
    | some op =>
      have failed : (tx.fail op ec).CodesOk :=
        ((ok.setError op (error.resolve_right (by simp))).completeOn op).congr rfl
      exact ih failed _ (.inl rfl)

theorem CodesOk.close (ok : tx.CodesOk) (n : Nat)
    (error : ec.isError = true ∨ tx.mSendBufferBegin = none) : (tx.close n ec).CodesOk :=
  have closing : tx.closing.CodesOk := ok.congr rfl
  closing.drain n _ error

theorem CodesOk.wakeError (ok : tx.CodesOk) : tx.wakeError.CodesOk := by
  refine ok.congr ?_
  unfold SendSide.wakeError
  split <;> rfl

end SendSide

/-! ## The receive direction -/

namespace RecvSide
variable {rx rx' : RecvSide} {op : OpId} {ec : ErrorCode}

theorem CodesOk.congr (ok : rx.CodesOk) (trace : rx'.trace = rx.trace) : rx'.CodesOk := by
  unfold CodesOk
  rw [trace]
  exact ok

theorem CodesOk.log (ok : rx.CodesOk) {o : RecvObs} (other : ∀ op ec, o ≠ .setError op ec) :
    (rx.log o).CodesOk := by
  intro op ec logged
  rcases List.mem_append.mp logged with old | new
  · exact ok op ec old
  · exact absurd (List.mem_singleton.mp new).symm (other op ec)

theorem CodesOk.setError (ok : rx.CodesOk) (op : OpId) (error : ec.isError = true) :
    (rx.setError op ec).CodesOk := by
  intro p e logged
  rcases List.mem_append.mp logged with old | new
  · exact ok p e old
  · cases List.mem_singleton.mp new
    exact error

theorem CodesOk.completeOn (ok : rx.CodesOk) (op : OpId) : (rx.completeOn op).CodesOk := by
  intro p e logged
  rcases List.mem_append.mp logged with old | new
  · exact ok p e old
  · cases live : rx.ops op <;> simp [live] at new

theorem CodesOk.finish (ok : rx.CodesOk) (ec : ErrorCode) : (rx.finish op ec).CodesOk := by
  have done : ((if ec.isError then rx.setError op ec else rx).completeOn op).CodesOk := by
    split
    · rename_i error
      exact (ok.setError op error).completeOn op
    · exact ok.completeOn op
  exact done.congr rfl

theorem CodesOk.cut (ok : rx.CodesOk) (o : RecvOperation) : (rx.cut op o).CodesOk :=
  ((ok.setError op (show (ErrorCode.coproto .operation_aborted).isError = true from rfl)).completeOn
    op).congr rfl

theorem CodesOk.drain (ok : rx.CodesOk) (ops : List (Nat × OpId))
    (error : ec.isError = true ∨ ops = []) : (rx.drain ops ec).CodesOk := by
  induction ops generalizing rx ec with
  | nil => exact ok
  | cons op ops ih =>
    have failed : (rx.fail op.1 op.2 ec).CodesOk :=
      ((ok.setError op.2 (error.resolve_right (by simp))).completeOn op.2).congr rfl
    exact ih failed (.inl rfl)

theorem CodesOk.close (ok : rx.CodesOk) (ops : List (Nat × OpId))
    (error : ec.isError = true ∨ ops = []) : (rx.close ops ec).CodesOk := by
  have closing : rx.closing.CodesOk := ok.congr rfl
  exact (closing.drain ops error).congr rfl

theorem CodesOk.wakeError (ok : rx.CodesOk) (e : ErrorCode) : (rx.wakeError e).CodesOk := by
  refine ok.congr ?_
  unfold RecvSide.wakeError
  split <;> rfl

end RecvSide

namespace SockScheduler
variable {s t : SockScheduler}

/-! ## The awaiters -/

theorem codes_nextSendOp (prevOp : Option OpId) (ec : ErrorCode) (enter : NextSendOp.Entering s)
    (codes : s.tx.CodesOk)
    (drain : ec.isError = true ∨ s.mEC.isError = false ∨
      (NextSendOp.prev s prevOp ec).1.tx.mSendBufferBegin = none) :
    (NextSendOp.awaitSuspend s prevOp ec).tx.CodesOk := by
  have done : (NextSendOp.prev s prevOp ec).1.tx.CodesOk := by
    cases prevOp with
    | none => exact codes
    | some op =>
      simp only [NextSendOp.prev, NextSendOp.completePrev_tx]
      exact codes.finish ec
  rcases NextSendOp.awaitSuspend_cases (s := s) prevOp ec with
    ⟨failed, result⟩ | ⟨_, op, fs, _, result⟩ | ⟨_, _, result⟩ <;> rw [result]
  · obtain ⟨task, _, _⟩ := NextSendOp.prev_task (s := s) prevOp ec
    have tx := cancel_sender_tx (s := NextSendOp.failing s prevOp ec)
      (enter.failing_flags prevOp ec)
      ((NextSendOp.failing_onlySend (s := s) prevOp ec).rx ▸ enter.rx)
      (by show (NextSendOp.prev s prevOp ec).1.tx.mSendTask.waits = false; rw [task]; exact enter.busy)
      (NextSendOp.prev s prevOp ec).2
    refine SendSide.CodesOk.congr ?_ (rfl : _ = ((NextSendOp.failing s prevOp ec).cancel .Sender
      (NextSendOp.prev s prevOp ec).2).tx.trace)
    rw [tx]
    refine SendSide.CodesOk.close (done.congr rfl) _ ?_
    rw [NextSendOp.prev_snd_isError]
    rcases drain with error | fine | empty
    · exact .inl error
    · exact .inl (failed.resolve_right (by simp [fine]))
    · exact .inr empty
  · exact done.congr rfl
  · exact done.congr rfl

theorem queuedRecvs_eq_nil {slots : Nat} (same : s.table.mSocketForks_.length = slots)
    (counted : s.rx.Counted slots) (none : s.rx.mNumRecvs = 0) : s.queuedRecvs = [] := by
  have empty := Queues.total_eq_zero.mp (counted.symm.trans none)
  refine List.flatMap_eq_nil_iff.mpr fun slot member => ?_
  rw [same] at member
  rw [empty slot (List.mem_range.mp member), List.map_nil]

theorem codes_anyRecvOp {prevOp : Option OpId} {ec : ErrorCode}
    (start : RecvInv.Awaiting s prevOp ec) (codes : s.rx.CodesOk)
    (drain : ec.isError = true ∨ s.mEC.isError = false ∨
      (AnyRecvOp.prev s prevOp ec).1.rx.mNumRecvs = 0) :
    (AnyRecvOp.awaitSuspend s prevOp ec).rx.CodesOk := by
  have done : (AnyRecvOp.prev s prevOp ec).1.rx.CodesOk := by
    cases prevOp with
    | none => exact codes
    | some op =>
      simp only [AnyRecvOp.prev, AnyRecvOp.completePrev_rx]
      split
      · have renewed : s.resetRecvToken.rx.CodesOk := codes.congr rfl
        exact renewed.finish ec
      · exact codes.finish ec
  rcases AnyRecvOp.awaitSuspend_cases (s := s) prevOp ec with
    ⟨failed, result⟩ | ⟨_, _, result⟩ | ⟨_, _, result⟩ <;> rw [result]
  · have failing := AnyRecvOp.failing_onlyRecv (s := s) prevOp ec
    have rx := cancel_recver_rx (AnyRecvOp.failing_flags prevOp ec start.running)
      (failing.tx ▸ start.tx) (AnyRecvOp.failing_busy prevOp ec) (AnyRecvOp.prev s prevOp ec).2
    refine RecvSide.CodesOk.congr ?_ (rfl : _ = ((AnyRecvOp.failing s prevOp ec).cancel .Recver
      (AnyRecvOp.prev s prevOp ec).2).rx.trace)
    rw [rx]
    have failed' : (AnyRecvOp.failing s prevOp ec).rx.CodesOk := done.congr rfl
    refine failed'.close _ ?_
    rw [AnyRecvOp.prev_snd_isError]
    rcases drain with error | fine | empty
    · exact .inl error
    · exact .inl (failed.resolve_right (by simp [fine]))
    · refine .inr (queuedRecvs_eq_nil (congrArg _ (congrArg _ failing.table)) ?_ empty)
      exact AnyRecvOp.prev_counted ec start.queues start.counted start.live
  · exact done.congr rfl
  · exact done.congr rfl

theorem codes_getRequested (frame : Frame) (inv : RecvInv s) (busy : s.rx.Busy) (tx : s.tx.FlagsOk)
    (codes : s.rx.CodesOk) : (GetRequestedRecvSocketFork.awaitSuspend s frame).rx.CodesOk := by
  rcases GetRequestedRecvSocketFork.awaitSuspend_cases (s := s) frame with
    ⟨_, result⟩ | ⟨slot, _, ⟨_, result⟩ | ⟨_, _, result⟩ | ⟨_, op, ops, _, result⟩⟩ <;> rw [result]
  · have rx := cancel_recver_rx inv.flags tx busy Code.badCoprotoMessageHeader
    refine RecvSide.CodesOk.congr ?_
      (rfl : _ = (s.cancel .Recver Code.badCoprotoMessageHeader).rx.trace)
    rw [rx]
    exact codes.close _ (.inl rfl)
  · exact codes.congr rfl
  · exact codes.congr rfl
  · exact codes.congr rfl

theorem codes_sendStopCallback (codes : s.tx.CodesOk) (op : OpId) :
    (s.sendStopCallback op).tx.CodesOk := by
  cases live : s.tx.ops op with
  | none =>
    have still : s.sendStopCallback op = s := by simp [sendStopCallback, live]
    rwa [still]
  | some o =>
    have logged : (s.tx.log (.stopRequested op s.mEC.isError)).CodesOk := codes.log (by simp)
    by_cases idle : o.mStatus = .NotStarted
    · rw [sendStopCallback_notStarted live idle]
      have marked : ((s.tx.log (.stopRequested op s.mEC.isError)).setReg op .invoked).CodesOk :=
        logged.congr rfl
      exact marked.cut _
    · rw [sendStopCallback_started live idle]
      exact logged.congr rfl

theorem codes_recvStopCallback (codes : s.rx.CodesOk) (op : OpId) :
    (s.recvStopCallback op).rx.CodesOk := by
  cases live : s.rx.ops op with
  | none =>
    have still : s.recvStopCallback op = s := by simp [recvStopCallback, live]
    rwa [still]
  | some o =>
    have logged : (s.rx.log (.stopRequested op s.mEC.isError)).CodesOk := codes.log (by simp)
    by_cases idle : o.mStatus = .NotStarted
    · rw [recvStopCallback_notStarted live idle]
      have marked : ((s.rx.log (.stopRequested op s.mEC.isError)).setReg op .invoked).CodesOk :=
        logged.congr rfl
      exact marked.cut _
    · rw [recvStopCallback_started live idle]
      exact logged.congr rfl

theorem codes_sendSetCancelation (codes : s.tx.CodesOk) (op : OpId) (token : StopToken) :
    (s.sendSetCancelation op token).tx.CodesOk := by
  have armed : (s.sendSetReg op .registered).tx.CodesOk := codes.congr rfl
  cases token with
  | none => exact codes
  | live => exact armed
  | stopped => exact codes_sendStopCallback armed op

theorem codes_recvSetCancelation (codes : s.rx.CodesOk) (op : OpId) (token : StopToken) :
    (s.recvSetCancelation op token).rx.CodesOk := by
  have armed : (s.recvSetReg op .registered).rx.CodesOk := codes.congr rfl
  cases token with
  | none => exact codes
  | live => exact armed
  | stopped => exact codes_recvStopCallback armed op

/-! ## The calls -/

/-- A rejected operation is given an error: an empty message, or what has failed
the scheduler. -/
theorem codes_send (codes : s.tx.CodesOk) (slot : Nat) (session : UInt64 × UInt64)
    (data : List UInt8) (token : StopToken) : (s.send slot session data token).tx.CodesOk := by
  have posted : (s.tx.log (.posted s.nextOp session data)).CodesOk := codes.log (by simp)
  have rejected : ∀ ec : ErrorCode, ec.isError = true →
      (((s.tx.log (.posted s.nextOp session data)).log (.setError s.nextOp ec)).log
        (.completed s.nextOp (some ec))).CodesOk := by
    intro ec error
    refine SendSide.CodesOk.log ?_ (by simp)
    exact (posted.setError s.nextOp error).congr rfl
  unfold send
  dsimp only
  split
  · exact rejected _ rfl
  · split
    · rename_i failed
      exact rejected _ failed
    · have queued : ((({ s.logSend (.posted s.nextOp session data) with
          nextOp := s.nextOp + 1 } : SockScheduler).enqueueSend slot s.nextOp data)).tx.CodesOk := by
        unfold enqueueSend
        dsimp only
        split
        · exact posted.congr rfl
        · rw [linkSend_tx]
          refine posted.congr ?_
          unfold SendSide.link
          split <;> rfl
      exact codes_sendSetCancelation queued _ token

theorem codes_recv (codes : s.rx.CodesOk) (flags : s.rx.FlagsOk) (slot : Nat)
    (session : UInt64 × UInt64) (buffer : RecvBuffer) (token : StopToken) :
    (s.recv slot session buffer token).rx.CodesOk := by
  have posted : (s.rx.log (.posted s.nextOp session)).CodesOk := codes.log (by simp)
  unfold recv
  dsimp only
  split
  · rename_i failed
    refine RecvSide.CodesOk.log ?_ (by simp)
    exact (posted.setError s.nextOp failed).congr rfl
  · obtain ⟨p, started⟩ : ∃ p : SockScheduler,
      { s.logRecv (.posted s.nextOp session) with nextOp := s.nextOp + 1 } = p := ⟨_, rfl⟩
    have posted' : p.rx.CodesOk := by rw [← started]; exact posted
    have flags' : p.rx.FlagsOk := by rw [← started]; exact flags.congr rfl rfl rfl
    have queued : (p.enqueueRecv slot s.nextOp buffer).rx.CodesOk := by
      rcases enqueueRecv_cases slot s.nextOp buffer flags' with
        ⟨_, result⟩ | ⟨frame, _, _, result⟩ | ⟨_, _, result⟩ <;> rw [result] <;>
        exact posted'.congr rfl
    rw [started]
    exact codes_recvSetCancelation queued _ token

/-! ## The tasks -/

theorem codes_receiveDataTask (inv : BaseInv s) (codes : s.rx.CodesOk) {queued : List Callback}
    (same : t = { s with queued := queued }) : t.receiveDataTask.rx.CodesOk := by
  have codes' : t.rx.CodesOk := by rw [same]; exact codes
  have any : t.rx.mAnyRecvOp = t.rx.mRecvTask.waitsAny := by
    rw [same]; exact inv.recv.flags.anyRecvOp
  have requested : t.rx.mGetRequestedRecvSocketFork = t.rx.mRecvTask.requested := by
    rw [same]; exact inv.recv.flags.requested
  have queues : t.rx.QueuesOk t.nextOp t.table.mSocketForks_.length := by
    rw [same]; exact inv.recv.queues
  have counted : t.rx.Counted t.table.mSocketForks_.length := by rw [same]; exact inv.recv.counted
  have taskOk : t.rx.TaskOk t.mEC := by rw [same]; exact inv.recv.task
  have tx : t.tx.FlagsOk := by rw [same]; exact inv.send.flags
  have resumed := receiveDataTask_cases t
  unfold RecvSide.TaskOk at taskOk
  obtain ⟨u, result⟩ : ∃ u, t.receiveDataTask = u := ⟨_, rfl⟩
  rw [result] at resumed ⊢
  cases resumed with
  | idle waits => exact codes'
  | done r task error => exact codes'.congr rfl
  | header r task ok => exact codes'.congr rfl
  | failed frame e task =>
    simp only [task] at any requested taskOk
    exact codes_anyRecvOp ⟨⟨any, requested⟩, tx, queues, counted, by simp, .inr (.inl taskOk.1)⟩
      codes' (.inl taskOk.1)
  | body frame op task fits => exact codes'.congr rfl
  | mismatch frame op task misfits =>
    simp only [task] at any requested taskOk
    have kept : (t.rx.asSpan op frame.header.mSize.toNat).Started op :=
      taskOk.2.modify rfl fun _ h => h
    refine codes_anyRecvOp ⟨⟨any, requested⟩, tx, queues.asSpan _ _, counted, ?_, .inl taskOk.1⟩
      (codes'.congr rfl) (.inl rfl)
    intro p same
    cases same
    exact RecvInv.isSome_of_started kept

theorem codes_recvReturned {ec : ErrorCode} {bt : Nat} {bytes : List UInt8} (inv : BaseInv s)
    (codes : s.rx.CodesOk) (ok : ¬ DrainsWithSuccess s (.recvReturned ec bt bytes))
    (returned : s.recvReturned ec bt bytes = some t) : t.rx.CodesOk := by
  have any := inv.recv.flags.anyRecvOp
  have requested := inv.recv.flags.requested
  have queues := inv.recv.queues
  have counted := inv.recv.counted
  have tx := inv.send.flags
  have taskOk := inv.recv.task
  unfold RecvSide.TaskOk at taskOk
  have logged : ∀ x, (s.rx.log (.header x)).CodesOk := fun x => codes.log (by simp)
  have drain : ec.isError = true ∨ s.mEC.isError = false ∨
      ¬ s.rx.LeavesRecvs (bt = bytes.length) := by
    unfold DrainsWithSuccess at ok
    cases h : ec.isError <;> cases h' : s.mEC.isError <;> simp_all
  -- a check that fails on a success is a short transfer
  have short : (recvCall ec bt bytes).check.isError = true → ec.isError = true ∨ bt ≠ bytes.length := by
    intro failed
    rcases (Xfer.check_isError _).mp failed with error | ⟨_, short⟩
    · exact .inl error
    · exact .inr short
  cases recvReturned_cases returned with
  | headerFailed token task failed =>
    simp only [task] at any requested taskOk
    refine codes_anyRecvOp ⟨⟨any, requested⟩, tx, queues.congr rfl fun _ => rfl, counted, by simp,
      .inl taskOk⟩ (logged _) ?_
    rcases short failed with error | short
    · exact .inl error
    · refine drain.imp_right (.imp_right fun none => ?_)
      show s.rx.mNumRecvs = 0
      simpa [RecvSide.LeavesRecvs, task, short] using none
  | headerMeta token task size full control => exact (logged _).congr rfl
  | headerData token task size full data =>
    refine codes_getRequested _ (inv.recv.logRecv _) ?_ tx (logged _)
    simp [RecvSide.Busy, logRecv, RecvSide.log, task, RecvTask.waitsAny, RecvTask.requested]
  | controlFailed header token task failed =>
    simp only [task] at any requested taskOk
    refine codes_anyRecvOp ⟨⟨any, requested⟩, tx, queues.congr rfl fun _ => rfl, counted, by simp,
      .inl taskOk⟩ (logged _) ?_
    rcases short failed with error | short
    · exact .inl error
    · refine drain.imp_right (.imp_right fun none => ?_)
      show s.rx.mNumRecvs = 0
      simpa [RecvSide.LeavesRecvs, task, short] using none
  | refused header token task size full table code faults init error =>
    simp only [task] at any requested taskOk
    have grown := s.table.length_initRemoteSocketFork header.mForkId (controlBlockSessionID bytes)
    rw [init] at grown
    have counted' : s.rx.Counted table.mSocketForks_.length := by
      rw [RecvSide.Counted, RecvInv.total_mono queues grown]
      exact counted
    exact codes_anyRecvOp ⟨⟨any, requested⟩, tx, (queues.mono le_rfl grown).congr rfl fun _ => rfl,
      counted', by simp, .inl taskOk⟩ (logged _) (.inl error)
  | accepted header token task size full table code faults init ok => exact (logged _).congr rfl
  | body frame op token task size =>
    simp only [task] at any requested taskOk
    have kept : (s.rx.fill op bytes).Started op := taskOk.2.modify rfl fun _ h => h
    have logged : (s.rx.log (.body op frame.call (recvCall ec bt bytes))).CodesOk :=
      codes.log (by simp)
    refine codes_anyRecvOp ⟨⟨any, requested⟩, tx, (queues.fill op bytes).congr rfl fun _ => rfl,
      counted, ?_, .inl taskOk.1⟩ (logged.congr rfl) ?_
    · intro p same
      cases same
      exact RecvInv.isSome_of_started kept
    · refine drain.imp_right (.imp_right fun none => ?_)
      have one : s.rx.mNumRecvs = 1 := by simpa [RecvSide.LeavesRecvs, task] using none
      simp only [AnyRecvOp.prev, AnyRecvOp.completePrev_rx, RecvSide.finish]
      split <;> simp [resetRecvToken, one]

theorem codes_sendReturned {ec : ErrorCode} {bt : Nat} (inv : BaseInv s) (codes : s.tx.CodesOk)
    (ok : ¬ DrainsWithSuccess s (.sendReturned ec bt))
    (returned : s.sendReturned ec bt = some t) : t.tx.CodesOk := by
  have drain : ec.isError = true ∨ s.mEC.isError = false ∨
      ¬ s.tx.LeavesSends fun part op => bt = (s.sendBytes part op).length := by
    unfold DrainsWithSuccess at ok
    cases h : ec.isError <;> cases h' : s.mEC.isError <;> simp_all
  have logged : ∀ op part x, (s.tx.log (.xfer op part x)).CodesOk := fun op part x =>
    codes.log (by simp)
  -- the awaiter is entered after the body, or on a call that was not full
  have again : ∀ part op token x, s.tx.mSendTask = .sending part op token →
      ec.isError = true ∨ part = .body ∨ bt ≠ (s.sendBytes part op).length →
      (NextSendOp.awaitSuspend (s.logSend (.xfer op part x)) (some op) ec).tx.CodesOk := by
    intro part op token x task entered
    have busy : s.tx.mSendTask.waits = false := by simp [task, SendTask.waits]
    have enter : NextSendOp.Entering (s.logSend (.xfer op part x)) :=
      ⟨inv.send.flags.trans busy, busy, inv.recv.flags⟩
    have next : (NextSendOp.prev (s.logSend (.xfer op part x)) (some op) ec).1.tx.mSendBufferBegin =
        s.tx.next op := by
      simp only [NextSendOp.prev, NextSendOp.completePrev_tx]
      rfl
    refine codes_nextSendOp _ _ enter (logged _ _ _) ?_
    rw [next]
    rcases entered with error | stuck
    · exact .inl error
    · refine drain.imp_right (.imp_right fun none => ?_)
      simpa [SendSide.LeavesSends, task, stuck] using none
  cases sendReturned_cases returned with
  | failed part op token task x call failed =>
    refine again part op token x task ?_
    rw [call] at failed
    rcases (Xfer.check_isError _).mp failed with error | ⟨_, short⟩
    · exact .inl error
    · exact .inr (.inr short)
  | next part part' op token task x call full follows => exact (logged _ _ _).congr rfl
  | body op token task x call full => exact again .body op token x task (.inr (.inl rfl))

end SockScheduler

/-- Kept by every step that does not drain with success. -/
theorem codes_step {s t : SockScheduler} {e : Event} (inv : BaseInv s) (send : s.tx.CodesOk)
    (recv : s.rx.CodesOk) (ok : ¬ DrainsWithSuccess s e) (taken : step s e = some t) :
    t.tx.CodesOk ∧ t.rx.CodesOk := by
  have of_send : ∀ {m : SockScheduler}, SendPath s m → m.rx.CodesOk := by
    intro m path
    rcases path.rx_cases inv.recv.flags with ⟨rx, _⟩ | ⟨_, _, rx, _⟩ <;> rw [rx]
    · exact recv
    · exact recv.wakeError _
  have of_recv : ∀ {m n : SockScheduler}, RecvPath m n → m.tx = s.tx → n.tx.CodesOk := by
    intro m n path same
    rcases path.tx_cases (same ▸ inv.send.flags) with ⟨tx, _⟩ | ⟨_, _, tx, _⟩ <;> rw [tx, same]
    · exact send
    · exact send.wakeError
  cases e with
  | fork session =>
    obtain ⟨slot, _, rfl⟩ := Option.map_eq_some_iff.mp taken
    exact ⟨send, recv⟩
  | send session data token =>
    obtain ⟨slot, _, rfl⟩ := Option.map_eq_some_iff.mp taken
    exact ⟨codes_send send slot session data token,
      (s.send_onlySend slot session data token).rx ▸ recv⟩
  | recv session buffer token =>
    obtain ⟨slot, held, rfl⟩ := Option.map_eq_some_iff.mp taken
    exact ⟨(s.recv_onlyRecv slot session buffer token).tx ▸ send,
      codes_recv recv inv.recv.flags slot session buffer token⟩
  | stopSend op =>
    simp only [step] at taken
    split at taken <;> cases taken
    exact ⟨codes_sendStopCallback send op, (s.sendStopCallback_onlySend op).rx ▸ recv⟩
  | stopRecv op =>
    simp only [step] at taken
    split at taken <;> cases taken
    exact ⟨(s.recvStopCallback_onlyRecv op).tx ▸ send, codes_recvStopCallback recv op⟩
  | flush handle =>
    cases taken
    obtain ⟨_, _, _, _, _, _, shape, _⟩ := s.flush_shape handle
    rw [shape]
    exact ⟨send, recv⟩
  | socketClose =>
    cases taken
    exact ⟨send, recv⟩
  | close =>
    cases taken
    unfold close cancel
    dsimp only
    split
    · exact ⟨send, recv⟩
    · rw [enterError_eq .Extern Code.closed inv.recv.flags inv.send.flags]
      exact ⟨send.wakeError, recv.wakeError _⟩
  | run cb =>
    simp only [step] at taken
    split at taken <;> cases taken
    cases cb with
    | recvTask =>
      exact ⟨of_recv (inv.receiveDataTask_path rfl) rfl, codes_receiveDataTask inv recv rfl⟩
    | sendTask =>
      rw [runCallback]
      rcases SendInv.makeSendTask_eq { s with queued := s.queued.erase .sendTask } with
        ⟨result, _⟩ | ⟨_, _, result⟩ | ⟨_, _, _, _, result⟩ | ⟨_, _, _, _, result⟩ <;> rw [result]
      · exact ⟨send, recv⟩
      · exact ⟨send.congr rfl, recv⟩
      · exact ⟨(send.log (by simp)).congr rfl, recv⟩
      · exact ⟨(send.log (by simp)).congr rfl, recv⟩
    | requestStop src =>
      simp only [runCallback, requestStop_eq]
      exact ⟨send, recv⟩
    | _ => exact ⟨send, recv⟩
  | sendReturned ec bt =>
    exact ⟨codes_sendReturned inv send ok taken, of_send (inv.sendReturned_path taken)⟩
  | recvReturned ec bt bytes =>
    refine ⟨?_, codes_recvReturned inv recv ok taken⟩
    rcases inv.recvReturned_path taken with path | ⟨_, _, _, _, path⟩
    · exact of_recv path rfl
    · exact of_recv path rfl

/-- No failed operation is given a code that reads as success. -/
theorem setError_isError {sid : SessionID} {es : List Event} {s : SockScheduler}
    (run : Run step (fun s e => ¬ DrainsWithSuccess s e) (init sid) es s) :
    (∀ op ec, .setError op ec ∈ s.tx.trace → ec.isError = true) ∧
      ∀ op ec, .setError op ec ∈ s.rx.trace → ec.isError = true := by
  have start : (init sid).tx.CodesOk ∧ (init sid).rx.CodesOk := by
    rw [BaseInv.init_eq]
    exact ⟨by simp [SendSide.CodesOk], by simp [RecvSide.CodesOk]⟩
  have both := run.invariant (I := fun s => BaseInv s ∧ s.tx.CodesOk ∧ s.rx.CodesOk)
    ⟨BaseInv.init sid, start⟩ fun _ _ _ inv met taken =>
      ⟨inv.1.step taken, codes_step inv.1 inv.2.1 inv.2.2 met taken⟩
  exact both.2

/-- The body of the first of two receives is being read when a send fails. -/
def sendFailsRun : List Event :=
  [.recv SessionID.root.mVal { allowResize := false, size := 1 } .none,
   .recv SessionID.root.mVal { allowResize := false, size := 1 } .none,
   .run .recvTask,
   .recvReturned Code.success 8 (Header.bytes ⟨0, 1⟩),
   .recvReturned Code.success 16 (controlBlockBytes SessionID.root),
   .recvReturned Code.success 8 (Header.bytes ⟨1, 1⟩),
   .run .recvTask,
   .send SessionID.root.mVal [7] .none,
   .run .sendTask,
   .sendReturned (.foreign 104) 0]

/-- The read is aborted as well: its error goes to its receive, and `cancel` to
the one behind. -/
theorem setError_isError_aborted : ∃ s, Run step (fun s e => ¬ DrainsWithSuccess s e)
    (init SessionID.root) (sendFailsRun ++ [.recvReturned Code.operation_aborted 0 [0]]) s ∧
    .setError 2 (.foreign 104) ∈ s.tx.trace ∧ .setError 1 Code.cancel ∈ s.rx.trace ∧
    (∀ op ec, .setError op ec ∈ s.tx.trace → ec.isError = true) ∧
      ∀ op ec, .setError op ec ∈ s.rx.trace → ec.isError = true := by
  have reached : (exec step (fun s e => ¬ DrainsWithSuccess s e) (init SessionID.root)
      (sendFailsRun ++ [.recvReturned Code.operation_aborted 0 [0]])).map (fun s =>
        (decide (.setError 2 (.foreign 104) ∈ s.tx.trace),
          decide (.setError 1 Code.cancel ∈ s.rx.trace))) = some (true, true) := by decide
  obtain ⟨s, result, facts⟩ := Option.map_eq_some_iff.mp reached
  simp only [Prod.mk.injEq, decide_eq_true_eq] at facts
  exact ⟨s, .of_exec result, facts.1, facts.2, setError_isError (.of_exec result)⟩

/-- The read finishes all the same: the receive behind fails with `success`. -/
theorem sendFailsRun_setError_success : ∃ s, Run step anyStep (init SessionID.root)
    (sendFailsRun ++ [.recvReturned Code.success 1 [7]]) s ∧
    .setError 1 Code.success ∈ s.rx.trace := by
  have reached : (exec step anyStep (init SessionID.root)
      (sendFailsRun ++ [.recvReturned Code.success 1 [7]])).map (fun s =>
        decide (.setError 1 Code.success ∈ s.rx.trace)) = some true := by decide
  obtain ⟨s, result, facts⟩ := Option.map_eq_some_iff.mp reached
  exact ⟨s, .of_exec result, by simpa using facts⟩

end Coproto
