import Coproto.Invariants.Paths
import Coproto.Invariants.ForkTable
import Coproto.Invariants.SendSide

/-!
# The send task and what it works on

Where the send task is decides its flag, its status and the front of the list;
links along the list only lead to operations posted later. `SendInv` is kept by
every event, however the transport calls return.
-/
namespace Coproto

/-- Links lead forward; nothing leads to an operation that was not posted yet. -/
structure SendSide.LinksOk (tx : SendSide) (nextOp : OpId) : Prop where
  next : ∀ {op n}, tx.next op = some n → op < n ∧ n < nextOp
  prev : ∀ {op o p}, tx.ops op = some o → o.mPrev = some p → p < op
  begin : ∀ {op}, tx.mSendBufferBegin = some op → op < nextOp
  last : ∀ {op}, tx.mSendBufferLast = some op → op < nextOp

/-- What holds while the send task is where it is. -/
def SendSide.TaskOk (tx : SendSide) (mEC : ErrorCode) : Prop :=
  match tx.mSendTask with
  | .nextSendOp none =>
    tx.mSendStatus = .Idle ∧ tx.mSendBufferBegin = none ∧ tx.mSendBufferLast = none ∧
      mEC.isError = false
  | .nextSendOp (some (.ok op)) => tx.mSendStatus = .InUse ∧ tx.mSendBufferBegin = some op
  | .sending _ op _ => tx.mSendStatus = .InUse ∧ tx.mSendBufferBegin = some op
  | .nextSendOp (some (.error _)) =>
    mEC.isError = true ∧ tx.mSendStatus ≠ .InUse ∧ tx.mSendBufferBegin = none ∧
      tx.mSendBufferLast = none
  | .done =>
    mEC.isError = true ∧ tx.mSendStatus ≠ .InUse ∧ tx.mSendBufferBegin = none ∧
      tx.mSendBufferLast = none

structure SendInv (s : SockScheduler) : Prop where
  flags : s.tx.FlagsOk
  ready : s.tx.mSendTask.ready = true → .sendTask ∈ s.queued
  queues : s.tx.QueuesOk s.nextOp s.table.mSocketForks_.length
  links : s.tx.LinksOk s.nextOp
  task : s.tx.TaskOk s.mEC

namespace SendSide
variable {tx tx' : SendSide} {op : OpId} {mEC mEC' : ErrorCode} {nextOp nextOp' : OpId}

theorem wakeError_busy (busy : tx.mSendTask.waits = false) : tx.wakeError = tx := by
  unfold wakeError
  split
  · rename_i task
    simp [task, SendTask.waits] at busy
  · rfl

theorem wakeError_flags (flags : tx.FlagsOk) : tx.wakeError.FlagsOk := by
  unfold wakeError
  split
  · rfl
  · exact flags

/-- The end of the list only matters to a task that has none. -/
theorem TaskOk.congr (ok : tx.TaskOk mEC) (task : tx'.mSendTask = tx.mSendTask)
    (status : tx'.mSendStatus = tx.mSendStatus)
    (begin : tx'.mSendBufferBegin = tx.mSendBufferBegin)
    (last : tx'.mSendBufferLast = tx.mSendBufferLast ∨
      tx.mSendTask.waits = false ∧ mEC.isError = false) : tx'.TaskOk mEC := by
  unfold TaskOk at ok ⊢
  rw [task, status, begin]
  rcases last with same | ⟨running, fine⟩
  · rwa [same]
  · cases h : tx.mSendTask with
    | nextSendOp mRes =>
      simp only [h] at ok running
      cases mRes with
      | none => cases running
      | some r =>
        cases r with
        | error e => simp [fine] at ok
        | ok op => exact ok
    | sending part op token =>
      simp only [h] at ok
      exact ok
    | done => simp [h, fine] at ok

theorem TaskOk.wakeError (ok : tx.TaskOk mEC) (failed : mEC'.isError = true) :
    tx.wakeError.TaskOk mEC' := by
  unfold SendSide.wakeError
  unfold TaskOk at ok
  split
  · rename_i task
    simp only [task] at ok
    exact ⟨failed, by simp [ok], ok.2.1, ok.2.2.1⟩
  · rename_i running
    unfold TaskOk
    split at ok <;> simp_all

theorem ready_wakeError (tx : SendSide) (ready : tx.wakeError.mSendTask.ready = true) :
    tx.mSendTask.ready = true ∨ tx.mSendTask.waits = true := by
  unfold wakeError at ready
  split at ready
  · rename_i task
    simp [task, SendTask.waits]
  · exact .inl ready

@[simp] theorem wakeError_queues : tx.wakeError.mSendOps = tx.mSendOps := by
  unfold wakeError
  split <;> rfl

@[simp] theorem wakeError_ops : tx.wakeError.ops = tx.ops := by
  unfold wakeError
  split <;> rfl

@[simp] theorem wakeError_mSendBufferBegin :
    tx.wakeError.mSendBufferBegin = tx.mSendBufferBegin := by
  unfold wakeError
  split <;> rfl

@[simp] theorem wakeError_mSendBufferLast : tx.wakeError.mSendBufferLast = tx.mSendBufferLast := by
  unfold wakeError
  split <;> rfl

/-! ## Links -/

theorem LinksOk.congr (ok : LinksOk tx nextOp) (ops : tx'.ops = tx.ops)
    (begin : tx'.mSendBufferBegin = tx.mSendBufferBegin)
    (last : tx'.mSendBufferLast = tx.mSendBufferLast) : LinksOk tx' nextOp :=
  ⟨fun h => ok.next (by unfold SendSide.next at h ⊢; rwa [ops] at h), fun h => ok.prev (ops ▸ h),
    fun h => ok.begin (begin ▸ h), fun h => ok.last (last ▸ h)⟩

theorem LinksOk.mono (ok : LinksOk tx nextOp) (more : nextOp ≤ nextOp') : LinksOk tx nextOp' :=
  ⟨fun h => ⟨(ok.next h).1, (ok.next h).2.trans_le more⟩, ok.prev,
    fun h => (ok.begin h).trans_le more, fun h => (ok.last h).trans_le more⟩

/-- A write that keeps both links of an operation. -/
theorem LinksOk.modify (ok : LinksOk tx nextOp) {f : SendOperation → SendOperation}
    (ops : tx'.ops = tx.ops.modify op f) (next : ∀ o, (f o).mNext = o.mNext)
    (prev : ∀ o, (f o).mPrev = o.mPrev) (begin : tx'.mSendBufferBegin = tx.mSendBufferBegin)
    (last : tx'.mSendBufferLast = tx.mSendBufferLast) : LinksOk tx' nextOp where
  next h := ok.next (by rwa [next_modify ops next] at h)
  prev := by
    intro p o q live link
    rw [ops, Heap.modify_eq_some] at live
    obtain ⟨a, old, rfl⟩ := live
    refine ok.prev old ?_
    split at link
    · rwa [prev] at link
    · exact link
  begin h := ok.begin (begin ▸ h)
  last h := ok.last (last ▸ h)

theorem LinksOk.erase (ok : LinksOk tx nextOp) (slot : Nat) : LinksOk (tx.erase slot op) nextOp where
  next := by
    intro p n h
    refine ok.next ?_
    by_cases same : p = op
    · simp [SendSide.next, same] at h
    · simpa [SendSide.next, Heap.erase_of_ne same] using h
  prev := by
    intro p o q live link
    refine ok.prev ?_ link
    by_cases same : p = op
    · simp [same] at live
    · simpa [Heap.erase_of_ne same] using live
  begin h := ok.begin h
  last h := ok.last h

theorem LinksOk.popFront (ok : LinksOk tx nextOp) (slot : Nat) :
    LinksOk (tx.popFront slot) nextOp := by
  cases cells : tx.mSendOps slot with
  | nil => rwa [popFront_empty cells]
  | cons op ops =>
    rw [popFront_eq cells]
    exact ok.erase slot

/-- An operation after `setNext`, by which of the two ends it is. -/
theorem setNext_apply (next : Option OpId) (p : OpId) : (tx.setNext op next).ops p =
    (tx.ops p).map fun o => { o with
      mNext := if p = op then next else o.mNext
      mPrev := if next = some p then some op else o.mPrev } := by
  cases next with
  | none =>
    by_cases same : p = op <;> simp [SendSide.setNext, Heap.modify_apply, same]
  | some n =>
    by_cases same : p = op <;> by_cases target : n = p
    · subst same target
      cases live : tx.ops n <;> simp [SendSide.setNext, live]
    · subst same
      simp [SendSide.setNext, Heap.modify_of_ne (Ne.symm target), target]
    · subst target
      cases live : tx.ops n <;> simp [SendSide.setNext, Heap.modify_of_ne same, live, same]
    · simp [SendSide.setNext, Heap.modify_of_ne (Ne.symm target), Heap.modify_of_ne same, same,
        target]

theorem next_setNext (next : Option OpId) (p : OpId) : (tx.setNext op next).next p =
    if p = op then (tx.ops op).bind fun _ => next else tx.next p := by
  unfold SendSide.next
  rw [setNext_apply]
  by_cases same : p = op
  · subst same
    cases tx.ops p <;> simp
  · cases tx.ops p <;> simp [same]

theorem LinksOk.setNext (ok : LinksOk tx nextOp) {next : Option OpId}
    (forward : ∀ n, next = some n → op < n ∧ n < nextOp) : LinksOk (tx.setNext op next) nextOp where
  next := by
    intro p n h
    rw [next_setNext] at h
    split at h
    · rename_i same
      obtain ⟨_, _, link⟩ := Option.bind_eq_some_iff.mp h
      exact same ▸ forward n link
    · exact ok.next h
  prev := by
    intro p o q live link
    rw [setNext_apply, Option.map_eq_some_iff] at live
    obtain ⟨a, old, rfl⟩ := live
    dsimp only at link
    split at link
    · rename_i target
      rw [Option.some.injEq] at link
      exact link ▸ (forward p target).1
    · exact ok.prev old link
  begin h := ok.begin h
  last h := ok.last h

theorem LinksOk.setError (ok : LinksOk tx nextOp) (op : OpId) (ec : ErrorCode) :
    LinksOk (tx.setError op ec) nextOp :=
  ok.modify rfl (fun _ => rfl) (fun _ => rfl) rfl rfl

theorem LinksOk.completeOn (ok : LinksOk tx nextOp) (op : OpId) : LinksOk (tx.completeOn op) nextOp :=
  ok.modify rfl (fun _ => rfl) (fun _ => rfl) rfl rfl

theorem LinksOk.setStatus (ok : LinksOk tx nextOp) (op : OpId) (status : OpStatus) :
    LinksOk (tx.setStatus op status) nextOp :=
  ok.modify rfl (fun _ => rfl) (fun _ => rfl) rfl rfl

theorem LinksOk.setReg (ok : LinksOk tx nextOp) (op : OpId) (reg : StopCallback) :
    LinksOk (tx.setReg op reg) nextOp :=
  ok.modify rfl (fun _ => rfl) (fun _ => rfl) rfl rfl

theorem LinksOk.finish (ok : LinksOk tx nextOp) (ec : ErrorCode) :
    LinksOk (tx.finish op ec) nextOp := by
  have base : LinksOk ((((if ec.isError then tx.setError op ec else tx).completeOn op).setNext op
      none).popFront (tx.slotOf op)) nextOp := by
    refine LinksOk.popFront (LinksOk.setNext (LinksOk.completeOn ?_ op) (by simp)) _
    split
    · exact ok.setError op ec
    · exact ok
  refine ⟨base.next, base.prev, fun h => (ok.next h).2, fun h => ?_⟩
  simp only [SendSide.finish] at h
  split at h
  · cases h
  · exact ok.last h

theorem LinksOk.fail (ok : LinksOk tx nextOp) (ec : ErrorCode) : LinksOk (tx.fail op ec) nextOp :=
  ((ok.setError op ec).completeOn op).popFront _

theorem LinksOk.drain (ok : LinksOk tx nextOp) (n : Nat) (iter : Option OpId) (ec : ErrorCode) :
    LinksOk (tx.drain n iter ec) nextOp := by
  induction n generalizing tx iter ec with
  | zero => exact ok
  | succ n ih =>
    cases iter with
    | none => exact ok
    | some op => exact ih (ok.fail ec) _ _

theorem LinksOk.close (ok : LinksOk tx nextOp) (n : Nat) (ec : ErrorCode) :
    LinksOk (tx.close n ec) nextOp :=
  have closing : LinksOk tx.closing nextOp :=
    ⟨ok.next, ok.prev, by simp [SendSide.closing], by simp [SendSide.closing]⟩
  closing.drain n _ ec

theorem LinksOk.cut (ok : LinksOk tx nextOp) {o : SendOperation} (live : tx.ops op = some o) :
    LinksOk (tx.cut op o) nextOp := by
  have done : LinksOk ((tx.setError op Code.operation_aborted).completeOn op) nextOp :=
    (ok.setError op _).completeOn op
  unfold SendSide.cut
  cases link : o.mPrev with
  | none => exact done.erase _
  | some prev =>
    refine LinksOk.erase (LinksOk.setNext done fun n next => ?_) _
    have link' : tx.next op = some n := by simp [SendSide.next, live, next]
    have forward := ok.next link'
    exact ⟨(ok.prev live link).trans forward.1, forward.2⟩

/-- The operation just posted is linked behind the last one. -/
theorem LinksOk.link (ok : LinksOk tx nextOp) {slot : Nat} {o : SendOperation}
    (next : o.mNext = none) (prev : o.mPrev = none) :
    LinksOk ((tx.pushBack slot nextOp o).link nextOp) (nextOp + 1) := by
  have placed : LinksOk (tx.pushBack slot nextOp o) (nextOp + 1) := by
    refine ⟨fun {p n} h => ?_, fun {p a q} live link => ?_, fun h => Nat.lt_succ_of_lt (ok.begin h),
      fun h => Nat.lt_succ_of_lt (ok.last h)⟩
    · by_cases same : p = nextOp
      · simp [SendSide.next, same, next] at h
      · have link : tx.next p = some n := by simpa [SendSide.next, Heap.set_of_ne same] using h
        have old := ok.next link
        exact ⟨old.1, Nat.lt_succ_of_lt old.2⟩
    · by_cases same : p = nextOp
      · simp only [same, pushBack_ops, Heap.set_self, Option.some.injEq] at live
        rw [← live, prev] at link
        cases link
      · exact ok.prev (by simpa [Heap.set_of_ne same] using live) link
  unfold SendSide.link
  cases last : (tx.pushBack slot nextOp o).mSendBufferLast with
  | none =>
    exact ⟨placed.next, placed.prev, placed.begin, fun h => by
      rw [Option.some.injEq] at h; exact h ▸ Nat.lt_succ_self _⟩
  | some l =>
    have linked : LinksOk ((tx.pushBack slot nextOp o).setNext l (some nextOp)) (nextOp + 1) := by
      refine placed.setNext fun n same => ?_
      rw [Option.some.injEq] at same
      exact same ▸ ⟨ok.last last, Nat.lt_succ_self _⟩
    exact ⟨linked.next, linked.prev, linked.begin, fun h => by
      rw [Option.some.injEq] at h; exact h ▸ Nat.lt_succ_self _⟩

end SendSide

namespace SockScheduler
variable {s t : SockScheduler}

/-! ## cancel by the send task -/

theorem cancel_sender_tx (flags : s.tx.FlagsOk) (rx : s.rx.FlagsOk)
    (busy : s.tx.mSendTask.waits = false) (ec : ErrorCode) :
    (s.cancel .Sender ec).tx = s.tx.close s.nextOp ec := by
  cases failed : s.mEC.isError with
  | true =>
    simp only [cancel, failed, if_true, drainSends_tx]
    rfl
  | false =>
    have drain : (s.enterError .Sender ec).2 = ec := by simp [enterError]
    simp only [cancel, failed, Bool.false_eq_true, if_false, drainSends_tx, drain]
    rw [enterError_eq .Sender ec rx flags]
    simp only [SendSide.wakeError_busy busy]
    rfl

theorem cancel_sender_mEC (flags : s.tx.FlagsOk) (rx : s.rx.FlagsOk) (ec : ErrorCode) :
    (s.cancel .Sender ec).mEC = if s.mEC.isError then s.mEC else ec := by
  have drained : ∀ (m : SockScheduler) n iter e, (m.drainSends n iter e).mEC = m.mEC :=
    fun m n iter e => (drainSends_onlySend m n iter e).mEC
  cases failed : s.mEC.isError with
  | true => simp only [cancel, failed, if_true, drained]
  | false =>
    simp only [cancel, failed, Bool.false_eq_true, if_false, drained]
    rw [enterError_eq .Sender ec rx flags]

/-! ## NextSendOp -/

namespace NextSendOp

theorem prev_onlySend (prevOp : Option OpId) (ec : ErrorCode) :
    OnlySend s (prev s prevOp ec).1 := by
  cases prevOp with
  | none => exact .refl
  | some op => exact completePrev_onlySend s op ec

/-- Completing the previous operation keeps the flag and where the task is. -/
theorem prev_task (prevOp : Option OpId) (ec : ErrorCode) :
    (prev s prevOp ec).1.tx.mSendTask = s.tx.mSendTask ∧
      (prev s prevOp ec).1.tx.mNextSendOp = s.tx.mNextSendOp ∧
      (prev s prevOp ec).1.tx.mSendStatus = s.tx.mSendStatus := by
  cases prevOp with
  | none => exact ⟨rfl, rfl, rfl⟩
  | some op =>
    simp only [prev, completePrev_tx, SendSide.finish]
    split <;> simp

theorem prev_snd_isError (prevOp : Option OpId) (ec : ErrorCode) :
    (prev s prevOp ec).2.isError = ec.isError := by
  cases prevOp with
  | none => rfl
  | some op =>
    simp only [prev, completePrev]
    cases h : ec.isError <;> simp [h]

theorem prev_queues (prevOp : Option OpId) (ec : ErrorCode) {nextOp slots : Nat}
    (queues : s.tx.QueuesOk nextOp slots) : (prev s prevOp ec).1.tx.QueuesOk nextOp slots := by
  cases prevOp with
  | none => exact queues
  | some op =>
    simp only [prev, completePrev_tx]
    exact queues.finish

theorem prev_links (prevOp : Option OpId) (ec : ErrorCode) {nextOp : OpId}
    (links : s.tx.LinksOk nextOp) : (prev s prevOp ec).1.tx.LinksOk nextOp := by
  cases prevOp with
  | none => exact links
  | some op =>
    simp only [prev, completePrev_tx]
    exact links.finish ec

/-- The state in which the awaiter calls `cancel`. -/
def failing (s : SockScheduler) (prevOp : Option OpId) (ec : ErrorCode) : SockScheduler :=
  let s := (prev s prevOp ec).1
  s.check (require (s.tx.mSendBufferBegin.all fun op =>
    (s.tx.ops op).any (·.mStatus = .NotStarted)) .nextSendOpStatus)

/-- The three ways on: close, send the next operation, park. -/
theorem awaitSuspend_cases (prevOp : Option OpId) (ec : ErrorCode) :
    ((ec.isError = true ∨ s.mEC.isError = true) ∧
      awaitSuspend s prevOp ec =
        ({ (failing s prevOp ec).cancel .Sender (prev s prevOp ec).2 with
          tx.mSendTask := .nextSendOp (some (.error Code.closed)) } : SockScheduler).push .sendTask) ∨
    ((ec.isError = false ∧ s.mEC.isError = false) ∧
      ∃ op fs, (prev s prevOp ec).1.tx.mSendBufferBegin = some op ∧
      awaitSuspend s prevOp ec =
        ({ ((prev s prevOp ec).1.check fs).sendSetStatus op .InProgress with
          tx.mSendTask := .nextSendOp (some (.ok op)) } : SockScheduler).push .sendTask) ∨
    ((ec.isError = false ∧ s.mEC.isError = false) ∧
      (prev s prevOp ec).1.tx.mSendBufferBegin = none ∧
      awaitSuspend s prevOp ec = { (prev s prevOp ec).1 with
        tx.mSendStatus := .Idle
        tx.mNextSendOp := true
        tx.mSendTask := .nextSendOp none }) := by
  have mEC := (prev_onlySend (s := s) prevOp ec).mEC
  have error := prev_snd_isError (s := s) prevOp ec
  rw [← error, ← mEC]
  simp only [awaitSuspend]
  by_cases failed : (prev s prevOp ec).2.isError = true ∨ (prev s prevOp ec).1.mEC.isError = true
  · rw [if_pos failed]
    exact .inl ⟨failed, rfl⟩
  · rw [if_neg failed]
    simp only [not_or, Bool.not_eq_true] at failed
    cases begin : (prev s prevOp ec).1.tx.mSendBufferBegin with
    | none => exact .inr (.inr ⟨failed, rfl, rfl⟩)
    | some op => exact .inr (.inl ⟨failed, op, _, rfl, rfl⟩)

/-- What the send task has established when it enters `NextSendOp`. -/
structure Entering (s : SockScheduler) : Prop where
  flag : s.tx.mNextSendOp = false
  busy : s.tx.mSendTask.waits = false
  rx : s.rx.FlagsOk

theorem Entering.failing_flags (enter : Entering s) (prevOp : Option OpId) (ec : ErrorCode) :
    (failing s prevOp ec).tx.FlagsOk := by
  obtain ⟨task, flag, _⟩ := prev_task (s := s) prevOp ec
  show (prev s prevOp ec).1.tx.mNextSendOp = (prev s prevOp ec).1.tx.mSendTask.waits
  rw [task, flag, enter.flag, enter.busy]

theorem failing_onlySend (prevOp : Option OpId) (ec : ErrorCode) :
    OnlySend s (failing s prevOp ec) :=
  (prev_onlySend prevOp ec).trans (onlySend_of_tx rfl)

theorem awaitSuspend_path (prevOp : Option OpId) (ec : ErrorCode) (enter : Entering s) :
    SendPath s (awaitSuspend s prevOp ec) := by
  have start := prev_onlySend (s := s) prevOp ec
  rcases awaitSuspend_cases (s := s) prevOp ec with
    ⟨failed, result⟩ | ⟨_, op, fs, _, result⟩ | ⟨_, _, result⟩ <;> rw [result]
  · have path := cancel_sender_path (prev s prevOp ec).2 (enter.failing_flags prevOp ec) ?_
    · exact (path.of_quiet (failing_onlySend prevOp ec)).trans_quiet
        (onlySend_of_queued [.sendTask] rfl rfl (by simp))
    · intro first
      rw [(failing_onlySend prevOp ec).mEC] at first
      rw [prev_snd_isError]
      exact failed.resolve_right (by simp [first])
  · exact .quiet (start.trans (onlySend_of_queued [.sendTask] rfl rfl (by simp)))
  · exact .quiet (start.trans (onlySend_of_tx rfl))

end NextSendOp
end SockScheduler

/-! ## The invariant is kept -/

namespace SendInv
open SockScheduler
variable {s t : SockScheduler}

/-- Work that the send direction does not see, and new operations and slots. -/
theorem congr (inv : SendInv s) (tx : t.tx = s.tx) (mEC : t.mEC = s.mEC) (nextOp : s.nextOp ≤ t.nextOp)
    (slots : s.table.mSocketForks_.length ≤ t.table.mSocketForks_.length)
    (queued : .sendTask ∈ s.queued → .sendTask ∈ t.queued) : SendInv t where
  flags := tx ▸ inv.flags
  ready h := queued (inv.ready (tx ▸ h))
  queues := tx ▸ inv.queues.mono nextOp slots
  links := tx ▸ inv.links.mono nextOp
  task := by
    rw [tx, mEC]
    exact inv.task

theorem of_recvPath (inv : SendInv s) (path : RecvPath s t) : SendInv t := by
  have crossing := path.crossing inv.flags
  rcases path.tx_cases inv.flags with ⟨tx, mEC, _⟩ | ⟨_, failed, tx, _, woken⟩
  · exact inv.congr tx mEC crossing.nextOp.ge (crossing.table ▸ le_rfl) (crossing.queued _)
  · constructor
    · exact tx ▸ SendSide.wakeError_flags inv.flags
    · intro ready
      rw [tx] at ready
      rcases s.tx.ready_wakeError ready with before | parked
      · exact crossing.queued _ (inv.ready before)
      · exact woken parked
    · rw [tx, crossing.nextOp, crossing.table]
      exact inv.queues.congr (by simp) fun p => by simp [SendSide.home]
    · rw [tx, crossing.nextOp]
      exact inv.links.congr (by simp) (by simp) (by simp)
    · rw [tx]
      exact inv.task.wakeError failed

theorem close (inv : SendInv s) (rx : s.rx.FlagsOk) : SendInv s.close := by
  unfold SockScheduler.close
  cases failed : s.mEC.isError with
  | true => simpa only [cancel, failed, if_true] using inv
  | false =>
    simp only [cancel, failed, Bool.false_eq_true, if_false]
    rw [enterError_eq .Extern Code.closed rx inv.flags]
    refine ⟨SendSide.wakeError_flags inv.flags, fun ready => ?_, ?_, ?_, ?_⟩
    · rcases s.tx.ready_wakeError ready with before | parked
      · exact List.mem_append_left _ (inv.ready before)
      · exact List.mem_append_right _ (List.mem_append_right _ (by simp [parked]))
    · exact inv.queues.congr (by simp) fun p => by simp [SendSide.home]
    · exact inv.links.congr (by simp) (by simp) (by simp)
    · exact inv.task.wakeError rfl

/-- The send list has been failed. -/
theorem cancel_sender {ec : ErrorCode} (flags : s.tx.FlagsOk) (rx : s.rx.FlagsOk)
    (busy : s.tx.mSendTask.waits = false)
    (queues : s.tx.QueuesOk s.nextOp s.table.mSocketForks_.length)
    (links : s.tx.LinksOk s.nextOp)
    (error : s.mEC.isError = false → ec.isError = true) {t : SockScheduler}
    (cancelled : s.cancel .Sender ec = t) :
    t.tx.mSendStatus = .Closed ∧ t.tx.mSendBufferBegin = none ∧ t.tx.mSendBufferLast = none ∧
      t.mEC.isError = true ∧ t.tx.mNextSendOp = s.tx.mNextSendOp ∧
      t.nextOp = s.nextOp ∧ t.table = s.table ∧
      t.tx.QueuesOk s.nextOp s.table.mSocketForks_.length ∧ t.tx.LinksOk s.nextOp := by
  have tx := cancel_sender_tx flags rx busy ec
  have mEC := cancel_sender_mEC flags rx ec
  have crossing := (cancel_sender_path ec flags error).crossing rx
  rw [cancelled] at tx mEC crossing
  have failed : t.mEC.isError = true := by
    rw [mEC]
    cases h : s.mEC.isError with
    | true => simpa using h
    | false => simpa using error h
  have drained := queues.close s.nextOp ec
  have linked := links.close s.nextOp ec
  obtain ⟨qs, heap, trace, shape⟩ := s.tx.close_shape s.nextOp ec
  rw [← tx] at drained linked shape
  refine ⟨?_, ?_, ?_, failed, ?_, crossing.nextOp, crossing.table, drained, linked⟩ <;> rw [shape]

/-- What the send task knows of its list when it enters `NextSendOp`. -/
structure Awaiting (s : SockScheduler) (prevOp : Option OpId) : Prop extends NextSendOp.Entering s where
  queues : s.tx.QueuesOk s.nextOp s.table.mSocketForks_.length
  links : s.tx.LinksOk s.nextOp
  status : (prevOp ≠ none ∧ s.tx.mSendStatus = .InUse) ∨
    prevOp = none ∧ s.tx.mSendBufferBegin = none ∧ s.tx.mSendBufferLast = none

theorem nextSendOp {prevOp : Option OpId} {ec : ErrorCode} (start : Awaiting s prevOp) :
    SendInv (NextSendOp.awaitSuspend s prevOp ec) := by
  obtain ⟨_, flag, status⟩ := NextSendOp.prev_task (s := s) prevOp ec
  have prev := NextSendOp.prev_onlySend (s := s) prevOp ec
  have queues := NextSendOp.prev_queues prevOp ec start.queues
  have links := NextSendOp.prev_links prevOp ec start.links
  rcases NextSendOp.awaitSuspend_cases (s := s) prevOp ec with
    ⟨failed, result⟩ | ⟨ok, op, fs, begin, result⟩ | ⟨ok, begin, result⟩ <;> rw [result]
  · have failing := NextSendOp.failing_onlySend (s := s) prevOp ec
    obtain ⟨task, _, _⟩ := NextSendOp.prev_task (s := s) prevOp ec
    obtain ⟨t, cancelled⟩ : ∃ t, (NextSendOp.failing s prevOp ec).cancel .Sender
      (NextSendOp.prev s prevOp ec).2 = t := ⟨_, rfl⟩
    obtain ⟨closed, empty, last, error, flag', nextOp, table, queues', links'⟩ := cancel_sender
      (start.failing_flags prevOp ec) (failing.rx ▸ start.rx)
      (by show (NextSendOp.prev s prevOp ec).1.tx.mSendTask.waits = false; rw [task]; exact start.busy)
      (by rw [failing.nextOp, failing.table]; exact queues)
      (by rw [failing.nextOp]; exact links)
      (fun first => by
        rw [failing.mEC] at first
        rw [NextSendOp.prev_snd_isError]
        exact failed.resolve_right (by simp [first])) cancelled
    rw [← nextOp, ← table] at queues'
    rw [← nextOp] at links'
    rw [cancelled]
    refine ⟨?_, fun _ => by simp [push], queues'.congr rfl fun _ => rfl,
      links'.congr rfl rfl rfl, ?_⟩
    · show t.tx.mNextSendOp = false
      rw [flag']
      exact flag.trans start.flag
    · simp [push, SendSide.TaskOk, error, closed, empty, last]
  · have inUse : s.tx.mSendStatus = .InUse := by
      rcases start.status with ⟨_, inUse⟩ | ⟨fresh, empty, _⟩
      · exact inUse
      · subst fresh
        exact absurd (begin.symm.trans empty) (by simp)
    rw [← prev.nextOp, ← prev.table] at queues
    rw [← prev.nextOp] at links
    exact ⟨flag.trans start.flag, fun _ => by simp [push], (queues.setStatus _ _).congr rfl fun _ => rfl,
      (links.setStatus _ _).congr rfl rfl rfl, status.trans inUse, begin⟩
  · have last : (NextSendOp.prev s prevOp ec).1.tx.mSendBufferLast = none := by
      cases prevOp with
      | none =>
        rcases start.status with ⟨resumed, _⟩ | ⟨_, _, last⟩
        · exact absurd rfl resumed
        · exact last
      | some op =>
        simp only [NextSendOp.prev, NextSendOp.completePrev_tx, SendSide.finish] at begin ⊢
        simp [begin]
    rw [← prev.nextOp, ← prev.table] at queues
    rw [← prev.nextOp] at links
    exact ⟨rfl, fun ready => by simp [SendTask.ready] at ready, queues.congr rfl fun _ => rfl,
      links.congr rfl rfl rfl, rfl, begin, last, prev.mEC ▸ ok.2⟩

/-- The send task is resumed; it may mark its fork as initiated. -/
theorem makeSendTask_eq (s : SockScheduler) :
    (s.makeSendTask = s ∧ (s.tx.mSendTask.ready = false)) ∨
    (∃ e, s.tx.mSendTask = .nextSendOp (some (.error e)) ∧
      s.makeSendTask = { s with tx.mSendTask := .done }) ∨
    (∃ op fs, s.tx.mSendTask = .nextSendOp (some (.ok op)) ∧
      (s.table.fork (s.tx.slotOf op)).mInitiated = true ∧
      s.makeSendTask = ((s.check fs).logSend (.started op)).startSend .header op) ∨
    (∃ op fs, s.tx.mSendTask = .nextSendOp (some (.ok op)) ∧
      (s.table.fork (s.tx.slotOf op)).mInitiated = false ∧
      s.makeSendTask = ({ (s.check fs).logSend (.started op) with
        table := s.table.modify (s.tx.slotOf op) fun f => { f with mInitiated := true } } :
        SockScheduler).startSend .control op) := by
  unfold makeSendTask
  cases task : s.tx.mSendTask with
  | nextSendOp mRes =>
    cases mRes with
    | none => exact .inl ⟨rfl, rfl⟩
    | some r =>
      cases r with
      | error e => exact .inr (.inl ⟨e, rfl, rfl⟩)
      | ok op =>
        cases initiated : (s.table.fork (s.tx.slotOf op)).mInitiated with
        | true => exact .inr (.inr (.inl ⟨op, _, rfl, initiated, by simp only [initiated]; rfl⟩))
        | false => exact .inr (.inr (.inr ⟨op, _, rfl, initiated, by simp only [initiated]; rfl⟩))
  | _ => exact .inl ⟨rfl, rfl⟩

theorem makeSendTask (inv : SendInv s) {queued : List Callback}
    (same : t = { s with queued := queued }) : SendInv t.makeSendTask := by
  have queues : t.tx.QueuesOk t.nextOp t.table.mSocketForks_.length := by rw [same]; exact inv.queues
  have links : t.tx.LinksOk t.nextOp := by rw [same]; exact inv.links
  have flags : t.tx.FlagsOk := by rw [same]; exact inv.flags
  have taskOk : t.tx.TaskOk t.mEC := by rw [same]; exact inv.task
  rcases makeSendTask_eq t with ⟨result, idle⟩ | ⟨e, task, result⟩ | ⟨op, fs, task, _, result⟩ |
    ⟨op, fs, task, _, result⟩ <;> rw [result]
  · exact ⟨flags, fun ready => by simp [idle] at ready, queues, links, taskOk⟩
  all_goals
    have flag : t.tx.mNextSendOp = false := by
      have flags : t.tx.mNextSendOp = t.tx.mSendTask.waits := flags
      rw [flags, task]
      rfl
    simp only [SendSide.TaskOk, task] at taskOk
  · exact ⟨flag, fun ready => by simp [SendTask.ready] at ready, queues.congr rfl fun _ => rfl,
      links.congr rfl rfl rfl, taskOk⟩
  · exact ⟨flag, fun ready => by simp [startSend, SendTask.ready] at ready,
      queues.congr rfl fun _ => rfl, links.congr rfl rfl rfl, taskOk⟩
  · refine ⟨flag, fun ready => by simp [startSend, SendTask.ready] at ready, ?_,
      links.congr rfl rfl rfl, taskOk⟩
    simp only [startSend, ForkTable.length_modify]
    exact queues.congr rfl fun _ => rfl

/-- The transport call of the send task returns. -/
theorem sendReturned {ec : ErrorCode} {bt : Nat} (inv : SendInv s) (rx : s.rx.FlagsOk)
    (returned : s.sendReturned ec bt = some t) : SendInv t := by
  have flags : s.tx.mNextSendOp = s.tx.mSendTask.waits := inv.flags
  have taskOk := inv.task
  unfold SockScheduler.sendReturned at returned
  unfold SendSide.TaskOk at taskOk
  split at returned
  · rename_i part op token task
    rw [task] at flags
    simp only [task] at taskOk
    have again : ∀ o, Awaiting (s.logSend o) (some op) := fun o =>
      ⟨⟨flags, by simp [logSend, SendSide.log, task, SendTask.waits], rx⟩,
        inv.queues.congr rfl fun _ => rfl, inv.links.congr rfl rfl rfl, .inl ⟨by simp, taskOk.1⟩⟩
    have next : ∀ o part, SendInv ((s.logSend o).startSend part op) := fun o part =>
      ⟨flags, fun ready => by simp [startSend, SendTask.ready] at ready,
        inv.queues.congr rfl fun _ => rfl, inv.links.congr rfl rfl rfl, taskOk⟩
    dsimp only at returned
    split at returned
    · cases returned
      exact nextSendOp (again _)
    · split at returned <;> cases returned
      · exact next _ _
      · exact next _ _
      · exact nextSendOp (again _)
  · cases returned

theorem logSend (inv : SendInv s) (o : SendObs) : SendInv (s.logSend o) :=
  ⟨inv.flags, inv.ready, inv.queues.congr rfl fun _ => rfl, inv.links.congr rfl rfl rfl, inv.task⟩

/-- A send is posted while no error has been recorded. -/
theorem enqueueSend (inv : SendInv s) {slot : Nat} (inside : slot < s.table.mSocketForks_.length)
    (ok : s.mEC.isError = false) (data : List UInt8) (same : t = { s with nextOp := s.nextOp + 1 }) :
    SendInv (t.enqueueSend slot s.nextOp data) := by
  obtain ⟨o, made⟩ : ∃ o : SendOperation, o = { mSendBuffer := data, mSocketFork := slot } := ⟨_, rfl⟩
  obtain ⟨m, placed⟩ : ∃ m, t.emplaceSend slot s.nextOp data = m := ⟨_, rfl⟩
  have tx : m.tx = s.tx.pushBack slot s.nextOp o := by rw [← placed, made, same]; rfl
  have mEC : m.mEC = s.mEC := by rw [← placed, same]; rfl
  have nextOp : m.nextOp = s.nextOp + 1 := by rw [← placed, same]; rfl
  have table : m.table = s.table := by rw [← placed, same]; rfl
  have queued : m.queued = s.queued := by rw [← placed, same]; rfl
  have queues : m.tx.QueuesOk m.nextOp m.table.mSocketForks_.length := by
    rw [tx, nextOp, table]
    exact inv.queues.pushBack inside (by rw [made])
  have linked : (m.tx.link s.nextOp).LinksOk m.nextOp := by
    rw [tx, nextOp]
    exact inv.links.link (by rw [made]) (by rw [made])
  have flag : m.tx.mNextSendOp = s.tx.mSendTask.waits := by rw [tx]; exact inv.flags
  have task : m.tx.mSendTask = s.tx.mSendTask := by rw [tx]; rfl
  have taskOk := inv.task
  unfold SockScheduler.enqueueSend
  rw [placed]
  dsimp only
  rw [flag]
  cases waits : s.tx.mSendTask.waits with
  | true =>
    obtain ⟨idle, begin, last, _⟩ : s.tx.mSendStatus = .Idle ∧ s.tx.mSendBufferBegin = none ∧
        s.tx.mSendBufferLast = none ∧ s.mEC.isError = false := by
      unfold SendSide.TaskOk at taskOk
      unfold SendTask.waits at waits
      split at waits <;> simp_all
    have alone : m.tx.link s.nextOp = { m.tx with mSendBufferLast := some s.nextOp } := by
      simp [SendSide.link, tx, last]
    rw [alone] at linked
    rw [if_pos rfl]
    refine ⟨rfl, fun _ => by simp [wakeSend, NextSendOp.getHandle, push],
      (queues.setStatus _ _).congr rfl fun _ => rfl, ?_, rfl, rfl⟩
    refine ⟨(linked.setStatus s.nextOp .InProgress).next, (linked.setStatus s.nextOp .InProgress).prev, ?_, ?_⟩
    · intro p first
      have same : s.nextOp = p := Option.some.inj first
      exact same ▸ linked.last rfl
    · intro p first
      have same : s.nextOp = p := Option.some.inj first
      exact same ▸ linked.last rfl
  | false =>
    rw [if_neg (by simp)]
    have linkedTx := linkSend_tx m s.nextOp
    have work := linkSend_onlySend m s.nextOp
    have task' : (m.tx.link s.nextOp).mSendTask = s.tx.mSendTask := by
      unfold SendSide.link
      split <;> simp [task]
    refine ⟨?_, fun ready => ?_, ?_, ?_, ?_⟩
    · show (m.linkSend s.nextOp).tx.mNextSendOp = (m.linkSend s.nextOp).tx.mSendTask.waits
      rw [linkedTx, task', waits]
      unfold SendSide.link
      split <;> simp [flag, waits]
    · obtain ⟨cbs, appended, _⟩ := work.queued
      rw [linkedTx, task'] at ready
      rw [appended, queued]
      exact List.mem_append_left _ (inv.ready ready)
    · rw [linkedTx, work.nextOp, work.table]
      exact queues.link
    · rw [linkedTx, work.nextOp]
      exact linked
    · rw [linkedTx, work.mEC, mEC]
      have status : (m.tx.link s.nextOp).mSendStatus = s.tx.mSendStatus := by
        unfold SendSide.link
        split <;> simp [tx]
      have begin : (m.tx.link s.nextOp).mSendBufferBegin = s.tx.mSendBufferBegin := by
        unfold SendSide.link
        split <;> simp [tx]
      exact taskOk.congr task' status begin (.inr ⟨waits, ok⟩)

/-- The stop callback of a send. -/
theorem sendStopCallback (inv : SendInv s) (op : OpId) : SendInv (s.sendStopCallback op) := by
  have work := s.sendStopCallback_onlySend op
  cases live : s.tx.ops op with
  | none =>
    have still : s.sendStopCallback op = s := by simp [SockScheduler.sendStopCallback, live]
    rwa [still]
  | some o =>
    have marked := (inv.logSend (.stopRequested op s.mEC.isError)).queues.setReg op
      .invoked
    have linked := (inv.logSend (.stopRequested op s.mEC.isError)).links.setReg op .invoked
    have here : ((s.tx.log (.stopRequested op s.mEC.isError)).setReg op .invoked).ops op =
        some { o with mReg := .invoked } := by simp [live]
    by_cases idle : o.mStatus = .NotStarted
    · have tx := sendStopCallback_notStarted live idle
      have task : (s.sendStopCallback op).tx.mSendTask = s.tx.mSendTask := by
        rw [tx]
        unfold SendSide.cut
        cases o.mPrev <;> simp
      have flag : (s.sendStopCallback op).tx.mNextSendOp = s.tx.mNextSendOp := by
        rw [tx]
        unfold SendSide.cut
        cases o.mPrev <;> simp
      refine ⟨?_, fun ready => work.queued_mem (inv.ready (task ▸ ready)), ?_, ?_, ?_⟩
      · exact flag.trans (inv.flags.trans (by rw [task]))
      · rw [tx, work.nextOp, work.table]
        exact marked.cut (SendSide.home_eq_some here)
      · rw [tx, work.nextOp]
        exact linked.cut here
      · rw [work.mEC]
        refine inv.task.congr task ?_ ?_ (.inl ?_) <;>
        · rw [tx]
          unfold SendSide.cut
          cases o.mPrev <;> simp
    · have tx := sendStopCallback_started live idle
      have task : (s.sendStopCallback op).tx.mSendTask = s.tx.mSendTask := by simp [tx]
      have flag : (s.sendStopCallback op).tx.mNextSendOp = s.tx.mNextSendOp := by simp [tx]
      refine ⟨?_, fun ready => work.queued_mem (inv.ready (task ▸ ready)), ?_, ?_, ?_⟩
      · exact flag.trans (inv.flags.trans (by rw [task]))
      · rw [tx, work.nextOp, work.table]
        exact (marked.setStatus op .Canceling).congr rfl fun _ => rfl
      · rw [tx, work.nextOp]
        exact (linked.setStatus op .Canceling).congr rfl rfl rfl
      · rw [work.mEC]
        exact inv.task.congr task (by simp [tx]) (by simp [tx]) (.inl (by simp [tx]))

end SendInv
end Coproto
