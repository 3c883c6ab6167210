import Coproto.Guarantees.BufferOwnership
import Coproto.Invariants.SendTail
import Coproto.Invariants.StopTokens

/-!
# What an error leaves behind

SocketScheduler.cpp:176-274, SocketScheduler.h:668-805, 969-1026. Without stop
requests of the caller, `mEC` is set once; the transports at work are told to
stop, and when nothing is left to run both tasks have ended and every operation
has been completed, once.
-/
namespace Coproto
open SockScheduler Runs

/-- A `send` of no bytes. -/
def EmptySend : Event → Prop
  | .send _ data _ => data = []
  | _ => False

instance (e : Event) : Decidable (EmptySend e) := by
  rcases e with ⟨⟩ <;> dsimp only [EmptySend] <;> infer_instance

/-- No stop request, no empty send, no slot id given to a second session. -/
def Calm (s : SockScheduler) (e : Event) : Prop :=
  Unstopped e ∧ ¬ EmptySend e ∧ ¬ SharesSlotId s e

instance (s : SockScheduler) (e : Event) : Decidable (Calm s e) :=
  inferInstanceAs (Decidable (_ ∧ _))

namespace SockScheduler

/-- Nothing is left to run and no transport call is in flight. -/
def Quiescent (s : SockScheduler) : Prop :=
  s.queued = [] ∧ s.rx.mRecvTask.callToken = none ∧ s.tx.mSendTask.callToken = none

/-- The operation is in its queue. -/
def Pending (s : SockScheduler) (op : OpId) : Prop :=
  (s.rx.ops op).isSome = true ∨ (s.tx.ops op).isSome = true

instance (s : SockScheduler) (op : OpId) : Decidable (s.Pending op) :=
  inferInstanceAs (Decidable (_ ∨ _))

/-- How often the callback of an operation was scheduled: it waits or was run. -/
def scheduled (s : SockScheduler) (es : List Event) (op : OpId) : Nat :=
  s.queued.count (.completion op) + es.count (.run (.completion op))

end SockScheduler

/-- The state `s` reached by `es`. -/
structure ErrorDrain (es : List Event) (s : SockScheduler) : Prop where
  constant : s.mEC.isError = true → ∀ fs t, Run step Calm s fs t → t.mEC = s.mEC
  recvCall : s.mEC.isError = true → ∀ token, s.rx.mRecvTask.callToken = some token → token ∈ s.stopped
  sendCall : s.mEC.isError = true → ∀ token, s.tx.mSendTask.callToken = some token → token ∈ s.stopped
  drained : s.mEC.isError = true → s.Quiescent →
    s.rx.mRecvTask = .done ∧ s.tx.mSendTask = .done ∧ (∀ op, ¬ s.Pending op) ∧
      ∀ slot, s.rx.mRecvOps slot = [] ∧ s.tx.mSendOps slot = []
  once : ∀ op, op ∈ s.rx.postedOps ∨ op ∈ s.tx.postedOps →
    s.scheduled es op = if s.Pending op then 0 else 1
  sendAfter : s.mEC.isError = true → ∀ session data token t, data ≠ [] →
    step s (.send session data token) = some t →
    t.tx.trace = s.tx.trace ++ [.posted s.nextOp session data, .setError s.nextOp s.mEC,
      .completed s.nextOp (some s.mEC)] ∧ t.queued = s.queued ++ [.completion s.nextOp]
  recvAfter : s.mEC.isError = true → ∀ session buffer token t,
    step s (.recv session buffer token) = some t →
    t.rx.trace = s.rx.trace ++ [.posted s.nextOp session, .setError s.nextOp s.mEC,
      .completed s.nextOp (some s.mEC) []] ∧ t.queued = s.queued ++ [.completion s.nextOp]

namespace SockScheduler
variable {s t : SockScheduler} {es : List Event}

/-! ## The error that was set -/

theorem mEC_constant {ok : SockScheduler → Event → Prop} (failed : s.mEC.isError = true)
    {fs : List Event} (run : Run step ok s fs t) : t.mEC = s.mEC := by
  induction run with
  | nil => rfl
  | snoc before met taken ih =>
    rcases (step_stops taken).first with same | ⟨ok, _⟩
    · exact same.trans ih
    · rw [ih, failed] at ok
      cases ok

theorem send_refused (failed : s.mEC.isError = true) {session : UInt64 × UInt64}
    {data : List UInt8} {token : StopToken} (full : data ≠ [])
    (taken : step s (.send session data token) = some t) :
    t.tx.trace = s.tx.trace ++ [.posted s.nextOp session data, .setError s.nextOp s.mEC,
      .completed s.nextOp (some s.mEC)] ∧ t.queued = s.queued ++ [.completion s.nextOp] := by
  obtain ⟨slot, _, rfl⟩ := Option.map_eq_some_iff.mp taken
  have failed' : (s.logSend (.posted s.nextOp session data)).mEC.isError = true := failed
  have size : ¬ data.length = 0 := fun empty => full (List.length_eq_zero_iff.mp empty)
  unfold send
  dsimp only
  rw [if_neg size, if_pos failed']
  constructor
  · simp [rejectSend, logSend]
  · rfl

theorem recv_refused (failed : s.mEC.isError = true) {session : UInt64 × UInt64}
    {buffer : RecvBuffer} {token : StopToken}
    (taken : step s (.recv session buffer token) = some t) :
    t.rx.trace = s.rx.trace ++ [.posted s.nextOp session, .setError s.nextOp s.mEC,
      .completed s.nextOp (some s.mEC) []] ∧ t.queued = s.queued ++ [.completion s.nextOp] := by
  obtain ⟨slot, _, rfl⟩ := Option.map_eq_some_iff.mp taken
  have failed' : (s.logRecv (.posted s.nextOp session)).mEC.isError = true := failed
  unfold recv
  dsimp only
  rw [if_pos failed']
  constructor
  · simp [rejectRecv, logRecv]
  · rfl

/-! ## Where the tasks can be -/

/-- A receive task that neither waits for a call nor to be run has ended. -/
theorem recvTask_done (inv : RecvInv s) (failed : s.mEC.isError = true) (quiet : s.Quiescent) :
    s.rx.mRecvTask = .done := by
  have task := inv.task
  have ready : s.rx.mRecvTask.ready = false := by
    refine (Bool.not_eq_true _).mp fun ready => ?_
    have queued := inv.ready ready
    rw [quiet.1] at queued
    cases queued
  have call := quiet.2.1
  unfold RecvSide.TaskOk at task
  cases here : s.rx.mRecvTask with
  | anyRecvOp mRes =>
    rw [here] at task ready
    cases mRes with
    | none =>
      rw [task.2.2] at failed
      cases failed
    | some r => cases ready
  | header token =>
    rw [here] at call
    cases call
  | control header token =>
    rw [here] at call
    cases call
  | getRequested frame mRes =>
    rw [here] at task ready
    cases mRes with
    | none =>
      rw [task.2] at failed
      cases failed
    | some r => cases ready
  | body frame op token =>
    rw [here] at call
    cases call
  | done => rfl

theorem sendTask_done (inv : SendInv s) (failed : s.mEC.isError = true) (quiet : s.Quiescent) :
    s.tx.mSendTask = .done := by
  have task := inv.task
  have ready : s.tx.mSendTask.ready = false := by
    refine (Bool.not_eq_true _).mp fun ready => ?_
    have queued := inv.ready ready
    rw [quiet.1] at queued
    cases queued
  have call := quiet.2.2
  unfold SendSide.TaskOk at task
  cases here : s.tx.mSendTask with
  | nextSendOp mRes =>
    rw [here] at task ready
    cases mRes with
    | none =>
      rw [task.2.2.2] at failed
      cases failed
    | some r => cases ready
  | sending part op token =>
    rw [here] at call
    cases call
  | done => rfl

/-- An ended receive task has drained every queue. -/
theorem recvs_drained (inv : RecvInv s) (ended : s.rx.mRecvTask = .done) (slot : Nat) :
    s.rx.mRecvOps slot = [] := by
  have task := inv.task
  simp only [RecvSide.TaskOk, ended] at task
  have none := Queues.total_eq_zero.mp (inv.counted.symm.trans task.2.2)
  by_cases inside : slot < s.table.mSocketForks_.length
  · exact none slot inside
  · exact inv.queues.empty_of_unused (Nat.le_of_not_lt inside)

/-- An ended send task has drained the list. -/
theorem sends_drained (inv : SendInv s) (chained : s.tx.Chained) (ended : s.tx.mSendTask = .done)
    (op : OpId) : s.tx.ops op = none := by
  obtain ⟨xs, chain⟩ := chained.chain
  have task := inv.task
  simp only [SendSide.TaskOk, ended] at task
  have empty : xs = [] := List.head?_eq_none_iff.mp (chain.begin.symm.trans task.2.2.1)
  apply Option.not_isSome_iff_eq_none.mp
  intro live
  have member := chain.mem.mpr live
  rw [empty] at member
  cases member

/-! ## Runs -/

theorem not_cutsTail {e : Event} (calm : Unstopped e) : ¬ CutsTail s e := by
  intro cuts
  unfold CutsTail at cuts
  split at cuts
  · exact calm
  · exact calm cuts.1
  · exact cuts

structure DrainInv (s : SockScheduler) : Prop where
  queues : QueuesInv s
  last : s.tx.LastLive
  tokens : TokensOk s

theorem DrainInv.init (sid : SessionID) : DrainInv (init sid) where
  queues := QueuesInv.init sid
  last := by
    rw [BaseInv.init_eq]
    exact nofun
  tokens := TokensOk.init sid

theorem DrainInv.step {e : Event} (inv : DrainInv s) (met : Calm s e) (taken : step s e = some t) :
    DrainInv t := by
  have base := inv.queues.base
  exact ⟨inv.queues.step ⟨met.2.2, not_losesSend inv.last e⟩ taken,
    lastLive_sendStep base.send inv.queues.chained inv.last (not_cutsTail met.1) (sendStep base taken),
    inv.tokens.step base met.1 taken⟩

/-- The callback of a posted operation is scheduled when it leaves its queue. -/
theorem QueuesInv.scheduled (inv : QueuesInv s) {sid : SessionID}
    {ok : SockScheduler → Event → Prop} (run : Run SockScheduler.step ok (SockScheduler.init sid) es s)
    {op : OpId} (posted : op ∈ s.rx.postedOps ∨ op ∈ s.tx.postedOps) :
    s.scheduled es op = if s.Pending op then 0 else 1 := by
  have balance : s.scheduled es op = s.completions op := (completions_of_run run op).symm
  have recv := Ledger.balance inv.recvs op
  have send := Ledger.balance inv.sends op
  have recvOnce := List.nodup_iff_count_le_one.mp (Ledger.nodup inv.recvs) op
  have sendOnce := List.nodup_iff_count_le_one.mp (Ledger.nodup inv.sends) op
  have one : s.rx.postedOps.count op + s.tx.postedOps.count op = 1 := by
    rcases posted with mine | mine
    · have other := List.count_eq_zero.mpr (inv.apart.apart op mine)
      have positive := List.count_pos_iff.mpr mine
      have le : s.rx.postedOps.count op ≤ 1 := recvOnce
      omega
    · have other := List.count_eq_zero.mpr fun other => inv.apart.apart op other mine
      have positive := List.count_pos_iff.mpr mine
      have le : s.tx.postedOps.count op ≤ 1 := sendOnce
      omega
  have recv' : s.rx.postedOps.count op = s.rx.doneOps.count op + (s.rx.ops op).isSome.toNat := by
    rw [← RecvSide.isSome_cell]
    exact recv
  have send' : s.tx.postedOps.count op = s.tx.doneOps.count op + (s.tx.ops op).isSome.toNat := by
    rw [← SendSide.isSome_cell]
    exact send
  rw [balance, completions]
  by_cases here : s.Pending op
  · rw [if_pos here]
    rcases here with recvs | sends
    · rw [recvs, Bool.toNat_true] at recv'
      omega
    · rw [sends, Bool.toNat_true] at send'
      omega
  · rw [if_neg here]
    unfold Pending at here
    obtain ⟨recvs, sends⟩ := not_or.mp here
    rw [(Bool.not_eq_true _).mp recvs, Bool.toNat_false] at recv'
    rw [(Bool.not_eq_true _).mp sends, Bool.toNat_false] at send'
    omega

end SockScheduler

theorem DrainInv.of_run {sid : SessionID} {es : List Event} {s : SockScheduler}
    (run : Run step Calm (init sid) es s) : DrainInv s :=
  run.invariant (DrainInv.init sid) fun _ _ _ inv met taken => inv.step met taken

/-- In every run without stop requests, empty sends and shared slot ids. -/
theorem errorDrain_ok {sid : SessionID} {es : List Event} {s : SockScheduler}
    (run : Run step Calm (init sid) es s) : ErrorDrain es s := by
  have inv := DrainInv.of_run run
  have base := inv.queues.base
  refine ⟨fun failed fs t later => mEC_constant failed later, fun failed token call => ?_,
    fun failed token call => ?_, fun failed quiet => ?_,
    fun op posted => inv.queues.scheduled run posted,
    fun failed session data token t full taken => send_refused failed full taken,
    fun failed session buffer token t taken => recv_refused failed taken⟩
  · have task := base.recv.task
    have busy : s.rx.mRecvStatus = .InUse := by
      unfold RecvSide.TaskOk at task
      unfold RecvTask.callToken at call
      split at call <;> simp_all
    rw [inv.tokens.recv.call token call]
    exact inv.tokens.recv.stopped failed busy
  · have task := base.send.task
    have busy : s.tx.mSendStatus = .InUse := by
      unfold SendSide.TaskOk at task
      unfold SendTask.callToken at call
      split at call <;> simp_all
    rw [inv.tokens.send.call token call]
    exact inv.tokens.send.stopped failed busy
  · have recvEnded := recvTask_done base.recv failed quiet
    have sendEnded := sendTask_done base.send failed quiet
    have recvs := recvs_drained base.recv recvEnded
    have sends := sends_drained base.send inv.queues.chained sendEnded
    refine ⟨recvEnded, sendEnded, fun op pending => ?_, fun slot => ⟨recvs slot, ?_⟩⟩
    · rcases pending with recv | send
      · obtain ⟨o, live⟩ := Option.isSome_iff_exists.mp recv
        have member := base.recv.queues.mem.mpr (RecvSide.home_eq_some live)
        rw [recvs] at member
        cases member
      · rw [sends op] at send
        cases send
    · apply List.eq_nil_iff_forall_not_mem.mpr
      intro op member
      obtain ⟨o, live, _⟩ := Option.map_eq_some_iff.mp (base.send.queues.mem.mp member)
      rw [sends op] at live
      cases live

/-- The peer goes away while a header is read and a send is in flight, with one
more send on the list. -/
def drainedRun : List Event :=
  [.recv SessionID.root.mVal { allowResize := false, size := 1 } .none,
   .run .recvTask,
   .send SessionID.root.mVal [1] .none,
   .run .sendTask,
   .send SessionID.root.mVal [2] .none,
   .recvReturned Code.remoteClosed 0 (List.replicate 8 0),
   .sendReturned Code.operation_aborted 0,
   .run .recvTask,
   .run .sendTask,
   .send SessionID.root.mVal [3] .none,
   .run (.completion 0),
   .run (.completion 1),
   .run (.completion 2),
   .run (.completion 3)]

theorem errorDrain_ok_drained : ∃ s, Run step Calm (init SessionID.root) drainedRun s ∧
    s.mEC = Code.remoteClosed ∧ s.queued = [] ∧ s.rx.postedOps = [0] ∧ s.tx.postedOps = [1, 2, 3] ∧
    ErrorDrain drainedRun s := by
  have reached : (exec step Calm (init SessionID.root) drainedRun).map
      (fun s => (s.mEC, s.queued, s.rx.postedOps, s.tx.postedOps)) =
      some (ErrorCode.coproto .remoteClosed, [], [0], [1, 2, 3]) := by
    decide
  obtain ⟨s, result, facts⟩ := Option.map_eq_some_iff.mp reached
  simp only [Prod.mk.injEq] at facts
  exact ⟨s, .of_exec result, facts.1, facts.2.1, facts.2.2.1, facts.2.2.2,
    errorDrain_ok (.of_exec result)⟩

end Coproto
