import Coproto.Invariants.Messages
import Coproto.Invariants.SendBooks

/-!
# The order in which sends are started

The send task starts the first send of the list, so sends are started in the
order they were posted. One that is done without having been started was asked
to stop or had nothing to send, unless the scheduler has failed.
-/
namespace Coproto
open Traces

/-- The operation an observation starts. -/
def SendObs.starting : SendObs → Option OpId
  | .started op => some op
  | _ => none

/-- The operation whose transport call is in flight. -/
def SendTask.sends : SendTask → Option OpId
  | .sending _ op _ => some op
  | _ => none

namespace SendSide

def startedOps (tx : SendSide) : List OpId := tx.trace.filterMap SendObs.starting

/-- Sends are started oldest first, and none that waits is older than one of them. -/
structure Ordered (tx : SendSide) : Prop where
  sorted : tx.startedOps.Pairwise (· < ·)
  posted : ∀ a ∈ tx.startedOps, a ∈ tx.postedOps
  taken : ∀ op, tx.mSendTask.sends = some op → op ∈ tx.startedOps
  before : ∀ a ∈ tx.startedOps, ∀ p, (tx.ops p).isSome = true → tx.mSendTask.sends ≠ some p → a < p

/-- What may end a send before it is started. -/
def Excuse (tx : SendSide) (op : OpId) : Prop :=
  op ∈ tx.startedOps ∨ (∃ failed, .stopRequested op failed ∈ tx.trace) ∨
    ∃ session, .posted op session [] ∈ tx.trace

def Excused (tx : SendSide) (mEC : ErrorCode) : Prop :=
  mEC.isError = false → ∀ op ∈ tx.doneOps, tx.Excuse op

variable {tx tx' : SendSide} {op p : OpId} {xs : List OpId} {nextOp slots : Nat} {ec mEC : ErrorCode}
  {P : SendObs → Prop}

/-! ## Traces that grow -/

theorem mem_startedOps : op ∈ tx.startedOps ↔ .started op ∈ tx.trace := by
  unfold startedOps
  rw [List.mem_filterMap]
  constructor
  · rintro ⟨o, shown, names⟩
    cases o <;> cases names
    exact shown
  · intro shown
    exact ⟨_, shown, rfl⟩

theorem startedOps_grows (grows : Appends (fun o => o.starting = none) tx.trace tx'.trace) :
    tx'.startedOps = tx.startedOps := by
  obtain ⟨os, trace, none⟩ := grows
  have added : os.filterMap SendObs.starting = [] := List.filterMap_eq_nil_iff.mpr none
  rw [startedOps, trace, List.filterMap_append, added, List.append_nil]
  rfl

theorem postedOps_grows (grows : Appends P tx.trace tx'.trace) (posted : p ∈ tx.postedOps) :
    p ∈ tx'.postedOps := by
  obtain ⟨o, shown, names⟩ := List.mem_filterMap.mp posted
  exact List.mem_filterMap.mpr ⟨o, grows.kept shown, names⟩

theorem Excuse.grows (excuse : tx.Excuse op) (grows : Appends P tx.trace tx'.trace) :
    tx'.Excuse op := by
  rcases excuse with started | ⟨failed, stopped⟩ | ⟨session, empty⟩
  · exact .inl (mem_startedOps.mpr (grows.kept (mem_startedOps.mp started)))
  · exact .inr (.inl ⟨failed, grows.kept stopped⟩)
  · exact .inr (.inr ⟨session, grows.kept empty⟩)

/-! ## Orders that are kept -/

/-- Nothing is started, and only the send in flight may stop being it: it is gone then. -/
theorem Ordered.keep (ok : tx.Ordered)
    (grows : Appends (fun o => o.starting = none) tx.trace tx'.trace)
    (live : ∀ p, (tx'.ops p).isSome = true → (tx.ops p).isSome = true)
    (task : tx'.mSendTask.sends = tx.mSendTask.sends ∨ tx'.mSendTask.sends = none ∧
      ∀ op, tx.mSendTask.sends = some op → tx'.ops op = none) : tx'.Ordered := by
  have same := startedOps_grows grows
  refine ⟨same ▸ ok.sorted, ?_, ?_, ?_⟩
  · intro a started
    rw [same] at started
    exact postedOps_grows grows (ok.posted a started)
  · intro op sends
    rw [same]
    rcases task with kept | ⟨idle, _⟩
    · exact ok.taken op (kept ▸ sends)
    · rw [idle] at sends
      cases sends
  · intro a started p there waits
    rw [same] at started
    apply ok.before a started p (live p there)
    intro sends
    rcases task with kept | ⟨_, gone⟩
    · exact waits (kept.trans sends)
    · simp [gone p sends] at there

/-- The first of the list is started. -/
theorem Ordered.start (ok : tx.Ordered) (chain : tx.ChainOk (op :: xs)) (books : tx.Books nextOp)
    (idle : tx.mSendTask.sends = none) (part : SendPart) (token : StopId) :
    ((tx.log (.started op)).at_ (.sending part op token)).Ordered := by
  have live : (tx.ops op).isSome = true := chain.mem.mp List.mem_cons_self
  have started : ((tx.log (.started op)).at_ (.sending part op token)).startedOps =
      tx.startedOps ++ [op] := by
    simp [startedOps, SendObs.starting]
  have older : ∀ a ∈ tx.startedOps, a < op := by
    intro a member
    apply ok.before a member op live
    simp [idle]
  constructor
  · rw [started]
    apply List.pairwise_append.mpr
    refine ⟨ok.sorted, List.pairwise_singleton _ _, fun a member b last => ?_⟩
    rw [List.mem_singleton.mp last]
    exact older a member
  · intro a member
    rw [started] at member
    have posted : a ∈ tx.postedOps := by
      rcases List.mem_append.mp member with old | last
      · exact ok.posted a old
      · rw [List.mem_singleton.mp last]
        exact Ledger.posted_of_cell books (by simpa using live)
    exact postedOps_grows (P := fun _ => True) ⟨[.started op], rfl, fun _ _ => trivial⟩ posted
  · intro p sends
    rw [started, ← Option.some.inj sends]
    simp
  · intro a member p there waits
    rw [started] at member
    have there' : (tx.ops p).isSome = true := there
    rcases List.mem_append.mp member with old | last
    · apply ok.before a old p there'
      simp [idle]
    · rw [List.mem_singleton.mp last]
      have other : p ≠ op := fun same => waits (by rw [same]; rfl)
      have behind : p ∈ xs := (List.mem_cons.mp (chain.mem.mpr there')).resolve_left other
      exact (List.pairwise_cons.mp chain.sorted).1 p behind

/-- A send is posted: it is younger than all others. -/
theorem Ordered.post (ok : tx.Ordered) (books : tx.Books nextOp)
    (grows : Appends (fun o => o.starting = none) tx.trace tx'.trace)
    (live : ∀ p, (tx'.ops p).isSome = true → p = nextOp ∨ (tx.ops p).isSome = true)
    (task : tx'.mSendTask.sends = tx.mSendTask.sends) : tx'.Ordered := by
  have same := startedOps_grows grows
  refine ⟨same ▸ ok.sorted, ?_, ?_, ?_⟩
  · intro a started
    rw [same] at started
    exact postedOps_grows grows (ok.posted a started)
  · intro op sends
    rw [same]
    exact ok.taken op (task ▸ sends)
  · intro a started p there waits
    rw [same] at started
    rw [task] at waits
    rcases live p there with new | old
    · rw [new]
      exact books.bound a (ok.posted a started)
    · exact ok.before a started p old waits

theorem Excused.keep (ok : tx.Excused mEC)
    (grows : Appends (fun o => ∀ p, o.finishing = some p → tx'.Excuse p) tx.trace tx'.trace) :
    tx'.Excused mEC := by
  intro fine p done
  obtain ⟨o, shown, names⟩ := List.mem_filterMap.mp done
  rcases grows.old_or shown with old | new
  · have before : p ∈ tx.doneOps := List.mem_filterMap.mpr ⟨o, old, names⟩
    exact (ok fine p before).grows grows
  · exact new p names

/-- A stop callback is seen before it does anything. -/
theorem shown_stop (live : (tx.ops op).isSome = true) (failed : Bool) :
    .stopRequested op failed ∈ (tx.stop op failed).trace := by
  obtain ⟨o, there⟩ := Option.isSome_iff_exists.mp live
  unfold stop
  simp only [there]
  split
  · rw [abort, trace_cut]
    simp
  · simp

/-- What the heap holds of sends that were posted before. -/
theorem Keeps.isSome (keeps : Keeps tx tx') (live : (tx'.ops p).isSome = true) :
    (tx.ops p).isSome = true := by
  obtain ⟨o, there⟩ := Option.isSome_iff_exists.mp live
  obtain ⟨a, old, _⟩ := keeps p o there
  simp [old]

theorem sends_enqueue (flags : tx.FlagsOk) (slot : Nat) (op : OpId) (data : List UInt8) :
    (tx.enqueue slot op data).mSendTask.sends = tx.mSendTask.sends := by
  rcases enqueue_cases flags slot op data with ⟨parked, taken, _⟩ | ⟨_, same, _⟩
  · rw [parked, taken]
    rfl
  · rw [same]

theorem isSome_enqueue (slot : Nat) (op : OpId) (data : List UInt8) (p : OpId) :
    ((tx.enqueue slot op data).ops p).isSome = (decide (p = op) || (tx.ops p).isSome) := by
  rw [← isSome_cell, cell_enqueue, ← isSome_cell]
  split <;> simp [*]

theorem sends_await (awaits : tx.Await mEC nextOp ec tx') : tx'.mSendTask.sends = none := by
  cases awaits <;> rfl

/-- The list is only drained by a scheduler that has failed. -/
theorem trace_await {mEC' : ErrorCode} (awaits : tx.Await mEC nextOp ec tx') (task : tx'.TaskOk mEC')
    (fine : mEC'.isError = false) : tx'.trace = tx.trace := by
  cases awaits with
  | shut failed =>
    have ended : mEC'.isError = true := task.1
    rw [fine] at ended
    cases ended
  | take p ok begin => rfl
  | park ok begin => rfl

/-- A stop callback ends no send but its own. -/
theorem appends_stop_own (op : OpId) (failed : Bool) :
    Appends (fun o => o.starting = none ∧ ∀ p, o.finishing = some p → p = op) tx.trace
      (tx.stop op failed).trace :=
  appends_stop failed ⟨rfl, nofun⟩ ⟨rfl, nofun⟩ ⟨rfl, fun _ same => (Option.some.inj same).symm⟩

theorem excused_stop (ok : tx.Excused mEC) (live : (tx.ops op).isSome = true) (failed : Bool) :
    (tx.stop op failed).Excused mEC := by
  refine ok.keep ((appends_stop_own op failed).mono fun o own p done => ?_)
  rw [own.2 p done]
  exact .inr (.inl ⟨failed, shown_stop live failed⟩)

end SendSide

/-! ## Steps -/

namespace SockScheduler
variable {s t : SockScheduler} {e : Event}

theorem ordered_sendStep (inv : SendInv s) (chained : s.tx.Chained) (books : s.tx.Books s.nextOp)
    (ok : s.tx.Ordered) (step : SendStep s e t) : t.tx.Ordered := by
  cases step with
  | quiet tx mEC nextOp => exact tx ▸ ok
  | woken tx first failed nextOp =>
    rw [tx]
    refine ok.keep (.of_eq SendSide.trace_wakeError) (fun p live => ?_) (.inl ?_)
    · rwa [SendSide.wakeError_ops] at live
    · unfold SendSide.wakeError
      split
      · rename_i parked
        rw [parked]
        rfl
      · rfl
  | rejected session data token ec error tx mEC nextOp =>
    rw [tx]
    exact ok.keep (SendSide.appends_reject session data rfl rfl rfl) (fun p live => live) (.inl rfl)
  | posted session data token slot held full ok' tx mEC nextOp =>
    rw [tx]
    obtain ⟨m, queued⟩ : ∃ m, (s.tx.log (.posted s.nextOp session data)).enqueue slot s.nextOp data =
        m := ⟨_, rfl⟩
    have trace : m.trace = s.tx.trace ++ [.posted s.nextOp session data] := by
      rw [← queued, SendSide.trace_enqueue]
      rfl
    have placed : m.Ordered := by
      refine ok.post books (trace ▸ .one rfl) (fun p live => ?_) ?_
      · rw [← queued, SendSide.isSome_enqueue] at live
        simpa using live
      · rw [← queued]
        exact SendSide.sends_enqueue (show (s.tx.log _).FlagsOk from inv.flags) slot s.nextOp data
    rw [queued]
    refine placed.keep (SendSide.appends_arm token rfl rfl rfl) (fun p live => ?_) (.inl ?_)
    · exact (SendSide.Keeps.arm m s.nextOp token).isSome live
    · rw [SendSide.arm_mSendTask]
  | stopped op armed tx mEC nextOp =>
    rw [tx]
    refine ok.keep (SendSide.appends_stop _ rfl rfl rfl) (fun p live => ?_) (.inl ?_)
    · exact (SendSide.Keeps.stop s.tx op _).isSome live
    · rw [SendSide.stop_mSendTask]
  | closed e task tx mEC nextOp =>
    rw [tx]
    refine ok.keep .refl (fun p live => live) (.inl ?_)
    rw [task]
    rfl
  | started op part task opening tx mEC nextOp =>
    rw [tx]
    obtain ⟨xs, chain⟩ := chained.chain
    have begin := chain.begin
    have taskOk := inv.task
    simp only [SendSide.TaskOk, task] at taskOk
    rw [taskOk.2] at begin
    obtain ⟨ys, rfl⟩ := List.head?_eq_some_iff.mp begin.symm
    apply ok.start chain books
    rw [task]
    rfl
  | advanced part part' op token task x call full follows tx mEC nextOp =>
    rw [tx]
    refine ok.keep (.one rfl) (fun p live => live) (.inl ?_)
    rw [task]
    rfl
  | @finished _ ec _ part op token task x call reason awaits mEC nextOp =>
    obtain ⟨xs, chain⟩ := chained.sending inv.task task
    have logged : (s.tx.log (.xfer op part x)).ChainOk (op :: xs) := chain.congr rfl rfl rfl
    have front : (s.tx.log (.xfer op part x)).AtFront op :=
      logged.toListed.front (inv.queues.congr rfl fun _ => rfl)
    have left : SendSide.Keeps ((s.tx.log (.xfer op part x)).finish op ec) t.tx := .await awaits
    have gone : ∀ p, (t.tx.ops p).isSome = true → p ≠ op ∧ (s.tx.ops p).isSome = true := by
      intro p live
      have before := left.isSome live
      rw [SendSide.finish_apply front] at before
      split at before
      · cases before
      · exact ⟨‹_›, before⟩
    have shown : Traces.Appends (fun o => o.starting = none) s.tx.trace t.tx.trace := by
      have first : Traces.Appends (fun o => o.starting = none) s.tx.trace
          (s.tx.log (.xfer op part x)).trace := .one rfl
      have second : Traces.Appends (fun o => o.starting = none) s.tx.trace
          ((s.tx.log (.xfer op part x)).finish op ec).trace :=
        first.trans (SendSide.appends_finish (fun _ => rfl) fun _ _ => rfl)
      exact second.trans (SendSide.appends_await awaits (fun _ _ _ _ => rfl) fun _ _ _ _ => rfl)
    refine ok.keep shown (fun p live => (gone p live).2) (.inr ⟨?_, fun p sends => ?_⟩)
    · exact SendSide.sends_await awaits
    · rw [task] at sends
      cases sends
      exact Option.not_isSome_iff_eq_none.mp fun live => (gone op live).1 rfl

/-- A send that is accepted is queued, then its stop callback is set up. -/
theorem send_accepted {slot : Nat} {session : UInt64 × UInt64} {data : List UInt8} {token : StopToken}
    (full : data.length ≠ 0) (ok : s.mEC.isError = false) : (s.send slot session data token).tx =
      ((s.tx.log (.posted s.nextOp session data)).enqueue slot s.nextOp data).arm s.nextOp token := by
  have fine : (s.logSend (.posted s.nextOp session data)).mEC.isError = false := ok
  have fine' : (({ s.logSend (.posted s.nextOp session data) with nextOp := s.nextOp + 1 } :
      SockScheduler).enqueueSend slot s.nextOp data).mEC.isError = false := by
    rw [(enqueueSend_onlySend _ _ _ _).mEC]
    exact ok
  unfold send
  dsimp only
  rw [if_neg full, if_neg (by rw [fine]; simp), sendSetCancelation_tx _ _ _ fine', enqueueSend_tx]
  rfl

/-- A send that is refused has nothing to send, or the scheduler has failed. -/
theorem excused_send (slot : Nat) (session : UInt64 × UInt64) (data : List UInt8)
    (token : StopToken) (ok : s.tx.Excused s.mEC) :
    (s.send slot session data token).tx.Excused s.mEC := by
  by_cases empty : data.length = 0
  · obtain rfl := List.length_eq_zero_iff.mp empty
    refine ok.keep (SendSide.appends_reject session [] (fun _ done => by cases done)
      (fun _ done => by cases done) ?_)
    rintro p done
    obtain rfl := Option.some.inj done
    exact .inr (.inr ⟨session, by simp [send, rejectSend, logSend]⟩)
  · intro fine
    rw [send_accepted empty fine]
    have posted : ((s.tx.log (.posted s.nextOp session data)).enqueue slot s.nextOp data).Excused
        s.mEC := by
      refine ok.keep ?_
      rw [SendSide.trace_enqueue]
      exact .one fun _ done => by cases done
    have there : (((s.tx.log (.posted s.nextOp session data)).enqueue slot s.nextOp data).ops
        s.nextOp).isSome = true := by
      rw [SendSide.isSome_enqueue]
      simp
    cases token with
    | none => exact posted fine
    | live =>
      have armed : (((s.tx.log (.posted s.nextOp session data)).enqueue slot s.nextOp data).setReg
          s.nextOp .registered).Excused s.mEC := posted.keep .refl
      exact armed fine
    | stopped =>
      have armed : (((s.tx.log (.posted s.nextOp session data)).enqueue slot s.nextOp data).setReg
          s.nextOp .registered).Excused s.mEC := posted.keep .refl
      exact SendSide.excused_stop armed (by simpa using there) false fine

theorem excused_step (inv : BaseInv s) (ordered : s.tx.Ordered) (ok : s.tx.Excused s.mEC)
    (taken : step s e = some t) : t.tx.Excused t.mEC := by
  have inv' := (inv.step taken).send.task
  cases sendStep inv taken with
  | quiet tx mEC nextOp =>
    rw [tx, mEC]
    exact ok
  | woken tx first failed nextOp =>
    intro fine
    rw [failed] at fine
    cases fine
  | rejected session data token ec error tx mEC nextOp =>
    obtain ⟨slot, _, rfl⟩ := Option.map_eq_some_iff.mp taken
    rw [mEC]
    exact excused_send slot session data token ok
  | posted session data token slot held full ok' tx mEC nextOp =>
    obtain ⟨slot, _, rfl⟩ := Option.map_eq_some_iff.mp taken
    rw [mEC]
    exact excused_send slot session data token ok
  | stopped op armed tx mEC nextOp =>
    rw [tx, mEC]
    obtain ⟨o, live, _⟩ := (Option.any_eq_true _ _).mp armed
    apply SendSide.excused_stop ok
    simp [live]
  | closed e task tx mEC nextOp =>
    rw [tx, mEC]
    exact ok.keep .refl
  | started op part task opening tx mEC nextOp =>
    rw [tx, mEC]
    exact ok.keep (.one nofun)
  | advanced part part' op token task x call full follows tx mEC nextOp =>
    rw [tx, mEC]
    exact ok.keep (.one nofun)
  | @finished _ ec _ part op token task x call reason awaits mEC nextOp =>
    intro fine
    have calm : s.mEC = t.mEC := by
      rcases mEC with same | ⟨_, failed⟩
      · exact same.symm
      · rw [failed] at fine
        cases fine
    have started : op ∈ t.tx.startedOps := by
      have before := ordered.taken op (by rw [task]; rfl)
      exact SendSide.mem_startedOps.mpr ((sendStep inv taken).grows.kept
        (SendSide.mem_startedOps.mp before))
    have shown : Traces.Appends (fun o => ∀ p, o.finishing = some p → t.tx.Excuse p) s.tx.trace
        t.tx.trace := by
      have first : Traces.Appends (fun o => ∀ p, o.finishing = some p → t.tx.Excuse p) s.tx.trace
          (s.tx.log (.xfer op part x)).trace := .one nofun
      have second : Traces.Appends (fun o => ∀ p, o.finishing = some p → t.tx.Excuse p) s.tx.trace
          ((s.tx.log (.xfer op part x)).finish op ec).trace :=
        first.trans (SendSide.appends_finish (fun _ => nofun)
          fun _ _ p done => Option.some.inj done ▸ .inl started)
      exact second.trans (.of_eq (SendSide.trace_await awaits inv' fine))
    rw [calm] at ok
    exact ok.keep shown fine

end SockScheduler
end Coproto
