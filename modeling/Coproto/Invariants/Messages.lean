import Coproto.Invariants.Traces

/-!
# Queued sends keep their message

The payload and the fork of a send are set when it is posted; links, statuses
and errors are written afterwards, never these.
-/
namespace Coproto
open Traces

def SendOperation.SameMessage (a b : SendOperation) : Prop :=
  b.mSendBuffer = a.mSendBuffer ∧ b.mSocketFork = a.mSocketFork

namespace SendSide

/-- The sends of `tx'` are sends of `tx`. -/
def Keeps (tx tx' : SendSide) : Prop := tx.ops.Evolves SendOperation.SameMessage tx'.ops

variable {tx tx' tx'' : SendSide} {op : OpId} {ec : ErrorCode}

namespace Keeps

theorem refl : Keeps tx tx := Heap.Evolves.refl fun _ => ⟨rfl, rfl⟩

theorem trans (first : Keeps tx tx') (second : Keeps tx' tx'') : Keeps tx tx'' :=
  Heap.Evolves.trans (fun _ _ _ ab bc => ⟨bc.1.trans ab.1, bc.2.trans ab.2⟩) first second

theorem of_ops (same : tx'.ops = tx.ops) : Keeps tx tx' := by
  unfold Keeps
  rw [same]
  exact refl

theorem modify (op : OpId) {f : SendOperation → SendOperation} (ops : tx'.ops = tx.ops.modify op f)
    (changed : ∀ o : SendOperation, o.SameMessage (f o)) : Keeps tx tx' := by
  unfold Keeps
  rw [ops]
  exact Heap.Evolves.modify (fun _ => ⟨rfl, rfl⟩) op changed

theorem setError (tx : SendSide) (op : OpId) (ec : ErrorCode) : Keeps tx (tx.setError op ec) :=
  Keeps.modify op rfl fun _ => ⟨rfl, rfl⟩

theorem completeOn (tx : SendSide) (op : OpId) : Keeps tx (tx.completeOn op) :=
  Keeps.modify op rfl fun _ => ⟨rfl, rfl⟩

theorem setStatus (tx : SendSide) (op : OpId) (status : OpStatus) :
    Keeps tx (tx.setStatus op status) :=
  Keeps.modify op rfl fun _ => ⟨rfl, rfl⟩

theorem setReg (tx : SendSide) (op : OpId) (reg : StopCallback) : Keeps tx (tx.setReg op reg) :=
  Keeps.modify op rfl fun _ => ⟨rfl, rfl⟩

theorem setNext (tx : SendSide) (op : OpId) (next : Option OpId) : Keeps tx (tx.setNext op next) := by
  intro p o live
  rw [setNext_apply, Option.map_eq_some_iff] at live
  obtain ⟨a, old, rfl⟩ := live
  exact ⟨a, old, rfl, rfl⟩

theorem erase (tx : SendSide) (slot : Nat) (op : OpId) : Keeps tx (tx.erase slot op) :=
  Heap.Evolves.erase (fun _ => ⟨rfl, rfl⟩) op

theorem popFront (tx : SendSide) (slot : Nat) : Keeps tx (tx.popFront slot) := by
  cases cells : tx.mSendOps slot with
  | nil =>
    rw [popFront_empty cells]
    exact refl
  | cons op ops =>
    rw [popFront_eq cells]
    exact erase tx slot op

theorem link (tx : SendSide) (op : OpId) : Keeps tx (tx.link op) := by
  unfold SendSide.link
  cases tx.mSendBufferLast with
  | none => exact of_ops rfl
  | some last => exact (setNext tx last (some op)).trans (of_ops rfl)

theorem fail (tx : SendSide) (op : OpId) (ec : ErrorCode) : Keeps tx (tx.fail op ec) :=
  ((setError tx op ec).trans (completeOn _ op)).trans (popFront _ _)

theorem drain (tx : SendSide) (n : Nat) (iter : Option OpId) (ec : ErrorCode) :
    Keeps tx (tx.drain n iter ec) := by
  induction n generalizing tx iter ec with
  | zero => exact refl
  | succ n ih =>
    cases iter with
    | none => exact refl
    | some op => exact (fail tx op ec).trans (ih _ _ _)

theorem shut (tx : SendSide) (n : Nat) (ec : ErrorCode) : Keeps tx (tx.shut n ec) := by
  have closing : Keeps tx tx.closing := of_ops rfl
  exact (closing.trans (drain _ n tx.mSendBufferBegin ec)).trans (of_ops rfl)

theorem finish (tx : SendSide) (op : OpId) (ec : ErrorCode) : Keeps tx (tx.finish op ec) := by
  have failed : Keeps tx (if ec.isError then tx.setError op ec else tx) := by
    split
    · exact setError tx op ec
    · exact refl
  exact (((failed.trans (completeOn _ op)).trans (setNext _ op none)).trans (popFront _ _)).trans
    (of_ops rfl)

theorem cut (tx : SendSide) (op : OpId) (o : SendOperation) : Keeps tx (tx.cut op o) := by
  have done : Keeps tx ((tx.setError op Code.operation_aborted).completeOn op) :=
    (setError tx op _).trans (completeOn _ op)
  unfold SendSide.cut
  cases o.mPrev with
  | none => exact done.trans (erase _ _ op)
  | some prev => exact (done.trans (setNext _ prev o.mNext)).trans (erase _ _ op)

theorem stop (tx : SendSide) (op : OpId) (failed : Bool) : Keeps tx (tx.stop op failed) := by
  have marked : Keeps tx ((tx.log (.stopRequested op failed)).setReg op .invoked) :=
    Keeps.trans (of_ops rfl) (setReg _ op _)
  unfold SendSide.stop
  split
  · exact refl
  · split
    · exact marked.trans (cut _ op _)
    · exact (marked.trans (setStatus _ op _)).trans (of_ops rfl)

theorem arm (tx : SendSide) (op : OpId) (token : StopToken) : Keeps tx (tx.arm op token) := by
  cases token with
  | none => exact refl
  | live => exact setReg tx op _
  | stopped => exact (setReg tx op _).trans (stop _ op false)

theorem wakeError (tx : SendSide) : Keeps tx tx.wakeError := of_ops wakeError_ops

theorem await {mEC : ErrorCode} {n : Nat} (awaits : tx.Await mEC n ec tx') : Keeps tx tx' := by
  cases awaits with
  | shut failed => exact shut tx n _
  | take op ok begin => exact (setStatus tx op _).trans (of_ops rfl)
  | park ok begin => exact of_ops rfl

end Keeps

/-- A send is queued on top of what `tx` holds. -/
theorem keeps_enqueue (tx : SendSide) (slot : Nat) (op : OpId) (data : List UInt8) :
    Keeps (tx.pushBack slot op { mSendBuffer := data, mSocketFork := slot })
      (tx.enqueue slot op data) := by
  unfold SendSide.enqueue
  dsimp only
  split
  · exact (Keeps.setStatus _ op _).trans (.of_ops rfl)
  · exact Keeps.link _ op

/-- A call that is shown to return was in flight. -/
def CallOk (tx : SendSide) (o : SendObs) : Prop :=
  ∀ op part x, o = .xfer op part x → ∃ token, tx.mSendTask = .sending part op token

/-- The queued sends are sends that were posted, with the payload they were posted with. -/
def PostedOk (tx : SendSide) : Prop :=
  ∀ op o, tx.ops op = some o → ∃ session, .posted op session o.mSendBuffer ∈ tx.trace

theorem PostedOk.keeps {P : SendObs → Prop} (posted : tx.PostedOk) (keeps : Keeps tx tx')
    (grows : Appends P tx.trace tx'.trace) : tx'.PostedOk := by
  intro op o live
  obtain ⟨a, old, same⟩ := keeps op o live
  obtain ⟨session, shown⟩ := posted op a old
  exact ⟨session, same.1 ▸ grows.kept shown⟩

end SendSide

namespace SockScheduler
variable {s t : SockScheduler}

/-- What a step of the send direction adds to the trace. -/
theorem SendStep.calls {e : Event} (step : SendStep s e t) :
    Appends s.tx.CallOk s.tx.trace t.tx.trace := by
  cases step with
  | quiet tx => exact .of_eq (by rw [tx])
  | woken tx => exact .of_eq (by rw [tx, SendSide.trace_wakeError])
  | rejected session data token ec error tx =>
    rw [tx]
    exact SendSide.appends_reject session data nofun nofun nofun
  | posted session data token slot held full ok tx =>
    rw [tx]
    have queued : Appends s.tx.CallOk s.tx.trace
        ((s.tx.log (.posted s.nextOp session data)).enqueue slot s.nextOp data).trace := by
      rw [SendSide.trace_enqueue]
      exact .one nofun
    exact queued.trans (SendSide.appends_arm token nofun nofun nofun)
  | stopped op armed tx =>
    rw [tx]
    exact SendSide.appends_stop _ nofun nofun nofun
  | closed e task tx => exact .of_eq (by rw [tx]; rfl)
  | started op part task opening tx =>
    rw [tx]
    exact .one nofun
  | advanced part part' op token task x call full follows tx =>
    rw [tx]
    apply Appends.one
    rintro p q y ⟨⟩
    exact ⟨token, task⟩
  | @finished _ ec bt part op token task x call reason awaits =>
    have logged : Appends s.tx.CallOk s.tx.trace (s.tx.log (.xfer op part x)).trace := by
      apply Appends.one
      rintro p q y ⟨⟩
      exact ⟨token, task⟩
    have left : Appends s.tx.CallOk s.tx.trace ((s.tx.log (.xfer op part x)).finish op ec).trace :=
      logged.trans (SendSide.appends_finish (fun _ => nofun) fun _ _ => nofun)
    exact left.trans (SendSide.appends_await awaits (fun _ _ _ _ => nofun) fun _ _ _ _ => nofun)

theorem SendStep.grows {e : Event} (step : SendStep s e t) :
    Appends (fun _ => True) s.tx.trace t.tx.trace := step.calls.mono fun _ _ => trivial

/-- The sends of a step's result are old ones, or the one that was posted. -/
theorem SendStep.keeps {e : Event} (step : SendStep s e t) :
    SendSide.Keeps s.tx t.tx ∨ ∃ session data token slot, e = .send session data token ∧
      data.length ≠ 0 ∧ .posted s.nextOp session data ∈ t.tx.trace ∧
      SendSide.Keeps (s.tx.pushBack slot s.nextOp { mSendBuffer := data, mSocketFork := slot })
        t.tx := by
  cases step with
  | quiet tx => exact .inl (.of_ops (by rw [tx]))
  | woken tx => exact .inl (tx ▸ .wakeError s.tx)
  | rejected session data token ec error tx => exact .inl (tx ▸ .of_ops rfl)
  | posted session data token slot held full ok tx =>
    refine .inr ⟨session, data, token, slot, rfl, full, ?_, ?_⟩
    · rw [tx]
      have grows : Appends (fun _ => True)
          ((s.tx.log (.posted s.nextOp session data)).enqueue slot s.nextOp data).trace
          (((s.tx.log (.posted s.nextOp session data)).enqueue slot s.nextOp data).arm s.nextOp
            token).trace := SendSide.appends_arm token trivial trivial trivial
      rw [SendSide.trace_enqueue] at grows
      exact grows.kept (by simp)
    · rw [tx]
      have placed : SendSide.Keeps
          (s.tx.pushBack slot s.nextOp { mSendBuffer := data, mSocketFork := slot })
          ((s.tx.log (.posted s.nextOp session data)).pushBack slot s.nextOp
            { mSendBuffer := data, mSocketFork := slot }) := .of_ops rfl
      exact (placed.trans (SendSide.keeps_enqueue _ slot s.nextOp data)).trans (.arm _ _ token)
  | stopped op armed tx => exact .inl (tx ▸ .stop s.tx op _)
  | closed e task tx => exact .inl (tx ▸ .of_ops rfl)
  | started op part task opening tx => exact .inl (tx ▸ .of_ops rfl)
  | advanced part part' op token task x call full follows tx => exact .inl (tx ▸ .of_ops rfl)
  | finished part op token task x call reason awaits =>
    have logged : SendSide.Keeps s.tx (s.tx.log (.xfer op part x)) := .of_ops rfl
    exact .inl ((logged.trans (.finish _ op _)).trans (.await awaits))

theorem SendStep.postedOk {e : Event} (step : SendStep s e t) (posted : s.tx.PostedOk) :
    t.tx.PostedOk := by
  have grows := step.grows
  rcases step.keeps with keeps | ⟨session, data, token, slot, rfl, full, shown, keeps⟩
  · exact posted.keeps keeps grows
  · intro p o live
    obtain ⟨a, placed, same⟩ := keeps p o live
    by_cases new : p = s.nextOp
    · subst new
      simp only [SendSide.pushBack_ops, Heap.set_self, Option.some.injEq] at placed
      exact ⟨session, by rwa [same.1, ← placed]⟩
    · simp only [SendSide.pushBack_ops, Heap.set_of_ne new] at placed
      obtain ⟨session', old⟩ := posted p a placed
      exact ⟨session', same.1 ▸ grows.kept old⟩

/-- Every queued send has something to send. -/
theorem SendStep.nonempty {e : Event} (step : SendStep s e t)
    (full : ∀ op o, s.tx.ops op = some o → o.mSendBuffer ≠ []) :
    ∀ op o, t.tx.ops op = some o → o.mSendBuffer ≠ [] := by
  intro p o live
  rcases step.keeps with keeps | ⟨session, data, token, slot, rfl, some_, shown, keeps⟩
  · obtain ⟨a, old, same⟩ := keeps p o live
    rw [same.1]
    exact full p a old
  · obtain ⟨a, placed, same⟩ := keeps p o live
    rw [same.1]
    by_cases new : p = s.nextOp
    · subst new
      simp only [SendSide.pushBack_ops, Heap.set_self, Option.some.injEq] at placed
      rw [← placed]
      exact fun empty => some_ (List.length_eq_zero_iff.mpr empty)
    · simp only [SendSide.pushBack_ops, Heap.set_of_ne new] at placed
      exact full p a placed

end SockScheduler
end Coproto
