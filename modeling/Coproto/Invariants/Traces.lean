import Coproto.Invariants.RecvStep
import Coproto.Invariants.SendStep
import Coproto.Lib.Traces

/-!
# What each function shows

The observations that the functions of the two directions append to their
traces. A property of the traces is checked against these lists.
-/
namespace Coproto
open Traces

/-- A receive buffer that was given an error reports one. -/
theorem RecvBuffer.error_setError (b : RecvBuffer) (ec : ErrorCode) :
    ∃ e, (b.setError ec).mExPtr.error = some e := by
  unfold RecvBuffer.setError
  split
  · rename_i e detached
    exact ⟨e, by simp [detached, ExPtr.error]⟩
  · exact ⟨ec, rfl⟩

namespace SendSide
variable {tx : SendSide} {op : OpId} {ec : ErrorCode} {P : SendObs → Prop}

theorem appends_fail (error : P (.setError op ec)) (done : P (.completed op (some ec))) :
    Appends P tx.trace (tx.fail op ec).trace := by
  have first : Appends P tx.trace (tx.setError op ec).trace := .one error
  refine first.trans ⟨_, rfl, fun o shown => ?_⟩
  cases live : tx.ops op <;> simp [live] at shown
  exact shown ▸ done

theorem appends_drain (n : Nat) (iter : Option OpId)
    (error : ∀ p e, e = ec ∨ e = Code.cancel → P (.setError p e))
    (done : ∀ p e, e = ec ∨ e = Code.cancel → P (.completed p (some e))) :
    Appends P tx.trace (tx.drain n iter ec).trace := by
  induction n generalizing tx iter ec with
  | zero => exact .refl
  | succ n ih =>
    cases iter with
    | none => exact .refl
    | some op =>
      refine (appends_fail (error op ec (.inl rfl)) (done op ec (.inl rfl))).trans (ih _ ?_ ?_)
      · intro p e same
        exact error p e (.inr (by simpa using same))
      · intro p e same
        exact done p e (.inr (by simpa using same))

theorem appends_shut (n : Nat) (error : ∀ p e, e = ec ∨ e = Code.cancel → P (.setError p e))
    (done : ∀ p e, e = ec ∨ e = Code.cancel → P (.completed p (some e))) :
    Appends P tx.trace (tx.shut n ec).trace := by
  have drained : Appends P tx.closing.trace (tx.closing.drain n tx.mSendBufferBegin ec).trace :=
    appends_drain n _ error done
  exact drained

/-- An operation that leaves reports the error it was given, or its own. -/
theorem appends_finish (error : ec.isError = true → P (.setError op ec))
    (done : ∀ o, tx.ops op = some o →
      P (.completed op (if ec.isError then some ec else o.mError))) :
    Appends P tx.trace (tx.finish op ec).trace := by
  have shape : (tx.finish op ec).trace = ((if ec.isError then tx.setError op ec else tx).completeOn
      op).trace := rfl
  rw [shape]
  split
  · rename_i failed
    have first : Appends P tx.trace (tx.setError op ec).trace := .one (error failed)
    refine first.trans ⟨_, rfl, fun o shown => ?_⟩
    cases live : tx.ops op <;> simp [live] at shown
    simpa [shown, failed] using done _ live
  · rename_i fine
    refine ⟨_, rfl, fun o shown => ?_⟩
    cases live : tx.ops op <;> simp [live] at shown
    simpa [shown, fine] using done _ live

theorem trace_cut (o : SendOperation) : (tx.cut op o).trace =
    ((tx.setError op Code.operation_aborted).completeOn op).trace := by
  unfold SendSide.cut
  cases o.mPrev <;> rfl

theorem appends_stop (failed : Bool) (stopped : P (.stopRequested op failed))
    (error : P (.setError op Code.operation_aborted))
    (done : P (.completed op (some Code.operation_aborted))) :
    Appends P tx.trace (tx.stop op failed).trace := by
  have first : Appends P tx.trace (tx.trace ++ [.stopRequested op failed]) := .one stopped
  unfold SendSide.stop
  split
  · exact .refl
  · rename_i o live
    split
    · rw [SendSide.abort, trace_cut]
      have second : Appends P (tx.trace ++ [.stopRequested op failed])
        (tx.trace ++ [.stopRequested op failed] ++ [.setError op Code.operation_aborted]) := .one error
      refine (first.trans second).trans ⟨_, rfl, fun o shown => ?_⟩
      simp [live] at shown
      exact shown ▸ done
    · exact first

theorem appends_arm (token : StopToken) (stopped : P (.stopRequested op false))
    (error : P (.setError op Code.operation_aborted))
    (done : P (.completed op (some Code.operation_aborted))) :
    Appends P tx.trace (tx.arm op token).trace := by
  cases token with
  | none => exact .refl
  | live => exact .refl
  | stopped =>
    have armed : Appends P tx.trace (tx.setReg op .registered).trace := .refl
    exact armed.trans (appends_stop false stopped error done)

theorem trace_enqueue (slot : Nat) (data : List UInt8) : (tx.enqueue slot op data).trace = tx.trace := by
  unfold SendSide.enqueue
  dsimp only
  split
  · rfl
  · unfold SendSide.link
    split <;> rfl

theorem appends_reject (session : UInt64 × UInt64) (data : List UInt8)
    (posted : P (.posted op session data)) (error : P (.setError op ec))
    (done : P (.completed op (some ec))) :
    Appends P tx.trace (tx.reject op session data ec).trace := by
  refine ⟨[.posted op session data, .setError op ec, .completed op (some ec)], by simp, ?_⟩
  simp [posted, error, done]

@[simp] theorem trace_wakeError : tx.wakeError.trace = tx.trace := by
  unfold SendSide.wakeError
  split <;> rfl

/-- What follows the previous operation is the drain, if anything. -/
theorem appends_await {tx' : SendSide} {mEC : ErrorCode} {n : Nat} (awaits : tx.Await mEC n ec tx')
    (error : ∀ p e, (ec.isError = true ∨ mEC.isError = true) → e = ec ∨ e = Code.cancel →
      P (.setError p e))
    (done : ∀ p e, (ec.isError = true ∨ mEC.isError = true) → e = ec ∨ e = Code.cancel →
      P (.completed p (some e))) : Appends P tx.trace tx'.trace := by
  cases awaits with
  | shut failed =>
    have code : ∀ e, e = (if ec.isError then ErrorCode.coproto .cancel else ec) ∨ e = Code.cancel →
        e = ec ∨ e = Code.cancel := by
      intro e same
      split at same
      · exact .inr (by simpa using same)
      · exact same
    exact appends_shut n (fun p e same => error p e failed (code e same))
      fun p e same => done p e failed (code e same)
  | take op ok begin => exact .refl
  | park ok begin => exact .refl

end SendSide

namespace RecvSide
variable {rx : RecvSide} {op : OpId} {ec : ErrorCode} {P : RecvObs → Prop}

theorem appends_fail (slot : Nat) (error : P (.setError op ec))
    (done : ∀ e data, P (.completed op (some e) data)) :
    Appends P rx.trace (rx.fail slot op ec).trace := by
  have first : Appends P rx.trace (rx.setError op ec).trace := .one error
  refine first.trans ⟨_, rfl, fun o shown => ?_⟩
  cases live : rx.ops op with
  | none => simp [live] at shown
  | some o' =>
    obtain ⟨e, reported⟩ := o'.mRecvBuffer.error_setError ec
    simp [live, reported] at shown
    exact shown ▸ done _ _

theorem appends_drain (ops : List (Nat × OpId))
    (error : ∀ p e, e = ec ∨ e = Code.cancel → P (.setError p e))
    (done : ∀ p e data, P (.completed p (some e) data)) :
    Appends P rx.trace (rx.drain ops ec).trace := by
  induction ops generalizing rx ec with
  | nil => exact .refl
  | cons op ops ih =>
    refine (appends_fail op.1 (error op.2 ec (.inl rfl)) (done op.2)).trans (ih ?_)
    intro p e same
    exact error p e (.inr (by simpa using same))

theorem appends_close (ops : List (Nat × OpId))
    (error : ∀ p e, e = ec ∨ e = Code.cancel → P (.setError p e))
    (done : ∀ p e data, P (.completed p (some e) data)) :
    Appends P rx.trace (rx.close ops ec).trace := by
  have drained : Appends P rx.closing.trace (rx.closing.drain ops ec).trace :=
    appends_drain ops error done
  exact drained

/-- An operation that leaves reports an error, or what its buffer says. -/
theorem appends_finish (error : ec.isError = true → P (.setError op ec))
    (failed : ec.isError = true → ∀ e data, P (.completed op (some e) data))
    (done : ec.isError = false → ∀ o, rx.ops op = some o →
      P (.completed op o.mRecvBuffer.mExPtr.error o.mRecvBuffer.mData)) :
    Appends P rx.trace (rx.finish op ec).trace := by
  have shape : (rx.finish op ec).trace = ((if ec.isError then rx.setError op ec else rx).completeOn
      op).trace := rfl
  rw [shape]
  split
  · rename_i bad
    have first : Appends P rx.trace (rx.setError op ec).trace := .one (error bad)
    refine first.trans ⟨_, rfl, fun o shown => ?_⟩
    cases live : rx.ops op with
    | none => simp [live] at shown
    | some o' =>
      obtain ⟨e, reported⟩ := o'.mRecvBuffer.error_setError ec
      simp [live, reported] at shown
      exact shown ▸ failed bad _ _
  · rename_i fine
    refine ⟨_, rfl, fun o shown => ?_⟩
    cases live : rx.ops op with
    | none => simp [live] at shown
    | some o' =>
      simp [live] at shown
      exact shown ▸ done (by simpa using fine) _ live

theorem appends_stop (failed : Bool) (stopped : P (.stopRequested op failed))
    (error : P (.setError op Code.operation_aborted))
    (done : ∀ e data, P (.completed op (some e) data)) :
    Appends P rx.trace (rx.stop op failed).trace := by
  have first : Appends P rx.trace (rx.trace ++ [.stopRequested op failed]) := .one stopped
  unfold RecvSide.stop
  split
  · exact .refl
  · rename_i o live
    split
    · have second : Appends P (rx.trace ++ [.stopRequested op failed])
        (rx.trace ++ [.stopRequested op failed] ++ [.setError op Code.operation_aborted]) := .one error
      refine (first.trans second).trans ⟨_, rfl, fun o' shown => ?_⟩
      obtain ⟨e, reported⟩ := o.mRecvBuffer.error_setError Code.operation_aborted
      simp [live, reported] at shown
      exact shown ▸ done _ _
    · exact first

theorem appends_arm (token : StopToken) (stopped : P (.stopRequested op false))
    (error : P (.setError op Code.operation_aborted))
    (done : ∀ e data, P (.completed op (some e) data)) :
    Appends P rx.trace (rx.arm op token).trace := by
  cases token with
  | none => exact .refl
  | live => exact .refl
  | stopped =>
    have armed : Appends P rx.trace (rx.setReg op .registered).trace := .refl
    exact armed.trans (appends_stop false stopped error done)

theorem trace_enqueue (slot : Nat) (remoteId : UInt32) (buffer : RecvBuffer) :
    (rx.enqueue slot remoteId op buffer).trace = rx.trace := by
  unfold RecvSide.enqueue
  split
  · rfl
  · split <;> rfl
  · rfl

theorem appends_reject (session : UInt64 × UInt64) (posted : P (.posted op session))
    (error : P (.setError op ec)) (done : P (.completed op (some ec) [])) :
    Appends P rx.trace (rx.reject op session ec).trace := by
  refine ⟨[.posted op session, .setError op ec, .completed op (some ec) []], by simp, ?_⟩
  simp [posted, error, done]

@[simp] theorem trace_wakeError (e : ErrorCode) : (rx.wakeError e).trace = rx.trace := by
  unfold RecvSide.wakeError
  split <;> rfl

end RecvSide
end Coproto
