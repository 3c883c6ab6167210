import Mathlib.Logic.Basic

/-!
# Error codes

coproto/Common/error_code.h:9-41. `std::error_code` is a value with a category;
it reads as `true` when the value is not zero, whatever the category. Transports
report codes of other categories, of which only the value matters here.
-/
namespace Coproto

/-- `coproto::code`, in the order of its enumerators. -/
inductive Code where
  | success | suspend | cancel | closed | remoteClosed | operation_aborted | ioError
  | badBufferSize | sendLengthZeroMsg | noAsyncSupport | uncaughtException
  | invalidArguments | endOfRound | uninitialized | badCoprotoMessageHeader | DEBUG_ERROR
  deriving DecidableEq, Repr

inductive ErrorCode where
  | coproto (c : Code)
  | foreign (value : Int)
  deriving DecidableEq, Repr

instance : Coe Code ErrorCode := ⟨.coproto⟩

/-- `error_code::operator bool`. -/
def ErrorCode.isError : ErrorCode → Bool
  | .coproto c => c ≠ .success
  | .foreign value => value ≠ 0

/-- How one transport call returned: its code, the bytes it reports, and the
size of the buffer it was given. -/
structure Xfer where
  ec : ErrorCode
  bt : Nat
  size : Nat
  deriving DecidableEq, Repr

/-- The lambdas `checkSend` and `checkRecv` (SocketScheduler.h:816-820,
1038-1042). They take the code by value: the caller's variable keeps what the
transport reported. -/
def Xfer.check (x : Xfer) : ErrorCode :=
  if ¬ x.ec.isError ∧ x.bt ≠ x.size then Code.ioError else x.ec

/-- A call that moved its whole buffer. -/
def Xfer.Full (x : Xfer) : Prop := x.ec.isError = false ∧ x.bt = x.size

/-- A call that reports success on part of its buffer. -/
def Xfer.Short (x : Xfer) : Prop := x.ec.isError = false ∧ x.bt ≠ x.size

instance (x : Xfer) : Decidable x.Full := inferInstanceAs (Decidable (_ ∧ _))
instance (x : Xfer) : Decidable x.Short := inferInstanceAs (Decidable (_ ∧ _))

@[simp] theorem isError_coproto (c : Code) :
    (ErrorCode.coproto c).isError = decide (c ≠ .success) := rfl

theorem Xfer.check_isError (x : Xfer) : x.check.isError = true ↔ x.ec.isError = true ∨ x.Short := by
  unfold Xfer.check Xfer.Short
  split
  · rename_i short
    simp [short]
  · rename_i long
    cases h : x.ec.isError <;> simp_all

/-- The check passes exactly the full transfers. -/
theorem Xfer.check_ok (x : Xfer) : x.check.isError = false ↔ x.Full := by
  have h := x.check_isError
  unfold Xfer.Full
  unfold Xfer.Short at h
  cases hc : x.check.isError <;> cases he : x.ec.isError <;> simp_all

end Coproto
