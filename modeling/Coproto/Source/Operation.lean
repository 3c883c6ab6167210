import Coproto.Source.ErrorCode

/-!
# Send and receive operations

SendOperation.h, RecvOperation.h and the buffers of Operation.h:176-290. An
operation is addressed by the number it was allocated under. Its flush tokens
are kept in `SockScheduler.mFlushes`, next to the tokens they share.
-/
namespace Coproto

abbrev OpId := Nat

/-- A shared stop state: what a `stop_source` and the tokens taken from it share. -/
abbrev StopId := Nat

/-- The flush token allocated by one call of `flush`. -/
abbrev FlushId := Nat

/-- `SendOperation::Status` and `RecvOperation::Status`. -/
inductive OpStatus where
  | NotStarted | InProgress | Canceling
  deriving DecidableEq, Repr

/-- The stop token a caller passes: one that can never be stopped, one that can,
or one on which a stop has been requested already. -/
inductive StopToken where
  | none | live | stopped
  deriving DecidableEq, Repr

/-- `optional<stop_callback> mReg`; a callback runs at most once. -/
inductive StopCallback where
  | none | registered | invoked
  deriving DecidableEq, Repr

/-- The exception slot of a receive buffer. After a size mismatch the buffer
drops its `mExPtr`, so the error written there stays. -/
inductive ExPtr where
  | unset
  | set (ec : ErrorCode)
  | detached (ec : ErrorCode)
  deriving DecidableEq, Repr

def ExPtr.error : ExPtr → Option ErrorCode
  | .unset => .none
  | .set ec => .some ec
  | .detached ec => .some ec

/-- `RefRecvBuffer`: `allowResize` buffers take any size that is a multiple of
their element size and that their container can be resized to. -/
structure RecvBuffer where
  allowResize : Bool
  elemSize : Nat := 1
  maxSize : Nat := 0
  size : Nat
  mExPtr : ExPtr := .unset
  mData : List UInt8 := []
  deriving DecidableEq, Repr

namespace RecvBuffer

def setError (b : RecvBuffer) (ec : ErrorCode) : RecvBuffer :=
  match b.mExPtr with
  | .detached _ => b
  | _ => { b with mExPtr := .set ec }

/-- Size of the span `asSpan(size)` returns; a failed resize returns `{}`. -/
def spanSize (b : RecvBuffer) (size : Nat) : Nat :=
  if b.allowResize ∧ size % b.elemSize = 0 then
    if size ≤ b.maxSize then size else 0
  else b.size

def asSpan (b : RecvBuffer) (size : Nat) : RecvBuffer :=
  if b.spanSize size = size then b
  else { b with mExPtr := .detached Code.badBufferSize }

end RecvBuffer

structure SendOperation where
  mCH : Bool := true
  mSendBuffer : List UInt8
  mStatus : OpStatus := .NotStarted
  mSocketFork : Nat
  mNext : Option OpId := none
  mPrev : Option OpId := none
  mReg : StopCallback := .none
  mError : Option ErrorCode := none
  deriving DecidableEq, Repr

structure RecvOperation where
  mCH : Bool := true
  mSocketFork : Nat
  mRecvBuffer : RecvBuffer
  mStatus : OpStatus := .NotStarted
  mReg : StopCallback := .none
  deriving DecidableEq, Repr

/-- `FlushToken` behind its `shared_ptr`. -/
structure FlushToken where
  mHandle : Option Nat
  useCount : Nat
  deriving DecidableEq, Repr

end Coproto
