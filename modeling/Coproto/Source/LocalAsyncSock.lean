import Coproto.Source.ForkTable
import Coproto.Source.Operation

/-!
# LocalAsyncSocket

LocalAsyncSock.h:44-568. Two ends share one slot for each direction and type of
operation; an operation that finds its counterpart in place moves what both can
move, and the one that is done leaves its slot. An event is one critical section
with its copy and the resumptions it decides on. `await_suspend` is two events:
the stop callback is registered (and runs, on a token that is stopped already)
before the lock is taken.

`moved` and `results` record the bytes copied from or to a buffer and what the
caller took with `await_resume`; nothing reads them.
-/
namespace Coproto
namespace LocalAsyncSocket

inductive Fault where
  | stopSlot | slotTaken | transferMin | closeOp | awaitResume
  deriving DecidableEq, Repr

/-- `Awaiter::Type`. -/
inductive OpType where
  | send | recv
  deriving DecidableEq, Repr

/-- `Awaiter`: `buffer` is the memory the operation was given, and the span
`mData` is its last `mData` bytes. -/
structure Awaiter where
  buffer : List UInt8
  mData : Nat
  mTotalSize : Nat
  mEc : Option ErrorCode := none
  mHandle : Bool := false
  mReg : StopCallback := .none
  moved : List UInt8 := []
  results : List (ErrorCode × Nat) := []
  deriving DecidableEq, Repr

namespace Awaiter

/-- `await_resume`. -/
def awaitResume (a : Awaiter) : ErrorCode × Nat := (a.mEc.getD Code.success, a.mTotalSize - a.mData)

/-- The handle is resumed, and the caller takes the result. -/
def resume (a : Awaiter) : Awaiter := { a with results := a.results ++ [a.awaitResume] }

/-- The operation ends with a code and its handle is resumed. -/
def complete (a : Awaiter) (ec : ErrorCode) : Awaiter := { a with mEc := some ec }.resume

/-- The next `m` bytes of the span. -/
def front (a : Awaiter) (m : Nat) : List UInt8 := (a.buffer.drop (a.mTotalSize - a.mData)).take m

/-- `src` was copied out of the span, which shrinks. -/
def took (a : Awaiter) (src : List UInt8) : Awaiter :=
  { a with mData := a.mData - src.length, moved := a.moved ++ src }

/-- `src` was copied to the front of the span, which shrinks. -/
def put (a : Awaiter) (src : List UInt8) : Awaiter :=
  let offset := a.mTotalSize - a.mData
  { a.took src with buffer := a.buffer.take offset ++ src ++ a.buffer.drop (offset + src.length) }

end Awaiter

/-- `OpPair`: an operation is its position among those of its end and type. -/
structure OpPair where
  mSend : Option Nat := none
  mRecv : Option Nat := none
  deriving DecidableEq, Repr

/-- `SharedState`, with the operations each end has awaited, in order. -/
structure SharedState where
  mEc : Bool → ErrorCode := fun _ => Code.success
  mInbound : Bool → OpPair := fun _ => {}
  ops : Bool → OpType → List Awaiter := fun _ _ => []
  faults : List Fault := []

namespace SharedState

def check (s : SharedState) (fs : List Fault) : SharedState := { s with faults := s.faults ++ fs }

/-- The receiving end of the direction an operation belongs to. -/
def direction (idx : Bool) : OpType → Bool
  | .send => !idx
  | .recv => idx

/-- `outbound().mSend` and `inbound().mRecv` of an end. -/
def slot (s : SharedState) (idx : Bool) : OpType → Option Nat
  | .send => (s.mInbound (!idx)).mSend
  | .recv => (s.mInbound idx).mRecv

def setSlot (s : SharedState) (idx : Bool) (type : OpType) (v : Option Nat) : SharedState :=
  { s with mInbound := fun i =>
      if i = direction idx type then
        match type with
        | .send => { s.mInbound i with mSend := v }
        | .recv => { s.mInbound i with mRecv := v }
      else s.mInbound i }

def setOp (s : SharedState) (idx : Bool) (type : OpType) (n : Nat) (a : Awaiter) : SharedState :=
  { s with ops := fun i t => if i = idx ∧ t = type then (s.ops i t).set n a else s.ops i t }

/-- The stop callback of an operation. -/
def stopCallback (s : SharedState) (idx : Bool) (type : OpType) (n : Nat) (a : Awaiter) :
    SharedState :=
  let a := { a with mReg := .invoked }
  if a.mEc.isSome then s.setOp idx type n a
  else
    let s := (s.check (require (s.slot idx type = if a.mHandle then some n else none)
      .stopSlot)).setSlot idx type none
    -- the handle is not there yet when the stop comes before the lock is taken
    s.setOp idx type n (if a.mHandle then a.complete Code.operation_aborted
      else { a with mEc := some Code.operation_aborted })

/-- The constructor, and the first part of `await_suspend`. -/
def await (s : SharedState) (idx : Bool) (type : OpType) (data : List UInt8) (token : StopToken) :
    SharedState :=
  let a : Awaiter :=
    { buffer := data, mData := data.length, mTotalSize := data.length
      mReg := if token = .none then .none else .registered }
  let n := (s.ops idx type).length
  let s := { s with ops := fun i t => if i = idx ∧ t = type then s.ops i t ++ [a] else s.ops i t }
  if token = .stopped then s.stopCallback idx type n a else s

/-- An operation whose buffer is done leaves its slot, its stop callback is
reset and its handle resumed. -/
def settle (s : SharedState) (idx : Bool) (type : OpType) (n : Nat) (a : Awaiter) : SharedState :=
  if a.mData = 0 then
    (s.setSlot idx type none).setOp idx type n ({ a with mReg := .none }.complete Code.success)
  else s.setOp idx type n a

/-- Both operations of a direction are there: bytes are copied. -/
def transfer (s : SharedState) (dir : Bool) (nSend nRecv : Nat) (mSend mRecv : Awaiter) :
    SharedState :=
  let min := min mSend.mData mRecv.mData
  let src := mSend.front min
  ((s.check (require (min ≠ 0) .transferMin)).settle dir .recv nRecv (mRecv.put src)).settle
    (!dir) .send nSend (mSend.took src)

/-- The second part of `await_suspend`, under the lock. `errFn` is what the error
injector returns, if there is one. -/
def suspend (s : SharedState) (idx : Bool) (type : OpType) (n : Nat) (a : Awaiter)
    (errFn : Option ErrorCode) : SharedState :=
  let a := { a with mHandle := true }
  if a.mEc.isSome then s.setOp idx type n a.resume
  else
    let ec := if (s.mEc idx).isError then s.mEc idx else errFn.getD (s.mEc idx)
    let s := { s with mEc := fun i => if i = idx then ec else s.mEc i }
    if ec.isError then s.setOp idx type n (a.complete ec)
    else
      let s := ((s.check (require (s.slot idx type = none) .slotTaken)).setSlot idx type
        (some n)).setOp idx type n a
      let dir := direction idx type
      match (s.mInbound dir).mSend, (s.mInbound dir).mRecv with
      | some nSend, some nRecv =>
        match (s.ops (!dir) .send)[nSend]?, (s.ops dir .recv)[nRecv]? with
        | some mSend, some mRecv => s.transfer dir nSend nRecv mSend mRecv
        | _, _ => s
      | _, _ => s

/-- `close` clears one slot. -/
def closeOp (s : SharedState) (idx : Bool) (type : OpType) (ec : ErrorCode) : SharedState :=
  match s.slot idx type with
  | none => s
  | some n =>
    let s := s.setSlot idx type none
    match (s.ops idx type)[n]? with
    | none => s
    | some a => (s.check (require (a.mHandle ∧ a.mEc = none) .closeOp)).setOp idx type n
        (a.complete ec)

/-- `Sock::close`. -/
def close (s : SharedState) (idx : Bool) : SharedState :=
  let s := { s with mEc := fun i =>
    if (s.mEc i).isError then s.mEc i
    else if i = idx then Code.closed else Code.remoteClosed }
  (((s.closeOp idx .recv Code.closed).closeOp (!idx) .send Code.remoteClosed).closeOp (!idx) .recv
    Code.remoteClosed).closeOp idx .send Code.closed

/-! ## Steps -/

inductive Event where
  | await (idx : Bool) (type : OpType) (data : List UInt8) (token : StopToken)
  | suspend (idx : Bool) (type : OpType) (n : Nat) (errFn : Option ErrorCode)
  | stop (idx : Bool) (type : OpType) (n : Nat)
  | close (idx : Bool)
  deriving DecidableEq, Repr

/-- The constructor asserts that there is something to move. -/
def step (s : SharedState) : Event → Option SharedState
  | .await idx type data token => if data = [] then none else some (s.await idx type data token)
  | .suspend idx type n errFn =>
    match (s.ops idx type)[n]? with
    | none => none
    | some a => if a.mHandle then none else some (s.suspend idx type n a errFn)
  | .stop idx type n =>
    match (s.ops idx type)[n]? with
    | none => none
    | some a => if a.mReg = .registered then some (s.stopCallback idx type n a) else none
  | .close idx => some (s.close idx)

end SharedState
end LocalAsyncSocket
end Coproto
