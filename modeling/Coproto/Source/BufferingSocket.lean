import Mathlib.Algebra.GroupWithZero.Nat
import Coproto.Lib.Heap
import Coproto.Source.Operation
import Coproto.Source.ForkTable

/-!
# BufferingSocket

BufferingSocket.h:77-495. A socket whose bytes are fetched and fed by code
outside: sends append to one buffer, receives take from another, and a receive
that asks for more than there is parks in `mInbound_`. An event is one critical
section, with the resumption of the caller it decides on; what the caller does
next is an event of its own. The trace and the faults record the run.
-/
namespace Coproto
namespace BufferingSocket

/-- `Buffer`: the chunks that were pushed, an offset into the first of them and
the number of bytes left. -/
structure Buffer where
  mFront : Nat := 0
  mSize : Nat := 0
  mData : List (List UInt8) := []
  deriving DecidableEq, Repr

namespace Buffer

/-- The assertion in `size()`. -/
def sizeOk (b : Buffer) : Bool :=
  ((b.mData.map List.length).sum : Int) - b.mFront = b.mSize

def push (b : Buffer) (data : List UInt8) : Buffer :=
  { b with mData := b.mData ++ [data], mSize := b.mSize + data.length }

/-- The loop of `pop(data)` with `n` bytes of `data` left to fill. The first
argument bounds the rounds; the bound `pop` passes is not reached. -/
def popLoop : Nat → Buffer → Nat → List UInt8 × Buffer
  | 0, b, _ => ([], b)
  | rounds + 1, b, n =>
    if n = 0 then ([], b)
    else match b.mData with
      -- `front()` of an empty deque
      | [] => ([], b)
      | chunk :: rest =>
        let m := min n (chunk.length - b.mFront)
        let b' : Buffer :=
          if b.mFront + m = chunk.length then ⟨0, b.mSize - m, rest⟩
          else ⟨b.mFront + m, b.mSize - m, chunk :: rest⟩
        let r := popLoop rounds b' (n - m)
        ((chunk.drop b.mFront).take m ++ r.1, r.2)

def pop (b : Buffer) (n : Nat) : List UInt8 × Buffer := popLoop (n + b.mData.length) b n

/-- `pop()` of everything; it asserts that no chunk was opened. -/
def popAll (b : Buffer) : List UInt8 × Buffer := (b.mData.flatten, { b with mSize := 0, mData := [] })

end Buffer

/-- The assertions of the buffer and of the operations. -/
inductive Fault where
  | size | popSize | popFront | stopInbound | closeInbound | handle | awaitResume
  deriving DecidableEq, Repr

inductive OpType where
  | send | recv
  deriving DecidableEq, Repr

/-- `SendRecvAwaiter`. `mData` is the memory behind the span: what a send holds,
and what a receive is to fill. -/
structure SendRecvAwaiter where
  mType : OpType
  mData : List UInt8
  mEc : Option ErrorCode := none
  mHandle : Bool := false
  mReg : StopCallback := .none
  awaited : Bool := false
  deriving DecidableEq, Repr

inductive Obs where
  | awaited (op : OpId) (type : OpType) (data : List UInt8)
  | completed (op : OpId) (type : OpType) (ec : ErrorCode) (data : List UInt8)
  | inbound (data : List UInt8)
  | outbound (result : Option (List UInt8))
  deriving DecidableEq, Repr

structure SockImpl where
  mEc_ : ErrorCode := Code.success
  mInbound_ : Option OpId := none
  mOutboundBuffer_ : Buffer := {}
  mInboundBuffer_ : Buffer := {}
  ops : Heap SendRecvAwaiter := .empty
  nextOp : OpId := 0
  trace : List Obs := []
  faults : List Fault := []

namespace SockImpl

def log (s : SockImpl) (o : Obs) : SockImpl := { s with trace := s.trace ++ [o] }

def check (s : SockImpl) (fs : List Fault) : SockImpl := { s with faults := s.faults ++ fs }

def setEc (s : SockImpl) (op : OpId) (ec : ErrorCode) : SockImpl :=
  { s with ops := s.ops.modify op fun a => { a with mEc := some ec } }

/-- The caller is resumed and takes the result with `await_resume`. -/
def resume (s : SockImpl) (op : OpId) : SockImpl :=
  match s.ops op with
  | none => s
  | some a =>
    (s.check (require a.mEc.isSome .awaitResume)).log
      (.completed op a.mType (a.mEc.getD Code.success) a.mData)

/-- The constructor of `SendRecvAwaiter`; a token that is stopped already runs
the callback right here. -/
def create (s : SockImpl) (type : OpType) (data : List UInt8) (token : StopToken) : SockImpl :=
  { s with
    nextOp := s.nextOp + 1
    ops := s.ops.set s.nextOp
      { mType := type
        mData := data
        mEc := if token = .stopped then some Code.operation_aborted else none
        mReg := match token with
          | .none => .none
          | .live => .registered
          | .stopped => .invoked } }

/-- `Buffer::pop` into the span of an operation. -/
def popInto (s : SockImpl) (op : OpId) (n : Nat) : SockImpl :=
  let r := s.mInboundBuffer_.pop n
  { s.check (require (n ≤ s.mInboundBuffer_.mSize) .popSize ++ require r.2.sizeOk .size) with
    mInboundBuffer_ := r.2
    ops := s.ops.modify op fun a => { a with mData := r.1 } }

/-- `SendRecvAwaiter::await_suspend`. -/
def awaitSuspend (s : SockImpl) (op : OpId) (a : SendRecvAwaiter) : SockImpl :=
  let s := { s.log (.awaited op a.mType a.mData) with
    ops := s.ops.modify op fun a => { a with awaited := true } }
  match a.mEc, a.mType with
  | some _, _ => s.resume op
  | none, .send =>
    let out := s.mOutboundBuffer_.push a.mData
    (({ s.check (require out.sizeOk .size) with mOutboundBuffer_ := out }).setEc op
      Code.success).resume op
  | none, .recv =>
    let s := s.check (require s.mInboundBuffer_.sizeOk .size)
    if a.mData.length ≤ s.mInboundBuffer_.mSize then
      ((s.popInto op a.mData.length).setEc op Code.success).resume op
    else
      { s with
        mInbound_ := some op
        ops := s.ops.modify op fun a => { a with mHandle := true } }

/-- The stop callback of an operation. -/
def stopCallback (s : SockImpl) (op : OpId) (a : SendRecvAwaiter) : SockImpl :=
  let s := { s with ops := s.ops.modify op fun a => { a with mReg := .invoked } }
  match a.mEc with
  | some _ => s
  | none =>
    let s := s.setEc op Code.operation_aborted
    if a.mHandle then
      match a.mType with
      | .recv =>
        ({ s.check (require (s.mInbound_ = some op) .stopInbound) with
          mInbound_ := none }).resume op
      | .send => s.resume op
    else s

def processInbound (s : SockImpl) (data : List UInt8) : SockImpl :=
  let inb := s.mInboundBuffer_.push data
  let s := { (s.log (.inbound data)).check (require inb.sizeOk .size) with mInboundBuffer_ := inb }
  match s.mInbound_.bind fun op => (s.ops op).map fun a => (op, a) with
  | none => s
  | some (op, a) =>
    if a.mData.length ≤ s.mInboundBuffer_.mSize then
      ({ ((s.popInto op a.mData.length).setEc op Code.success).check (require a.mHandle .handle) with
        mInbound_ := none }).resume op
    else s

def setError (s : SockImpl) (ec : ErrorCode) : SockImpl :=
  if s.mEc_.isError then s
  else
    let s := { s with mEc_ := ec }
    match s.mInbound_ with
    | none => s
    | some op =>
      ({ (s.setEc op ec).check (require ((s.ops op).any SendRecvAwaiter.mHandle) .handle) with
        mInbound_ := none }).resume op

/-- `getOutbound`; no result at all once the socket has failed and is drained. -/
def getOutbound (s : SockImpl) : SockImpl × Option (List UInt8) :=
  let r := s.mOutboundBuffer_.popAll
  let t := { s.check (require s.mOutboundBuffer_.sizeOk .size ++
      require (s.mOutboundBuffer_.mData = [] ∨ s.mOutboundBuffer_.mFront = 0) .popFront ++
      require r.2.sizeOk .size) with
    mOutboundBuffer_ := r.2 }
  (t, if r.1 = [] ∧ s.mEc_.isError then none else some r.1)

/-- `SockImpl::close`. -/
def close (s : SockImpl) : SockImpl :=
  let s := { s with mEc_ := if s.mEc_.isError then s.mEc_ else Code.closed }
  match s.mInbound_ with
  | none => s
  | some op =>
    let s := { s.check (require ((s.ops op).any fun a => a.mHandle ∧ a.mEc = none) .closeInbound) with
      mInbound_ := none }
    ({ s with ops := s.ops.modify op fun a =>
      { a with mEc := some (a.mEc.getD Code.operation_aborted) } }).resume op

/-! ## Steps -/

inductive Event where
  | create (type : OpType) (data : List UInt8) (token : StopToken)
  | await (op : OpId)
  | stop (op : OpId)
  | processInbound (data : List UInt8)
  | setError (ec : ErrorCode)
  | getOutbound
  | close
  deriving DecidableEq, Repr

/-- An operation is created on a buffer that is not empty and awaited once; a
code given to `setError` is an error. All three are asserted. -/
def step (s : SockImpl) : Event → Option SockImpl
  | .create type data token => if data = [] then none else some (s.create type data token)
  | .await op =>
    match s.ops op with
    | none => none
    | some a => if a.awaited then none else some (s.awaitSuspend op a)
  | .stop op =>
    match s.ops op with
    | none => none
    | some a => if a.mReg = .registered then some (s.stopCallback op a) else none
  | .processInbound data => some (s.processInbound data)
  | .setError ec => if ec.isError then some (s.setError ec) else none
  | .getOutbound => some (s.getOutbound.1.log (.outbound s.getOutbound.2))
  | .close => some s.close

end SockImpl
end BufferingSocket
end Coproto
