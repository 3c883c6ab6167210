import Coproto.Lib.Heap
import Coproto.Source.ForkTable
import Coproto.Source.Operation
import Coproto.Source.Wire
import Mathlib.Tactic.Simps.Basic

/-!
# State of a SockScheduler

SocketScheduler.h:264-358. The two coroutines are part of the state: a task is
where it is suspended, with the locals it needs when it is resumed. A transport
call is in flight from the resumption that starts it to the resumption that
takes its result.

Callbacks pushed on any `ExecutionQueue::Handle` wait in `queued`. Which handle
holds them, which thread runs them and in what order is left open, since a fork
may schedule its completions on an executor of its own; they run one by one.

The traces, `flushCalls`, `flushScheduled` and the faults record the run and are
read by nothing; `held` lists the sessions the caller holds a `Socket` for.
-/
namespace Coproto

/-- Failed assertions, and writes through a pointer to an erased operation. -/
inductive Fault where
  | getHandleSelf | cancelErrorCode
  | sendStatus | sendBufferBegin | sendBufferLast
  | recvIdleStatus | recvRequestedStatus
  | stopSendPrev | stopRecvStatus
  | nextSendOpFront | nextSendOpBegin | nextSendOpStatus
  | cancelSendStatus | cancelSendFront
  | sendTaskStatus | sendTaskEmpty | sendTaskLength | sendTaskLocalId
  | anyRecvOpFront
  | danglingWrite
  deriving DecidableEq, Repr

/-- `SockScheduler::Status`. -/
inductive Status where
  | Idle | InUse | RequestedRecvOp | Closed
  deriving DecidableEq, Repr

/-- `SockScheduler::Caller`. -/
inductive Caller where
  | Sender | Recver | Extern
  deriving DecidableEq, Repr

/-- The transport calls of a send: slot-init message, header, body. -/
inductive SendPart where
  | control | header | body
  deriving DecidableEq, Repr

/-- Where the coroutine of `makeSendTask` is. `nextSendOp` is the suspension in
`NextSendOp`, with `mRes` once it has been set. -/
inductive SendTask where
  | nextSendOp (mRes : Option (Except ErrorCode OpId))
  | sending (part : SendPart) (op : OpId) (token : StopId)
  | done

/-- A data header that was read, and how the call that read it returned. -/
structure Frame where
  header : Header
  call : Xfer
  deriving DecidableEq, Repr

/-- Where the coroutine of `receiveDataTask` is. -/
inductive RecvTask where
  | anyRecvOp (mRes : Option ErrorCode)
  | header (token : StopId)
  | control (header : Header) (token : StopId)
  | getRequested (frame : Frame) (mRes : Option (Except ErrorCode OpId))
  | body (frame : Frame) (op : OpId) (token : StopId)
  | done

/-- What waits to be run: the completion of an operation or a flush, the handle
of a task, a `request_stop` on a moved stop source. -/
inductive Callback where
  | completion (op : OpId)
  | flush (handle : Nat)
  | recvTask
  | sendTask
  | requestStop (src : Option StopId)
  deriving DecidableEq, Repr

/-- What a run shows of the sends, in order. -/
inductive SendObs where
  | posted (op : OpId) (session : UInt64 × UInt64) (data : List UInt8)
  | started (op : OpId)
  | xfer (op : OpId) (part : SendPart) (x : Xfer)
  | stopRequested (op : OpId) (failed : Bool)
  | setError (op : OpId) (ec : ErrorCode)
  | completed (op : OpId) (error : Option ErrorCode)
  deriving DecidableEq, Repr

/-- What a run shows of the receives, in order. -/
inductive RecvObs where
  | posted (op : OpId) (session : UInt64 × UInt64)
  | header (x : Xfer)
  | body (op : OpId) (header : Xfer) (x : Xfer)
  | stopRequested (op : OpId) (failed : Bool)
  | setError (op : OpId) (ec : ErrorCode)
  | completed (op : OpId) (error : Option ErrorCode) (data : List UInt8)
  deriving DecidableEq, Repr

/-- The members of `SockScheduler` that the receive task works on, with the
`mRecvOps` of every slot and the memory of the receive operations. -/
structure RecvSide where
  mAnyRecvOp : Bool := false
  mGetRequestedRecvSocketFork : Option UInt32 := none
  mRecvStatus : Status := .Idle
  mNumRecvs : Nat := 0
  mRecvToken : StopId
  mRecvCancelSrc : Option StopId
  mRecvTask : RecvTask
  mRecvOps : Nat → List OpId := fun _ => []
  ops : Heap RecvOperation := .empty
  trace : List RecvObs := []

/-- The members that the send task works on, with the `mSendOps` of every slot
and the memory of the send operations. -/
structure SendSide where
  mNextSendOp : Bool := false
  mSendBufferBegin : Option OpId := none
  mSendBufferLast : Option OpId := none
  mSendStatus : Status := .Idle
  mSendToken : StopId
  mSendCancelSrc : Option StopId
  mSendTask : SendTask
  mSendOps : Nat → List OpId := fun _ => []
  ops : Heap SendOperation := .empty
  trace : List SendObs := []

/-! ## Operations in their queues -/

namespace RecvSide

/-- The slot an operation belongs to. -/
def slotOf (rx : RecvSide) (op : OpId) : Nat :=
  ((rx.ops op).map RecvOperation.mSocketFork).getD 0

@[simps] def log (rx : RecvSide) (o : RecvObs) : RecvSide := { rx with trace := rx.trace ++ [o] }

@[simps] def setError (rx : RecvSide) (op : OpId) (ec : ErrorCode) : RecvSide :=
  { rx with
    ops := rx.ops.modify op fun o => { o with mRecvBuffer := o.mRecvBuffer.setError ec }
    trace := rx.trace ++ [.setError op ec] }

@[simps] def setStatus (rx : RecvSide) (op : OpId) (status : OpStatus) : RecvSide :=
  { rx with ops := rx.ops.modify op fun o => { o with mStatus := status } }

/-- The state of the stop callback of an operation. -/
@[simps] def setReg (rx : RecvSide) (op : OpId) (reg : StopCallback) : RecvSide :=
  { rx with ops := rx.ops.modify op fun o => { o with mReg := reg } }

/-- `asSpan` on the buffer of an operation. -/
@[simps] def asSpan (rx : RecvSide) (op : OpId) (size : Nat) : RecvSide :=
  { rx with ops := rx.ops.modify op fun o => { o with mRecvBuffer := o.mRecvBuffer.asSpan size } }

/-- A transport call leaves `bytes` in the buffer of an operation. -/
@[simps] def fill (rx : RecvSide) (op : OpId) (bytes : List UInt8) : RecvSide :=
  { rx with ops := rx.ops.modify op fun o =>
      { o with mRecvBuffer := { o.mRecvBuffer with mData := bytes } } }

/-- The part of `RecvOperation::completeOn` that concerns the operation. -/
@[simps] def completeOn (rx : RecvSide) (op : OpId) : RecvSide :=
  { rx with
    ops := rx.ops.modify op fun o => { o with mCH := false }
    trace := rx.trace ++ ((rx.ops op).map fun o =>
      .completed op o.mRecvBuffer.mExPtr.error o.mRecvBuffer.mData).toList }

/-- `Queue::erase`. -/
@[simps] def erase (rx : RecvSide) (slot : Nat) (op : OpId) : RecvSide :=
  { rx with
    mRecvOps := fun i => if i = slot then (rx.mRecvOps i).erase op else rx.mRecvOps i
    ops := rx.ops.erase op }

/-- `Queue::push_back`. -/
@[simps] def pushBack (rx : RecvSide) (slot : Nat) (op : OpId) (o : RecvOperation) : RecvSide :=
  { rx with
    mRecvOps := fun i => if i = slot then rx.mRecvOps i ++ [op] else rx.mRecvOps i
    ops := rx.ops.set op o }

end RecvSide

namespace SendSide

def slotOf (tx : SendSide) (op : OpId) : Nat :=
  ((tx.ops op).map SendOperation.mSocketFork).getD 0

@[simps] def log (tx : SendSide) (o : SendObs) : SendSide := { tx with trace := tx.trace ++ [o] }

@[simps] def setError (tx : SendSide) (op : OpId) (ec : ErrorCode) : SendSide :=
  { tx with
    ops := tx.ops.modify op fun o => { o with mError := some ec }
    trace := tx.trace ++ [.setError op ec] }

@[simps] def setStatus (tx : SendSide) (op : OpId) (status : OpStatus) : SendSide :=
  { tx with ops := tx.ops.modify op fun o => { o with mStatus := status } }

@[simps] def setReg (tx : SendSide) (op : OpId) (reg : StopCallback) : SendSide :=
  { tx with ops := tx.ops.modify op fun o => { o with mReg := reg } }

/-- The part of `SendOperation::completeOn` that concerns the operation. -/
@[simps] def completeOn (tx : SendSide) (op : OpId) : SendSide :=
  { tx with
    ops := tx.ops.modify op fun o => { o with mCH := false }
    trace := tx.trace ++ ((tx.ops op).map fun o => .completed op o.mError).toList }

@[simps] def erase (tx : SendSide) (slot : Nat) (op : OpId) : SendSide :=
  { tx with
    mSendOps := fun i => if i = slot then (tx.mSendOps i).erase op else tx.mSendOps i
    ops := tx.ops.erase op }

@[simps] def pushBack (tx : SendSide) (slot : Nat) (op : OpId) (o : SendOperation) : SendSide :=
  { tx with
    mSendOps := fun i => if i = slot then tx.mSendOps i ++ [op] else tx.mSendOps i
    ops := tx.ops.set op o }

/-- `SendOperation::setNext` (SendOperation.h:118-123). -/
@[simps mNextSendOp mSendBufferBegin mSendBufferLast mSendStatus mSendToken mSendCancelSrc mSendTask
  trace]
def setNext (tx : SendSide) (op : OpId) (next : Option OpId) : SendSide :=
  let ops := tx.ops.modify op fun o => { o with mNext := next }
  { tx with ops := match next with
    | some n => ops.modify n fun o => { o with mPrev := some op }
    | none => ops }

end SendSide

structure SockScheduler where
  table : ForkTable
  rx : RecvSide
  tx : SendSide
  mEC : ErrorCode := Code.success
  mClosed : Bool := false
  queued : List Callback := []
  stopped : List StopId := []
  flushTokens : Heap FlushToken := .empty
  mFlushes : OpId → List FlushId := fun _ => []
  nextOp : OpId := 0
  nextFlush : FlushId := 0
  nextStop : StopId := 2
  held : List SessionID := []
  forkFaults : List ForkFault := []
  faults : List Fault := []
  flushCalls : List (FlushId × List OpId) := []
  flushScheduled : List FlushId := []

namespace SockScheduler

def push (s : SockScheduler) (cb : Callback) : SockScheduler :=
  { s with queued := s.queued ++ [cb] }

def logSend (s : SockScheduler) (o : SendObs) : SockScheduler := { s with tx := s.tx.log o }

def logRecv (s : SockScheduler) (o : RecvObs) : SockScheduler := { s with rx := s.rx.log o }

def check (s : SockScheduler) (fs : List Fault) : SockScheduler :=
  { s with faults := s.faults ++ fs }

/-- `stop_source::request_stop`; a moved-from source has no state to stop. -/
def requestStop (s : SockScheduler) : Option StopId → SockScheduler
  | none => s
  | some t => { s with stopped := t :: s.stopped }

/-- `resetRecvToken`: a new state behind source and token. The source is only
reset when it has been moved from. -/
def resetRecvToken (s : SockScheduler) : SockScheduler :=
  { s with
    rx.mRecvCancelSrc := some s.nextStop
    rx.mRecvToken := s.nextStop
    nextStop := s.nextStop + 1 }

/-! ## Flush tokens -/

/-- Body of the loop in `completeOn` (SocketFork.h:127-153): the handle of a
token is scheduled by the operation that holds its last reference. -/
def completeFlush (s : SockScheduler) (f : FlushId) : SockScheduler :=
  match s.flushTokens f with
  | some ⟨some h, 1⟩ =>
    { s with
      queued := s.queued ++ [.flush h]
      flushTokens := s.flushTokens.set f ⟨none, 1⟩
      flushScheduled := s.flushScheduled ++ [f] }
  | _ => s

def releaseFlush (s : SockScheduler) (f : FlushId) : SockScheduler :=
  { s with flushTokens :=
      s.flushTokens.modify f fun t => { t with useCount := t.useCount - 1 } }

/-- `mFlushes.clear()`, also part of an operation's destructor. -/
def clearFlushes (s : SockScheduler) (op : OpId) : SockScheduler :=
  let s' := (s.mFlushes op).foldl releaseFlush s
  { s' with mFlushes := fun p => if p = op then [] else s'.mFlushes p }

def completeFlushes (s : SockScheduler) (op : OpId) : SockScheduler :=
  ((s.mFlushes op).foldl completeFlush s).clearFlushes op

/-! ## Operations and what they share -/

def recvSetError (s : SockScheduler) (op : OpId) (ec : ErrorCode) : SockScheduler :=
  { s with rx := s.rx.setError op ec }

def sendSetError (s : SockScheduler) (op : OpId) (ec : ErrorCode) : SockScheduler :=
  { s with tx := s.tx.setError op ec }

def recvSetStatus (s : SockScheduler) (op : OpId) (status : OpStatus) : SockScheduler :=
  { s with rx := s.rx.setStatus op status }

def sendSetStatus (s : SockScheduler) (op : OpId) (status : OpStatus) : SockScheduler :=
  { s with tx := s.tx.setStatus op status }

def recvSetReg (s : SockScheduler) (op : OpId) (reg : StopCallback) : SockScheduler :=
  { s with rx := s.rx.setReg op reg }

def sendSetReg (s : SockScheduler) (op : OpId) (reg : StopCallback) : SockScheduler :=
  { s with tx := s.tx.setReg op reg }

/-- `RecvOperation::completeOn`. -/
def recvCompleteOn (s : SockScheduler) (op : OpId) : SockScheduler :=
  if (s.rx.ops op).isSome then
    completeFlushes { s with
      rx := s.rx.completeOn op
      queued := s.queued ++ [.completion op] } op
  else s

/-- `SendOperation::completeOn`. -/
def sendCompleteOn (s : SockScheduler) (op : OpId) : SockScheduler :=
  if (s.tx.ops op).isSome then
    completeFlushes { s with
      tx := s.tx.completeOn op
      queued := s.queued ++ [.completion op] } op
  else s

/-- `Queue::erase`, with the destructor of the operation. -/
def eraseRecv (s : SockScheduler) (slot : Nat) (op : OpId) : SockScheduler :=
  { s.clearFlushes op with rx := s.rx.erase slot op }

def eraseSend (s : SockScheduler) (slot : Nat) (op : OpId) : SockScheduler :=
  { s.clearFlushes op with tx := s.tx.erase slot op }

/-- `Queue::pop_front`. -/
def popFrontRecv (s : SockScheduler) (slot : Nat) : SockScheduler :=
  match s.rx.mRecvOps slot with
  | [] => s
  | op :: _ => s.eraseRecv slot op

def popFrontSend (s : SockScheduler) (slot : Nat) : SockScheduler :=
  match s.tx.mSendOps slot with
  | [] => s
  | op :: _ => s.eraseSend slot op

/-- `setNext` through a pointer that may be dangling. -/
def setNext (s : SockScheduler) (op : OpId) (next : Option OpId) : SockScheduler :=
  { s.check (require (s.tx.ops op).isSome .danglingWrite) with tx := s.tx.setNext op next }

end SockScheduler
end Coproto
