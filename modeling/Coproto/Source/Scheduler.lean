import Coproto.Source.Awaiters

/-!
# Calls, coroutines and the step function

SocketScheduler.h:409-422, 542-629, 814-941, 1036-1137, 1142-1174 and
SocketScheduler.cpp:15-99, 157-174, 263-274. An event is one critical section of
a caller, one callback being run, or the return of the transport call in flight
together with what the coroutine does up to its next suspension.
-/
namespace Coproto
namespace SockScheduler

/-! ## send, recv and their stop callbacks -/

/-- A queued send leaves the list: its predecessor is linked to its successor. -/
def unlinkSend (s : SockScheduler) (o : SendOperation) : SockScheduler :=
  let s := s.check (require o.mPrev.isSome .stopSendPrev)
  match o.mPrev with
  | some prev => s.setNext prev o.mNext
  | none => s

/-- The stop source moves into a callback that will stop it. -/
def stopSends (s : SockScheduler) : SockScheduler :=
  ({ s with tx.mSendCancelSrc := none }).push (.requestStop s.tx.mSendCancelSrc)

def stopRecvs (s : SockScheduler) : SockScheduler :=
  ({ s with rx.mRecvCancelSrc := none }).push (.requestStop s.rx.mRecvCancelSrc)

/-- The stop callback `send` installs (SocketScheduler.h:596-624). -/
def sendStopCallback (s : SockScheduler) (op : OpId) : SockScheduler :=
  match s.tx.ops op with
  | none => s
  | some o =>
    let s := (s.logSend (.stopRequested op s.mEC.isError)).sendSetReg op .invoked
    if o.mStatus = .NotStarted then
      let s := (s.sendSetError op Code.operation_aborted).sendCompleteOn op
      (s.unlinkSend o).eraseSend o.mSocketFork op
    else (s.sendSetStatus op .Canceling).stopSends

/-- The stop callback `recv` installs (SocketScheduler.cpp:58-85). -/
def recvStopCallback (s : SockScheduler) (op : OpId) : SockScheduler :=
  match s.rx.ops op with
  | none => s
  | some o =>
    let s := (s.logRecv (.stopRequested op s.mEC.isError)).recvSetReg op .invoked
    if o.mStatus = .NotStarted then
      let s := { s with rx.mNumRecvs := s.rx.mNumRecvs - 1 }
      ((s.recvSetError op Code.operation_aborted).recvCompleteOn op).eraseRecv o.mSocketFork op
    else
      let s := s.check (require (o.mStatus = .InProgress) .stopRecvStatus)
      (s.recvSetStatus op .Canceling).stopRecvs

/-- `SendOperation::setCancelation`: a token that is stopped already runs the
callback right here, inside the critical section of `send`. -/
def sendSetCancelation (s : SockScheduler) (op : OpId) : StopToken → SockScheduler
  | .none => s
  | .live => s.sendSetReg op .registered
  | .stopped => (s.sendSetReg op .registered).sendStopCallback op

def recvSetCancelation (s : SockScheduler) (op : OpId) : StopToken → SockScheduler
  | .none => s
  | .live => s.recvSetReg op .registered
  | .stopped => (s.recvSetReg op .registered).recvStopCallback op

/-- A `send` that fails before it is queued. -/
def rejectSend (s : SockScheduler) (op : OpId) (ec : ErrorCode) : SockScheduler :=
  { s with
    queued := s.queued ++ [.completion op]
    tx := (s.tx.log (.setError op ec)).log (.completed op (some ec)) }

def emplaceSend (s : SockScheduler) (slot : Nat) (op : OpId) (data : List UInt8) :
    SockScheduler :=
  { s with tx := s.tx.pushBack slot op { mSendBuffer := data, mSocketFork := slot } }

/-- The send task is parked: the operation becomes the list and wakes it. -/
def wakeSend (s : SockScheduler) (op : OpId) : SockScheduler :=
  let s := s.check <|
    require (s.tx.mSendStatus = .Idle) .sendStatus ++
    require (s.tx.mSendBufferBegin = none) .sendBufferBegin ++
    require (s.tx.mSendBufferLast = none) .sendBufferLast
  let s := { s with tx.mSendStatus := .InUse }
  let s := NextSendOp.getHandle (s.sendSetStatus op .InProgress) (.ok op)
  { s with tx.mSendBufferBegin := some op, tx.mSendBufferLast := some op }

/-- The send task is at work: the operation is linked behind the last one. -/
def linkSend (s : SockScheduler) (op : OpId) : SockScheduler :=
  let s := s.check (require s.tx.mSendBufferLast.isSome .sendBufferLast)
  let s := match s.tx.mSendBufferLast with
    | some last => s.setNext last (some op)
    | none => s
  { s with tx.mSendBufferLast := some op }

def enqueueSend (s : SockScheduler) (slot : Nat) (op : OpId) (data : List UInt8) : SockScheduler :=
  let s := s.emplaceSend slot op data
  if s.tx.mNextSendOp then s.wakeSend op else s.linkSend op

/-- `SockScheduler::send` on the slot of the session. -/
def send (s : SockScheduler) (slot : Nat) (session : UInt64 × UInt64) (data : List UInt8)
    (token : StopToken) : SockScheduler :=
  let op := s.nextOp
  let s := { s.logSend (.posted op session data) with nextOp := op + 1 }
  if data.length = 0 then s.rejectSend op Code.sendLengthZeroMsg
  else if s.mEC.isError then s.rejectSend op s.mEC
  else (s.enqueueSend slot op data).sendSetCancelation op token

def rejectRecv (s : SockScheduler) (op : OpId) (ec : ErrorCode) : SockScheduler :=
  { s with
    queued := s.queued ++ [.completion op]
    rx := (s.rx.log (.setError op ec)).log (.completed op (some ec) []) }

def emplaceRecv (s : SockScheduler) (slot : Nat) (op : OpId) (buffer : RecvBuffer) :
    SockScheduler :=
  { s with rx :=
      { s.rx.pushBack slot op
          { mRecvBuffer := { buffer with mExPtr := .unset, mData := [] }, mSocketFork := slot } with
        mNumRecvs := s.rx.mNumRecvs + 1 } }

/-- The receive task waits for any operation. -/
def wakeAnyRecv (s : SockScheduler) (op : OpId) : SockScheduler :=
  let s := s.check (require (s.rx.mRecvStatus = .Idle) .recvIdleStatus)
  let s := { s with rx.mRecvStatus := .InUse }
  AnyRecvOp.getHandle (s.recvSetStatus op .InProgress) Code.success

/-- The receive task waits for an operation of this fork. -/
def wakeRequestedRecv (s : SockScheduler) (op : OpId) : SockScheduler :=
  let s := s.check (require (s.rx.mRecvStatus = .RequestedRecvOp) .recvRequestedStatus)
  let s := { s with rx.mRecvStatus := .InUse }
  GetRequestedRecvSocketFork.getHandle (s.recvSetStatus op .InProgress) (.ok op)

def enqueueRecv (s : SockScheduler) (slot : Nat) (op : OpId) (buffer : RecvBuffer) :
    SockScheduler :=
  let s := s.emplaceRecv slot op buffer
  let s := if s.rx.mAnyRecvOp then s.wakeAnyRecv op else s
  if s.rx.mGetRequestedRecvSocketFork = some (s.table.fork slot).mRemoteId then
    s.wakeRequestedRecv op
  else s

/-- `SockScheduler::recv` on the slot of the session. -/
def recv (s : SockScheduler) (slot : Nat) (session : UInt64 × UInt64) (buffer : RecvBuffer)
    (token : StopToken) : SockScheduler :=
  let op := s.nextOp
  let s := { s.logRecv (.posted op session) with nextOp := op + 1 }
  if s.mEC.isError then s.rejectRecv op s.mEC
  else (s.enqueueRecv slot op buffer).recvSetCancelation op token

/-! ## fork, flush, close -/

/-- `SockScheduler::fork` on the slot of the session. -/
def fork (s : SockScheduler) (slot : Nat) : SockScheduler :=
  let r := s.table.forkSlot slot
  { s with table := r.1, held := s.held ++ [r.2.1], forkFaults := s.forkFaults ++ r.2.2 }

/-- Every queued operation, the pending ones of a `flush`. -/
def queuedOps (s : SockScheduler) : List OpId :=
  (List.range s.table.mSocketForks_.length).flatMap fun i => s.rx.mRecvOps i ++ s.tx.mSendOps i

def addFlush (s : SockScheduler) (f : FlushId) (op : Option OpId) : SockScheduler :=
  match op with
  | none => s
  | some op =>
    { s with
      mFlushes := fun p => if p = op then s.mFlushes p ++ [f] else s.mFlushes p
      flushTokens := s.flushTokens.modify f fun t => { t with useCount := t.useCount + 1 } }

/-- The loop of `flush`: `back_recv` and `back_send` of every slot. -/
def tagLast (f : FlushId) (s : SockScheduler) (slot : Nat) : SockScheduler :=
  (s.addFlush f (s.rx.mRecvOps slot).getLast?).addFlush f (s.tx.mSendOps slot).getLast?

def flush (s : SockScheduler) (handle : Nat) : SockScheduler :=
  let f := s.nextFlush
  let s : SockScheduler :=
    { s with nextFlush := f + 1, flushCalls := s.flushCalls ++ [(f, s.queuedOps)] }
  if s.rx.mNumRecvs = 0 ∧ s.tx.mSendBufferBegin = none then
    { s.push (.flush handle) with flushScheduled := s.flushScheduled ++ [f] }
  else
    -- the local `shared_ptr` counts until `flush` returns
    let s := { s with flushTokens := s.flushTokens.set f ⟨some handle, 1⟩ }
    ((List.range s.table.mSocketForks_.length).foldl (tagLast f) s).releaseFlush f

/-- `SockScheduler::close`. -/
def close (s : SockScheduler) : SockScheduler := s.cancel .Extern Code.closed

/-- `Socket::close`: the transport is closed, the scheduler only notes it. -/
def socketClose (s : SockScheduler) : SockScheduler := { s with mClosed := true }

/-- The test `~SockScheduler` calls `std::terminate` on. -/
def destructorTerminates (s : SockScheduler) : Bool :=
  s.rx.mRecvStatus = .InUse ∨ s.tx.mSendStatus = .InUse

/-! ## makeSendTask -/

/-- Start the next transport call of the send task. -/
def startSend (s : SockScheduler) (part : SendPart) (op : OpId) : SockScheduler :=
  { s with tx.mSendTask := .sending part op s.tx.mSendToken }

/-- What the call of a part is given. -/
def sendBytes (s : SockScheduler) (part : SendPart) (op : OpId) : List UInt8 :=
  let fork := s.table.fork (s.tx.slotOf op)
  let data := ((s.tx.ops op).map SendOperation.mSendBuffer).getD []
  match part with
  | .control => Header.bytes ⟨0, fork.mLocalId⟩ ++ controlBlockBytes fork.mSessionID
  | .header => Header.bytes ⟨UInt32.ofNat data.length, fork.mLocalId⟩
  | .body => data

/-- The send task after `NextSendOp` (SocketScheduler.h:1052-1080). -/
def makeSendTask (s : SockScheduler) : SockScheduler :=
  match s.tx.mSendTask with
  | .nextSendOp (some (.error _)) => { s with tx.mSendTask := .done }
  | .nextSendOp (some (.ok op)) =>
    let slot := s.tx.slotOf op
    let fork := s.table.fork slot
    let data := s.sendBytes .body op
    let s := (s.check <|
      require ((s.tx.ops op).any (·.mStatus ≠ .NotStarted)) .sendTaskStatus ++
      require (data.length ≠ 0) .sendTaskEmpty ++
      require (data.length < 2 ^ 32 - 1) .sendTaskLength ++
      require (fork.mLocalId ≠ unassigned) .sendTaskLocalId).logSend (.started op)
    if fork.mInitiated = false then
      let s := { s with table := s.table.modify slot fun f => { f with mInitiated := true } }
      s.startSend .control op
    else s.startSend .header op
  | _ => s

/-- The send task when its transport call returns. -/
def sendReturned (s : SockScheduler) (ec : ErrorCode) (bt : Nat) : Option SockScheduler :=
  match s.tx.mSendTask with
  | .sending part op _ =>
    let x : Xfer := ⟨ec, bt, (s.sendBytes part op).length⟩
    let s := s.logSend (.xfer op part x)
    if x.check.isError then
      -- `continue`, with the code the transport reported
      some (NextSendOp.awaitSuspend s (some op) ec)
    else
      match part with
      | .control => some (s.startSend .header op)
      | .header => some (s.startSend .body op)
      | .body => some (NextSendOp.awaitSuspend s (some op) ec)
  | _ => none

/-! ## receiveDataTask -/

def recvHeader (s : SockScheduler) : SockScheduler :=
  { s with rx.mRecvTask := .header s.rx.mRecvToken }

/-- The receive task after one of its two awaiters. -/
def receiveDataTask (s : SockScheduler) : SockScheduler :=
  match s.rx.mRecvTask with
  | .anyRecvOp (some r) => if r.isError then { s with rx.mRecvTask := .done } else s.recvHeader
  | .getRequested _ (some (.error e)) => AnyRecvOp.awaitSuspend s none e
  | .getRequested frame (some (.ok op)) =>
    let size := frame.header.mSize.toNat
    let fits := (s.rx.ops op).any fun o => o.mRecvBuffer.spanSize size = size
    let s := { s with rx := s.rx.asSpan op size }
    if fits then { s with rx.mRecvTask := .body frame op s.rx.mRecvToken }
    else AnyRecvOp.awaitSuspend s (some op) Code.badBufferSize
  | _ => s

/-- Size of the buffer the receive call in flight fills. -/
def recvSize (s : SockScheduler) : Option Nat :=
  match s.rx.mRecvTask with
  | .header _ => some headerSize
  | .control _ _ => some controlBlockSize
  | .body frame _ _ => some frame.header.mSize.toNat
  | _ => none

/-- The receive task when its transport call returns; `bytes` is what the buffer
holds then, all of it, however much the call wrote. -/
def recvReturned (s : SockScheduler) (ec : ErrorCode) (bt : Nat) (bytes : List UInt8) :
    Option SockScheduler :=
  if s.recvSize ≠ some bytes.length then none
  else
    let x : Xfer := ⟨ec, bt, bytes.length⟩
    match s.rx.mRecvTask with
    | .header _ =>
      let s := s.logRecv (.header x)
      if x.check.isError then some (AnyRecvOp.awaitSuspend s none ec)
      else
        let header := Header.ofBytes bytes
        if header.mSize = 0 then some { s with rx.mRecvTask := .control header s.rx.mRecvToken }
        else some (GetRequestedRecvSocketFork.awaitSuspend s ⟨header, x⟩)
    | .control header _ =>
      let s := s.logRecv (.header x)
      if x.check.isError then some (AnyRecvOp.awaitSuspend s none ec)
      else
        let r := s.table.initRemoteSocketFork header.mForkId (controlBlockSessionID bytes)
        let s := { s with table := r.1, forkFaults := s.forkFaults ++ r.2.2 }
        if r.2.1.isError then some (AnyRecvOp.awaitSuspend s none r.2.1)
        else some s.recvHeader
    | .body frame op _ =>
      let s := s.logRecv (.body op frame.call x)
      some (AnyRecvOp.awaitSuspend { s with rx := s.rx.fill op bytes } (some op) ec)
    | _ => none

/-! ## Steps -/

/-- Run one queued callback. Completions and flushes resume their caller, whose
further calls are events of their own. -/
def runCallback (s : SockScheduler) : Callback → SockScheduler
  | .completion _ => s
  | .flush _ => s
  | .recvTask => s.receiveDataTask
  | .sendTask => s.makeSendTask
  | .requestStop src => s.requestStop src

inductive Event where
  | fork (session : UInt64 × UInt64)
  | send (session : UInt64 × UInt64) (data : List UInt8) (token : StopToken)
  | recv (session : UInt64 × UInt64) (buffer : RecvBuffer) (token : StopToken)
  | stopSend (op : OpId)
  | stopRecv (op : OpId)
  | flush (handle : Nat)
  | socketClose
  | close
  | run (cb : Callback)
  | sendReturned (ec : ErrorCode) (bt : Nat)
  | recvReturned (ec : ErrorCode) (bt : Nat) (bytes : List UInt8)
  deriving DecidableEq, Repr

/-- The slot of a session the caller holds a `Socket` for. -/
def heldSlot (s : SockScheduler) (session : UInt64 × UInt64) : Option Nat :=
  if session ∈ s.held.map SessionID.mVal then s.table.mIdSocketForkMapping_ session else none

/-- A stop request reaches an operation whose callback is registered. -/
def step (s : SockScheduler) : Event → Option SockScheduler
  | .fork session => (s.heldSlot session).map s.fork
  | .send session data token => (s.heldSlot session).map fun slot => s.send slot session data token
  | .recv session buffer token =>
    (s.heldSlot session).map fun slot => s.recv slot session buffer token
  | .stopSend op =>
    if (s.tx.ops op).any (·.mReg = .registered) then some (s.sendStopCallback op) else none
  | .stopRecv op =>
    if (s.rx.ops op).any (·.mReg = .registered) then some (s.recvStopCallback op) else none
  | .flush handle => some (s.flush handle)
  | .socketClose => some s.socketClose
  | .close => some s.close
  | .run cb =>
    if cb ∈ s.queued then some (runCallback { s with queued := s.queued.erase cb } cb) else none
  | .sendReturned ec bt => s.sendReturned ec bt
  | .recvReturned ec bt bytes => s.recvReturned ec bt bytes

/-- `SockScheduler::init`: the root slot, then both tasks up to their first
suspension. -/
def init (sid : SessionID) : SockScheduler :=
  let s : SockScheduler :=
    { table := ForkTable.init sid
      rx := { mRecvToken := 0, mRecvCancelSrc := some 0, mRecvTask := .done }
      tx := { mSendToken := 1, mSendCancelSrc := some 1, mSendTask := .done }
      held := [sid] }
  NextSendOp.awaitSuspend (AnyRecvOp.awaitSuspend s none Code.success) none Code.success

end SockScheduler
end Coproto
