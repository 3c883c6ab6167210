import Coproto.Source.State

/-!
# The awaiters of the two tasks, and cancel

SocketScheduler.h:655-805, 953-1032 and SocketScheduler.cpp:176-261. Each
`awaitSuspend` is one critical section. `std::exchange(ec, code::cancel)` hands
the error to the first operation that is failed and `cancel` to the others.
-/
namespace Coproto
namespace SockScheduler

/-! ## getHandle: waking a parked task -/

def AnyRecvOp.getHandle (s : SockScheduler) (r : ErrorCode) : SockScheduler :=
  ({ s.check (require s.rx.mAnyRecvOp .getHandleSelf) with
      rx.mAnyRecvOp := false
      rx.mRecvTask := .anyRecvOp (some r) }).push .recvTask

def GetRequestedRecvSocketFork.getHandle (s : SockScheduler)
    (r : Except ErrorCode OpId) : SockScheduler :=
  let task := match s.rx.mRecvTask with
    | .getRequested frame _ => .getRequested frame (some r)
    | task => task
  ({ s.check (require s.rx.mGetRequestedRecvSocketFork.isSome .getHandleSelf) with
      rx.mGetRequestedRecvSocketFork := none
      rx.mRecvTask := task }).push .recvTask

def NextSendOp.getHandle (s : SockScheduler) (r : Except ErrorCode OpId) : SockScheduler :=
  ({ s.check (require s.tx.mNextSendOp .getHandleSelf) with
      tx.mNextSendOp := false
      tx.mSendTask := .nextSendOp (some r) }).push .sendTask

/-! ## cancel -/

/-- The transports that are at work are asked to stop. -/
def stopTransports (s : SockScheduler) : SockScheduler :=
  let s := if s.rx.mRecvStatus = .InUse then s.requestStop s.rx.mRecvCancelSrc else s
  if s.tx.mSendStatus = .InUse then s.requestStop s.tx.mSendCancelSrc else s

def AnyRecvOp.wake (s : SockScheduler) : SockScheduler :=
  if s.rx.mAnyRecvOp then AnyRecvOp.getHandle s Code.cancel else s

def GetRequestedRecvSocketFork.wake (s : SockScheduler) (e : ErrorCode) : SockScheduler :=
  if s.rx.mGetRequestedRecvSocketFork.isSome then
    GetRequestedRecvSocketFork.getHandle s (.error e)
  else s

def NextSendOp.wake (s : SockScheduler) : SockScheduler :=
  if s.tx.mNextSendOp then NextSendOp.getHandle s (.error Code.cancel) else s

/-- What is parked is woken with an error, `e` for a task that has a frame. -/
def wakeParked (s : SockScheduler) (e : ErrorCode) : SockScheduler :=
  NextSendOp.wake (GetRequestedRecvSocketFork.wake (AnyRecvOp.wake s) e)

/-- The branch of `cancel` for the first error. The code for the drain comes
second: a task that is woken with the error has taken it. -/
def enterError (s : SockScheduler) (c : Caller) (ec : ErrorCode) : SockScheduler × ErrorCode :=
  let s := { s.check (require ec.isError .cancelErrorCode) with mEC := ec }
  (s.stopTransports.wakeParked (if c = .Sender then ErrorCode.coproto .cancel else ec),
    if s.rx.mGetRequestedRecvSocketFork.isSome ∧ c ≠ .Sender then Code.cancel else ec)

/-- One operation leaves in the drain of the receive queues. -/
def failRecv (s : SockScheduler) (slot : Nat) (op : OpId) (ec : ErrorCode) : SockScheduler :=
  ((s.recvSetError op ec).recvCompleteOn op).popFrontRecv slot

/-- The receives the drain meets: slot by slot, each queue from its front. -/
def queuedRecvs (s : SockScheduler) : List (Nat × OpId) :=
  (List.range s.table.mSocketForks_.length).flatMap fun slot =>
    (s.rx.mRecvOps slot).map fun op => (slot, op)

def drainRecvs (s : SockScheduler) : List (Nat × OpId) → ErrorCode → SockScheduler
  | [], _ => s
  | (slot, op) :: ops, ec => drainRecvs (s.failRecv slot op ec) ops Code.cancel

/-- The drain of the send list, along `mNext`. The bound is never reached: it is
the number of operations allocated so far. -/
def drainSends (s : SockScheduler) : Nat → Option OpId → ErrorCode → SockScheduler
  | n + 1, some op, ec =>
    let slot := s.tx.slotOf op
    let s := s.check <|
      require ((s.tx.ops op).any (·.mStatus = .NotStarted)) .cancelSendStatus ++
      require ((s.tx.mSendOps slot).head? = some op) .cancelSendFront
    let s := (s.sendSetError op ec).sendCompleteOn op
    let next := (s.tx.ops op).bind SendOperation.mNext
    drainSends (s.popFrontSend slot) n next Code.cancel
  | _, _, _ => s

def cancel (s : SockScheduler) (c : Caller) (ec : ErrorCode) : SockScheduler :=
  let r := if s.mEC.isError then (s, ec) else s.enterError c ec
  match c with
  | .Sender =>
    let iter := r.1.tx.mSendBufferBegin
    let s := { r.1 with
      tx.mSendStatus := .Closed
      tx.mSendBufferBegin := none
      tx.mSendBufferLast := none }
    s.drainSends s.nextOp iter r.2
  | .Recver =>
    let s := { r.1 with rx.mRecvStatus := .Closed }
    { s.drainRecvs s.queuedRecvs r.2 with rx.mNumRecvs := 0 }
  | .Extern => r.1

/-! ## AnyRecvOp -/

/-- `AnyRecvOp::completePrev`; the saved error comes second. -/
def AnyRecvOp.completePrev (s : SockScheduler) (op : OpId) (ec : ErrorCode) :
    SockScheduler × ErrorCode :=
  let s := if s.rx.mRecvCancelSrc = none then s.resetRecvToken else s
  let slot := s.rx.slotOf op
  let s := s.check (require
    (s.rx.mNumRecvs ≠ 0 ∧ (s.rx.mRecvOps slot).head? = some op) .anyRecvOpFront)
  let s := if ec.isError then s.recvSetError op ec else s
  let s := (s.recvCompleteOn op).popFrontRecv slot
  ({ s with rx.mNumRecvs := s.rx.mNumRecvs - 1 }, if ec.isError then Code.cancel else ec)

/-- `if (mPrevOp) completePrev(..)`. -/
def AnyRecvOp.prev (s : SockScheduler) (prevOp : Option OpId) (prevEc : ErrorCode) :
    SockScheduler × ErrorCode :=
  match prevOp with
  | some op => completePrev s op prevEc
  | none => (s, prevEc)

def AnyRecvOp.awaitSuspend (s : SockScheduler) (prevOp : Option OpId) (prevEc : ErrorCode) :
    SockScheduler :=
  let r := prev s prevOp prevEc
  if r.2.isError ∨ r.1.mEC.isError then
    (cancel { r.1 with rx.mRecvTask := .anyRecvOp (some Code.cancel) } .Recver r.2).push .recvTask
  else if r.1.rx.mNumRecvs ≠ 0 then
    ({ r.1 with rx.mRecvTask := .anyRecvOp (some Code.success) }).push .recvTask
  else
    { r.1 with
      rx.mRecvStatus := .Idle
      rx.mAnyRecvOp := true
      rx.mRecvTask := .anyRecvOp none }

/-! ## GetRequestedRecvSocketFork -/

def GetRequestedRecvSocketFork.awaitSuspend (s : SockScheduler) (frame : Frame) : SockScheduler :=
  match s.table.mRemoteSocketForkMapping_ frame.header.mForkId with
  | none =>
    -- `cancel` leaves an error in `mEC`, whichever it is
    let s := s.cancel .Recver Code.badCoprotoMessageHeader
    ({ s with rx.mRecvTask := .getRequested frame (some (.error s.mEC)) }).push .recvTask
  | some slot =>
    if s.mEC.isError then
      ({ s with rx.mRecvTask := .getRequested frame (some (.error s.mEC)) }).push .recvTask
    else
      match s.rx.mRecvOps slot with
      | [] =>
        { s with
          rx.mRecvStatus := .RequestedRecvOp
          rx.mGetRequestedRecvSocketFork := some frame.header.mForkId
          rx.mRecvTask := .getRequested frame none }
      | op :: _ =>
        ({ s.recvSetStatus op .InProgress with
            rx.mRecvTask := .getRequested frame (some (.ok op)) }).push .recvTask

/-! ## NextSendOp -/

/-- `NextSendOp::completePrev`; the saved error comes second. -/
def NextSendOp.completePrev (s : SockScheduler) (op : OpId) (ec : ErrorCode) :
    SockScheduler × ErrorCode :=
  let slot := s.tx.slotOf op
  let s := if ec.isError then s.sendSetError op ec else s
  let s := s.sendCompleteOn op
  let next := (s.tx.ops op).bind SendOperation.mNext
  let s := s.setNext op none
  let s := s.check <|
    require ((s.tx.mSendOps slot).head? = some op) .nextSendOpFront ++
    require (s.tx.mSendBufferBegin = some op) .nextSendOpBegin
  let s := { s with
    tx.mSendBufferBegin := next
    tx.mSendBufferLast := if next = none then none else s.tx.mSendBufferLast }
  (s.popFrontSend slot, if ec.isError then Code.cancel else ec)

def NextSendOp.prev (s : SockScheduler) (prevOp : Option OpId) (prevEc : ErrorCode) :
    SockScheduler × ErrorCode :=
  match prevOp with
  | some op => completePrev s op prevEc
  | none => (s, prevEc)

def NextSendOp.awaitSuspend (s : SockScheduler) (prevOp : Option OpId) (prevEc : ErrorCode) :
    SockScheduler :=
  let r := prev s prevOp prevEc
  let notStarted (op : OpId) := (r.1.tx.ops op).any (·.mStatus = .NotStarted)
  if r.2.isError ∨ r.1.mEC.isError then
    let s := r.1.check
      (require (r.1.tx.mSendBufferBegin.all notStarted) .nextSendOpStatus)
    let s := s.cancel .Sender r.2
    ({ s with tx.mSendTask := .nextSendOp (some (.error Code.closed)) }).push .sendTask
  else
    match r.1.tx.mSendBufferBegin with
    | some op =>
      let s := r.1.check (require (notStarted op) .nextSendOpStatus)
      ({ s.sendSetStatus op .InProgress with
          tx.mSendTask := .nextSendOp (some (.ok op)) }).push .sendTask
    | none =>
      { r.1 with
        tx.mSendStatus := .Idle
        tx.mNextSendOp := true
        tx.mSendTask := .nextSendOp none }

end SockScheduler
end Coproto
