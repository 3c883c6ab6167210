import Coproto.Invariants.EnterError

/-!
# What the tasks do when they are resumed

The ways a transport call of either task can return, and the ways the receive
task goes on from its awaiters, one named case for each path through the two
coroutines (SocketScheduler.h:843-935, 1052-1133).
-/
namespace Coproto
namespace SockScheduler

/-- The call of a receive buffer, as it returned. -/
abbrev recvCall (ec : ErrorCode) (bt : Nat) (bytes : List UInt8) : Xfer := ⟨ec, bt, bytes.length⟩

/-- What the receive task does with the result of its transport call. -/
inductive RecvReturn (s : SockScheduler) (ec : ErrorCode) (bt : Nat) (bytes : List UInt8) :
    SockScheduler → Prop
  | headerFailed (token : StopId) (task : s.rx.mRecvTask = .header token)
      (failed : (recvCall ec bt bytes).check.isError = true) :
      RecvReturn s ec bt bytes
        (AnyRecvOp.awaitSuspend (s.logRecv (.header (recvCall ec bt bytes))) none ec)
  | headerMeta (token : StopId) (task : s.rx.mRecvTask = .header token)
      (size : bytes.length = headerSize) (full : (recvCall ec bt bytes).Full)
      (control : (Header.ofBytes bytes).mSize = 0) :
      RecvReturn s ec bt bytes
        { s.logRecv (.header (recvCall ec bt bytes)) with
          rx.mRecvTask := .control (Header.ofBytes bytes) s.rx.mRecvToken }
  | headerData (token : StopId) (task : s.rx.mRecvTask = .header token)
      (size : bytes.length = headerSize) (full : (recvCall ec bt bytes).Full)
      (data : (Header.ofBytes bytes).mSize ≠ 0) :
      RecvReturn s ec bt bytes
        (GetRequestedRecvSocketFork.awaitSuspend (s.logRecv (.header (recvCall ec bt bytes)))
          ⟨Header.ofBytes bytes, recvCall ec bt bytes⟩)
  | controlFailed (header : Header) (token : StopId) (task : s.rx.mRecvTask = .control header token)
      (failed : (recvCall ec bt bytes).check.isError = true) :
      RecvReturn s ec bt bytes
        (AnyRecvOp.awaitSuspend (s.logRecv (.header (recvCall ec bt bytes))) none ec)
  | refused (header : Header) (token : StopId) (task : s.rx.mRecvTask = .control header token)
      (size : bytes.length = controlBlockSize) (full : (recvCall ec bt bytes).Full) (table : ForkTable) (code : ErrorCode)
      (faults : List ForkFault)
      (init : s.table.initRemoteSocketFork header.mForkId (controlBlockSessionID bytes) =
        (table, code, faults))
      (error : code.isError = true) :
      RecvReturn s ec bt bytes (AnyRecvOp.awaitSuspend
        { s.logRecv (.header (recvCall ec bt bytes)) with
          table := table, forkFaults := s.forkFaults ++ faults } none code)
  | accepted (header : Header) (token : StopId) (task : s.rx.mRecvTask = .control header token)
      (size : bytes.length = controlBlockSize) (full : (recvCall ec bt bytes).Full) (table : ForkTable) (code : ErrorCode)
      (faults : List ForkFault)
      (init : s.table.initRemoteSocketFork header.mForkId (controlBlockSessionID bytes) =
        (table, code, faults))
      (ok : code.isError = false) :
      RecvReturn s ec bt bytes
        ({ s.logRecv (.header (recvCall ec bt bytes)) with
          table := table, forkFaults := s.forkFaults ++ faults } : SockScheduler).recvHeader
  | body (frame : Frame) (op : OpId) (token : StopId)
      (task : s.rx.mRecvTask = .body frame op token)
      (size : bytes.length = frame.header.mSize.toNat) :
      RecvReturn s ec bt bytes (AnyRecvOp.awaitSuspend
        { s with rx := (s.rx.log (.body op frame.call (recvCall ec bt bytes))).fill op bytes }
        (some op) ec)

theorem recvReturned_cases {s t : SockScheduler} {ec : ErrorCode} {bt : Nat} {bytes : List UInt8}
    (returned : s.recvReturned ec bt bytes = some t) : RecvReturn s ec bt bytes t := by
  unfold recvReturned at returned
  split at returned
  · cases returned
  · rename_i size
    dsimp only at returned
    split at returned
    · rename_i token task
      split at returned
      · rename_i failed
        cases returned
        exact .headerFailed token task failed
      · rename_i passed
        have full := (Xfer.check_ok _).mp (by simpa using passed)
        split at returned <;> cases returned
        · rename_i control
          refine .headerMeta token task ?_ full control
          simpa [recvSize, task, eq_comm] using size
        · rename_i data
          refine .headerData token task ?_ full data
          simpa [recvSize, task, eq_comm] using size
    · rename_i header token task
      split at returned
      · rename_i failed
        cases returned
        exact .controlFailed header token task failed
      · rename_i passed
        have full := (Xfer.check_ok _).mp (by simpa using passed)
        split at returned <;> cases returned
        · rename_i error
          refine .refused header token task ?_ full _ _ _ rfl error
          simpa [recvSize, task, eq_comm] using size
        · rename_i ok
          refine .accepted header token task ?_ full _ _ _ rfl ((Bool.not_eq_true _).mp ok)
          simpa [recvSize, task, eq_comm] using size
    · rename_i frame op token task
      cases returned
      refine .body frame op token task ?_
      simpa [recvSize, task, eq_comm] using size
    · cases returned

/-- What the send task does with the result of its transport call. -/
inductive SendReturn (s : SockScheduler) (ec : ErrorCode) (bt : Nat) : SockScheduler → Prop
  | failed (part : SendPart) (op : OpId) (token : StopId)
      (task : s.tx.mSendTask = .sending part op token) (x : Xfer)
      (call : x = ⟨ec, bt, (s.sendBytes part op).length⟩) (failed : x.check.isError = true) :
      SendReturn s ec bt (NextSendOp.awaitSuspend (s.logSend (.xfer op part x)) (some op) ec)
  | next (part part' : SendPart) (op : OpId) (token : StopId)
      (task : s.tx.mSendTask = .sending part op token) (x : Xfer)
      (call : x = ⟨ec, bt, (s.sendBytes part op).length⟩) (full : x.Full)
      (follows : (part = .control ∧ part' = .header) ∨ (part = .header ∧ part' = .body)) :
      SendReturn s ec bt ((s.logSend (.xfer op part x)).startSend part' op)
  | body (op : OpId) (token : StopId) (task : s.tx.mSendTask = .sending .body op token) (x : Xfer)
      (call : x = ⟨ec, bt, (s.sendBytes .body op).length⟩) (full : x.Full) :
      SendReturn s ec bt (NextSendOp.awaitSuspend (s.logSend (.xfer op .body x)) (some op) ec)

theorem sendReturned_cases {s t : SockScheduler} {ec : ErrorCode} {bt : Nat}
    (returned : s.sendReturned ec bt = some t) : SendReturn s ec bt t := by
  unfold sendReturned at returned
  split at returned
  · rename_i part op token task
    dsimp only at returned
    split at returned
    · rename_i failed
      cases returned
      exact .failed part op token task _ rfl failed
    · rename_i passed
      have full := (Xfer.check_ok _).mp (by simpa using passed)
      split at returned <;> cases returned
      · exact .next _ _ op token task _ rfl full (.inl ⟨rfl, rfl⟩)
      · exact .next _ _ op token task _ rfl full (.inr ⟨rfl, rfl⟩)
      · exact .body op token task _ rfl full
  · cases returned

/-- What the receive task does after one of its awaiters. -/
inductive RecvResume (s : SockScheduler) : SockScheduler → Prop
  | idle (waits : s.rx.mRecvTask.ready = false) : RecvResume s s
  | done (r : ErrorCode) (task : s.rx.mRecvTask = .anyRecvOp (some r)) (error : r.isError = true) :
      RecvResume s { s with rx.mRecvTask := .done }
  | header (r : ErrorCode) (task : s.rx.mRecvTask = .anyRecvOp (some r)) (ok : r.isError = false) :
      RecvResume s s.recvHeader
  | failed (frame : Frame) (e : ErrorCode)
      (task : s.rx.mRecvTask = .getRequested frame (some (.error e))) :
      RecvResume s (AnyRecvOp.awaitSuspend s none e)
  | body (frame : Frame) (op : OpId) (task : s.rx.mRecvTask = .getRequested frame (some (.ok op)))
      (fits : (s.rx.ops op).any (fun o =>
        o.mRecvBuffer.spanSize frame.header.mSize.toNat = frame.header.mSize.toNat) = true) :
      RecvResume s { s with
        rx := { s.rx.asSpan op frame.header.mSize.toNat with
          mRecvTask := .body frame op s.rx.mRecvToken } }
  | mismatch (frame : Frame) (op : OpId)
      (task : s.rx.mRecvTask = .getRequested frame (some (.ok op)))
      (misfits : (s.rx.ops op).any (fun o =>
        o.mRecvBuffer.spanSize frame.header.mSize.toNat = frame.header.mSize.toNat) = false) :
      RecvResume s (AnyRecvOp.awaitSuspend
        { s with rx := s.rx.asSpan op frame.header.mSize.toNat } (some op) Code.badBufferSize)

theorem receiveDataTask_cases (s : SockScheduler) : RecvResume s s.receiveDataTask := by
  unfold receiveDataTask
  split
  · rename_i r task
    split
    · rename_i error
      exact .done r task error
    · rename_i ok
      exact .header r task (by simpa using ok)
  · rename_i frame e task
    exact .failed frame e task
  · rename_i frame op task
    dsimp only
    split
    · rename_i fits
      exact .body frame op task fits
    · rename_i misfits
      exact .mismatch frame op task (by simpa using misfits)
  · rename_i parked failed served
    refine .idle ?_
    unfold RecvTask.ready
    split
    · rename_i task
      exact absurd task (parked _)
    · rename_i frame r task
      cases r with
      | error e => exact absurd task (failed _ _)
      | ok op => exact absurd task (served _ _)
    · rfl

end SockScheduler
end Coproto
