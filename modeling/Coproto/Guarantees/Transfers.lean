import Coproto.Invariants.Messages

/-!
# Completion and transfer

SocketScheduler.h:814-941, 1036-1137. An operation that completes without error
was transferred in full, and a short transfer ends the direction it happens in,
as long as no transport call succeeds on part of its buffer where the coroutine
goes on: the lambdas `checkSend` and `checkRecv` turn that into `ioError`, but
they take the code by value, so the awaiter is entered with `success`.
-/
namespace Coproto
open SockScheduler Runs Traces

/-- The transport call of the send task. -/
def SendTask.call : SendTask → Option (SendPart × OpId)
  | .sending part op _ => some (part, op)
  | _ => none

/-- The task fills the buffer of an operation. -/
def RecvTask.filling : RecvTask → Bool
  | .body _ _ _ => true
  | _ => false

/-- A transport call succeeds on part of its buffer: one that sends, or one that
receives for an operation or before the scheduler has failed. -/
def SwallowsShort (s : SockScheduler) : Event → Prop
  | .sendReturned ec bt =>
    ∃ call ∈ s.tx.mSendTask.call, (⟨ec, bt, (s.sendBytes call.1 call.2).length⟩ : Xfer).Short
  | .recvReturned ec bt bytes =>
    (recvCall ec bt bytes).Short ∧ (s.mEC.isError = false ∨ s.rx.mRecvTask.filling = true)
  | _ => False

instance (s : SockScheduler) (e : Event) : Decidable (SwallowsShort s e) := by
  rcases e with ⟨⟩ <;> dsimp only [SwallowsShort] <;> infer_instance

/-! ## Sends -/

/-- The message of an operation went out in full: every call made for it, among
them one for its header and one for its whole payload. -/
structure SentInFull (trace : List SendObs) (op : OpId) : Prop where
  full : ∀ part x, .xfer op part x ∈ trace → x.Full
  header : ∃ x, .xfer op .header x ∈ trace ∧ x.size = headerSize
  body : ∃ session data x, .posted op session data ∈ trace ∧ .xfer op .body x ∈ trace ∧
    x.size = data.length

/-- Neither a transfer nor a completion without error. -/
def SendObs.Quiet : SendObs → Prop
  | .xfer _ _ _ => False
  | .completed _ none => False
  | _ => True

/-- What the calls of the current operation have shown so far. -/
def SendTask.Progress (trace : List SendObs) : SendTask → Prop
  | .nextSendOp (some (.ok op)) => ∀ part x, .xfer op part x ∉ trace
  | .sending .control op _ => ∀ part x, .xfer op part x ∉ trace
  | .sending .header op _ => ∀ part x, .xfer op part x ∈ trace → x.Full
  | .sending .body op _ => (∀ part x, .xfer op part x ∈ trace → x.Full) ∧
      ∃ x, .xfer op .header x ∈ trace ∧ x.size = headerSize
  | _ => True

namespace SendSide
variable {tx tx' : SendSide} {op : OpId} {ec : ErrorCode} {nextOp nextOp' : OpId}

/-- Transfers are those of operations up to the current one, completions without
error those of operations before it. -/
structure TransfersOk (tx : SendSide) (nextOp : OpId) : Prop where
  recent : ∀ {p part x}, .xfer p part x ∈ tx.trace →
    p < nextOp ∧ ∀ b, tx.mSendBufferBegin = some b → p ≤ b
  finished : ∀ {p}, .completed p none ∈ tx.trace →
    p < nextOp ∧ ∀ b, tx.mSendBufferBegin = some b → p < b
  sent : ∀ {p}, .completed p none ∈ tx.trace → SentInFull tx.trace p
  long : ∀ {p part x}, .xfer p part x ∈ tx.trace → ¬ x.Short

theorem xfer_of_quiet (grows : Appends SendObs.Quiet tx.trace tx'.trace) {part : SendPart} {x : Xfer}
    (shown : .xfer op part x ∈ tx'.trace) : .xfer op part x ∈ tx.trace :=
  grows.old shown fun quiet => quiet

theorem sentInFull_of_quiet (grows : Appends SendObs.Quiet tx.trace tx'.trace)
    (sent : SentInFull tx.trace op) : SentInFull tx'.trace op := by
  obtain ⟨x, header, size⟩ := sent.header
  obtain ⟨session, data, y, posted, body, size'⟩ := sent.body
  exact ⟨fun part x shown => sent.full part x (xfer_of_quiet grows shown), ⟨x, grows.kept header, size⟩,
    session, data, y, grows.kept posted, grows.kept body, size'⟩

theorem progress_of_quiet (grows : Appends SendObs.Quiet tx.trace tx'.trace) {task : SendTask}
    (progress : task.Progress tx.trace) : task.Progress tx'.trace := by
  unfold SendTask.Progress at progress ⊢
  split
  · exact fun part x shown => progress part x (xfer_of_quiet grows shown)
  · exact fun part x shown => progress part x (xfer_of_quiet grows shown)
  · exact fun part x shown => progress part x (xfer_of_quiet grows shown)
  · obtain ⟨full, x, header, size⟩ := progress
    exact ⟨fun part x shown => full part x (xfer_of_quiet grows shown), x, grows.kept header, size⟩
  · trivial

/-- Steps that transfer nothing; the front of the list is the old one, or new. -/
theorem TransfersOk.quiet (ok : tx.TransfersOk nextOp)
    (grows : Appends SendObs.Quiet tx.trace tx'.trace) (more : nextOp ≤ nextOp')
    (begin : ∀ b, tx'.mSendBufferBegin = some b → tx.mSendBufferBegin = some b ∨ nextOp ≤ b) :
    tx'.TransfersOk nextOp' where
  recent := by
    intro p part x shown
    obtain ⟨old, bound⟩ := ok.recent (xfer_of_quiet grows shown)
    exact ⟨old.trans_le more, fun b first =>
      (begin b first).elim (bound b) fun fresh => (old.trans_le fresh).le⟩
  finished := by
    intro p shown
    obtain ⟨old, bound⟩ := ok.finished (grows.old shown fun quiet => quiet)
    exact ⟨old.trans_le more, fun b first =>
      (begin b first).elim (bound b) fun fresh => old.trans_le fresh⟩
  sent := fun shown => sentInFull_of_quiet grows (ok.sent (grows.old shown fun quiet => quiet))
  long := fun shown => ok.long (xfer_of_quiet grows shown)

theorem quiet_stop (failed : Bool) : Appends SendObs.Quiet tx.trace (tx.stop op failed).trace :=
  appends_stop failed trivial trivial trivial

theorem quiet_arm (op : OpId) (token : StopToken) : Appends SendObs.Quiet tx.trace (tx.arm op token).trace :=
  appends_arm token trivial trivial trivial

/-- The awaiter, when no transfer belongs to what is left on the list. -/
theorem TransfersOk.await {mEC : ErrorCode} (ok : tx.TransfersOk nextOp)
    (behind : ∀ {p part x}, .xfer p part x ∈ tx.trace → tx.mSendBufferBegin ≠ some p)
    (awaits : tx.Await mEC nextOp ec tx') :
    tx'.TransfersOk nextOp ∧ tx'.mSendTask.Progress tx'.trace := by
  have grows : Appends SendObs.Quiet tx.trace tx'.trace :=
    appends_await awaits (fun _ _ _ _ => trivial) fun _ _ _ _ => trivial
  cases awaits with
  | shut failed => exact ⟨ok.quiet grows le_rfl (by simp), trivial⟩
  | take p fine begin =>
    exact ⟨ok.quiet grows le_rfl fun b first => .inl first, fun part x shown => behind shown begin⟩
  | park fine begin => exact ⟨ok.quiet grows le_rfl fun b first => .inl first, trivial⟩

/-- One more call of the current operation has returned. -/
theorem TransfersOk.logXfer (ok : tx.TransfersOk nextOp) (part : SendPart) {x : Xfer}
    (begin : tx.mSendBufferBegin = some op) (posted : op < nextOp) (long : ¬ x.Short) :
    (tx.log (.xfer op part x)).TransfersOk nextOp where
  recent := by
    intro p part' y shown
    rcases List.mem_append.mp shown with old | new
    · exact ok.recent old
    · cases List.mem_singleton.mp new
      exact ⟨posted, fun b first => (Option.some.inj (begin.symm.trans first)).le⟩
  finished := fun shown => ok.finished (by simpa using shown)
  sent := by
    intro p shown
    have old : .completed p none ∈ tx.trace := by simpa using shown
    have before := (ok.finished old).2 op begin
    obtain ⟨x', header, size⟩ := (ok.sent old).header
    obtain ⟨session, data, y, posted', body, size'⟩ := (ok.sent old).body
    refine ⟨fun part' z shown' => ?_, ⟨x', by simp [header], size⟩, session, data, y,
      by simp [posted'], by simp [body], size'⟩
    rcases List.mem_append.mp shown' with old' | new
    · exact (ok.sent old).full part' z old'
    · cases List.mem_singleton.mp new
      exact absurd before (lt_irrefl op)
  long := by
    intro p part' y shown
    rcases List.mem_append.mp shown with old | new
    · exact ok.long old
    · cases List.mem_singleton.mp new
      exact long

/-- The current operation leaves; if it leaves without error it was sent in full. -/
theorem TransfersOk.finish (ok : tx.TransfersOk nextOp) (ec : ErrorCode)
    (links : tx.LinksOk nextOp) (begin : tx.mSendBufferBegin = some op)
    (sent : ec.isError = false → (tx.ops op).isSome → SentInFull tx.trace op) :
    (tx.finish op ec).TransfersOk nextOp ∧
      ∀ {p part x}, .xfer p part x ∈ (tx.finish op ec).trace → p ≤ op := by
  have grows : Appends (fun o => o.Quiet ∨ ec.isError = false ∧ (tx.ops op).isSome ∧
      o = .completed op none) tx.trace (tx.finish op ec).trace := by
    refine appends_finish (fun _ => .inl trivial) fun o live => ?_
    cases bad : ec.isError with
    | true => exact .inl trivial
    | false =>
      cases reported : o.mError with
      | none => exact .inr ⟨rfl, by simp [live], by simp⟩
      | some e => exact .inl (by simp [SendObs.Quiet])
  have xfers : ∀ {p part x}, .xfer p part x ∈ (tx.finish op ec).trace → .xfer p part x ∈ tx.trace :=
    fun shown => grows.old shown (by simp [SendObs.Quiet])
  have sentOf : ∀ {p}, SentInFull tx.trace p → SentInFull (tx.finish op ec).trace p := by
    intro p sent
    obtain ⟨x, header, size⟩ := sent.header
    obtain ⟨session, data, y, posted, body, size'⟩ := sent.body
    exact ⟨fun part x shown => sent.full part x (xfers shown), ⟨x, grows.kept header, size⟩,
      session, data, y, grows.kept posted, grows.kept body, size'⟩
  have done : ∀ {p}, .completed p none ∈ (tx.finish op ec).trace →
      (.completed p none ∈ tx.trace ∨ p = op) ∧ SentInFull (tx.finish op ec).trace p := by
    intro p shown
    rcases grows.old_or shown with old | quiet | ⟨fine, live, same⟩
    · exact ⟨.inl old, sentOf (ok.sent old)⟩
    · exact quiet.elim
    · cases same
      exact ⟨.inr rfl, sentOf (sent fine live)⟩
  have behind : ∀ {p}, p ≤ op → ∀ b, tx.next op = some b → p < b := fun bound b next =>
    bound.trans_lt (links.next next).1
  refine ⟨⟨fun {p part x} shown => ?_, fun {p} shown => ?_, fun shown => (done shown).2,
    fun shown => ok.long (xfers shown)⟩, fun shown => (ok.recent (xfers shown)).2 op begin⟩
  · obtain ⟨old, bound⟩ := ok.recent (xfers shown)
    exact ⟨old, fun b next => (behind (bound op begin) b next).le⟩
  · rcases (done shown).1 with old | same
    · exact ⟨(ok.finished old).1, behind ((ok.finished old).2 op begin).le⟩
    · exact ⟨same ▸ links.begin begin, behind same.le⟩

end SendSide

namespace SockScheduler
variable {s t : SockScheduler}

theorem length_sendBytes_header (s : SockScheduler) (op : OpId) :
    (s.sendBytes .header op).length = headerSize := by
  simp [sendBytes]

theorem sendBytes_body {op : OpId} {o : SendOperation} (live : s.tx.ops op = some o) :
    s.sendBytes .body op = o.mSendBuffer := by
  simp [sendBytes, live]

/-- Transfers and completions of the send direction, in every step. -/
theorem transfers_sendStep {e : Event} (inv : BaseInv s) (posted : s.tx.PostedOk)
    (ok : s.tx.TransfersOk s.nextOp) (progress : s.tx.mSendTask.Progress s.tx.trace)
    (met : ¬ SwallowsShort s e) (step : SendStep s e t) :
    t.tx.TransfersOk t.nextOp ∧ t.tx.mSendTask.Progress t.tx.trace := by
  have taskOk := inv.send.task
  unfold SendSide.TaskOk at taskOk
  cases step with
  | quiet tx mEC nextOp =>
    rw [tx]
    exact ⟨ok.quiet .refl nextOp fun b first => .inl first, progress⟩
  | woken tx first failed nextOp =>
    rw [tx, nextOp]
    refine ⟨ok.quiet (.of_eq (by simp)) le_rfl fun b first => .inl (by simpa using first), ?_⟩
    rw [SendSide.trace_wakeError]
    unfold SendSide.wakeError
    split
    · trivial
    · exact progress
  | rejected session data token ec error tx mEC nextOp =>
    rw [tx, nextOp]
    have grows : Appends SendObs.Quiet s.tx.trace (s.tx.reject s.nextOp session data ec).trace :=
      SendSide.appends_reject session data trivial trivial trivial
    exact ⟨ok.quiet grows (Nat.le_succ _) fun b first => .inl first,
      SendSide.progress_of_quiet grows progress⟩
  | posted session data token slot held full fine tx mEC nextOp =>
    rw [tx, nextOp]
    have logged : Appends SendObs.Quiet s.tx.trace
        ((s.tx.log (.posted s.nextOp session data)).enqueue slot s.nextOp data).trace := by
      rw [SendSide.trace_enqueue]
      exact .one trivial
    have grows := logged.trans (SendSide.quiet_arm s.nextOp token)
    have flags : (s.tx.log (.posted s.nextOp session data)).FlagsOk := inv.send.flags
    rcases SendSide.enqueue_cases flags slot s.nextOp data with
      ⟨_, task, begin⟩ | ⟨_, task, begin⟩
    · refine ⟨ok.quiet grows (Nat.le_succ _) fun b first => .inr ?_, ?_⟩
      · rw [SendSide.arm_mSendBufferBegin, begin, Option.some.injEq] at first
        exact first.le
      · rw [SendSide.arm_mSendTask, task]
        intro part x shown
        exact absurd (ok.recent (SendSide.xfer_of_quiet grows shown)).1 (lt_irrefl _)
    · refine ⟨ok.quiet grows (Nat.le_succ _) fun b first => .inl ?_, ?_⟩
      · rwa [SendSide.arm_mSendBufferBegin, begin] at first
      · rw [SendSide.arm_mSendTask, task]
        exact SendSide.progress_of_quiet grows progress
  | stopped op armed tx mEC nextOp =>
    rw [tx, nextOp]
    refine ⟨ok.quiet (SendSide.quiet_stop _) le_rfl fun b first => .inl (by simpa using first), ?_⟩
    rw [SendSide.stop_mSendTask]
    exact SendSide.progress_of_quiet (SendSide.quiet_stop _) progress
  | closed e task tx mEC nextOp =>
    rw [tx, nextOp]
    exact ⟨ok.quiet .refl le_rfl fun b first => .inl first, trivial⟩
  | started op part task opening tx mEC nextOp =>
    rw [tx, nextOp]
    have grows : Appends SendObs.Quiet s.tx.trace (s.tx.log (.started op)).trace := .one trivial
    refine ⟨ok.quiet grows le_rfl fun b first => .inl first, ?_⟩
    rw [task] at progress
    have fresh : ∀ part x, .xfer op part x ∉ (s.tx.log (.started op)).trace := fun part x shown =>
      progress part x (SendSide.xfer_of_quiet grows shown)
    cases part with
    | control => exact fresh
    | header => exact fun part x shown => absurd shown (fresh part x)
    | body => exact absurd rfl opening
  | @advanced _ ec bt part part' op token task x call full follows tx mEC nextOp =>
    rw [tx, nextOp]
    simp only [task] at taskOk
    rw [task] at progress
    have long : ¬ x.Short := fun short => met ⟨(part, op), by simp [task, SendTask.call], call ▸ short⟩
    have logged := ok.logXfer part taskOk.2 (inv.send.links.begin taskOk.2) long
    refine ⟨logged.quiet .refl le_rfl fun b first => .inl first, ?_⟩
    have fulls : (∀ p y, .xfer op p y ∈ s.tx.trace → y.Full) →
        ∀ p y, .xfer op p y ∈ (s.tx.log (.xfer op part x)).trace → y.Full := by
      intro before p y shown
      rcases List.mem_append.mp shown with old | new
      · exact before p y old
      · cases List.mem_singleton.mp new
        exact full
    rcases follows with ⟨rfl, rfl⟩ | ⟨rfl, rfl⟩
    · exact fulls fun p y shown => absurd shown (progress p y)
    · refine ⟨fulls progress, x, by simp, ?_⟩
      rw [call]
      exact s.length_sendBytes_header op
  | @finished _ ec bt part op token task x call reason awaits mEC nextOp =>
    rw [nextOp]
    simp only [task] at taskOk
    rw [task] at progress
    have long : ¬ x.Short := fun short => met ⟨(part, op), by simp [task, SendTask.call], call ▸ short⟩
    have code : x.ec = ec := by rw [call]
    have logged := ok.logXfer part taskOk.2 (inv.send.links.begin taskOk.2) long
    have links : (s.tx.log (.xfer op part x)).LinksOk s.nextOp :=
      inv.send.links.congr rfl rfl rfl
    obtain ⟨done, bound⟩ := logged.finish ec links taskOk.2 (by
      intro fine live
      obtain ⟨full, rfl⟩ : x.Full ∧ part = .body := by
        rcases reason with body | error | short
        · exact body
        · simp [code, fine] at error
        · exact absurd short long
      obtain ⟨fulls, y, header, size⟩ := progress
      obtain ⟨o, live'⟩ := Option.isSome_iff_exists.mp live
      obtain ⟨session, shown⟩ := posted op o live'
      refine ⟨fun p z shown' => ?_, ⟨y, by simp [header], size⟩, session, o.mSendBuffer, x,
        by simp [shown], by simp, ?_⟩
      · rcases List.mem_append.mp shown' with old | new
        · exact fulls p z old
        · cases List.mem_singleton.mp new
          exact full
      · rw [call, sendBytes_body live'])
    refine done.await (fun shown begin => ?_) awaits
    exact absurd (bound shown) (not_le.mpr (links.next begin).1)

end SockScheduler

/-! ## Receives -/

/-- Neither a call that returned nor a completion without error. -/
def RecvObs.Quiet : RecvObs → Prop
  | .header _ => False
  | .body _ _ _ => False
  | .completed _ none _ => False
  | _ => True

/-- The task starts no further transport call. -/
def RecvTask.closed : RecvTask → Bool
  | .anyRecvOp (some r) => r.isError
  | .done => true
  | _ => false

/-- A frame that the task holds was read in full. -/
def RecvTask.FrameOk : RecvTask → Prop
  | .getRequested frame _ => frame.call.Full ∧ frame.call.size = headerSize
  | .body frame _ _ => frame.call.Full ∧ frame.call.size = headerSize
  | _ => True

/-- Header and body of the message delivered to an operation were received in full. -/
def ReceivedInFull (trace : List RecvObs) (op : OpId) (data : List UInt8) : Prop :=
  ∃ header x, .body op header x ∈ trace ∧ header.Full ∧ header.size = headerSize ∧ x.Full ∧
    x.size = data.length

namespace RecvSide
variable {rx rx' : RecvSide} {op : OpId} {ec mEC : ErrorCode}

structure TransfersOk (rx : RecvSide) : Prop where
  received : ∀ {p data}, .completed p none data ∈ rx.trace → ReceivedInFull rx.trace p data
  long : ∀ {p header x}, .body p header x ∈ rx.trace → ¬ x.Short
  short : ∀ {x}, .header x ∈ rx.trace → x.Short → rx.mRecvTask.closed = true
  frame : rx.mRecvTask.FrameOk

theorem receivedInFull_of_quiet {P : RecvObs → Prop} (grows : Appends P rx.trace rx'.trace)
    {data : List UInt8} (received : ReceivedInFull rx.trace op data) :
    ReceivedInFull rx'.trace op data := by
  obtain ⟨header, x, body, rest⟩ := received
  exact ⟨header, x, grows.kept body, rest⟩

/-- Steps on which no call returns. -/
theorem TransfersOk.quiet (ok : rx.TransfersOk) (grows : Appends RecvObs.Quiet rx.trace rx'.trace)
    (closed : rx.mRecvTask.closed = true → rx'.mRecvTask.closed = true)
    (frame : rx'.mRecvTask.FrameOk) : rx'.TransfersOk where
  received := fun shown =>
    receivedInFull_of_quiet grows (ok.received (grows.old shown fun quiet => quiet))
  long := fun shown => ok.long (grows.old shown fun quiet => quiet)
  short := fun shown short => closed (ok.short (grows.old shown fun quiet => quiet) short)
  frame := frame

theorem TransfersOk.same (ok : rx.TransfersOk) (grows : Appends RecvObs.Quiet rx.trace rx'.trace)
    (task : rx'.mRecvTask = rx.mRecvTask) : rx'.TransfersOk :=
  ok.quiet grows (task ▸ id) (task ▸ ok.frame)

/-- A header or a control block was read. -/
theorem TransfersOk.logHeader (ok : rx.TransfersOk) {x : Xfer}
    (closed : x.Short → rx.mRecvTask.closed = true) : (rx.log (.header x)).TransfersOk where
  received := by
    intro p data shown
    have grows : Appends (fun _ => True) rx.trace (rx.log (.header x)).trace := .one trivial
    exact receivedInFull_of_quiet grows (ok.received (by simpa using shown))
  long := fun shown => ok.long (by simpa using shown)
  short := by
    intro y shown short
    rcases List.mem_append.mp shown with old | new
    · exact ok.short old short
    · cases List.mem_singleton.mp new
      exact closed short
  frame := ok.frame

theorem quiet_stop (op : OpId) (failed : Bool) : Appends RecvObs.Quiet rx.trace (rx.stop op failed).trace :=
  appends_stop failed trivial trivial fun _ _ => trivial

theorem quiet_arm (op : OpId) (token : StopToken) :
    Appends RecvObs.Quiet rx.trace (rx.arm op token).trace :=
  appends_arm token trivial trivial fun _ _ => trivial

theorem quiet_close (ops : List (Nat × OpId)) : Appends RecvObs.Quiet rx.trace (rx.close ops ec).trace :=
  appends_close ops (fun _ _ _ => trivial) fun _ _ _ => trivial

/-- The task moves on from a place where it may still read. -/
theorem TransfersOk.moved (ok : rx.TransfersOk) (reading : rx.mRecvTask.closed = false)
    (task : RecvTask) (frame : task.FrameOk) : (rx.at_ task).TransfersOk :=
  ⟨ok.received, ok.long, fun shown short => absurd (ok.short shown short) (by simp [reading]), frame⟩

theorem finish_task (rx : RecvSide) (op : OpId) (ec : ErrorCode) :
    (rx.finish op ec).mRecvTask = rx.mRecvTask := by
  unfold RecvSide.finish
  split <;> rfl

/-- An operation leaves; if it leaves without error its message was received in full. -/
theorem TransfersOk.finish (ok : rx.TransfersOk) (op : OpId) (ec : ErrorCode)
    (received : ec.isError = false → ∀ o, rx.ops op = some o →
      ReceivedInFull rx.trace op o.mRecvBuffer.mData) : (rx.finish op ec).TransfersOk := by
  have grows : Appends (fun o => o.Quiet ∨ ∃ data, o = .completed op none data ∧
      ReceivedInFull rx.trace op data) rx.trace (rx.finish op ec).trace := by
    refine appends_finish (fun _ => .inl trivial) (fun _ _ _ => .inl trivial) fun fine o live => ?_
    cases reported : o.mRecvBuffer.mExPtr.error with
    | none => exact .inr ⟨_, rfl, received fine o live⟩
    | some e => exact .inl trivial
  refine ⟨fun shown => ?_, fun shown => ok.long (grows.old shown (by simp [RecvObs.Quiet])),
    fun shown short => ?_, ?_⟩
  · rcases grows.old_or shown with old | quiet | ⟨data, same, received⟩
    · exact receivedInFull_of_quiet grows (ok.received old)
    · exact quiet.elim
    · cases same
      exact receivedInFull_of_quiet grows received
  · rw [finish_task]
    exact ok.short (grows.old shown (by simp [RecvObs.Quiet])) short
  · rw [finish_task]
    exact ok.frame

/-- The awaiter closes the direction, or was entered without an error. -/
theorem TransfersOk.await {slots : Nat}
    (ok : ∀ task : RecvTask, (task.closed = true ∨ ec.isError = false ∧ mEC.isError = false) →
      task.FrameOk → (rx.at_ task).TransfersOk)
    (awaits : rx.Await mEC slots ec rx') : rx'.TransfersOk := by
  cases awaits with
  | shut failed code same =>
    have closed := ok (.anyRecvOp (some Code.cancel)) (.inl rfl) trivial
    exact closed.same (quiet_close _) (by
      obtain ⟨queues, heap, trace, shape⟩ :=
        (rx.at_ (.anyRecvOp (some Code.cancel))).close_shape (rx.listing slots) code
      rw [shape])
  | next fine num => exact ok _ (.inr fine) trivial
  | park fine num => exact (ok (.anyRecvOp none) (.inr fine) trivial).same .refl rfl

end RecvSide

namespace SockScheduler
variable {s t : SockScheduler}

/-- Calls and completions of the receive direction, in every step. -/
theorem transfers_recvStep {e : Event} (ok : s.rx.TransfersOk) (met : ¬ SwallowsShort s e)
    (step : RecvStep s e t) : t.rx.TransfersOk := by
  cases step with
  | quiet rx => exact rx ▸ ok
  | woken code error rx =>
    rw [rx]
    refine ok.quiet (.of_eq (by simp)) ?_ ?_
    · unfold RecvSide.wakeError
      split <;> simp_all [RecvTask.closed]
    · have frame := ok.frame
      unfold RecvSide.wakeError
      split
      · trivial
      · rename_i task
        rw [task] at frame
        exact frame
      · exact frame
  | rejected session buffer token ec error rx =>
    rw [rx]
    exact ok.same (RecvSide.appends_reject session trivial trivial trivial) rfl
  | posted session buffer token slot held fine rx =>
    rw [rx]
    have grows : Appends RecvObs.Quiet s.rx.trace ((s.rx.log (.posted s.nextOp session)).enqueue slot
        (s.table.fork slot).mRemoteId s.nextOp buffer).trace := by
      rw [RecvSide.trace_enqueue]
      exact .one trivial
    refine ok.quiet (grows.trans (RecvSide.quiet_arm s.nextOp token)) ?_ ?_
    · rw [RecvSide.arm_mRecvTask]
      unfold RecvSide.enqueue
      split
      · rename_i task
        simp only [RecvSide.log_mRecvTask] at task
        simp [task, RecvTask.closed]
      · rename_i frame task
        simp only [RecvSide.log_mRecvTask] at task
        simp [task, RecvTask.closed]
      · exact id
    · rw [RecvSide.arm_mRecvTask]
      have frame := ok.frame
      unfold RecvSide.enqueue
      split
      · trivial
      · rename_i f task
        simp only [RecvSide.log_mRecvTask] at task
        rw [task] at frame
        split
        · exact frame
        · simpa [task] using frame
      · exact frame
  | stopped op armed rx =>
    rw [rx]
    exact ok.same (RecvSide.quiet_stop op _) (by simp)
  | closed r task error rx =>
    rw [rx]
    exact ok.quiet .refl (fun _ => rfl) trivial
  | header r task fine rx =>
    rw [rx]
    exact ok.moved (by simp [task, RecvTask.closed, fine]) _ trivial
  | abandoned f e task awaits =>
    exact RecvSide.TransfersOk.await (fun p _ frame => ok.moved (by simp [task, RecvTask.closed]) p frame)
      awaits
  | body f op task fits rx =>
    rw [rx]
    have frame := ok.frame
    rw [task] at frame
    exact (ok.moved (by simp [task, RecvTask.closed]) (.body f op s.rx.mRecvToken) frame).same .refl rfl
  | mismatch f op task misfits awaits =>
    refine RecvSide.TransfersOk.await (fun p _ frame => ?_) awaits
    have spanned : ((s.rx.asSpan op f.header.mSize.toNat).renew s.nextStop).TransfersOk :=
      ok.same .refl rfl
    have left := spanned.finish op Code.badBufferSize (by simp)
    exact left.moved (by simp [task, RecvTask.closed]) p frame
  | @headerFailed _ ec bt bytes x call task failed awaits =>
    have reading : s.rx.mRecvTask.closed = false ∧ s.rx.mRecvTask.filling = false := by
      rcases task with ⟨token, task⟩ | ⟨header, token, task⟩ <;>
        simp [task, RecvTask.closed, RecvTask.filling]
    refine RecvSide.TransfersOk.await (fun p how frame => ?_) awaits
    rcases how with closed | ⟨fine, going⟩
    · exact ((ok.moved reading.1 p frame).logHeader fun _ => closed)
    · have long : ¬ x.Short := fun short => met ⟨call ▸ short, .inl going⟩
      exact absurd failed (by simp [fine, long])
  | control x call token task size full control rx =>
    rw [rx]
    have logged := ok.logHeader (x := x) fun short => absurd full.2 short.2
    exact logged.moved (by simp [task, RecvTask.closed]) _ trivial
  | @data _ ec bt bytes x call token task size full data request =>
    have logged := ok.logHeader (x := x) fun short => absurd full.2 short.2
    have reading : (s.rx.log (.header x)).mRecvTask.closed = false := by simp [task, RecvTask.closed]
    have held : x.Full ∧ x.size = headerSize := ⟨full, by rw [call]; exact size⟩
    obtain ⟨rx, result⟩ : ∃ rx, t.rx = rx := ⟨_, rfl⟩
    rw [result] at request ⊢
    cases request with
    | unknown unmapped e error =>
      obtain ⟨ops, listing⟩ : ∃ ops, (s.rx.log (.header x)).listing s.table.mSocketForks_.length = ops :=
        ⟨_, rfl⟩
      rw [listing]
      have quiet : Appends RecvObs.Quiet (s.rx.log (.header x)).trace
          ((s.rx.log (.header x)).close ops Code.badCoprotoMessageHeader).trace :=
        RecvSide.quiet_close ops
      have closed := logged.same (quiet)
        (RecvSide.close_mRecvTask ops)
      exact closed.moved (by rw [RecvSide.close_mRecvTask]; exact reading) _ held
    | failed slot mapped error => exact logged.moved reading _ held
    | park slot mapped fine empty =>
      have parked := logged.moved reading (.getRequested ⟨Header.ofBytes bytes, x⟩ none) held
      exact parked.same .refl rfl
    | serve slot op ops mapped fine cells =>
      have serving := logged.moved reading (.getRequested ⟨Header.ofBytes bytes, x⟩ (some (.ok op))) held
      exact serving.same .refl rfl
  | refused x call header token task size full table code faults init error awaits =>
    have logged := ok.logHeader (x := x) fun short => absurd full.2 short.2
    exact RecvSide.TransfersOk.await
      (fun p _ frame => logged.moved (by simp [task, RecvTask.closed]) p frame) awaits
  | accepted x call header token task size full table code faults init fine rx =>
    rw [rx]
    have logged := ok.logHeader (x := x) fun short => absurd full.2 short.2
    exact logged.moved (by simp [task, RecvTask.closed]) _ trivial
  | @filled _ ec bt bytes x call f op token task size awaits =>
    have long : ¬ x.Short := fun short => met ⟨call ▸ short, .inr (by simp [task, RecvTask.filling])⟩
    have frame := ok.frame
    rw [task] at frame
    refine RecvSide.TransfersOk.await (fun p _ frame' => ?_) awaits
    have logged : (s.rx.log (.body op f.call x)).TransfersOk := by
      have grows : Appends (fun _ => True) s.rx.trace (s.rx.log (.body op f.call x)).trace :=
        .one trivial
      refine ⟨fun shown => ?_, fun shown => ?_, fun shown => ok.short (by simpa using shown), ok.frame⟩
      · exact RecvSide.receivedInFull_of_quiet grows (ok.received (by simpa using shown))
      · rcases List.mem_append.mp shown with old | new
        · exact ok.long old
        · cases List.mem_singleton.mp new
          exact long
    have placed : (((s.rx.log (.body op f.call x)).fill op bytes).renew s.nextStop).TransfersOk :=
      logged.same .refl rfl
    have left := placed.finish op ec (by
      intro fine o live
      have full : x.Full := by
        refine (Xfer.check_ok x).mp ((Bool.eq_false_iff).mpr fun bad => ?_)
        rcases (Xfer.check_isError x).mp bad with error | short
        · rw [call] at error
          simp [fine] at error
        · exact long short
      have filled : o.mRecvBuffer.mData = bytes := by
        simp only [RecvSide.renew_ops, RecvSide.fill_ops, Heap.modify_self,
          Option.map_eq_some_iff] at live
        obtain ⟨a, _, rfl⟩ := live
        rfl
      exact ⟨f.call, x, by simp, frame.1, frame.2, full, by rw [filled, call]⟩)
    refine left.moved ?_ p frame'
    rw [RecvSide.finish_task]
    simp [task, RecvTask.closed]

end SockScheduler

/-- An operation that completes without error was transferred in full; of short
transfers there are only reads of a header after the scheduler has failed, and
nothing is read behind them. -/
theorem completed_transferred {sid : SessionID} {es : List Event} {s : SockScheduler}
    (run : Run step (fun s e => ¬ SwallowsShort s e) (init sid) es s) :
    (∀ op, .completed op none ∈ s.tx.trace → SentInFull s.tx.trace op) ∧
    (∀ op data, .completed op none data ∈ s.rx.trace → ReceivedInFull s.rx.trace op data) ∧
    (∀ op part x, .xfer op part x ∈ s.tx.trace → ¬ x.Short) ∧
    (∀ op header x, .body op header x ∈ s.rx.trace → ¬ x.Short) ∧
    ∀ x, .header x ∈ s.rx.trace → x.Short → s.mEC.isError = true ∧ s.recvSize = none := by
  have all : BaseInv s ∧ s.tx.PostedOk ∧ (s.tx.TransfersOk s.nextOp ∧
      s.tx.mSendTask.Progress s.tx.trace) ∧ s.rx.TransfersOk := by
    refine run.invariant (I := fun s => BaseInv s ∧ s.tx.PostedOk ∧ (s.tx.TransfersOk s.nextOp ∧
      s.tx.mSendTask.Progress s.tx.trace) ∧ s.rx.TransfersOk) ⟨BaseInv.init sid, ?_⟩ ?_
    · rw [BaseInv.init_eq]
      exact ⟨by simp [SendSide.PostedOk], ⟨⟨by simp, by simp, by simp, by simp⟩, trivial⟩,
        ⟨by simp, by simp, by simp, trivial⟩⟩
    · rintro s e t ⟨inv, posted, ⟨send, progress⟩, recv⟩ met taken
      have sent := sendStep inv taken
      exact ⟨inv.step taken, sent.postedOk posted, transfers_sendStep inv posted send progress met sent,
        transfers_recvStep recv met (recvStep inv taken)⟩
  obtain ⟨inv, _, ⟨send, _⟩, recv⟩ := all
  refine ⟨fun op => send.sent, fun op data => recv.received, fun op part x => send.long,
    fun op header x => recv.long, fun x shown short => ?_⟩
  have closed := recv.short shown short
  have taskOk := inv.recv.task
  unfold RecvSide.TaskOk at taskOk
  unfold recvSize
  unfold RecvTask.closed at closed
  split at closed <;> simp_all

/-- A message is sent and a message is received. -/
def exchangeRun : List Event :=
  [.send SessionID.root.mVal [7, 8] .none,
   .run .sendTask,
   .sendReturned Code.success 24,
   .sendReturned Code.success 8,
   .sendReturned Code.success 2,
   .recv SessionID.root.mVal { allowResize := false, size := 1 } .none,
   .run .recvTask,
   .recvReturned Code.success 8 (Header.bytes ⟨0, 1⟩),
   .recvReturned Code.success 16 (controlBlockBytes SessionID.root),
   .recvReturned Code.success 8 (Header.bytes ⟨1, 1⟩),
   .run .recvTask,
   .recvReturned Code.success 1 [9]]

theorem completed_transferred_exchange : ∃ s,
    Run step (fun s e => ¬ SwallowsShort s e) (init SessionID.root) exchangeRun s ∧
      SentInFull s.tx.trace 0 ∧ ReceivedInFull s.rx.trace 1 [9] := by
  have reached : (exec step (fun s e => ¬ SwallowsShort s e) (init SessionID.root)
      exchangeRun).map (fun s => (decide (.completed 0 none ∈ s.tx.trace),
        decide (.completed 1 none [9] ∈ s.rx.trace))) = some (true, true) := by decide
  obtain ⟨s, result, facts⟩ := Option.map_eq_some_iff.mp reached
  simp only [Prod.mk.injEq, decide_eq_true_eq] at facts
  have all := completed_transferred (.of_exec result)
  exact ⟨s, .of_exec result, all.1 0 facts.1, all.2.1 1 [9] facts.2⟩

/-! ## The failing run

The transport takes one of two payload bytes and reports success. -/

def shortBodyRun : List Event :=
  [.send SessionID.root.mVal [7, 8] .none,
   .run .sendTask,
   .sendReturned Code.success 24,
   .sendReturned Code.success 8,
   .sendReturned Code.success 1]

/-- The send completes without error, and the scheduler goes on. -/
theorem shortBodyRun_completes : ∃ s, Run step anyStep (init SessionID.root) shortBodyRun s ∧
    .xfer 0 .body ⟨Code.success, 1, 2⟩ ∈ s.tx.trace ∧ .completed 0 none ∈ s.tx.trace ∧
    s.mEC.isError = false := by
  have reached : (exec step anyStep (init SessionID.root) shortBodyRun).map (fun s =>
      (decide (.xfer 0 .body ⟨Code.success, 1, 2⟩ ∈ s.tx.trace),
        decide (.completed 0 none ∈ s.tx.trace), s.mEC.isError)) = some (true, true, false) := by
    decide
  obtain ⟨s, result, facts⟩ := Option.map_eq_some_iff.mp reached
  simp only [Prod.mk.injEq, decide_eq_true_eq] at facts
  exact ⟨s, .of_exec result, facts⟩

end Coproto
