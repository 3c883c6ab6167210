import Coproto.Guarantees.Transfers
import Coproto.Invariants.Framing
import Coproto.Invariants.RecvFaults

/-!
# The length of a payload

SocketScheduler.h:542-571, 837-928, 1058-1134. `send` refuses an empty payload and takes any
other; the header has 32 bits for the length, and size 0 announces a slot-init message. That the
length fits is asserted by the send task: up to there the send is queued like any other, and the
process ends.
-/
namespace Coproto
open SockScheduler Runs Traces

/-- The assertions on the length of a payload. -/
def Fault.ofLength : Fault → Bool
  | .sendTaskEmpty => true
  | .sendTaskLength => true
  | _ => false

structure LengthOk (l : Link) : Prop where
  /-- The process keeps running. -/
  running : ∀ f ∈ l.sender.faults, f.ofLength = false
  /-- A header has the length of the payload that was posted. -/
  header : ∀ op token, l.sender.tx.mSendTask = .sending .header op token →
    ∃ session data h, .posted op session data ∈ l.sender.tx.trace ∧
      Link.outgoing l.sender = Header.bytes h ∧ h.mSize.toNat = data.length ∧ h.mSize ≠ 0
  body : ∀ op token, l.sender.tx.mSendTask = .sending .body op token →
    ∃ session, .posted op session (Link.outgoing l.sender) ∈ l.sender.tx.trace
  /-- Nothing of a payload is given to the transport before its header went out. -/
  headed : ∀ op x, .xfer op .body x ∈ l.sender.tx.trace →
    ∃ y, .xfer op .header y ∈ l.sender.tx.trace ∧ y.Full
  sent : ∀ op, .completed op none ∈ l.sender.tx.trace → SentInFull l.sender.tx.trace op
  /-- The peer asks for as many bytes as were posted, and these are the next on the wire. -/
  read : ∀ frame op token, l.receiver.rx.mRecvTask = .body frame op token →
    ∃ m : Message, m.Posted l.sender.tx.trace ∧ frame.header.mSize.toNat = m.payload.length ∧
      l.wire.take m.payload.length <+: m.payload
  frame : InFrame l

namespace Link

/-- The sends that are taken up fit into a header, none is linked behind an erased one, and no call
reports success for part of its buffer. -/
def SendsFit (l : Link) : Event → Prop
  | .sender e => (FitsHeader l.sender e ∧ ¬ LosesSend l.sender e) ∧ Lawful l.sender e
  | .receiver e => Lawful l.receiver e

instance (l : Link) (e : Event) : Decidable (l.SendsFit e) := by
  unfold SendsFit
  split <;> infer_instance

end Link

/-! ## The sender -/

namespace SockScheduler
variable {s t : SockScheduler}

theorem not_swallowsShort {e : Event} (lawful : Link.Lawful s e) : ¬ SwallowsShort s e := by
  cases e with
  | sendReturned ec bt =>
    rintro ⟨⟨part, op⟩, call, fine, short⟩
    cases task : s.tx.mSendTask with
    | sending part' op' token =>
      simp only [SendTask.call, task, Option.mem_def, Option.some.injEq, Prod.mk.injEq] at call
      obtain ⟨rfl, rfl⟩ := call
      have moved := lawful.2 fine
      rw [Link.outgoing, task] at moved
      exact short moved
    | _ => simp [SendTask.call, task] at call
  | recvReturned ec bt bytes =>
    rintro ⟨⟨fine, short⟩, _⟩
    exact short (lawful.2 fine)
  | _ => exact id

theorem mem_takes {task : SendTask} {op : OpId} (takes : task = .nextSendOp (some (.ok op))) :
    op ∈ task.takes := by simp [takes, SendTask.takes]

theorem spares_ofLength : Spares Fault.ofLength := by
  intro f aside
  cases f <;> first | rfl | cases aside

/-- The assertions at the start of a send, when its payload fits. -/
theorem taskChecks_ofLength (inv : PayloadInv s) {op : OpId}
    (task : s.tx.mSendTask = .nextSendOp (some (.ok op)))
    (fits : (s.sendBytes .body op).length < 2 ^ 32 - 1) :
    ∀ f ∈ s.taskChecks op, f.ofLength = false := by
  obtain ⟨session, _, nonempty⟩ := inv.front (taken_begin inv.base.send.task task)
  have some_ : (s.sendBytes .body op).length ≠ 0 := fun empty =>
    nonempty (List.length_eq_zero_iff.mp empty)
  intro f failed
  simp only [taskChecks, List.mem_append, or_assoc] at failed
  rcases failed with failed | failed | failed | failed
  · rw [mem_require failed]
    rfl
  · simp [require, some_] at failed
  · simp only [require, fits] at failed
    cases failed
  · rw [mem_require failed]
    rfl

/-- What is sent is headed. -/
def HeadedOk (trace : List SendObs) : Prop :=
  ∀ op x, .xfer op .body x ∈ trace → ∃ y, .xfer op .header y ∈ trace ∧ y.Full

theorem headed_sendStep {e : Event} (step : SendStep s e t) (headed : HeadedOk s.tx.trace)
    (progress : s.tx.mSendTask.Progress s.tx.trace) : HeadedOk t.tx.trace := by
  intro op x shown
  rcases step.calls.old_or shown with old | call
  · obtain ⟨y, header, full⟩ := headed op x old
    exact ⟨y, step.grows.kept header, full⟩
  · obtain ⟨token, task⟩ := call op .body x rfl
    rw [task] at progress
    obtain ⟨full, y, header, _⟩ := progress
    exact ⟨y, step.grows.kept header, full .header y header⟩

/-- All that concerns the lengths on the side that sends. -/
structure LengthInv (s : SockScheduler) : Prop extends StreamInv s where
  armed : s.rx.ArmedOk
  running : ∀ f ∈ s.faults, f.ofLength = false
  transfers : s.tx.TransfersOk s.nextOp
  progress : s.tx.mSendTask.Progress s.tx.trace
  headed : HeadedOk s.tx.trace

theorem LengthInv.init (sid : SessionID) : LengthInv (init sid) := by
  have start := StreamInv.init sid
  rw [BaseInv.init_eq] at start ⊢
  refine ⟨start, ?_, ?_, ?_, trivial, ?_⟩
  · intro op o live
    cases live
  · intro f raised
    cases raised
  · constructor <;> intros <;> contradiction
  · intro op x shown
    cases shown

theorem LengthInv.step {e : Event} (inv : LengthInv s) (lawful : Link.Lawful s e)
    (fits : FitsHeader s e) (met : ¬ LosesSend s e) (taken : step s e = some t) : LengthInv t := by
  have send := sendStep inv.base taken
  have inv' := inv.toStreamInv.step fits met taken
  obtain ⟨transfers, progress⟩ := transfers_sendStep inv.base inv.posted inv.transfers inv.progress
    (not_swallowsShort lawful) send
  refine ⟨inv', armed_recvStep inv.armed (recvStep inv.base taken), ?_, transfers, progress,
    headed_sendStep send inv.headed inv.progress⟩
  obtain ⟨fs, appended, passes⟩ := step_passes spares_ofLength inv.base nofun inv.armed (by
    rintro rfl op task
    exact taskChecks_ofLength inv.toPayloadInv task (fits op (mem_takes task))) taken
  rw [appended]
  intro f member
  rcases List.mem_append.mp member with old | new
  · exact inv.running f old
  · exact passes f new

end SockScheduler

/-! ## Both sides -/

/-- The bytes behind a data header are those of its payload. -/
theorem take_stream {k : UInt32} {m : Message} {bs rest : List UInt8} {items : List Item}
    {q : Position} (stream : OnWire (.body k m) (bs ++ rest) items q) :
    bs.take m.payload.length <+: m.payload := by
  have whole : (bs ++ rest).take m.payload.length <+: m.payload := by
    obtain ⟨all, same⟩ : ∃ all, bs ++ rest = all := ⟨_, rfl⟩
    rw [same] at stream ⊢
    cases stream with
    | nil => rw [List.take_nil]; exact List.nil_prefix
    | cons first rest =>
      cases first
      rw [List.take_left]
  rw [List.take_append] at whole
  exact (List.prefix_append _ _).trans whole

namespace Link
variable {l l' : Link}

structure LengthInv (l : Link) : Prop where
  sender : l.sender.LengthInv
  receiver : BaseInv l.receiver
  frame : InFrame l

theorem LengthInv.init (sid sid' : SessionID) : LengthInv (init sid sid') := by
  refine ⟨SockScheduler.LengthInv.init sid, BaseInv.init sid', ?_⟩
  unfold InFrame Link.init
  simp only [BaseInv.init_eq]
  refine .inr ⟨.between, [], .between, [], trivial, .nil _, nofun, trivial, trivial, ?_⟩
  exact .inr ⟨rfl, trivial⟩

theorem LengthInv.step {e : Event} (inv : LengthInv l) (met : l.SendsFit e)
    (taken : l.step e = some l') : LengthInv l' := by
  cases e with
  | sender e =>
    obtain ⟨-, moved⟩ := Option.ite_none_right_eq_some.mp taken
    obtain ⟨t, went, rfl⟩ := Option.map_eq_some_iff.mp moved
    obtain ⟨⟨fits, keeps⟩, lawful⟩ := met
    constructor
    · exact inv.sender.step lawful fits keeps went
    · exact inv.receiver
    · exact inFrame_sender inv.sender.toStreamInv inv.frame lawful went
  | receiver e =>
    obtain ⟨⟨-, arrives⟩, moved⟩ := Option.ite_none_right_eq_some.mp taken
    obtain ⟨t, went, rfl⟩ := Option.map_eq_some_iff.mp moved
    constructor
    · exact inv.sender
    · exact inv.receiver.step went
    · exact inFrame_receiver inv.receiver inv.frame met arrives went

theorem LengthInv.lengthOk (inv : LengthInv l) : LengthOk l where
  running := inv.sender.running
  header := by
    intro op token task
    obtain ⟨session, shown, nonempty, fits⟩ := inv.sender.toStreamInv.message task
    have size := toNat_ofNat_length fits
    refine ⟨session, _, ⟨UInt32.ofNat (l.sender.sendBytes .body op).length,
      (l.sender.table.fork (l.sender.tx.slotOf op)).mLocalId⟩, shown, ?_, size, ?_⟩
    · rw [outgoing, task]
      rfl
    intro zero
    have zero : UInt32.ofNat (l.sender.sendBytes .body op).length = 0 := zero
    rw [zero] at size
    exact nonempty (List.length_eq_zero_iff.mp size.symm)
  body := by
    intro op token task
    obtain ⟨session, shown, _⟩ := inv.sender.toStreamInv.message task
    exact ⟨session, by rw [outgoing, task]; exact shown⟩
  headed := inv.sender.headed
  sent := fun _ => inv.sender.transfers.sent
  read := by
    intro frame op token task
    rcases inv.frame with ended | ⟨p, items, q, rest, reads, stream, _, known, _⟩
    · rw [task] at ended
      exact ended.elim
    · rw [task] at reads
      cases p with
      | body k m => exact ⟨m, known.1, reads.2, take_stream stream⟩
      | _ => exact reads.elim
  frame := inv.frame

end Link

/-- While the payloads that are taken up fit into a header, headers carry the lengths that were
posted, and the peer stays in frame. -/
theorem lengths_kept {sid sid' : SessionID} {es : List Link.Event} {l : Link}
    (run : Run Link.step Link.SendsFit (Link.init sid sid') es l) : LengthOk l := by
  have inv : l.LengthInv :=
    run.invariant (.init sid sid') fun _ _ _ inv met taken => inv.step met taken
  exact inv.lengthOk

/-- A message of two bytes, whose header and body the peer reads. -/
def messageRun : List Link.Event :=
  [.sender (.send SessionID.root.mVal [7, 8] .none),
   .sender (.run .sendTask),
   .sender (.sendReturned Code.success 24),
   .sender (.sendReturned Code.success 8),
   .sender (.sendReturned Code.success 2),
   .receiver (.recv SessionID.root.mVal { allowResize := false, size := 2 } .none),
   .receiver (.run .recvTask),
   .receiver (.recvReturned Code.success 8 (Header.bytes ⟨0, 1⟩)),
   .receiver (.recvReturned Code.success 16 (controlBlockBytes SessionID.root)),
   .receiver (.recvReturned Code.success 8 (Header.bytes ⟨2, 1⟩)),
   .receiver (.run .recvTask)]

theorem lengths_kept_message : ∃ l,
    Run Link.step Link.SendsFit (Link.init SessionID.root SessionID.root) messageRun l ∧
      l.receiver.rx.mRecvTask.filling = true ∧ l.wire = [7, 8] ∧ LengthOk l := by
  have reached : (exec Link.step Link.SendsFit (Link.init SessionID.root SessionID.root)
      messageRun).map (fun l => (l.receiver.rx.mRecvTask.filling, l.wire)) = some (true, [7, 8]) := by
    decide +kernel
  obtain ⟨l, result, facts⟩ := Option.map_eq_some_iff.mp reached
  simp only [Prod.mk.injEq] at facts
  exact ⟨l, .of_exec result, facts.1, facts.2, lengths_kept (.of_exec result)⟩

/-! ## The failing runs -/

/-- A send that the task takes up with a payload that does not fit. -/
def longRun (data : List UInt8) : List Link.Event :=
  [.sender (.send SessionID.root.mVal data .none),
   .sender (.run .sendTask)]

theorem longRun_faults (b : UInt8) (bs : List UInt8) :
    (exec Link.step anyStep (Link.init SessionID.root SessionID.root) (longRun (b :: bs))).map
      (fun l => l.sender.faults) =
        some (require ((b :: bs).length < 2 ^ 32 - 1) .sendTaskLength ++ []) := by
  rfl

/-- It is not refused: the process ends in an assertion. -/
theorem longRun_ends (data : List UInt8) (long : 2 ^ 32 - 1 ≤ data.length) : ∃ l,
    Run Link.step anyStep (Link.init SessionID.root SessionID.root) (longRun data) l ∧
      .sendTaskLength ∈ l.sender.faults := by
  cases data with
  | nil => simp at long
  | cons b bs =>
    obtain ⟨l, result, faults⟩ := Option.map_eq_some_iff.mp (longRun_faults b bs)
    have failed : ¬ (b :: bs).length < 2 ^ 32 - 1 := Nat.not_lt.mpr long
    refine ⟨l, .of_exec result, ?_⟩
    rw [faults, List.append_nil]
    simp only [require, failed, decide_false, Bool.false_eq_true, if_false]
    exact List.mem_singleton_self _

/-- A payload of 4 GiB. -/
theorem longRun_not_ok : ∃ l,
    Run Link.step anyStep (Link.init SessionID.root SessionID.root)
      (longRun (List.replicate (2 ^ 32) 0)) l ∧ ¬ LengthOk l := by
  obtain ⟨l, run, ended⟩ := longRun_ends (List.replicate (2 ^ 32) 0)
    (by rw [List.length_replicate]; decide)
  refine ⟨l, run, fun ok => ?_⟩
  have fine := ok.running _ ended
  cases fine

/-- A call that reports success for half of the header: the task goes by what the call reports. -/
def shortRun : List Link.Event :=
  [.sender (.send SessionID.root.mVal [7] .none),
   .sender (.run .sendTask),
   .sender (.sendReturned Code.success 24),
   .sender (.sendReturned Code.success 4)]

/-- The send completes without error, and its header is not on the wire. -/
theorem shortRun_not_ok : ∃ l,
    Run Link.step anyStep (Link.init SessionID.root SessionID.root) shortRun l ∧ ¬ LengthOk l := by
  have reached : (exec Link.step anyStep (Link.init SessionID.root SessionID.root) shortRun).map
      (fun l => l.sender.tx.trace.drop 3) =
        some [.xfer 0 .header ⟨Code.success, 4, 8⟩, .completed 0 none] := by
    decide +kernel
  obtain ⟨l, result, trace⟩ := Option.map_eq_some_iff.mp reached
  have header : .xfer 0 .header ⟨Code.success, 4, 8⟩ ∈ l.sender.tx.trace :=
    List.mem_of_mem_drop (i := 3) (trace ▸ List.mem_cons_self)
  have completed : .completed 0 none ∈ l.sender.tx.trace :=
    List.mem_of_mem_drop (i := 3) (trace ▸ List.mem_cons_of_mem _ (List.mem_singleton_self _))
  refine ⟨l, .of_exec result, fun ok => ?_⟩
  have full := ((ok.sent 0 completed).full .header _ header).2
  simp at full

end Coproto
