import Coproto.Invariants.PlainInv
import Coproto.Source.Duplex

/-!
# The stream of a conversation

What is on the wire, when neither end fails: besides the lengths, every slot id is announced once,
for one session, before a header uses it. `Spot` is a place in the stream and what was announced up
to there; `Reads` and `Writes` put the two tasks at such a place.
-/
namespace Coproto
open SockScheduler Traces

/-- A place in the stream, and the sessions that were announced before it. -/
structure Spot where
  pos : Position
  names : UInt32 → Option (UInt64 × UInt64)

inductive Phrase : Spot → List UInt8 → List Item → Spot → Prop
  | opens (names : UInt32 → Option (UInt64 × UInt64)) (k : UInt32) (v : UInt64 × UInt64) :
      Phrase ⟨.between, names⟩ (Header.bytes ⟨0, k⟩) [.opens k v] ⟨.control k v, names⟩
  | control (names : UInt32 → Option (UInt64 × UInt64)) (k : UInt32) (id : SessionID)
      (assigned : k ≠ unassigned) (free : names k = none) (new : ∀ j, names j ≠ some id.mVal) :
      Phrase ⟨.control k id.mVal, names⟩ (controlBlockBytes id) []
        ⟨.between, fun j => if j = k then some id.mVal else names j⟩
  | header (names : UInt32 → Option (UInt64 × UInt64)) (k size : UInt32) (m : Message)
      (fits : size.toNat = m.payload.length) (nonempty : m.payload ≠ [])
      (named : names k = some m.session) :
      Phrase ⟨.between, names⟩ (Header.bytes ⟨size, k⟩) [.data k m] ⟨.body k m, names⟩
  | body (names : UInt32 → Option (UInt64 × UInt64)) (k : UInt32) (m : Message)
      (nonempty : m.payload ≠ []) : Phrase ⟨.body k m, names⟩ m.payload [] ⟨.between, names⟩

/-- The stream from one spot to another. -/
abbrev Speech : Spot → List UInt8 → List Item → Spot → Prop := Pieces.Path Phrase

/-- The header of a message names its session. -/
def Spot.Ok (p : Spot) : Prop :=
  ∀ k m, p.pos = .body k m → p.names k = some m.session ∧ m.payload ≠ []

/-- The message whose header is through. -/
def Position.message : Position → List Message
  | .body _ m => [m]
  | _ => []

def Item.message : Item → Option Message
  | .data _ m => some m
  | .opens _ _ => none

def messagesOf (items : List Item) : List Message := items.filterMap Item.message

theorem messagesOf_append (xs ys : List Item) :
    messagesOf (xs ++ ys) = messagesOf xs ++ messagesOf ys := List.filterMap_append

namespace Phrase
variable {p q : Spot} {bs : List UInt8} {xs : List Item}

theorem piece (phrase : Phrase p bs xs q) : Piece p.pos bs xs q.pos := by
  cases phrase with
  | opens names k v => exact .opens k v
  | control names k id assigned free new => exact .control k id
  | header names k size m fits nonempty named => exact .header k size m fits nonempty
  | body names k m nonempty => exact .body k m

theorem ok (phrase : Phrase p bs xs q) : q.Ok := by
  intro k m here
  cases phrase with
  | opens names k' v => cases here
  | control names k' id assigned free new => cases here
  | header names k' size m' fits nonempty named =>
    cases here
    exact ⟨named, nonempty⟩
  | body names k' m' nonempty => cases here

theorem nonempty (phrase : Phrase p bs xs q) : bs ≠ [] := by
  intro empty
  have length := phrase.piece.length_eq
  cases phrase with
  | body names k m nonempty => exact nonempty empty
  | opens names k v =>
    rw [empty] at length
    cases length
  | control names k id assigned free new =>
    rw [empty] at length
    cases length
  | header names k size m fits nonempty named =>
    rw [empty] at length
    cases length

end Phrase

namespace Speech
variable {p q : Spot} {bs cs : List UInt8} {xs : List Item}

theorem ok (speech : Speech p bs xs q) (start : p.Ok) : q.Ok := by
  induction speech with
  | nil p => exact start
  | cons first rest ih => exact ih first.ok

/-- Nothing on the wire: both tasks are at the same spot. -/
theorem of_nil (speech : Speech p [] xs q) : p = q ∧ xs = [] := by
  obtain ⟨all, empty⟩ : ∃ all : List UInt8, [] = all := ⟨_, rfl⟩
  rw [empty] at speech
  cases speech with
  | nil => exact ⟨rfl, rfl⟩
  | cons first rest => exact absurd (List.append_eq_nil_iff.mp empty.symm).1 first.nonempty

/-- If there is anything on the wire, then the whole of the next piece. -/
theorem size_le (speech : Speech p bs xs q) (some_ : bs ≠ []) : p.pos.size ≤ bs.length := by
  cases speech with
  | nil => exact absurd rfl some_
  | cons first rest =>
    rw [List.length_append, first.piece.length_eq]
    exact Nat.le_add_right _ _

end Speech

/-! ## The writer -/

/-- The send whose slot-init message is in flight. -/
def SendTask.opening : SendTask → Option OpId
  | .sending .control op _ => some op
  | _ => none

/-- The send that was started and whose header is not through. -/
def SendTask.unheaded : SendTask → List OpId
  | .sending .control op _ => [op]
  | .sending .header op _ => [op]
  | _ => []

namespace SockScheduler
variable {s t : SockScheduler} {e : Event} {q : Spot}

/-- The slot-init message of the session is in flight. -/
def Opening (s : SockScheduler) (v : UInt64 × UInt64) : Prop :=
  ∃ op data, s.tx.mSendTask.opening = some op ∧ .posted op v data ∈ s.tx.trace

theorem opening_eq_some {task : SendTask} {op : OpId} (opening : task.opening = some op) :
    ∃ token, task = .sending .control op token := by
  unfold SendTask.opening at opening
  split at opening
  · cases opening
    exact ⟨_, rfl⟩
  · cases opening

theorem not_opening (idle : s.tx.mSendTask.opening = none) (v : UInt64 × UInt64) :
    ¬ s.Opening v := by
  rintro ⟨op, _, opening, _⟩
  rw [idle] at opening
  cases opening

theorem opening_congr (inv : PlainInv s) (inv' : PlainInv t)
    (grows : Appends (fun _ => True) s.tx.trace t.tx.trace)
    (same : t.tx.mSendTask.opening = s.tx.mSendTask.opening) (v : UInt64 × UInt64) :
    t.Opening v ↔ s.Opening v := by
  constructor
  · rintro ⟨op, data, opening, shown⟩
    rw [same] at opening
    obtain ⟨token, task⟩ := opening_eq_some opening
    obtain ⟨session, data', _, shown', _⟩ := inv.opened .control op token task
    obtain ⟨rfl, _⟩ := posted_once inv'.list.books shown (grows.kept shown')
    exact ⟨op, data', opening, shown'⟩
  · rintro ⟨op, data, opening, shown⟩
    exact ⟨op, data, same.trans opening, grows.kept shown⟩

/-- The send task is at this spot of the stream. -/
structure Writes (s : SockScheduler) (q : Spot) : Prop where
  task : s.tx.mSendTask.At q.pos
  names : ∀ k v, q.names k = some v ↔ s.table.Announces k v ∧ ¬ s.Opening v
  posted : ∀ m ∈ q.pos.message, m.Posted s.tx.trace

/-- The slot of the send under way. -/
theorem PlainInv.announced_slot (inv : PlainInv s) {part : SendPart} {op : OpId} {token : StopId}
    (task : s.tx.mSendTask = .sending part op token) :
    ∃ session, .posted op session (s.sendBytes .body op) ∈ s.tx.trace ∧
      s.sendBytes .body op ≠ [] ∧ (s.sendBytes .body op).length < 2 ^ 32 - 1 ∧
      (s.table.fork (s.tx.slotOf op)).mSessionID.mVal = session ∧
      (s.table.fork (s.tx.slotOf op)).mLocalId ≠ unassigned ∧
      s.table.Announces (s.table.fork (s.tx.slotOf op)).mLocalId session := by
  obtain ⟨session, shown, full, fits, found, key, assigned⟩ :=
    inv.slot (sending_begin inv.base.send.task task)
  obtain ⟨session', _, k, shown', told⟩ := inv.opened part op token task
  obtain ⟨rfl, _⟩ := posted_once inv.list.books shown shown'
  refine ⟨session, shown, full, fits, key, assigned, ?_⟩
  obtain ⟨i, f, there, initiated, _, session'⟩ := told
  have here := (inv.tables.ids session i).mpr ⟨f, there, session'⟩
  have same := (inv.tables.ids session _).mpr ⟨_, found, key⟩
  rw [here, Option.some.injEq] at same
  subst same
  rw [found, Option.some.injEq] at there
  subst there
  exact ⟨_, _, found, initiated, rfl, key⟩

theorem written_eq_nil (calls : ∀ ec bt, e ≠ .sendReturned ec bt) : Link.written s e = [] := by
  cases e with
  | sendReturned ec bt => exact absurd rfl (calls ec bt)
  | _ => rfl

/-- What the send task has written takes it from one spot to another. -/
def Spoke (s t : SockScheduler) (q : Spot) (bytes : List UInt8) : Prop :=
  ∃ items q', Speech q bytes items q' ∧ Writes t q' ∧
    (∀ m ∈ messagesOf items, m.Posted t.tx.trace) ∧
    ∀ ops, s.tx.startedOps = ops ++ s.tx.mSendTask.unheaded →
      t.tx.startedOps = ops ++ (messagesOf items).map Message.op ++ t.tx.mSendTask.unheaded

theorem Spoke.of_started (writes : Writes t q)
    (started : ∀ ops, s.tx.startedOps = ops ++ s.tx.mSendTask.unheaded →
      t.tx.startedOps = ops ++ t.tx.mSendTask.unheaded) : Spoke s t q [] := by
  refine ⟨[], q, .nil q, writes, nofun, fun ops split => ?_⟩
  rw [started ops split]
  simp [messagesOf]

theorem Spoke.silent (writes : Writes t q) (started : t.tx.startedOps = s.tx.startedOps)
    (unheaded : t.tx.mSendTask.unheaded = s.tx.mSendTask.unheaded) : Spoke s t q [] :=
  .of_started writes fun ops split => by rw [started, unheaded, split]

/-- Steps between two calls, other than the start of a send. -/
theorem Writes.keep (writes : Writes s q) (inv : PlainInv s) (inv' : PlainInv t)
    (send : SendStep s e t) (calls : ∀ ec bt, e ≠ .sendReturned ec bt)
    (opening : t.tx.mSendTask.opening = s.tx.mSendTask.opening)
    (told : ∀ k v, t.table.Announces k v ↔ s.table.Announces k v) : Writes t q where
  task := by
    rcases at_sendStep inv.base.send.flags send calls writes.task with ended | there
    · exact absurd ended inv'.sending
    · exact there
  names k v := by
    rw [writes.names, told, opening_congr inv inv' send.grows opening]
  posted m here := send.grows.kept (writes.posted m here)

/-- A slot that is opened: its session is on its way. -/
theorem Writes.control (writes : Writes s q) (inv : PlainInv s) (inv' : PlainInv t)
    (send : SendStep s (.run .sendTask) t) {op : OpId}
    (task : s.tx.mSendTask = .nextSendOp (some (.ok op)))
    (unopened : (s.table.fork (s.tx.slotOf op)).mInitiated = false)
    (goes : t.tx.mSendTask = .sending .control op s.tx.mSendToken)
    (table : t.table = s.table.modify (s.tx.slotOf op) fun f => { f with mInitiated := true }) :
    Writes t q where
  task := by
    rcases at_sendStep inv.base.send.flags send nofun writes.task with ended | there
    · exact absurd ended inv'.sending
    · exact there
  names k v := by
    obtain ⟨session, shown, _, _, found, key, _⟩ := inv.slot (taken_begin inv.base.send.task task)
    -- the session of this send, and no other one, is being announced
    have opens : t.Opening v ↔ v = session := by
      constructor
      · rintro ⟨op', data, opening, shown'⟩
        rw [goes] at opening
        cases opening
        exact (posted_once inv'.list.books shown' (send.grows.kept shown)).1
      · rintro rfl
        exact ⟨op, _, by rw [goes]; rfl, send.grows.kept shown⟩
    have fresh : ∀ j, ¬ s.table.Announces j session := by
      rintro j ⟨i, f, there, initiated, _, session'⟩
      have here := (inv.tables.ids session i).mpr ⟨f, there, session'⟩
      have same := (inv.tables.ids session _).mpr ⟨_, found, key⟩
      rw [here, Option.some.injEq] at same
      subst same
      rw [found, Option.some.injEq] at there
      subst there
      rw [unopened] at initiated
      cases initiated
    rw [writes.names, table, ForkTable.announces_initiate found, opens]
    constructor
    · rintro ⟨told, _⟩
      exact ⟨.inl told, fun same => fresh k (same ▸ told)⟩
    · rintro ⟨told | ⟨_, same⟩, other⟩
      · exact ⟨told, not_opening (by rw [task]; rfl) v⟩
      · exact absurd (same.symm.trans key) other
  posted m here := send.grows.kept (writes.posted m here)

/-- The slot-init message is written. -/
theorem Writes.opened (writes : Writes s q) (inv : PlainInv s) {op : OpId}
    {token : StopId} (task : s.tx.mSendTask = .sending .control op token)
    (goes : t.tx.mSendTask = .sending .header op s.tx.mSendToken) (table : t.table = s.table)
    (started : t.tx.startedOps = s.tx.startedOps) : Spoke s t q (s.sendBytes .control op) := by
  obtain ⟨session, shown, _, _, key, assigned, told⟩ := inv.announced_slot task
  obtain ⟨pos, names⟩ := q
  have there := writes.task
  rw [task] at there
  cases pos with
  | between =>
    obtain ⟨k, number⟩ : ∃ k, (s.table.fork (s.tx.slotOf op)).mLocalId = k := ⟨_, rfl⟩
    obtain ⟨id, child⟩ : ∃ id, (s.table.fork (s.tx.slotOf op)).mSessionID = id := ⟨_, rfl⟩
    rw [number] at assigned told
    rw [child] at key
    subst key
    have opening : s.Opening id.mVal := ⟨op, _, by rw [task]; rfl, shown⟩
    -- neither the number nor the session has been used
    have new : ∀ j, names j ≠ some id.mVal := by
      intro j same
      exact ((writes.names j id.mVal).mp same).2 opening
    have free : names k = none := by
      cases named : names k with
      | none => rfl
      | some w =>
        have old := ((writes.names k w).mp named).1
        obtain ⟨numbers, _⟩ := inv.tables.locals inv.few
        rw [old.unique numbers inv.announced told] at named
        exact absurd named (new k)
    have speech := (Pieces.Path.single (Phrase.opens names k id.mVal)).snoc
      (Phrase.control names k id assigned free new)
    have bytes : s.sendBytes .control op = Header.bytes ⟨0, k⟩ ++ controlBlockBytes id := by
      rw [← number, ← child]
      rfl
    rw [bytes]
    refine ⟨_, _, speech, ⟨by rw [goes]; trivial, fun j w => ?_, nofun⟩, nofun, fun ops split => ?_⟩
    · have quiet : ¬ t.Opening w := not_opening (by rw [goes]; rfl) w
      show (if j = k then some _ else names j) = some w ↔ _
      rw [table]
      split
      · rename_i same
        subst same
        constructor
        · intro named
          cases named
          exact ⟨told, quiet⟩
        · rintro ⟨told', _⟩
          obtain ⟨numbers, _⟩ := inv.tables.locals inv.few
          rw [told'.unique numbers inv.announced told]
      · rename_i other
        rw [writes.names]
        constructor
        · rintro ⟨told', _⟩
          exact ⟨told', quiet⟩
        · rintro ⟨told', _⟩
          refine ⟨told', ?_⟩
          rintro ⟨op', data, opening', shown'⟩
          rw [task] at opening'
          cases opening'
          obtain ⟨rfl, _⟩ := posted_once inv.list.books shown' shown
          exact other (told'.slot_unique inv.tables.ids told)
    · rw [started, split, goes, task]
      simp [messagesOf, Item.message, SendTask.unheaded]
  | _ => cases there

/-- The header of a message is written. -/
theorem Writes.header (writes : Writes s q) (inv : PlainInv s) (grows : Appends (fun _ => True)
    s.tx.trace t.tx.trace) {op : OpId} {token : StopId}
    (task : s.tx.mSendTask = .sending .header op token)
    (goes : t.tx.mSendTask = .sending .body op s.tx.mSendToken) (table : t.table = s.table)
    (started : t.tx.startedOps = s.tx.startedOps) : Spoke s t q (s.sendBytes .header op) := by
  obtain ⟨session, shown, full, fits, _, _, told⟩ := inv.announced_slot task
  obtain ⟨pos, names⟩ := q
  have there := writes.task
  rw [task] at there
  cases pos with
  | between =>
    have idle : ∀ w, ¬ s.Opening w := not_opening (by rw [task]; rfl)
    have named := (writes.names _ session).mpr ⟨told, idle session⟩
    have speech := Pieces.Path.single (Phrase.header names _ (UInt32.ofNat (s.sendBytes .body
      op).length) ⟨op, session, s.sendBytes .body op⟩ (toNat_ofNat_length fits) full named)
    have posted : (⟨op, session, s.sendBytes .body op⟩ : Message).Posted t.tx.trace :=
      grows.kept shown
    refine ⟨_, _, speech, ⟨by rw [goes]; rfl, fun j w => ?_, ?_⟩, ?_, fun ops split => ?_⟩
    · have quiet : ¬ t.Opening w := not_opening (by rw [goes]; rfl) w
      have before := writes.names j w
      simp only [table, quiet, idle w] at before ⊢
      exact before
    · intro m here
      cases List.mem_singleton.mp here
      exact posted
    · intro m here
      cases List.mem_singleton.mp here
      exact posted
    · rw [started, split, goes, task]
      simp [messagesOf, Item.message, SendTask.unheaded]
  | _ => cases there

/-- The payload is written. -/
theorem Writes.body (writes : Writes s q) (inv : PlainInv s) (ok : q.Ok) {op : OpId} {token : StopId}
    (task : s.tx.mSendTask = .sending .body op token) (opening : t.tx.mSendTask.opening = none)
    (unheaded : t.tx.mSendTask.unheaded = []) (between : t.tx.mSendTask.At .between)
    (table : t.table = s.table) (started : t.tx.startedOps = s.tx.startedOps) :
    Spoke s t q (s.sendBytes .body op) := by
  obtain ⟨session, shown, _⟩ := inv.announced_slot task
  obtain ⟨pos, names⟩ := q
  have there := writes.task
  rw [task] at there
  cases pos with
  | body k m =>
    obtain rfl : m.op = op := there
    have posted := writes.posted m (List.mem_singleton_self m)
    obtain ⟨_, payload⟩ := posted_once inv.list.books posted shown
    have speech := Pieces.Path.single (Phrase.body names k m (ok k m rfl).2)
    rw [← payload]
    refine ⟨_, _, speech, ⟨between, fun j w => ?_, nofun⟩, nofun, fun ops split => ?_⟩
    · have before := writes.names j w
      have quiet : ¬ t.Opening w := not_opening opening w
      have idle : ¬ s.Opening w := not_opening (by rw [task]; rfl) w
      simp only [table, quiet, idle] at before ⊢
      exact before
    · rw [started, split, unheaded, task]
      simp [messagesOf, SendTask.unheaded]
  | _ => cases there

/-- A step that the send task has no part in. -/
theorem Writes.other (writes : Writes s q) (inv : PlainInv s) (inv' : PlainInv t)
    (send : SendStep s e t) (calls : ∀ ec bt, e ≠ .sendReturned ec bt) (tx : t.tx = s.tx)
    (told : ∀ k v, t.table.Announces k v ↔ s.table.Announces k v) :
    Spoke s t q (Link.written s e) := by
  rw [written_eq_nil calls]
  exact .silent (writes.keep inv inv' send calls (by rw [tx]) told) (by rw [tx]) (by rw [tx])

theorem PlainStep.speaks (step : PlainStep s e t) (inv : PlainInv s) (inv' : PlainInv t)
    (send : SendStep s e t) (ok : q.Ok) (writes : Writes s q) : Spoke s t q (Link.written s e) := by
  cases step with
  | idle call rx tx table held nextOp =>
    refine writes.other inv inv' send (fun ec bt same => ?_) tx fun k v => by rw [table]
    rw [same] at call
    cases call
  | forked session slot slotHeld few free rx tx table held nextOp =>
    refine writes.other inv inv' send (fun _ _ call => by cases call) tx fun k v => ?_
    rw [table]
    exact ForkTable.announces_forkSlot inv.tables.ids inv.announced free
  | recvs same step =>
    refine writes.other inv inv' send (fun ec bt call => ?_) same.tx fun k v => ?_
    · rw [call] at step
      cases step
    · cases step with
      | opened x header token task size fresh rx table nextOp =>
        rw [table]
        exact ForkTable.announces_initRemoteSocketFork header.mForkId
      | _ =>
        rename_i table _
        rw [table]
  | sends same step =>
    cases step with
    | sent session data token slot slotHeld full fits live tx table nextOp =>
      have trace : t.tx.trace = s.tx.trace ++ [.posted s.nextOp session data] := by
        rw [tx, SendSide.arm_trace live, SendSide.trace_enqueue]
        rfl
      have started : t.tx.startedOps = s.tx.startedOps :=
        SendSide.startedOps_grows ⟨_, trace, by simp [SendObs.starting]⟩
      -- the task is as before, or it was parked and is now given the send
      have tasks : t.tx.mSendTask.opening = s.tx.mSendTask.opening ∧
          t.tx.mSendTask.unheaded = s.tx.mSendTask.unheaded := by
        rw [tx, SendSide.arm_mSendTask]
        have flags : (s.tx.log (.posted s.nextOp session data)).FlagsOk := inv.base.send.flags
        rcases SendSide.enqueue_cases flags slot s.nextOp data with ⟨parked, woken, _⟩ | ⟨_, same, _⟩
        · have parked : s.tx.mSendTask = .nextSendOp none := parked
          rw [woken, parked]
          exact ⟨rfl, rfl⟩
        · rw [same]
          exact ⟨rfl, rfl⟩
      have kept : Writes t q := writes.keep inv inv' send (fun _ _ call => by cases call) tasks.1
        fun k v => by rw [table]
      exact .silent kept started tasks.2
    | control op task unopened tx table nextOp =>
      have goes : t.tx.mSendTask = .sending .control op s.tx.mSendToken := by rw [tx]; rfl
      have started : t.tx.startedOps = s.tx.startedOps ++ [op] := by
        rw [tx]
        simp [SendSide.startedOps, SendObs.starting]
      refine .of_started (writes.control inv inv' send task unopened goes table) fun ops split => ?_
      rw [started, split, task, goes]
      simp [SendTask.unheaded]
    | header op task opened tx table nextOp =>
      have goes : t.tx.mSendTask = .sending .header op s.tx.mSendToken := by rw [tx]; rfl
      have started : t.tx.startedOps = s.tx.startedOps ++ [op] := by
        rw [tx]
        simp [SendSide.startedOps, SendObs.starting]
      have kept : Writes t q := writes.keep inv inv' send (fun _ _ call => by cases call)
        (by rw [goes, task]; rfl) fun k v => by rw [table]
      refine .of_started kept fun ops split => ?_
      rw [started, split, task, goes]
      simp [SendTask.unheaded]
    | advanced part part' op token task x all follows tx table nextOp =>
      have started : t.tx.startedOps = s.tx.startedOps := by
        rw [tx]
        exact SendSide.startedOps_grows (.one rfl)
      have out : Link.outgoing s = s.sendBytes part op := by simp [Link.outgoing, task]
      rw [Link.written, out, all, List.take_length]
      rcases follows with ⟨rfl, rfl⟩ | ⟨rfl, rfl⟩
      · exact writes.opened inv task (by rw [tx]; rfl) table started
      · exact writes.header inv send.grows task (by rw [tx]; rfl) table started
    | @finished _ ec bt op token task x all fine awaits table nextOp =>
      have out : Link.outgoing s = s.sendBytes .body op := by simp [Link.outgoing, task]
      rw [Link.written, out, all, List.take_length]
      have started : t.tx.startedOps = s.tx.startedOps := by
        have logged : Appends (fun o => o.starting = none) s.tx.trace
            (s.tx.log (.xfer op .body x)).trace := .one rfl
        have left : Appends (fun o => o.starting = none) s.tx.trace
            ((s.tx.log (.xfer op .body x)).finish op ec).trace :=
          logged.trans (SendSide.appends_finish (fun _ => rfl) fun _ _ => rfl)
        exact SendSide.startedOps_grows
          (left.trans (SendSide.appends_await awaits (fun _ _ _ _ => rfl) fun _ _ _ _ => rfl))
      obtain ⟨u, result⟩ : ∃ u, t.tx = u := ⟨_, rfl⟩
      have rests : t.tx.mSendTask.opening = none ∧ t.tx.mSendTask.unheaded = [] ∧
          t.tx.mSendTask.At .between := by
        rw [result] at awaits ⊢
        cases awaits <;> exact ⟨rfl, rfl, trivial⟩
      exact writes.body inv ok task rests.1 rests.2.1 rests.2.2 table started

end SockScheduler
end Coproto
