import Coproto.Guarantees.RecvParking
import Coproto.Guarantees.SendList
import Coproto.Invariants.Plain

/-!
# What a scheduler keeps in a run without failures

Sends belong to the fork of their session, which has a local id; receives are served in the order
of their session; no operation is given an error, and neither task ends.
-/
namespace Coproto
open SockScheduler Traces

/-! ## What is shown -/

/-- The send an observation posts. -/
def SendObs.message : SendObs → Option Message
  | .posted op session data => some ⟨op, session, data⟩
  | _ => none

/-- Observations of a run without failures. -/
def SendObs.Calm : SendObs → Prop
  | .posted _ _ data => data ≠ []
  | .started _ => True
  | .xfer _ _ _ => True
  | .completed _ none => True
  | _ => False

/-- The receive an observation posts on a session. -/
def RecvObs.postingOn (v : UInt64 × UInt64) : RecvObs → Option OpId
  | .posted op w => if w = v then some op else none
  | _ => none

/-- A receive that completes: its error, and what is in its buffer. -/
structure Completion where
  op : OpId
  error : Option ErrorCode
  data : List UInt8
  deriving DecidableEq, Repr

def RecvObs.completion : RecvObs → Option Completion
  | .completed op error data => some ⟨op, error, data⟩
  | _ => none

namespace SendSide

/-- The sends that were posted, in order. -/
def messages (tx : SendSide) : List Message := tx.trace.filterMap SendObs.message

end SendSide

namespace RecvSide

/-- The receives that were posted on a session, in order. -/
def postedOn (rx : RecvSide) (v : UInt64 × UInt64) : List OpId :=
  rx.trace.filterMap (RecvObs.postingOn v)

/-- The receives on a session that are done, in the order they completed. -/
def doneOn (rx : RecvSide) (v : UInt64 × UInt64) : List OpId :=
  rx.doneOps.filter (· ∈ rx.postedOn v)

def completions (rx : RecvSide) : List Completion := rx.trace.filterMap RecvObs.completion

variable {rx rx' : RecvSide} {op p : OpId} {v : UInt64 × UInt64} {ec : ErrorCode}

theorem mem_postedOn : op ∈ rx.postedOn v ↔ .posted op v ∈ rx.trace := by
  unfold postedOn
  rw [List.mem_filterMap]
  constructor
  · rintro ⟨o, shown, names⟩
    cases o with
    | posted p w =>
      simp only [RecvObs.postingOn] at names
      split at names
      · rename_i same
        cases names
        exact same ▸ shown
      · cases names
    | _ => cases names
  · intro shown
    exact ⟨_, shown, by simp [RecvObs.postingOn]⟩

/-! ## Writes that give no operation an error -/

/-- No queued receive has been given an error. -/
def Unharmed (rx : RecvSide) : Prop :=
  ∀ op o, rx.ops op = some o → o.mRecvBuffer.mExPtr = .unset

/-- The receives of `rx'` are receives of `rx`, and their errors are the same. -/
abbrev Spares (rx rx' : RecvSide) : Prop :=
  rx.ops.Retains (fun o => o.mRecvBuffer.mExPtr) rx'.ops

theorem Unharmed.keep (ok : rx.Unharmed) (spares : Spares rx rx') : rx'.Unharmed :=
  Heap.Retains.all (P := fun e : ExPtr => e = .unset) spares ok

theorem arm_live (rx : RecvSide) (op : OpId) {token : StopToken} (live : token ≠ .stopped) :
    rx.arm op token = rx ∨ rx.arm op token = rx.setReg op .registered := by
  cases token with
  | none => exact .inl rfl
  | live => exact .inr rfl
  | stopped => exact absurd rfl live

theorem spares_arm {token : StopToken} (live : token ≠ .stopped) : Spares rx (rx.arm op token) := by
  rcases arm_live rx op live with same | marked
  · exact .of_eq (by rw [same])
  · rw [marked]
    exact .modify op fun _ => rfl

theorem Unharmed.enqueue (ok : rx.Unharmed) (slot : Nat) (remoteId : UInt32) (op : OpId)
    (buffer : RecvBuffer) : (rx.enqueue slot remoteId op buffer).Unharmed := by
  have placed : (rx.emplace slot op buffer).Unharmed := by
    intro p o live
    rw [emplace_ops, Heap.set_apply] at live
    split at live
    · cases live
      rfl
    · exact ok p o live
  have started : ((rx.emplace slot op buffer).setStatus op .InProgress).Unharmed :=
    placed.keep (.modify op fun _ => rfl)
  unfold RecvSide.enqueue
  split
  · exact started
  · split
    · exact started
    · exact placed
  · exact placed

theorem spares_finish (ok : ec.isError = false) : Spares rx (rx.finish op ec) := by
  have left : Spares rx (rx.completeOn op) := .modify op fun _ => rfl
  have popped : Spares (rx.completeOn op) ((rx.completeOn op).popFront (rx.slotOf op)) := by
    cases cells : (rx.completeOn op).mRecvOps (rx.slotOf op) with
    | nil => exact .of_eq (by rw [popFront_empty cells])
    | cons p ps =>
      rw [popFront_eq cells]
      exact .erase p
  have shape : (rx.finish op ec).ops = ((rx.completeOn op).popFront (rx.slotOf op)).ops := by
    simp [RecvSide.finish, ok]
  exact (left.trans popped).trans (.of_eq shape)

theorem spares_await {mEC : ErrorCode} {slots : Nat} (awaits : rx.Await mEC slots ec rx')
    (ok : ec.isError = false) (fine : mEC.isError = false) : Spares rx rx' := by
  cases awaits with
  | shut failed => simp [ok, fine] at failed
  | next ok num => exact .refl
  | park ok num => exact .refl

end RecvSide

namespace SendSide
variable {tx tx' : SendSide} {op : OpId} {ec : ErrorCode}

def Unharmed (tx : SendSide) : Prop := ∀ op o, tx.ops op = some o → o.mError = none

abbrev Spares (tx tx' : SendSide) : Prop := tx.ops.Retains SendOperation.mError tx'.ops

theorem Unharmed.keep (ok : tx.Unharmed) (spares : Spares tx tx') : tx'.Unharmed :=
  Heap.Retains.all (P := fun e => e = none) spares ok

theorem arm_live (tx : SendSide) (op : OpId) {token : StopToken} (live : token ≠ .stopped) :
    tx.arm op token = tx ∨ tx.arm op token = tx.setReg op .registered := by
  cases token with
  | none => exact .inl rfl
  | live => exact .inr rfl
  | stopped => exact absurd rfl live

theorem spares_arm {token : StopToken} (live : token ≠ .stopped) : Spares tx (tx.arm op token) := by
  rcases arm_live tx op live with same | marked
  · exact .of_eq (by rw [same])
  · rw [marked]
    exact .modify op fun _ => rfl

theorem arm_trace {token : StopToken} (live : token ≠ .stopped) :
    (tx.arm op token).trace = tx.trace := by
  rcases arm_live tx op live with same | same <;> rw [same]
  rfl

theorem spares_setNext (tx : SendSide) (op : OpId) (next : Option OpId) :
    Spares tx (tx.setNext op next) := by
  intro p o live
  rw [setNext_apply, Option.map_eq_some_iff] at live
  obtain ⟨a, old, rfl⟩ := live
  exact ⟨a, old, rfl⟩

theorem Unharmed.enqueue (ok : tx.Unharmed) (slot : Nat) (op : OpId) (data : List UInt8) :
    (tx.enqueue slot op data).Unharmed := by
  have placed : (tx.pushBack slot op { mSendBuffer := data, mSocketFork := slot }).Unharmed := by
    intro p o live
    rw [pushBack_ops, Heap.set_apply] at live
    split at live
    · cases live
      rfl
    · exact ok p o live
  unfold SendSide.enqueue
  dsimp only
  split
  · exact placed.keep (.modify op fun _ => rfl)
  · unfold SendSide.link
    split
    · rename_i last there
      exact placed.keep (spares_setNext _ last (some op))
    · exact placed

theorem spares_finish (ok : ec.isError = false) : Spares tx (tx.finish op ec) := by
  have left : Spares tx (tx.completeOn op) := .modify op fun _ => rfl
  have unlinked : Spares (tx.completeOn op) ((tx.completeOn op).setNext op none) :=
    spares_setNext _ op none
  have popped : Spares ((tx.completeOn op).setNext op none)
      (((tx.completeOn op).setNext op none).popFront (tx.slotOf op)) := by
    cases cells : ((tx.completeOn op).setNext op none).mSendOps (tx.slotOf op) with
    | nil => exact .of_eq (by rw [popFront_empty cells])
    | cons p ps =>
      rw [popFront_eq cells]
      exact .erase p
  have shape : (tx.finish op ec).ops =
      (((tx.completeOn op).setNext op none).popFront (tx.slotOf op)).ops := by
    simp [SendSide.finish, ok]
  exact ((left.trans unlinked).trans popped).trans (.of_eq shape)

theorem spares_await {mEC : ErrorCode} {n : Nat} (awaits : tx.Await mEC n ec tx')
    (ok : ec.isError = false) (fine : mEC.isError = false) : Spares tx tx' := by
  cases awaits with
  | shut failed => simp [ok, fine] at failed
  | take p ok begin => exact .modify p fun _ => rfl
  | park ok begin => exact .refl

end SendSide

/-! ## One step -/

namespace SockScheduler
variable {s t : SockScheduler} {e : Event}

theorem heldSlot_eq_some {session : UInt64 × UInt64} {slot : Nat}
    (held : s.heldSlot session = some slot) :
    session ∈ s.held.map SessionID.mVal ∧ s.table.mIdSocketForkMapping_ session = some slot := by
  unfold heldSlot at held
  split at held
  · exact ⟨‹_›, held⟩
  · cases held

theorem unharmed_send (step : PlainSend s e t) (fine : s.mEC.isError = false)
    (ok : s.tx.Unharmed) : t.tx.Unharmed := by
  cases step with
  | sent session data token slot slotHeld full fits live tx table nextOp =>
    rw [tx]
    have logged : (s.tx.log (.posted s.nextOp session data)).Unharmed := ok
    exact (logged.enqueue slot s.nextOp data).keep (SendSide.spares_arm live)
  | control op task unopened tx table nextOp => rw [tx]; exact ok
  | header op task opened tx table nextOp => rw [tx]; exact ok
  | advanced part part' op token task x all follows tx table nextOp => rw [tx]; exact ok
  | finished op token task x all fine' awaits table nextOp =>
    have logged : (s.tx.log (.xfer op .body x)).Unharmed := ok
    exact (logged.keep (SendSide.spares_finish fine')).keep (SendSide.spares_await awaits fine' fine)

theorem unharmed_recv (step : PlainRecv s e t) (fine : s.mEC.isError = false)
    (ok : s.rx.Unharmed) : t.rx.Unharmed := by
  cases step with
  | posted session buffer token slot slotHeld live rx table nextOp =>
    rw [rx]
    have logged : (s.rx.log (.posted s.nextOp session)).Unharmed := ok
    exact (logged.enqueue slot _ s.nextOp buffer).keep (RecvSide.spares_arm live)
  | reads r task rx table nextOp => rw [rx]; exact ok
  | fills f op task fits rx table nextOp =>
    rw [rx]
    intro p o live
    obtain ⟨a, old, rfl⟩ := Heap.modify_eq_some.mp live
    split
    · rename_i here
      subst here
      have taken : a.mRecvBuffer.spanSize f.header.mSize.toNat = f.header.mSize.toNat := by
        rw [old] at fits
        simpa using fits
      show (a.mRecvBuffer.asSpan f.header.mSize.toNat).mExPtr = .unset
      rw [RecvBuffer.asSpan, if_pos taken]
      exact ok p a old
    · exact ok p a old
  | opening x token task size control rx table nextOp => rw [rx]; exact ok
  | data x token task size data mapped request table nextOp =>
    obtain ⟨u, result⟩ : ∃ u, t.rx = u := ⟨_, rfl⟩
    rw [result] at request ⊢
    cases request with
    | unknown unmapped e error => exact absurd unmapped mapped
    | failed slot known error => simp [fine] at error
    | park slot known ok' empty => exact ok
    | serve slot op ops known ok' cells =>
      have logged : (s.rx.log (.header x)).Unharmed := ok
      exact logged.keep (.modify op fun _ => rfl)
  | opened x header token task size fresh rx table nextOp => rw [rx]; exact ok
  | @filled _ ec bytes x f op token task size fine' awaits table nextOp =>
    have logged : (s.rx.log (.body op f.call x)).Unharmed := ok
    have filled : ((s.rx.log (.body op f.call x)).fill op bytes).Unharmed :=
      logged.keep (.modify op fun _ => rfl)
    have renewed : (((s.rx.log (.body op f.call x)).fill op bytes).renew s.nextStop).Unharmed :=
      filled
    exact (renewed.keep (RecvSide.spares_finish fine')).keep
      (RecvSide.spares_await awaits fine' fine)

/-- A step posts a send, or shows nothing but progress. -/
theorem PlainSend.trace (step : PlainSend s e t) (fine : s.mEC.isError = false)
    (unharmed : s.tx.Unharmed) :
    (∃ session data, session ∈ s.held.map SessionID.mVal ∧ data ≠ [] ∧
      t.tx.trace = s.tx.trace ++ [.posted s.nextOp session data]) ∨
    Appends (fun o => o.Calm ∧ o.message = none) s.tx.trace t.tx.trace := by
  cases step with
  | sent session data token slot slotHeld full fits live tx table nextOp =>
    refine .inl ⟨session, data, (heldSlot_eq_some slotHeld).1, ?_, ?_⟩
    · exact fun empty => full (by simp [empty])
    rw [tx, SendSide.arm_trace live, SendSide.trace_enqueue]
    rfl
  | control op task unopened tx table nextOp =>
    rw [tx]
    exact .inr (.one ⟨trivial, rfl⟩)
  | header op task opened tx table nextOp =>
    rw [tx]
    exact .inr (.one ⟨trivial, rfl⟩)
  | advanced part part' op token task x all follows tx table nextOp =>
    rw [tx]
    exact .inr (.one ⟨trivial, rfl⟩)
  | @finished _ ec bt op token task x all fine' awaits table nextOp =>
    have logged : Appends (fun o => o.Calm ∧ o.message = none) s.tx.trace
        (s.tx.log (.xfer op .body x)).trace := .one ⟨trivial, rfl⟩
    have left : Appends (fun o => o.Calm ∧ o.message = none) (s.tx.log (.xfer op .body x)).trace
        ((s.tx.log (.xfer op .body x)).finish op ec).trace := by
      refine SendSide.appends_finish (fun error => ?_) fun o live => ?_
      · rw [fine'] at error
        cases error
      · have none : o.mError = none := unharmed op o live
        rw [if_neg (by rw [fine']; exact Bool.false_ne_true), none]
        exact ⟨trivial, rfl⟩
    refine .inr ((logged.trans left).trans ?_)
    obtain ⟨u, result⟩ : ∃ u, t.tx = u := ⟨_, rfl⟩
    rw [result] at awaits ⊢
    cases awaits with
    | shut failed => simp [fine, fine'] at failed
    | take p ok begin => exact .refl
    | park ok begin => exact .refl

/-! ## Tasks do not end -/

theorem sending_plain (flags : s.tx.FlagsOk) (step : PlainSend s e t) (fine : s.mEC.isError = false)
    (sending : ¬ s.tx.mSendTask.Ended) : ¬ t.tx.mSendTask.Ended := by
  cases step with
  | sent session data token slot slotHeld full fits live tx table nextOp =>
    rw [tx, SendSide.arm_mSendTask]
    have flags : (s.tx.log (.posted s.nextOp session data)).FlagsOk := flags
    rcases SendSide.enqueue_cases flags slot s.nextOp data with ⟨_, woken, _⟩ | ⟨_, same, _⟩
    · rw [woken]
      exact id
    · rw [same]
      exact sending
  | control op task unopened tx table nextOp => rw [tx]; exact id
  | header op task opened tx table nextOp => rw [tx]; exact id
  | advanced part part' op token task x all follows tx table nextOp => rw [tx]; exact id
  | finished op token task x all fine' awaits table nextOp =>
    obtain ⟨u, result⟩ : ∃ u, t.tx = u := ⟨_, rfl⟩
    rw [result] at awaits ⊢
    cases awaits with
    | shut failed => simp [fine, fine'] at failed
    | take p ok begin => exact id
    | park ok begin => exact id

theorem reading_plain (step : PlainRecv s e t) (fine : s.mEC.isError = false)
    (reading : ¬ s.rx.mRecvTask.Ended) : ¬ t.rx.mRecvTask.Ended := by
  cases step with
  | posted session buffer token slot slotHeld live rx table nextOp =>
    rw [rx, RecvSide.arm_mRecvTask]
    unfold RecvSide.enqueue
    split
    · simp [RecvTask.Ended]
    · split
      · exact id
      · exact reading
    · exact reading
  | reads r task rx table nextOp => rw [rx]; exact id
  | fills f op task fits rx table nextOp => rw [rx]; exact id
  | opening x token task size control rx table nextOp => rw [rx]; exact id
  | data x token task size data mapped request table nextOp =>
    obtain ⟨u, result⟩ : ∃ u, t.rx = u := ⟨_, rfl⟩
    rw [result] at request ⊢
    cases request with
    | unknown unmapped e error => exact absurd unmapped mapped
    | failed slot known error => simp [fine] at error
    | park slot known ok empty => exact id
    | serve slot op ops known ok cells => exact id
  | opened x header token task size fresh rx table nextOp => rw [rx]; exact id
  | filled x f op token task size fine' awaits table nextOp =>
    obtain ⟨u, result⟩ : ∃ u, t.rx = u := ⟨_, rfl⟩
    rw [result] at awaits ⊢
    cases awaits with
    | shut failed => simp [fine, fine'] at failed
    | next ok num => simp [RecvTask.Ended]
    | park ok num => exact id

/-! ## The tables -/

theorem PlainStep.extends (step : PlainStep s e t) : s.table.Extends t.table := by
  cases step with
  | idle call rx tx table held nextOp => exact .of_eq (by rw [table])
  | forked session slot slotHeld few free rx tx table held nextOp =>
    rw [table]
    exact ForkTable.extends_forkSlot s.table slot
  | sends same step =>
    cases step with
    | sent session data token slot slotHeld full fits live tx table nextOp =>
      exact .of_eq (by rw [table])
    | control op task unopened tx table nextOp =>
      rw [table]
      exact .of_eq rfl
    | header op task opened tx table nextOp => exact .of_eq (by rw [table])
    | advanced part part' op token task x all follows tx table nextOp => exact .of_eq (by rw [table])
    | finished op token task x all fine awaits table nextOp => exact .of_eq (by rw [table])
  | recvs same step =>
    cases step with
    | posted session buffer token slot slotHeld live rx table nextOp => exact .of_eq (by rw [table])
    | reads r task rx table nextOp => exact .of_eq (by rw [table])
    | fills f op task fits rx table nextOp => exact .of_eq (by rw [table])
    | opening x token task size control rx table nextOp => exact .of_eq (by rw [table])
    | data x token task size data mapped request table nextOp => exact .of_eq (by rw [table])
    | opened x header token task size fresh rx table nextOp =>
      rw [table]
      exact ForkTable.extends_initRemoteSocketFork _ _ _
    | filled x f op token task size fine awaits table nextOp => exact .of_eq (by rw [table])

/-- A slot stays announced. -/
theorem PlainStep.announces (ids : s.table.IdsOk) (ok : s.table.AnnouncedOk)
    (step : PlainStep s e t) {k : UInt32} {v : UInt64 × UInt64} (told : s.table.Announces k v) :
    t.table.Announces k v := by
  cases step with
  | idle call rx tx table held nextOp => rwa [table]
  | forked session slot slotHeld few free rx tx table held nextOp =>
    rw [table]
    exact (ForkTable.announces_forkSlot ids ok free).mpr told
  | sends same step =>
    cases step with
    | sent session data token slot slotHeld full fits live tx table nextOp => rwa [table]
    | control op task unopened tx table nextOp =>
      rw [table]
      obtain ⟨i, f, found, initiated, local_, session⟩ := told
      refine ⟨i, if s.tx.slotOf op = i then { f with mInitiated := true } else f, ?_, ?_, ?_, ?_⟩
      · rw [ForkTable.getElem?_modify, found]
        rfl
      · split
        · rfl
        · exact initiated
      · split <;> exact local_
      · split <;> exact session
    | header op task opened tx table nextOp => rwa [table]
    | advanced part part' op token task x all follows tx table nextOp => rwa [table]
    | finished op token task x all fine awaits table nextOp => rwa [table]
  | recvs same step =>
    cases step with
    | posted session buffer token slot slotHeld live rx table nextOp => rwa [table]
    | reads r task rx table nextOp => rwa [table]
    | fills f op task fits rx table nextOp => rwa [table]
    | opening x token task size control rx table nextOp => rwa [table]
    | data x token task size data mapped request table nextOp => rwa [table]
    | opened x header token task size fresh rx table nextOp =>
      rw [table]
      exact (ForkTable.announces_initRemoteSocketFork header.mForkId).mpr told
    | filled x f op token task size fine awaits table nextOp => rwa [table]

/-! ## Sends belong to the fork of their session -/

/-- The queued sends, with the session they were posted on. -/
def HomesOk (s : SockScheduler) : Prop :=
  ∀ op o, s.tx.ops op = some o → o.mSendBuffer ≠ [] ∧ o.mSendBuffer.length < 2 ^ 32 - 1 ∧
    ∃ session, .posted op session o.mSendBuffer ∈ s.tx.trace ∧
      s.table.mIdSocketForkMapping_ session = some o.mSocketFork

theorem HomesOk.keep {P : SendObs → Prop} (homes : HomesOk s) (keeps : SendSide.Keeps s.tx t.tx)
    (grows : Appends P s.tx.trace t.tx.trace) (table : s.table.Extends t.table) : HomesOk t := by
  intro op o live
  obtain ⟨a, old, buffer, slot⟩ := keeps op o live
  obtain ⟨full, fits, session, shown, mapped⟩ := homes op a old
  rw [buffer, slot]
  exact ⟨full, fits, session, grows.kept shown, table.kept session _ mapped⟩

theorem HomesOk.step (homes : HomesOk s) (step : PlainStep s e t)
    (grows : Appends (fun _ => True) s.tx.trace t.tx.trace) : HomesOk t := by
  have table := step.extends
  cases step with
  | idle call rx tx table' held nextOp => exact homes.keep (.of_ops (by rw [tx])) grows table
  | forked session slot slotHeld few free rx tx table' held nextOp =>
    exact homes.keep (.of_ops (by rw [tx])) grows table
  | recvs same step => exact homes.keep (.of_ops (by rw [same.tx])) grows table
  | sends same step =>
    cases step with
    | sent session data token slot slotHeld full fits live tx table' nextOp =>
      have placed : SendSide.Keeps
          (s.tx.pushBack slot s.nextOp { mSendBuffer := data, mSocketFork := slot })
          ((s.tx.log (.posted s.nextOp session data)).pushBack slot s.nextOp
            { mSendBuffer := data, mSocketFork := slot }) := .of_ops rfl
      have keeps := (placed.trans (SendSide.keeps_enqueue _ slot s.nextOp data)).trans
        (.arm _ s.nextOp token)
      rw [← tx] at keeps
      have shown : .posted s.nextOp session data ∈ t.tx.trace := by
        rw [tx, SendSide.arm_trace live, SendSide.trace_enqueue]
        simp
      intro p o there
      obtain ⟨a, old, buffer, home⟩ := keeps p o there
      rw [buffer, home, table']
      by_cases new : p = s.nextOp
      · subst new
        simp only [SendSide.pushBack_ops, Heap.set_self, Option.some.injEq] at old
        subst old
        exact ⟨fun empty => full (List.length_eq_zero_iff.mpr empty), fits, session, shown,
          (heldSlot_eq_some slotHeld).2⟩
      · simp only [SendSide.pushBack_ops, Heap.set_of_ne new] at old
        obtain ⟨some_, fits', session', shown', mapped⟩ := homes p a old
        exact ⟨some_, fits', session', grows.kept shown', mapped⟩
    | control op task unopened tx table' nextOp => exact homes.keep (tx ▸ .of_ops rfl) grows table
    | header op task opened tx table' nextOp => exact homes.keep (tx ▸ .of_ops rfl) grows table
    | advanced part part' op token task x all follows tx table' nextOp =>
      exact homes.keep (tx ▸ .of_ops rfl) grows table
    | finished op token task x all fine awaits table' nextOp =>
      have logged : SendSide.Keeps s.tx (s.tx.log (.xfer op .body x)) := .of_ops rfl
      exact homes.keep ((logged.trans (.finish _ op _)).trans (.await awaits)) grows table

/-- A queued send is on a fork that has a local id. -/
theorem HomesOk.local (homes : HomesOk s) (tables : TablesOk s) (few : s.held.length < 2 ^ 32 - 1)
    (owned : ∀ op session data, .posted op session data ∈ s.tx.trace →
      session ∈ s.held.map SessionID.mVal) {op : OpId} {o : SendOperation}
    (live : s.tx.ops op = some o) : ∃ session, .posted op session o.mSendBuffer ∈ s.tx.trace ∧
      s.table.mSocketForks_[o.mSocketFork]? = some (s.table.fork o.mSocketFork) ∧
      (s.table.fork o.mSocketFork).mSessionID.mVal = session ∧
      (s.table.fork o.mSocketFork).mLocalId ≠ unassigned := by
  obtain ⟨_, _, session, shown, mapped⟩ := homes op o live
  obtain ⟨found, key⟩ := tables.ids.get mapped
  obtain ⟨id, member, rfl⟩ := List.mem_map.mp (owned op session _ shown)
  obtain ⟨slot, f, mapped', found', assigned⟩ := (tables.locals few).2 id member
  rw [mapped, Option.some.injEq] at mapped'
  subst mapped'
  rw [found, Option.some.injEq] at found'
  exact ⟨id.mVal, shown, found, key, found' ▸ assigned⟩

end SockScheduler
end Coproto
