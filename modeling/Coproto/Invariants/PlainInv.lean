import Coproto.Invariants.PlainOrder

/-!
# The invariant of a run without failures

What one scheduler keeps as long as its caller and its transport do their part and the messages of
the peer are frames.
-/
namespace Coproto
open SockScheduler Traces

namespace SockScheduler
variable {s t : SockScheduler} {e : Event}

/-- The slot of a send under way has been announced, or is being announced by it. -/
def OpenedOk (s : SockScheduler) : Prop :=
  ∀ part op token, s.tx.mSendTask = .sending part op token →
    ∃ session data k, .posted op session data ∈ s.tx.trace ∧ s.table.Announces k session

structure PlainInv (s : SockScheduler) : Prop where
  list : ListInv s
  serving : ServingInv s
  recvBooks : s.rx.Books s.nextOp
  fine : s.mEC.isError = false
  reading : ¬ s.rx.mRecvTask.Ended
  sending : ¬ s.tx.mSendTask.Ended
  few : s.held.length < 2 ^ 32 - 1
  announced : s.table.AnnouncedOk
  homes : HomesOk s
  owned : ∀ op session data, .posted op session data ∈ s.tx.trace →
    session ∈ s.held.map SessionID.mVal
  calm : ∀ o ∈ s.tx.trace, o.Calm
  opened : OpenedOk s
  frame : ServesFrame s
  order : OrderOk s
  unharmedSend : s.tx.Unharmed
  unharmedRecv : s.rx.Unharmed

namespace PlainInv

theorem base (inv : PlainInv s) : BaseInv s := inv.list.base

theorem tables (inv : PlainInv s) : TablesOk s := inv.serving.tables

theorem init (sid : SessionID) : PlainInv (init sid) := by
  have list := ListInv.init sid
  have serving := ServingInv.init sid
  have recvBooks := books_recv_init sid
  rw [BaseInv.init_eq] at list serving recvBooks ⊢
  refine ⟨list, serving, recvBooks, rfl, id, id, by simp, ?_, (fun _ _ live => by cases live),
    (fun _ _ _ shown => by cases shown), (fun _ shown => by cases shown),
    (fun _ _ _ sending => by cases sending), (fun _ _ frame => by cases frame), fun v => ?_,
    (fun _ _ live => by cases live), (fun _ _ live => by cases live)⟩
  · intro i f found initiated
    rw [ForkTable.init_get] at found
    split at found <;> cases found
    cases initiated
  · show [] = [] ++ _
    unfold queuedOn
    split <;> rfl

/-- The fork of a send of the list. -/
theorem slot (inv : PlainInv s) {op : OpId} (begin : s.tx.mSendBufferBegin = some op) :
    ∃ session, .posted op session (s.sendBytes .body op) ∈ s.tx.trace ∧
      s.sendBytes .body op ≠ [] ∧ (s.sendBytes .body op).length < 2 ^ 32 - 1 ∧
      s.table.mSocketForks_[s.tx.slotOf op]? = some (s.table.fork (s.tx.slotOf op)) ∧
      (s.table.fork (s.tx.slotOf op)).mSessionID.mVal = session ∧
      (s.table.fork (s.tx.slotOf op)).mLocalId ≠ unassigned := by
  obtain ⟨o, live, _⟩ := inv.list.chained.fronted op begin
  obtain ⟨full, fits, _⟩ := inv.homes op o live
  obtain ⟨session, shown, found, key, assigned⟩ :=
    inv.homes.local inv.tables inv.few inv.owned live
  have body : s.sendBytes .body op = o.mSendBuffer := by simp [sendBytes, live]
  have home : s.tx.slotOf op = o.mSocketFork := by simp [SendSide.slotOf, live]
  rw [body, home]
  exact ⟨session, shown, full, fits, found, key, assigned⟩

end PlainInv

/-! ## Steps -/

/-- Plain events are none of those that other invariants exclude. -/
theorem keepsTail_of_plain (plain : Plain s e) : KeepsTail s e := by
  intro cuts
  cases e with
  | stopSend op => cases plain
  | send session data token => exact plain.2.2 cuts.1
  | _ => exact cuts

theorem not_sharesSlotId
    (wellFormed : ∀ ec bt bytes, e = .recvReturned ec bt bytes → ¬ s.Malformed bytes) :
    ¬ SharesSlotId s e := by
  intro shares
  cases e with
  | recvReturned ec bt bytes =>
    have good := wellFormed ec bt bytes rfl
    unfold SharesSlotId at shares
    unfold Malformed at good
    cases task : s.rx.mRecvTask with
    | control header token =>
      simp only [task] at shares good
      exact shares.2.1 (not_not.mp good).2.1
    | _ =>
      simp only [task] at shares
  | _ => exact shares

theorem announced_step (inv : PlainInv s) (step : PlainStep s e t) : t.table.AnnouncedOk := by
  have ok := inv.announced
  cases step with
  | idle call rx tx table held nextOp => rwa [table]
  | forked session slot slotHeld few free rx tx table held nextOp =>
    rw [table]
    obtain ⟨numbers, _⟩ := inv.tables.locals inv.few
    refine ok.forkSlot (fun wild => ?_) slot
    have last := numbers.next
    rw [wild] at last
    have top : unassigned.toNat = 2 ^ 32 - 1 := rfl
    omega
  | sends same step =>
    cases step with
    | sent session data token slot slotHeld full fits live tx table nextOp => rwa [table]
    | control op task unopened tx table nextOp =>
      rw [table]
      obtain ⟨_, _, _, _, found, _, assigned⟩ :=
        inv.slot (taken_begin inv.base.send.task task)
      refine ok.modify _ fun f there _ _ => ?_
      rw [found, Option.some.injEq] at there
      exact there ▸ assigned
    | header op task opened tx table nextOp => rwa [table]
    | advanced part part' op token task x all follows tx table nextOp => rwa [table]
    | finished op token task x all fine awaits table nextOp => rwa [table]
  | recvs same step =>
    cases step with
    | posted session buffer token slot slotHeld live rx table nextOp => rwa [table]
    | reads r task rx table nextOp => rwa [table]
    | fills f op task fits rx table nextOp => rwa [table]
    | opening x token task size control rx table nextOp => rwa [table]
    | data x token task size data mapped request table nextOp => rwa [table]
    | opened x header token task size fresh rx table nextOp =>
      rw [table]
      exact ok.initRemoteSocketFork _ _
    | filled x f op token task size fine awaits table nextOp => rwa [table]

theorem opened_step (inv : PlainInv s) (step : PlainStep s e t)
    (grows : Appends (fun _ => True) s.tx.trace t.tx.trace) : OpenedOk t := by
  -- a send that was under way before
  have kept : ∀ {part op token}, s.tx.mSendTask = .sending part op token →
      ∃ session data k, .posted op session data ∈ t.tx.trace ∧ t.table.Announces k session := by
    intro part op token task
    obtain ⟨session, data, k, shown, told⟩ := inv.opened part op token task
    exact ⟨session, data, k, grows.kept shown, step.announces inv.tables.ids inv.announced told⟩
  intro part op token task
  cases step with
  | idle call rx tx table held nextOp => exact kept (tx ▸ task)
  | forked session slot slotHeld few free rx tx table held nextOp => exact kept (tx ▸ task)
  | recvs same step => exact kept (same.tx ▸ task)
  | sends same step =>
    cases step with
    | sent session data token' slot slotHeld full fits live tx table nextOp =>
      rw [tx, SendSide.arm_mSendTask] at task
      have flags : (s.tx.log (.posted s.nextOp session data)).FlagsOk := inv.base.send.flags
      rcases SendSide.enqueue_cases flags slot s.nextOp data with ⟨_, woken, _⟩ | ⟨_, same, _⟩
      · rw [woken] at task
        cases task
      · rw [same] at task
        exact kept task
    | control op' ready unopened tx table nextOp =>
      obtain ⟨session, shown, _, _, found, key, _⟩ :=
        inv.slot (taken_begin inv.base.send.task ready)
      rw [tx] at task
      cases task
      refine ⟨session, s.sendBytes .body op, (s.table.fork (s.tx.slotOf op)).mLocalId,
        grows.kept shown, ?_⟩
      rw [table]
      exact (ForkTable.announces_initiate found).mpr (.inr ⟨rfl, key⟩)
    | header op' ready opened tx table nextOp =>
      obtain ⟨session, shown, _, _, found, key, _⟩ :=
        inv.slot (taken_begin inv.base.send.task ready)
      rw [tx] at task
      cases task
      refine ⟨session, s.sendBytes .body op, (s.table.fork (s.tx.slotOf op)).mLocalId,
        grows.kept shown, ?_⟩
      rw [table]
      exact ⟨_, _, found, opened, rfl, key⟩
    | advanced part' part'' op' token' busy x all follows tx table nextOp =>
      rw [tx] at task
      cases task
      exact kept busy
    | finished op' token' busy x all fine awaits table nextOp =>
      obtain ⟨u, result⟩ : ∃ u, t.tx = u := ⟨_, rfl⟩
      rw [result] at awaits task
      cases awaits <;> cases task

theorem PlainStep.held_grows (step : PlainStep s e t) {v : UInt64 × UInt64}
    (member : v ∈ s.held.map SessionID.mVal) : v ∈ t.held.map SessionID.mVal := by
  cases step with
  | idle call rx tx table held nextOp => rwa [held]
  | forked session slot slotHeld few free rx tx table held nextOp =>
    rw [held, List.map_append]
    exact List.mem_append_left _ member
  | sends same step => rwa [same.held]
  | recvs same step => rwa [same.held]

/-- What a step shows of the sends. -/
theorem PlainStep.shows (inv : PlainInv s) (step : PlainStep s e t) :
    (∃ session data, session ∈ s.held.map SessionID.mVal ∧ data ≠ [] ∧
      t.tx.trace = s.tx.trace ++ [.posted s.nextOp session data]) ∨
    Appends (fun o => o.Calm ∧ o.message = none) s.tx.trace t.tx.trace := by
  cases step with
  | idle call rx tx table held nextOp => exact .inr (.of_eq (by rw [tx]))
  | forked session slot slotHeld few free rx tx table held nextOp => exact .inr (.of_eq (by rw [tx]))
  | sends same step => exact step.trace inv.fine inv.unharmedSend
  | recvs same step => exact .inr (.of_eq (by rw [same.tx]))

theorem PlainInv.step (inv : PlainInv s) (plain : Plain s e) (lawful : Link.Lawful s e)
    (wellFormed : ∀ ec bt bytes, e = .recvReturned ec bt bytes → ¬ s.Malformed bytes)
    (taken : SockScheduler.step s e = some t) : PlainStep s e t ∧ PlainInv t := by
  obtain ⟨step, mEC⟩ := plainStep inv.base inv.fine inv.reading inv.sending plain lawful wellFormed
    taken
  have table := tableStep inv.base taken
  have recv := recvStep inv.base taken
  have send := sendStep inv.base taken
  have front := inv.serving.front
  refine ⟨step, ?_⟩
  constructor
  · exact inv.list.step (keepsTail_of_plain plain) taken
  · exact inv.serving.step (not_sharesSlotId wellFormed) taken
  · exact books_recvStep inv.base front inv.recvBooks table recv
  · rw [mEC]
    exact inv.fine
  · cases step with
    | idle call rx tx table held nextOp => exact rx ▸ inv.reading
    | forked session slot slotHeld few free rx tx table held nextOp => exact rx ▸ inv.reading
    | sends same step => exact same.rx ▸ inv.reading
    | recvs same step => exact reading_plain step inv.fine inv.reading
  · cases step with
    | idle call rx tx table held nextOp => exact tx ▸ inv.sending
    | forked session slot slotHeld few free rx tx table held nextOp => exact tx ▸ inv.sending
    | sends same step => exact sending_plain inv.base.send.flags step inv.fine inv.sending
    | recvs same step => exact same.tx ▸ inv.sending
  · cases step with
    | idle call rx tx table held nextOp => exact held ▸ inv.few
    | forked session slot slotHeld few free rx tx table held nextOp =>
      rw [held, List.length_append]
      exact few
    | sends same step => exact same.held ▸ inv.few
    | recvs same step => exact same.held ▸ inv.few
  · exact announced_step inv step
  · exact inv.homes.step step send.grows
  · intro op session data shown
    rcases step.shows inv with ⟨session', data', member, _, trace⟩ | grows
    · rw [trace] at shown
      rcases List.mem_append.mp shown with old | new
      · exact step.held_grows (inv.owned op session data old)
      · cases List.mem_singleton.mp new
        exact step.held_grows member
    · rcases grows.old_or shown with old | ⟨_, none⟩
      · exact step.held_grows (inv.owned op session data old)
      · cases none
  · intro o shown
    rcases step.shows inv with ⟨session', data', _, full, trace⟩ | grows
    · rw [trace] at shown
      rcases List.mem_append.mp shown with old | new
      · exact inv.calm o old
      · cases List.mem_singleton.mp new
        exact full
    · rcases grows.old_or shown with old | new
      · exact inv.calm o old
      · exact new.1
  · exact opened_step inv step send.grows
  · exact inv.frame.step inv.base inv.tables.remotes front inv.fine step
  · exact inv.order.step inv.base front inv.recvBooks inv.unharmedRecv inv.fine step
  · cases step with
    | idle call rx tx table held nextOp => exact tx ▸ inv.unharmedSend
    | forked session slot slotHeld few free rx tx table held nextOp => exact tx ▸ inv.unharmedSend
    | sends same step => exact unharmed_send step inv.fine inv.unharmedSend
    | recvs same step => exact same.tx ▸ inv.unharmedSend
  · cases step with
    | idle call rx tx table held nextOp => exact rx ▸ inv.unharmedRecv
    | forked session slot slotHeld few free rx tx table held nextOp => exact rx ▸ inv.unharmedRecv
    | sends same step => exact same.rx ▸ inv.unharmedRecv
    | recvs same step => exact unharmed_recv step inv.fine inv.unharmedRecv

end SockScheduler
end Coproto
