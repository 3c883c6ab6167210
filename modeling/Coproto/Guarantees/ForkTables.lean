import Coproto.Invariants.TableStep

/-!
# The fork tables under any peer

SocketScheduler.cpp:101-155, SocketScheduler.h:668-722, 843-908. The tables keep
their representation invariant on every byte stream without a meta message that
gives a slot id in use to a second session (`SharesSlotId`). That message is
accepted: `initRemoteSocketFork` asserts that the id is free where the checks
before it return `badCoprotoMessageHeader`.
-/
namespace Coproto
open SockScheduler Runs

/-- A meta message arrives that gives a slot id in use to a session without one. -/
def SharesSlotId (s : SockScheduler) : Event → Prop
  | .recvReturned ec bt bytes =>
    match s.rx.mRecvTask with
    | .control header _ => (recvCall ec bt bytes).Full ∧
        s.table.ReusesSlotId header.mForkId (controlBlockSessionID bytes)
    | _ => False
  | _ => False

instance (s : SockScheduler) (e : Event) : Decidable (SharesSlotId s e) := by
  rcases e with ⟨⟩
  case recvReturned ec bt bytes =>
    dsimp only [SharesSlotId]
    rcases s.rx.mRecvTask with ⟨⟩ <;> dsimp only <;> infer_instance
  all_goals dsimp only [SharesSlotId]; infer_instance

namespace ForkTable
variable {t : ForkTable} {v : UInt64 × UInt64}

/-- The session has a slot with a local id. -/
def LocalOf (t : ForkTable) (v : UInt64 × UInt64) : Prop :=
  ∃ (slot : Nat) (f : SocketFork), t.mIdSocketForkMapping_ v = some slot ∧
    t.mSocketForks_[slot]? = some f ∧ f.mLocalId ≠ unassigned

theorem LocalOf.modify (has : t.LocalOf v) (slot : Nat) {g : SocketFork → SocketFork}
    (keeps : ∀ f, f.mLocalId ≠ unassigned → (g f).mLocalId ≠ unassigned) :
    (t.modify slot g).LocalOf v := by
  obtain ⟨i, f, mapped, found, assigned⟩ := has
  refine ⟨i, if slot = i then g f else f, mapped, by rw [getElem?_modify, found]; rfl, ?_⟩
  split
  · exact keeps f assigned
  · exact assigned

theorem LocalOf.emplace (has : t.LocalOf v) (id : SessionID) : (t.emplace id).1.LocalOf v := by
  obtain ⟨i, f, mapped, found, assigned⟩ := has
  cases h : t.mIdSocketForkMapping_ id.mVal with
  | some slot =>
    rw [emplace_mapped h]
    exact ⟨i, f, mapped, found, assigned⟩
  | none =>
    have other : v ≠ id.mVal := by
      rintro rfl
      simp [h] at mapped
    have inside := (List.getElem?_eq_some_iff.mp found).1
    rw [emplace_new h]
    exact ⟨i, f, by simpa [other] using mapped, by simpa [List.getElem?_append_left inside] using found,
      assigned⟩

/-- A local fork gives its session an id, and takes none away. -/
theorem localOf_initLocalSocketFork (ok : t.IdsOk) (id : SessionID)
    (next : t.mNextLocalSocketFork ≠ unassigned) (has : t.LocalOf v ∨ v = id.mVal) :
    (t.initLocalSocketFork id).1.LocalOf v := by
  have next' : (t.emplace id).1.mNextLocalSocketFork ≠ unassigned := by rwa [emplace_next]
  suffices written : ((t.emplace id).1.modify (t.emplace id).2 fun f =>
      { f with mLocalId := (t.emplace id).1.mNextLocalSocketFork }).LocalOf v from written
  rcases has with old | rfl
  · exact (old.emplace id).modify _ fun _ _ => next'
  · have here := ((ok.emplace id).get (emplace_slot t id)).1
    refine ⟨(t.emplace id).2, { (t.emplace id).1.fork (t.emplace id).2 with
      mLocalId := (t.emplace id).1.mNextLocalSocketFork }, emplace_slot t id, ?_, next'⟩
    rw [getElem?_modify, here]
    simp

theorem LocalOf.initRemoteSocketFork (has : t.LocalOf v) (slotId : UInt32) (id : SessionID) :
    (t.initRemoteSocketFork slotId id).1.LocalOf v := by
  unfold ForkTable.initRemoteSocketFork
  split
  · exact has
  · dsimp only
    split
    · exact has.emplace id
    · have written := (has.emplace id).modify (t.emplace id).2
        (g := fun f => { f with mRemoteId := slotId }) fun _ assigned => assigned
      exact written

/-- The failing assertion of a local fork is the one on its own local id. -/
theorem forkSlot_faults (t : ForkTable) (slot : Nat) :
    ∀ f ∈ (t.forkSlot slot).2.2, f = .initLocalSocketForkLocalId := by
  intro f failed
  simp only [forkSlot, initLocalSocketFork] at failed
  split at failed
  · unfold require at failed
    split at failed <;> simp_all
  · simp at failed

/-- A meta message that is neither fresh nor a reuse is refused. -/
theorem initRemoteSocketFork_malformed {slotId : UInt32} {id : SessionID}
    (stale : ¬ t.FreshMeta slotId id) (noReuse : ¬ t.ReusesSlotId slotId id) :
    t.initRemoteSocketFork slotId id = (t, (Code.badCoprotoMessageHeader : ErrorCode), []) := by
  refine initRemoteSocketFork_rejected ?_
  by_contra open_
  simp only [not_or, not_exists, not_and, not_not] at open_
  have free : t.mRemoteSocketForkMapping_ slotId = none := by
    by_contra used
    exact noReuse ⟨used, open_.2⟩
  exact stale ⟨open_.1, free, open_.2⟩

end ForkTable

namespace SockScheduler
variable {s t : SockScheduler}

/-- The representation invariant of the tables, and the assertions that held. -/
structure TablesOk (s : SockScheduler) : Prop where
  ids : s.table.IdsOk
  remotes : s.table.RemotesOk
  locals : s.held.length < 2 ^ 32 - 1 → s.table.LocalsOk s.held.length ∧
    ∀ id ∈ s.held, s.table.LocalOf id.mVal
  faults : ∀ f ∈ s.forkFaults, f = .initLocalSocketForkLocalId

theorem TablesOk.init (sid : SessionID) : TablesOk (init sid) := by
  rw [BaseInv.init_eq]
  refine ⟨ForkTable.IdsOk.init sid, ForkTable.RemotesOk.init sid,
    fun _ => ⟨ForkTable.LocalsOk.init sid, fun id member => ?_⟩, by simp⟩
  cases List.mem_singleton.mp member
  exact ⟨0, { mSessionID := sid, mLocalId := 1 }, by simp [ForkTable.init,
    ForkTable.initLocalSocketFork, ForkTable.emplace, ForkTable.modify], ForkTable.init_get sid 0,
    by simp [unassigned]⟩

/-- The local ids after a fork. -/
theorem TablesOk.forked_locals (ok : TablesOk s) (slot : Nat)
    (few : (s.held ++ [(s.table.forkSlot slot).2.1]).length < 2 ^ 32 - 1) :
    (s.table.forkSlot slot).1.LocalsOk (s.held ++ [(s.table.forkSlot slot).2.1]).length ∧
      ∀ id ∈ s.held ++ [(s.table.forkSlot slot).2.1], (s.table.forkSlot slot).1.LocalOf id.mVal := by
  rw [List.length_append, List.length_singleton] at few ⊢
  obtain ⟨numbers, has⟩ := ok.locals (by omega)
  refine ⟨numbers.forkSlot few slot, fun id member => ?_⟩
  have next : s.table.mNextLocalSocketFork ≠ unassigned := by
    intro wild
    have last := numbers.next
    rw [wild] at last
    simp only [unassigned] at last
    have : (0xffffffff : UInt32).toNat = 2 ^ 32 - 1 := rfl
    omega
  have kept := ForkTable.localOf_initLocalSocketFork (ok.ids.derive slot)
    (s.table.fork slot).mSessionID.derive.1 (v := id.mVal) next
  refine kept ?_
  rcases List.mem_append.mp member with old | new
  · exact .inl ((has id old).modify slot fun _ assigned => assigned)
  · cases List.mem_singleton.mp new
    exact .inr rfl

/-- The tables after a meta message that shares no slot id. -/
theorem TablesOk.remote (ok : TablesOk s) {slotId : UInt32} {id : SessionID}
    (noReuse : ¬ s.table.ReusesSlotId slotId id)
    (table : t.table = (s.table.initRemoteSocketFork slotId id).1) (held : t.held = s.held)
    (faults : t.forkFaults = s.forkFaults ++ (s.table.initRemoteSocketFork slotId id).2.2) :
    TablesOk t := by
  obtain ⟨remotes, none⟩ := ok.remotes.initRemoteSocketFork ok.ids noReuse
  refine ⟨table ▸ ok.ids.initRemoteSocketFork _ _, table ▸ remotes, fun few => ?_, ?_⟩
  · rw [held] at few ⊢
    obtain ⟨numbers, has⟩ := ok.locals few
    rw [table]
    exact ⟨numbers.initRemoteSocketFork ok.ids _ _, fun v member =>
      (has v member).initRemoteSocketFork _ _⟩
  · rw [faults, none, List.append_nil]
    exact ok.faults

theorem TablesOk.step {e : Event} (ok : TablesOk s) (met : ¬ SharesSlotId s e)
    (table : TableStep s e t) : TablesOk t := by
  cases table with
  | quiet table held faults =>
    exact ⟨table ▸ ok.ids, table ▸ ok.remotes, held ▸ table ▸ ok.locals, faults ▸ ok.faults⟩
  | initiated slot table held faults =>
    refine ⟨table ▸ ok.ids.modify slot fun _ => rfl, table ▸ ok.remotes.modify slot fun _ => rfl,
      fun few => ?_, faults ▸ ok.faults⟩
    rw [held] at few ⊢
    rw [table]
    obtain ⟨numbers, has⟩ := ok.locals few
    exact ⟨numbers.modify slot fun _ => rfl, fun id member =>
      (has id member).modify slot fun _ assigned => assigned⟩
  | forked session slot slotHeld table held faults =>
    refine ⟨table ▸ ok.ids.forkSlot slot, table ▸ ok.remotes.forkSlot slot, fun few => ?_, ?_⟩
    · rw [held] at few ⊢
      rw [table]
      exact ok.forked_locals slot few
    · intro f failed
      rw [faults] at failed
      exact (List.mem_append.mp failed).elim (ok.faults f) (s.table.forkSlot_faults slot f)
  | remote header token task size full table held faults =>
    refine ok.remote (fun reuse => met ?_) table held faults
    simp only [SharesSlotId, task]
    exact ⟨full, reuse⟩

/-- A malformed message that was read in full closes the scheduler. -/
theorem malformed_closes {ec : ErrorCode} {bt : Nat} {bytes : List UInt8} (inv : BaseInv s)
    (met : ¬ SharesSlotId s (.recvReturned ec bt bytes)) (full : (recvCall ec bt bytes).Full)
    (bad : s.Malformed bytes) (taken : s.recvReturned ec bt bytes = some t) :
    ClosedWith s t Code.badCoprotoMessageHeader := by
  have any := inv.recv.flags.anyRecvOp
  have requested := inv.recv.flags.requested
  have passed : (recvCall ec bt bytes).check.isError = false := (Xfer.check_ok _).mpr full
  unfold Malformed at bad
  cases recvReturned_cases taken with
  | headerFailed token task failed => simp [passed] at failed
  | headerMeta token task size _ control =>
    rw [task] at bad
    exact absurd control bad.1
  | headerData token task size _ data =>
    rw [task] at bad
    have busy : (s.logRecv (.header (recvCall ec bt bytes))).rx.Busy := by
      simp [RecvSide.Busy, logRecv, RecvSide.log, task, RecvTask.waitsAny, RecvTask.requested]
    have closed := GetRequestedRecvSocketFork.awaitSuspend_closedWith
      (s := s.logRecv (.header (recvCall ec bt bytes)))
      ⟨Header.ofBytes bytes, recvCall ec bt bytes⟩
      (inv.recv.logRecv _).flags busy inv.send.flags bad.2
    exact closed.after rfl rfl
  | controlFailed header token task failed => simp [passed] at failed
  | refused header token task size _ table code faults init error =>
    simp only [task] at any requested bad
    have refused := ForkTable.initRemoteSocketFork_malformed bad fun reuse => met (by
      simp only [SharesSlotId, task]
      exact ⟨full, reuse⟩)
    obtain ⟨rfl, rfl, rfl⟩ : table = s.table ∧ code = Code.badCoprotoMessageHeader ∧ faults = [] := by
      simpa [init] using refused
    have closed := AnyRecvOp.awaitSuspend_closedWith (s := { s.logRecv
      (.header (recvCall ec bt bytes)) with forkFaults := s.forkFaults ++ [] })
      ⟨any, requested⟩ inv.send.flags error
    exact closed.after rfl rfl
  | accepted header token task size _ table code faults init fine =>
    simp only [task] at bad
    have refused := ForkTable.initRemoteSocketFork_malformed bad fun reuse => met (by
      simp only [SharesSlotId, task]
      exact ⟨full, reuse⟩)
    rw [refused] at init
    cases init
    cases fine
  | body frame op token task size =>
    rw [task] at bad
    exact bad.elim

end SockScheduler

/-- In every state reached without a shared slot id: the maps describe the
slots, local ids are distinct, no assertion of `initRemoteSocketFork` has
failed, and the next message closes the scheduler if it is malformed. -/
theorem forkTables_ok {sid : SessionID} {es : List Event} {s : SockScheduler}
    (run : Run step (fun s e => ¬ SharesSlotId s e) (init sid) es s) :
    s.table.IdsOk ∧ s.table.RemotesOk ∧
    (s.held.length < 2 ^ 32 - 1 → s.table.LocalsOk s.held.length ∧
      ∀ id ∈ s.held, s.table.LocalOf id.mVal) ∧
    (∀ f ∈ s.forkFaults, f = .initLocalSocketForkLocalId) ∧
    ∀ ec bt bytes t, ¬ SharesSlotId s (.recvReturned ec bt bytes) →
      (recvCall ec bt bytes).Full → s.Malformed bytes → s.recvReturned ec bt bytes = some t →
      ClosedWith s t Code.badCoprotoMessageHeader := by
  have all : BaseInv s ∧ TablesOk s := by
    refine run.invariant (I := fun s => BaseInv s ∧ TablesOk s)
      ⟨BaseInv.init sid, TablesOk.init sid⟩ ?_
    rintro s e t ⟨inv, ok⟩ met taken
    exact ⟨inv.step taken, ok.step met (tableStep inv taken)⟩
  obtain ⟨inv, ok⟩ := all
  exact ⟨ok.ids, ok.remotes, ok.locals, ok.faults, fun ec bt bytes t met full bad taken =>
    malformed_closes inv met full bad taken⟩

/-- The peer opens the root session. -/
def openedRun : List Event :=
  [.recv SessionID.root.mVal { allowResize := false, size := 1 } .none,
   .run .recvTask,
   .recvReturned Code.success 8 (Header.bytes ⟨0, 5⟩),
   .recvReturned Code.success 16 (controlBlockBytes SessionID.root)]

/-- A message for slot id 9, which is not mapped, closes the scheduler then. -/
theorem forkTables_ok_opened : ∃ s t,
    Run step (fun s e => ¬ SharesSlotId s e) (init SessionID.root) openedRun s ∧
      s.table.RemotesOk ∧ s.table.mRemoteSocketForkMapping_ 5 = some 0 ∧
      s.recvReturned Code.success 8 (Header.bytes ⟨3, 9⟩) = some t ∧
      t.mEC = Code.badCoprotoMessageHeader := by
  have reached : (exec step (fun s e => ¬ SharesSlotId s e) (init SessionID.root)
      openedRun).map (fun s => (match s.rx.mRecvTask with | .header _ => true | _ => false,
        s.table.mRemoteSocketForkMapping_ 5, s.table.mRemoteSocketForkMapping_ 9, s.mEC.isError,
        (s.recvReturned Code.success 8 (Header.bytes ⟨3, 9⟩)).isSome)) =
      some (true, some 0, none, false, true) := by
    decide
  obtain ⟨s, result, facts⟩ := Option.map_eq_some_iff.mp reached
  simp only [Prod.mk.injEq] at facts
  obtain ⟨task, mapped, unmapped, open_, returns⟩ := facts
  obtain ⟨t, taken⟩ := Option.isSome_iff_exists.mp returns
  obtain ⟨_, remotes, _, _, closes⟩ := forkTables_ok (.of_exec result)
  split at task
  · rename_i token reading
    have bad : s.Malformed (Header.bytes ⟨3, 9⟩) := by
      simp only [Malformed, reading, Header.ofBytes_bytes]
      exact ⟨by decide, unmapped⟩
    have closed := closes Code.success 8 (Header.bytes ⟨3, 9⟩) t
      (by simp [SharesSlotId, reading]) (by decide) bad taken
    exact ⟨s, t, .of_exec result, remotes, mapped, taken, by simp [closed.mEC, open_]⟩
  · cases task

/-! ## The failing run

Two sessions arrive under slot id 5. -/

def sharedSlotRun : List Event :=
  [.recv SessionID.root.mVal { allowResize := false, size := 1 } .none,
   .run .recvTask,
   .recvReturned Code.success 8 (Header.bytes ⟨0, 5⟩),
   .recvReturned Code.success 16 (controlBlockBytes SessionID.root),
   .recvReturned Code.success 8 (Header.bytes ⟨0, 5⟩),
   .recvReturned Code.success 16 (controlBlockBytes ⟨(1, 2), 0⟩)]

/-- The assertion fails; a build without it goes on with two slots on one id. -/
theorem sharedSlotRun_fails : ∃ s, Run step anyStep (init SessionID.root) sharedSlotRun s ∧
    .initRemoteSocketForkSlotId ∈ s.forkFaults ∧ ¬ s.table.RemotesOk ∧
    s.mEC.isError = false := by
  have reached : (exec step anyStep (init SessionID.root) sharedSlotRun).map (fun s =>
      (decide (.initRemoteSocketForkSlotId ∈ s.forkFaults), s.table.mRemoteSocketForkMapping_ 5,
        (s.table.mSocketForks_[1]?).map (·.mRemoteId), s.mEC.isError)) =
      some (true, some 0, some 5, false) := by
    decide
  obtain ⟨s, result, facts⟩ := Option.map_eq_some_iff.mp reached
  simp only [Prod.mk.injEq, decide_eq_true_eq] at facts
  obtain ⟨failed, mapped, second, open_⟩ := facts
  obtain ⟨f, found, shared⟩ := Option.map_eq_some_iff.mp second
  refine ⟨s, .of_exec result, failed, fun remotes => ?_, open_⟩
  have other := (remotes 5 1).mpr ⟨f, found, shared, by decide⟩
  rw [mapped] at other
  cases other

end Coproto
