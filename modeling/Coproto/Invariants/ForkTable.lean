import Coproto.Source.ForkTable
import Mathlib.Tactic.NormNum

/-!
# The fork tables

SocketScheduler.cpp:101-155. The maps describe the slots: `IdsOk` for session
ids, `RemotesOk` for the slot ids of the peer, `LocalsOk` for the ids handed out
to local forks. The session map is kept by whatever a peer sends; the remote map
only as long as no meta message reuses a slot id that is mapped.
-/
namespace Coproto
namespace ForkTable

/-- Each key is the session of its slot, and each slot has exactly that key. -/
def IdsOk (t : ForkTable) : Prop :=
  ∀ v slot, t.mIdSocketForkMapping_ v = some slot ↔
    ∃ f : SocketFork, t.mSocketForks_[slot]? = some f ∧ f.mSessionID.mVal = v

/-- A key is mapped to the slot that carries it; `~0` is never mapped. -/
def RemotesOk (t : ForkTable) : Prop :=
  ∀ k slot, t.mRemoteSocketForkMapping_ k = some slot ↔
    ∃ f : SocketFork, t.mSocketForks_[slot]? = some f ∧ f.mRemoteId = k ∧ k ≠ unassigned

/-- After `n` local forks: ids `1 .. n` have been handed out, to distinct slots. -/
structure LocalsOk (t : ForkTable) (n : Nat) : Prop where
  next : t.mNextLocalSocketFork.toNat = n + 1
  range : ∀ (i : Nat) (f : SocketFork), t.mSocketForks_[i]? = some f → f.mLocalId ≠ unassigned →
    f.mLocalId.toNat ≤ n
  distinct : ∀ (i j : Nat) (f g : SocketFork), t.mSocketForks_[i]? = some f → t.mSocketForks_[j]? = some g →
    f.mLocalId ≠ unassigned → f.mLocalId = g.mLocalId → i = j

/-- A meta message that opens a session: a slot id that is free, for a session
that has none. -/
def FreshMeta (t : ForkTable) (slotId : UInt32) (id : SessionID) : Prop :=
  slotId ≠ unassigned ∧ t.mRemoteSocketForkMapping_ slotId = none ∧
    ∀ slot, t.mIdSocketForkMapping_ id.mVal = some slot → (t.fork slot).mRemoteId = unassigned

/-- A meta message that carries a slot id in use for a session that has none. -/
def ReusesSlotId (t : ForkTable) (slotId : UInt32) (id : SessionID) : Prop :=
  t.mRemoteSocketForkMapping_ slotId ≠ none ∧
    ∀ slot, t.mIdSocketForkMapping_ id.mVal = some slot → (t.fork slot).mRemoteId = unassigned

instance (t : ForkTable) (slotId : UInt32) (id : SessionID) : Decidable (ReusesSlotId t slotId id) :=
  match h : t.mIdSocketForkMapping_ id.mVal with
  | none => decidable_of_iff (t.mRemoteSocketForkMapping_ slotId ≠ none) (by simp [ReusesSlotId, h])
  | some slot =>
    decidable_of_iff (t.mRemoteSocketForkMapping_ slotId ≠ none ∧
      (t.fork slot).mRemoteId = unassigned) (by simp [ReusesSlotId, h])

variable {t : ForkTable} {slot : Nat} {g : SocketFork → SocketFork}

/-! ## Writes to one slot -/

theorem getElem?_modify (i : Nat) : (t.modify slot g).mSocketForks_[i]? =
    (t.mSocketForks_[i]?).map fun f => if slot = i then g f else f := by
  simp only [modify, List.getElem?_modify]
  by_cases here : slot = i <;> simp [here]

@[simp] theorem length_modify :
    (t.modify slot g).mSocketForks_.length = t.mSocketForks_.length := by
  simp [modify]

/-- A write that keeps a field of every slot keeps what is said about it. -/
theorem exists_modify {γ : Type*} (field : SocketFork → γ) (same : ∀ f, field (g f) = field f)
    (i : Nat) (P : γ → Prop) :
    (∃ f, (t.modify slot g).mSocketForks_[i]? = some f ∧ P (field f)) ↔
      ∃ f, t.mSocketForks_[i]? = some f ∧ P (field f) := by
  rw [getElem?_modify]
  cases t.mSocketForks_[i]? with
  | none => simp
  | some f => by_cases here : slot = i <;> simp [here, same]

theorem IdsOk.modify (ok : IdsOk t) (slot : Nat) (same : ∀ f, (g f).mSessionID.mVal = f.mSessionID.mVal) :
    IdsOk (t.modify slot g) := fun v i =>
  (ok v i).trans (exists_modify (fun f => f.mSessionID.mVal) same i (· = v)).symm

theorem RemotesOk.modify (ok : RemotesOk t) (slot : Nat) (same : ∀ f, (g f).mRemoteId = f.mRemoteId) :
    RemotesOk (t.modify slot g) := fun k i =>
  (ok k i).trans (exists_modify (fun f => f.mRemoteId) same i (fun r => r = k ∧ k ≠ unassigned)).symm

theorem LocalsOk.modify {n : Nat} (ok : LocalsOk t n) (slot : Nat) (same : ∀ f, (g f).mLocalId = f.mLocalId) :
    LocalsOk (t.modify slot g) n := by
  have back : ∀ (i : Nat) (f : SocketFork), (t.modify slot g).mSocketForks_[i]? = some f →
      ∃ f', t.mSocketForks_[i]? = some f' ∧ f'.mLocalId = f.mLocalId := by
    intro i f found
    rw [getElem?_modify, Option.map_eq_some_iff] at found
    obtain ⟨f', found', rfl⟩ := found
    refine ⟨f', found', ?_⟩
    split <;> simp [same]
  refine ⟨ok.next, fun i f found => ?_, fun i j f f' found found' => ?_⟩
  · obtain ⟨_, old, eq⟩ := back i f found
    exact eq ▸ ok.range i _ old
  · obtain ⟨_, old, eq⟩ := back i f found
    obtain ⟨_, old', eq'⟩ := back j f' found'
    exact eq ▸ eq' ▸ ok.distinct i j _ _ old old'

theorem fork_of_get {f : SocketFork} (found : t.mSocketForks_[slot]? = some f) :
    t.fork slot = f := by
  simp [fork, List.getD, found]

theorem IdsOk.get {v : UInt64 × UInt64} (ok : IdsOk t) (mapped : t.mIdSocketForkMapping_ v = some slot) :
    t.mSocketForks_[slot]? = some (t.fork slot) ∧ (t.fork slot).mSessionID.mVal = v := by
  obtain ⟨f, found, key⟩ := (ok v slot).mp mapped
  exact fork_of_get found ▸ ⟨found, key⟩

theorem IdsOk.lt {v : UInt64 × UInt64} (ok : IdsOk t) (mapped : t.mIdSocketForkMapping_ v = some slot) :
    slot < t.mSocketForks_.length :=
  (List.getElem?_eq_some_iff.mp (ok.get mapped).1).1

theorem RemotesOk.get {k : UInt32} (ok : RemotesOk t)
    (mapped : t.mRemoteSocketForkMapping_ k = some slot) :
    t.mSocketForks_[slot]? = some (t.fork slot) ∧ (t.fork slot).mRemoteId = k ∧ k ≠ unassigned := by
  obtain ⟨f, found, key⟩ := (ok k slot).mp mapped
  exact fork_of_get found ▸ ⟨found, key⟩

/-! ## emplace -/

variable {id : SessionID}

theorem emplace_mapped (mapped : t.mIdSocketForkMapping_ id.mVal = some slot) :
    t.emplace id = (t, slot) := by
  simp [emplace, mapped]

theorem emplace_new (unmapped : t.mIdSocketForkMapping_ id.mVal = none) :
    t.emplace id = ({ t with
      mSocketForks_ := t.mSocketForks_ ++ [{ mSessionID := id }]
      mIdSocketForkMapping_ := fun v =>
        if v = id.mVal then some t.mSocketForks_.length else t.mIdSocketForkMapping_ v },
      t.mSocketForks_.length) := by
  simp [emplace, unmapped]

/-- The slots after `emplace`: those before it, and at most one with no ids. -/
theorem emplace_get (t : ForkTable) (id : SessionID) (i : Nat) : (t.emplace id).1.mSocketForks_[i]? = t.mSocketForks_[i]? ∨
    t.mIdSocketForkMapping_ id.mVal = none ∧ i = t.mSocketForks_.length ∧
      t.mSocketForks_[i]? = none ∧ (t.emplace id).1.mSocketForks_[i]? = some { mSessionID := id } := by
  cases h : t.mIdSocketForkMapping_ id.mVal with
  | some slot => simp [emplace_mapped h]
  | none =>
    rw [emplace_new h]
    rcases Nat.lt_trichotomy i t.mSocketForks_.length with before | rfl | after
    · exact .inl (List.getElem?_append_left before)
    · exact .inr ⟨rfl, rfl, by simp, by simp⟩
    · refine .inl ?_
      rw [List.getElem?_eq_none (by simp; omega), List.getElem?_eq_none (by omega)]

theorem emplace_remote : (t.emplace id).1.mRemoteSocketForkMapping_ = t.mRemoteSocketForkMapping_ := by
  unfold emplace
  split <;> rfl

theorem emplace_next : (t.emplace id).1.mNextLocalSocketFork = t.mNextLocalSocketFork := by
  unfold emplace
  split <;> rfl

theorem IdsOk.emplace (ok : IdsOk t) (id : SessionID) : IdsOk (t.emplace id).1 := by
  cases h : t.mIdSocketForkMapping_ id.mVal with
  | some slot => rwa [emplace_mapped h]
  | none =>
    intro v slot
    have unused : ∀ f, t.mSocketForks_[slot]? = some f → f.mSessionID.mVal ≠ id.mVal := by
      intro f found same
      rw [(ok id.mVal slot).mpr ⟨f, found, same⟩] at h
      cases h
    rcases emplace_get t id slot with old | ⟨_, rfl, none, new⟩
    · rw [old]
      rw [emplace_new h] at old ⊢
      by_cases same : v = id.mVal
      · subst same
        simp only [if_true, Option.some.injEq]
        constructor
        · rintro rfl
          simp at old
        · rintro ⟨f, found, key⟩
          exact absurd key (unused f found)
      · simp only [same, if_false]
        exact ok v slot
    · rw [new]
      rw [emplace_new h]
      by_cases same : v = id.mVal
      · simp [same]
      · have out : t.mIdSocketForkMapping_ v ≠ some t.mSocketForks_.length := fun mapped =>
          Nat.lt_irrefl _ (ok.lt mapped)
        simpa [same, eq_comm] using out

theorem RemotesOk.emplace (ok : RemotesOk t) (id : SessionID) : RemotesOk (t.emplace id).1 := by
  intro k slot
  rw [emplace_remote, ok k slot]
  rcases emplace_get t id slot with old | ⟨_, _, none, new⟩
  · rw [old]
  · simp only [none, new, reduceCtorEq, false_and, exists_false, Option.some.injEq,
      exists_eq_left', false_iff, not_and]
    rintro rfl
    simp

theorem LocalsOk.emplace {n : Nat} (ok : LocalsOk t n) (id : SessionID) :
    LocalsOk (t.emplace id).1 n := by
  have old : ∀ (i : Nat) (f : SocketFork), (t.emplace id).1.mSocketForks_[i]? = some f → f.mLocalId ≠ unassigned →
      t.mSocketForks_[i]? = some f := by
    intro i f found assigned
    rcases emplace_get t id i with same | ⟨_, _, _, new⟩
    · rwa [same] at found
    · rw [new, Option.some.injEq] at found
      subst found
      exact absurd rfl assigned
  refine ⟨(congrArg _ emplace_next).trans ok.next, fun i f found assigned => ok.range i f (old i f found assigned) assigned,
    fun i j f g found found' assigned same => ?_⟩
  exact ok.distinct i j f g (old i f found assigned) (old j g found' (same ▸ assigned)) assigned same

/-- The slot `emplace` returns carries the session. -/
theorem emplace_slot (t : ForkTable) (id : SessionID) :
    (t.emplace id).1.mIdSocketForkMapping_ id.mVal = some (t.emplace id).2 := by
  cases h : t.mIdSocketForkMapping_ id.mVal with
  | some slot => simp [emplace_mapped h, h]
  | none => simp [emplace_new h]

/-- The slot of a session that had no remote id has none after `emplace`. -/
theorem emplace_unassigned
    (unassigned : ∀ slot, t.mIdSocketForkMapping_ id.mVal = some slot →
      (t.fork slot).mRemoteId = Coproto.unassigned) :
    ((t.emplace id).1.fork (t.emplace id).2).mRemoteId = Coproto.unassigned := by
  cases h : t.mIdSocketForkMapping_ id.mVal with
  | some slot => rw [emplace_mapped h]; exact unassigned slot h
  | none => simp [emplace_new h, fork]

/-! ## initLocalSocketFork and fork -/

theorem IdsOk.initLocalSocketFork (ok : IdsOk t) (id : SessionID) :
    IdsOk (t.initLocalSocketFork id).1 := by
  have written := (ok.emplace id).modify (t.emplace id).2
    (g := fun f => { f with mLocalId := (t.emplace id).1.mNextLocalSocketFork }) (fun _ => rfl)
  exact written

theorem RemotesOk.initLocalSocketFork (ok : RemotesOk t) (id : SessionID) :
    RemotesOk (t.initLocalSocketFork id).1 := by
  have written := (ok.emplace id).modify (t.emplace id).2
    (g := fun f => { f with mLocalId := (t.emplace id).1.mNextLocalSocketFork }) (fun _ => rfl)
  exact written

theorem LocalsOk.initLocalSocketFork {n : Nat} (ok : LocalsOk t n) (few : n + 1 < 2 ^ 32 - 1)
    (id : SessionID) : LocalsOk (t.initLocalSocketFork id).1 (n + 1) := by
  have placed := ok.emplace id
  have next : (t.emplace id).1.mNextLocalSocketFork.toNat = n + 1 := placed.next
  obtain ⟨slot, placedAt⟩ : ∃ slot, (t.emplace id).2 = slot := ⟨_, rfl⟩
  have get : ∀ (i : Nat) (f : SocketFork), (t.initLocalSocketFork id).1.mSocketForks_[i]? = some f →
      i = slot ∧ f.mLocalId.toNat = n + 1 ∨ (t.emplace id).1.mSocketForks_[i]? = some f ∧ i ≠ slot := by
    intro i f found
    have found' : ((t.emplace id).1.modify (t.emplace id).2 fun f =>
        { f with mLocalId := (t.emplace id).1.mNextLocalSocketFork }).mSocketForks_[i]? = some f := found
    rw [placedAt] at found'
    rw [getElem?_modify, Option.map_eq_some_iff] at found'
    obtain ⟨f', old, rfl⟩ := found'
    by_cases here : slot = i
    · exact .inl ⟨here.symm, by simp [here, next]⟩
    · exact .inr ⟨by simpa [here] using old, fun same => here same.symm⟩
  refine ⟨?_, ?_, ?_⟩
  · have bump : (t.initLocalSocketFork id).1.mNextLocalSocketFork =
        (t.emplace id).1.mNextLocalSocketFork + 1 := rfl
    rw [bump, UInt32.toNat_add, next]
    simp only [UInt32.toNat_one]
    omega
  · intro i f found assigned
    rcases get i f found with ⟨_, last⟩ | ⟨old, _⟩
    · omega
    · exact Nat.le_succ_of_le (placed.range i f old assigned)
  · intro i j f f' found found' assigned same
    rcases get i f found with ⟨rfl, last⟩ | ⟨old, _⟩ <;>
      rcases get j f' found' with ⟨rfl, last'⟩ | ⟨old', _⟩
    · rfl
    · have below := placed.range j f' old' (same ▸ assigned)
      rw [← same] at below
      omega
    · have below := placed.range i f old assigned
      rw [same] at below
      omega
    · exact placed.distinct i j f f' old old' assigned same

/-- Deriving a child writes only the child counter of the parent's slot. -/
theorem IdsOk.derive (ok : IdsOk t) (slot : Nat) : IdsOk (t.modify slot fun f =>
    { f with mSessionID := (t.fork slot).mSessionID.derive.2 }) := by
  by_cases inside : slot < t.mSocketForks_.length
  · intro v i
    have here : t.mSocketForks_[slot]? = some (t.fork slot) := by
      simp [fork, List.getD, inside]
    refine (ok v i).trans ?_
    rw [getElem?_modify]
    by_cases same : slot = i
    · subst same
      simp [here]
    · simp [same]
  · have skip : (t.modify slot fun f =>
        { f with mSessionID := (t.fork slot).mSessionID.derive.2 }) = t := by
      unfold ForkTable.modify
      rw [List.modify_eq_self (Nat.le_of_not_lt inside)]
    rwa [skip]

theorem IdsOk.forkSlot (ok : IdsOk t) (slot : Nat) : IdsOk (t.forkSlot slot).1 :=
  (ok.derive slot).initLocalSocketFork _

theorem RemotesOk.forkSlot (ok : RemotesOk t) (slot : Nat) : RemotesOk (t.forkSlot slot).1 :=
  RemotesOk.initLocalSocketFork (ok.modify slot (g := fun f =>
    { f with mSessionID := (t.fork slot).mSessionID.derive.2 }) fun _ => rfl) _

theorem LocalsOk.forkSlot {n : Nat} (ok : LocalsOk t n) (few : n + 1 < 2 ^ 32 - 1) (slot : Nat) :
    LocalsOk (t.forkSlot slot).1 (n + 1) :=
  LocalsOk.initLocalSocketFork (ok.modify slot (g := fun f =>
    { f with mSessionID := (t.fork slot).mSessionID.derive.2 }) fun _ => rfl) few _

/-! ## initRemoteSocketFork -/

variable {slotId : UInt32}

/-- A session that has a remote id, and `~0`, are refused with the table as it was. -/
theorem initRemoteSocketFork_rejected
    (stale : slotId = unassigned ∨ ∃ slot, t.mIdSocketForkMapping_ id.mVal = some slot ∧
      (t.fork slot).mRemoteId ≠ unassigned) :
    t.initRemoteSocketFork slotId id = (t, (Code.badCoprotoMessageHeader : ErrorCode), []) := by
  unfold initRemoteSocketFork
  by_cases wild : slotId = unassigned
  · simp [wild]
  · obtain ⟨slot, mapped, taken⟩ := stale.resolve_left wild
    simp [wild, emplace_mapped mapped, taken]

/-- Otherwise the message is accepted; the second assertion fails on a slot id
that is mapped. -/
theorem initRemoteSocketFork_accepted (ok : IdsOk t) (assigned : slotId ≠ unassigned)
    (open_ : ∀ slot, t.mIdSocketForkMapping_ id.mVal = some slot →
      (t.fork slot).mRemoteId = unassigned) :
    t.initRemoteSocketFork slotId id =
      ({ (t.emplace id).1.modify (t.emplace id).2 (fun f => { f with mRemoteId := slotId }) with
          mRemoteSocketForkMapping_ := fun k =>
            if k = slotId ∧ t.mRemoteSocketForkMapping_ slotId = none then some (t.emplace id).2
            else t.mRemoteSocketForkMapping_ k },
        (Code.success : ErrorCode),
        require (t.mRemoteSocketForkMapping_ slotId = none)
          ForkFault.initRemoteSocketForkSlotId) := by
  have session : ((t.emplace id).1.fork (t.emplace id).2).mSessionID.mVal = id.mVal :=
    ((ok.emplace id).get (emplace_slot t id)).2
  have remote := emplace_unassigned open_
  unfold initRemoteSocketFork
  simp only [assigned, if_false, remote, session, decide_true, require_true, List.nil_append,
    emplace_remote, modify, ne_eq, not_true_eq_false]

theorem IdsOk.initRemoteSocketFork (ok : IdsOk t) (slotId : UInt32) (id : SessionID) :
    IdsOk (t.initRemoteSocketFork slotId id).1 := by
  by_cases stale : slotId = unassigned ∨ ∃ slot, t.mIdSocketForkMapping_ id.mVal = some slot ∧
      (t.fork slot).mRemoteId ≠ unassigned
  · rwa [initRemoteSocketFork_rejected stale]
  · simp only [not_or, not_exists, not_and, not_not] at stale
    rw [initRemoteSocketFork_accepted ok stale.1 stale.2]
    have written := (ok.emplace id).modify (t.emplace id).2
      (g := fun f => { f with mRemoteId := slotId }) (fun _ => rfl)
    exact written

theorem LocalsOk.initRemoteSocketFork {n : Nat} (ok : LocalsOk t n) (ids : IdsOk t)
    (slotId : UInt32) (id : SessionID) : LocalsOk (t.initRemoteSocketFork slotId id).1 n := by
  by_cases stale : slotId = unassigned ∨ ∃ slot, t.mIdSocketForkMapping_ id.mVal = some slot ∧
      (t.fork slot).mRemoteId ≠ unassigned
  · rwa [initRemoteSocketFork_rejected stale]
  · simp only [not_or, not_exists, not_and, not_not] at stale
    rw [initRemoteSocketFork_accepted ids stale.1 stale.2]
    have written := (ok.emplace id).modify (t.emplace id).2
      (g := fun f => { f with mRemoteId := slotId }) (fun _ => rfl)
    exact ⟨written.next, written.range, written.distinct⟩

/-- The remote map survives every meta message that does not reuse a slot id. -/
theorem RemotesOk.initRemoteSocketFork (ok : RemotesOk t) (ids : IdsOk t)
    (noReuse : ¬ ReusesSlotId t slotId id) :
    RemotesOk (t.initRemoteSocketFork slotId id).1 ∧
      (t.initRemoteSocketFork slotId id).2.2 = [] := by
  by_cases stale : slotId = unassigned ∨ ∃ slot, t.mIdSocketForkMapping_ id.mVal = some slot ∧
      (t.fork slot).mRemoteId ≠ unassigned
  · rw [initRemoteSocketFork_rejected stale]
    exact ⟨ok, rfl⟩
  · simp only [not_or, not_exists, not_and, not_not] at stale
    have free : t.mRemoteSocketForkMapping_ slotId = none := by
      by_contra used
      exact noReuse ⟨used, stale.2⟩
    rw [initRemoteSocketFork_accepted ids stale.1 stale.2]
    refine ⟨fun k i => ?_, by simp [free]⟩
    have placed := (ok.emplace id) k i
    rw [emplace_remote] at placed
    have here := ((ids.emplace id).get (emplace_slot t id)).1
    have none := emplace_unassigned stale.2
    simp only [free, and_true]
    show (if k = slotId then _ else _) = some i ↔
      ∃ f, ((t.emplace id).1.modify (t.emplace id).2 _).mSocketForks_[i]? = some f ∧ _
    rw [getElem?_modify]
    by_cases slot : (t.emplace id).2 = i
    · subst slot
      rw [here] at placed ⊢
      by_cases key : k = slotId
      · simp [key, stale.1]
      · simp only [key, if_false, placed, Option.map_some, Option.some.injEq, if_true,
          exists_eq_left', none]
        constructor
        · rintro ⟨rfl, wild⟩
          exact absurd rfl wild
        · rintro ⟨rfl, _⟩
          exact absurd rfl key
    · by_cases key : k = slotId
      · subst key
        simp only [if_true, Option.some.injEq, slot, false_iff, if_false, Option.map_id']
        rw [← placed, free]
        simp
      · simp only [key, if_false, slot, Option.map_id', placed]

/-! ## Slots are only added -/

theorem length_emplace (t : ForkTable) (id : SessionID) :
    t.mSocketForks_.length ≤ (t.emplace id).1.mSocketForks_.length := by
  unfold emplace
  split <;> simp

theorem length_initLocalSocketFork (t : ForkTable) (id : SessionID) :
    t.mSocketForks_.length ≤ (t.initLocalSocketFork id).1.mSocketForks_.length := by
  refine (length_emplace t id).trans (Nat.le_of_eq ?_)
  exact (length_modify (t := (t.emplace id).1)).symm

theorem length_forkSlot (t : ForkTable) (slot : Nat) :
    t.mSocketForks_.length ≤ (t.forkSlot slot).1.mSocketForks_.length := by
  refine Nat.le_trans (Nat.le_of_eq ?_) (length_initLocalSocketFork _ _)
  exact length_modify.symm

theorem length_initRemoteSocketFork (t : ForkTable) (slotId : UInt32) (id : SessionID) :
    t.mSocketForks_.length ≤ (t.initRemoteSocketFork slotId id).1.mSocketForks_.length := by
  unfold initRemoteSocketFork
  split
  · exact le_rfl
  · dsimp only
    split
    · exact length_emplace t id
    · simp only [length_modify]
      exact length_emplace t id

/-! ## The table of a new scheduler -/

theorem init_get (sid : SessionID) (i : Nat) : (init sid).mSocketForks_[i]? =
    if i = 0 then some { mSessionID := sid, mLocalId := 1 } else none := by
  cases i <;> rfl

theorem IdsOk.init (sid : SessionID) : IdsOk (init sid) := by
  have empty : IdsOk {} := by
    intro v slot
    simp
  exact empty.initLocalSocketFork sid

theorem RemotesOk.init (sid : SessionID) : RemotesOk (init sid) := by
  have empty : RemotesOk {} := by
    intro k slot
    simp
  exact empty.initLocalSocketFork sid

theorem LocalsOk.init (sid : SessionID) : LocalsOk (init sid) 1 := by
  have empty : LocalsOk {} 0 :=
    ⟨rfl, by intro i f found; simp at found, by intro i j f g found; simp at found⟩
  exact empty.initLocalSocketFork (by norm_num) sid

end ForkTable
end Coproto
