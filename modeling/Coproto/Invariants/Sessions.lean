import Coproto.Guarantees.ForkTables

/-!
# The sessions each side knows by number

SocketScheduler.cpp:92-155, SocketScheduler.h:1066-1080. `peerSession` is what a slot id of the
peer stands for here, `Announces` what a slot id of our own was announced to stand for. A local
fork changes neither, unless its session has a local id already.
-/
namespace Coproto

namespace ForkTable
variable {t : ForkTable} {slot : Nat} {k : UInt32} {v : UInt64 × UInt64} {id : SessionID}

/-- The session of a slot id that the peer uses. -/
def peerSession (t : ForkTable) (k : UInt32) : Option (UInt64 × UInt64) :=
  (t.mRemoteSocketForkMapping_ k).map fun slot => (t.fork slot).mSessionID.mVal

/-- A slot-init message for this slot has been started. -/
def Announces (t : ForkTable) (k : UInt32) (v : UInt64 × UInt64) : Prop :=
  ∃ (slot : Nat) (f : SocketFork), t.mSocketForks_[slot]? = some f ∧ f.mInitiated = true ∧
    f.mLocalId = k ∧ f.mSessionID.mVal = v

/-- Slots that were announced have a local id. -/
def AnnouncedOk (t : ForkTable) : Prop :=
  ∀ (i : Nat) (f : SocketFork), t.mSocketForks_[i]? = some f → f.mInitiated = true →
    f.mLocalId ≠ unassigned

/-- The next fork of this slot is one of a session that has a local id. -/
def Collides (t : ForkTable) (slot : Nat) : Prop :=
  ∃ i ∈ t.mIdSocketForkMapping_ (t.fork slot).mSessionID.derive.1.mVal,
    (t.fork i).mLocalId ≠ unassigned

instance (t : ForkTable) (slot : Nat) : Decidable (t.Collides slot) :=
  inferInstanceAs (Decidable (∃ i ∈ _, _))

/-! ## Announced slots -/

theorem Announces.unique {n : Nat} (locals : t.LocalsOk n) (ok : t.AnnouncedOk)
    {w : UInt64 × UInt64} (first : t.Announces k v) (second : t.Announces k w) : v = w := by
  obtain ⟨i, f, found, initiated, local_, rfl⟩ := first
  obtain ⟨j, g, found', _, local', rfl⟩ := second
  have same := locals.distinct i j f g found found' (ok i f found initiated)
    (local_.trans local'.symm)
  subst same
  cases found.symm.trans found'
  rfl

theorem Announces.slot_unique (ids : t.IdsOk) {j : UInt32} (first : t.Announces k v)
    (second : t.Announces j v) : k = j := by
  obtain ⟨i, f, found, _, rfl, session⟩ := first
  obtain ⟨i', f', found', _, rfl, session'⟩ := second
  have here := (ids v i).mpr ⟨f, found, session⟩
  have there := (ids v i').mpr ⟨f', found', session'⟩
  rw [here, Option.some.injEq] at there
  subst there
  cases found.symm.trans found'
  rfl

/-- Writes that leave the three fields of the slot alone. -/
theorem announces_modify (slot : Nat) {g : SocketFork → SocketFork}
    (same : ∀ f, t.mSocketForks_[slot]? = some f → (g f).mInitiated = f.mInitiated ∧
      (g f).mLocalId = f.mLocalId ∧ (g f).mSessionID.mVal = f.mSessionID.mVal) :
    (t.modify slot g).Announces k v ↔ t.Announces k v := by
  unfold Announces
  refine exists_congr fun i => ?_
  rw [getElem?_modify]
  by_cases here : slot = i
  · subst here
    cases found : t.mSocketForks_[slot]? with
    | none => simp
    | some f =>
      obtain ⟨initiated, local_, session⟩ := same f found
      simp [initiated, local_, session]
  · simp [here]

theorem AnnouncedOk.modify (ok : t.AnnouncedOk) (slot : Nat) {g : SocketFork → SocketFork}
    (keeps : ∀ f, t.mSocketForks_[slot]? = some f → (g f).mInitiated = true →
      (f.mInitiated = true → f.mLocalId ≠ unassigned) → (g f).mLocalId ≠ unassigned) :
    (t.modify slot g).AnnouncedOk := by
  intro i f found initiated
  rw [getElem?_modify, Option.map_eq_some_iff] at found
  obtain ⟨f', old, rfl⟩ := found
  by_cases here : slot = i
  · subst here
    rw [if_pos rfl] at initiated ⊢
    exact keeps f' old initiated (ok slot f' old)
  · rw [if_neg here] at initiated ⊢
    exact ok i f' old initiated

/-- A slot that is added has not been announced. -/
theorem announces_emplace (id : SessionID) : (t.emplace id).1.Announces k v ↔ t.Announces k v := by
  unfold Announces
  refine exists_congr fun i => ?_
  rcases emplace_get t id i with same | ⟨_, _, none, new⟩
  · rw [same]
  · rw [none, new]
    constructor
    · rintro ⟨f, found, initiated, _⟩
      cases found
      cases initiated
    · rintro ⟨f, found, _⟩
      cases found

theorem AnnouncedOk.emplace (ok : t.AnnouncedOk) (id : SessionID) :
    (t.emplace id).1.AnnouncedOk := by
  intro i f found initiated
  rcases emplace_get t id i with same | ⟨_, _, _, new⟩
  · exact ok i f (same ▸ found) initiated
  · rw [new] at found
    cases found
    cases initiated

/-- The slot of a session without a local id has not been announced. -/
theorem announces_initLocalSocketFork (ids : t.IdsOk) (ok : t.AnnouncedOk)
    (free : ∀ slot, t.mIdSocketForkMapping_ id.mVal = some slot →
      (t.fork slot).mLocalId = unassigned) :
    (t.initLocalSocketFork id).1.Announces k v ↔ t.Announces k v := by
  obtain ⟨slot, placed⟩ : ∃ slot, (t.emplace id).2 = slot := ⟨_, rfl⟩
  have here := ((ids.emplace id).get (emplace_slot t id)).1
  rw [placed] at here
  -- the slot that gets the id
  have silent : ((t.emplace id).1.fork slot).mInitiated = false := by
    cases mapped : t.mIdSocketForkMapping_ id.mVal with
    | none =>
      rw [emplace_new mapped] at placed here ⊢
      subst placed
      simp [fork]
    | some i =>
      rw [emplace_mapped mapped] at placed here ⊢
      subst placed
      by_contra told
      exact ok i _ here (by simpa using told) (free i mapped)
  rw [← announces_emplace (t := t) (k := k) (v := v) id]
  show ((t.emplace id).1.modify (t.emplace id).2 _).Announces k v ↔ _
  rw [placed]
  unfold Announces
  refine exists_congr fun i => ?_
  rw [getElem?_modify]
  by_cases same : slot = i
  · subst same
    rw [here]
    simp [silent]
  · simp [same]

theorem AnnouncedOk.initLocalSocketFork (ok : t.AnnouncedOk)
    (next : t.mNextLocalSocketFork ≠ unassigned) (id : SessionID) :
    (t.initLocalSocketFork id).1.AnnouncedOk := by
  have next' : (t.emplace id).1.mNextLocalSocketFork ≠ unassigned := by rwa [emplace_next]
  have written := (ok.emplace id).modify (t.emplace id).2 (g := fun f =>
    { f with mLocalId := (t.emplace id).1.mNextLocalSocketFork }) fun _ _ _ _ => next'
  exact written

theorem derive_same (slot : Nat) (f : SocketFork) (found : t.mSocketForks_[slot]? = some f) :
    (t.fork slot).mSessionID.derive.2.mVal = f.mSessionID.mVal := by
  rw [fork_of_get found]
  exact SessionID.derive_parent_mVal _

theorem announces_forkSlot (ids : t.IdsOk) (ok : t.AnnouncedOk) (free : ¬ t.Collides slot) :
    (t.forkSlot slot).1.Announces k v ↔ t.Announces k v := by
  have derived := announces_modify (t := t) (k := k) (v := v) slot
    (g := fun f => { f with mSessionID := (t.fork slot).mSessionID.derive.2 })
    fun f found => ⟨rfl, rfl, derive_same slot f found⟩
  have ok' := ok.modify slot (g := fun f =>
    { f with mSessionID := (t.fork slot).mSessionID.derive.2 })
    fun _ _ initiated old => old initiated
  refine (announces_initLocalSocketFork (ids.derive slot) ok' fun i mapped => ?_).trans derived
  by_contra taken
  have inside := ids.lt mapped
  refine free ⟨i, mapped, fun none => taken ?_⟩
  obtain ⟨f, found⟩ : ∃ f, t.mSocketForks_[i]? = some f := ⟨_, (ids.get mapped).1⟩
  have moved : (t.modify slot fun f =>
      { f with mSessionID := (t.fork slot).mSessionID.derive.2 }).mSocketForks_[i]? =
      some (if slot = i then { f with mSessionID := (t.fork slot).mSessionID.derive.2 }
        else f) := by
    rw [getElem?_modify, found]
    rfl
  rw [fork_of_get moved]
  rw [fork_of_get found] at none
  split <;> exact none

theorem AnnouncedOk.forkSlot (ok : t.AnnouncedOk) (next : t.mNextLocalSocketFork ≠ unassigned)
    (slot : Nat) : (t.forkSlot slot).1.AnnouncedOk :=
  AnnouncedOk.initLocalSocketFork (ok.modify slot (g := fun f =>
    { f with mSessionID := (t.fork slot).mSessionID.derive.2 }) fun _ _ initiated old =>
      old initiated) next _

/-- A meta message of the peer announces nothing of ours. -/
theorem announces_initRemoteSocketFork (slotId : UInt32) :
    (t.initRemoteSocketFork slotId id).1.Announces k v ↔ t.Announces k v := by
  unfold ForkTable.initRemoteSocketFork
  split
  · exact Iff.rfl
  · dsimp only
    split
    · exact announces_emplace id
    · refine Iff.trans ?_ (announces_emplace id)
      exact announces_modify (t := (t.emplace id).1) (t.emplace id).2
        (g := fun f => { f with mRemoteId := slotId }) fun _ _ => ⟨rfl, rfl, rfl⟩

theorem AnnouncedOk.initRemoteSocketFork (ok : t.AnnouncedOk) (slotId : UInt32) (id : SessionID) :
    (t.initRemoteSocketFork slotId id).1.AnnouncedOk := by
  unfold ForkTable.initRemoteSocketFork
  split
  · exact ok
  · dsimp only
    split
    · exact ok.emplace id
    · have written := (ok.emplace id).modify (t.emplace id).2
        (g := fun f => { f with mRemoteId := slotId }) fun _ _ initiated old => old initiated
      exact written

/-- The send task starts the slot-init message of a slot. -/
theorem announces_initiate {f : SocketFork} (found : t.mSocketForks_[slot]? = some f) :
    (t.modify slot fun f => { f with mInitiated := true }).Announces k v ↔
      t.Announces k v ∨ f.mLocalId = k ∧ f.mSessionID.mVal = v := by
  unfold Announces
  constructor
  · rintro ⟨i, g, there, initiated, local_, session⟩
    rw [getElem?_modify, Option.map_eq_some_iff] at there
    obtain ⟨g', old, rfl⟩ := there
    by_cases here : slot = i
    · subst here
      cases found.symm.trans old
      rw [if_pos rfl] at local_ session
      exact .inr ⟨local_, session⟩
    · rw [if_neg here] at initiated local_ session
      exact .inl ⟨i, g', old, initiated, local_, session⟩
  · rintro (⟨i, g, old, initiated, local_, session⟩ | ⟨local_, session⟩)
    · refine ⟨i, if slot = i then { g with mInitiated := true } else g, ?_, ?_, ?_, ?_⟩
      · rw [getElem?_modify, old]
        rfl
      · split
        · rfl
        · exact initiated
      · split <;> exact local_
      · split <;> exact session
    · refine ⟨slot, { f with mInitiated := true }, ?_, rfl, local_, session⟩
      rw [getElem?_modify, found]
      simp

/-! ## Slots that are added -/

/-- Sessions keep their slot; a session that is new to the table gets a new one. -/
structure Extends (t u : ForkTable) : Prop where
  kept : ∀ v slot, t.mIdSocketForkMapping_ v = some slot → u.mIdSocketForkMapping_ v = some slot
  added : ∀ v slot, u.mIdSocketForkMapping_ v = some slot →
    t.mIdSocketForkMapping_ v = some slot ∨ t.mSocketForks_.length ≤ slot

theorem Extends.of_eq {u : ForkTable}
    (same : u.mIdSocketForkMapping_ = t.mIdSocketForkMapping_) : t.Extends u := by
  constructor
  · intro v slot mapped
    rwa [same]
  · intro v slot mapped
    rw [same] at mapped
    exact .inl mapped

theorem extends_emplace (t : ForkTable) (id : SessionID) : t.Extends (t.emplace id).1 := by
  cases mapped : t.mIdSocketForkMapping_ id.mVal with
  | some slot =>
    rw [emplace_mapped mapped]
    exact .of_eq rfl
  | none =>
    rw [emplace_new mapped]
    constructor
    · intro v slot old
      have other : v ≠ id.mVal := by
        rintro rfl
        rw [mapped] at old
        cases old
      show (if v = id.mVal then _ else _) = _
      rwa [if_neg other]
    · intro v slot new
      have new : (if v = id.mVal then some t.mSocketForks_.length
        else t.mIdSocketForkMapping_ v) = some slot := new
      split at new
      · exact .inr (Nat.le_of_eq (Option.some.inj new))
      · exact .inl new

theorem extends_forkSlot (t : ForkTable) (slot : Nat) : t.Extends (t.forkSlot slot).1 := by
  have placed := extends_emplace (t.modify slot fun f =>
    { f with mSessionID := (t.fork slot).mSessionID.derive.2 }) (t.fork slot).mSessionID.derive.1
  constructor
  · exact placed.kept
  · intro v i mapped
    have old := placed.added v i mapped
    rwa [length_modify] at old

theorem extends_initRemoteSocketFork (t : ForkTable) (slotId : UInt32) (id : SessionID) :
    t.Extends (t.initRemoteSocketFork slotId id).1 := by
  unfold ForkTable.initRemoteSocketFork
  split
  · exact .of_eq rfl
  · have placed := extends_emplace t id
    dsimp only
    split
    · exact placed
    · exact ⟨placed.kept, placed.added⟩

/-! ## Sessions of the peer -/

/-- Sessions stay where they are, and so do the slots the peer names. -/
theorem peerSession_congr {u : ForkTable} (remotes : t.RemotesOk)
    (same : u.mRemoteSocketForkMapping_ = t.mRemoteSocketForkMapping_)
    (kept : ∀ (i : Nat) (f : SocketFork), t.mSocketForks_[i]? = some f →
      ∃ g : SocketFork, u.mSocketForks_[i]? = some g ∧ g.mSessionID.mVal = f.mSessionID.mVal)
    (k : UInt32) : u.peerSession k = t.peerSession k := by
  unfold peerSession
  rw [same]
  cases mapped : t.mRemoteSocketForkMapping_ k with
  | none => rfl
  | some slot =>
    have found := (remotes.get mapped).1
    obtain ⟨g, there, session⟩ := kept slot _ found
    simp [fork_of_get there, session]

theorem sessions_modify (slot : Nat) {g : SocketFork → SocketFork}
    (same : ∀ f, t.mSocketForks_[slot]? = some f → (g f).mSessionID.mVal = f.mSessionID.mVal)
    (i : Nat) (f : SocketFork) (found : t.mSocketForks_[i]? = some f) :
    ∃ h : SocketFork, (t.modify slot g).mSocketForks_[i]? = some h ∧
      h.mSessionID.mVal = f.mSessionID.mVal := by
  refine ⟨if slot = i then g f else f, ?_, ?_⟩
  · rw [getElem?_modify, found]
    rfl
  · by_cases here : slot = i
    · subst here
      rw [if_pos rfl]
      exact same f found
    · rw [if_neg here]

theorem sessions_emplace (id : SessionID) (i : Nat) (f : SocketFork)
    (found : t.mSocketForks_[i]? = some f) : (t.emplace id).1.mSocketForks_[i]? = some f := by
  rcases emplace_get t id i with same | ⟨_, _, none, _⟩
  · rw [same, found]
  · simp [none] at found

theorem peerSession_modify (remotes : t.RemotesOk) (slot : Nat) {g : SocketFork → SocketFork}
    (same : ∀ f, t.mSocketForks_[slot]? = some f → (g f).mSessionID.mVal = f.mSessionID.mVal)
    (k : UInt32) : (t.modify slot g).peerSession k = t.peerSession k :=
  peerSession_congr (u := t.modify slot g) remotes rfl (sessions_modify slot same) k

theorem peerSession_forkSlot (remotes : t.RemotesOk) (slot : Nat) (k : UInt32) :
    (t.forkSlot slot).1.peerSession k = t.peerSession k := by
  refine peerSession_congr remotes ?_ (fun i f found => ?_) k
  · show ((t.modify slot _).emplace _).1.mRemoteSocketForkMapping_ = _
    rw [emplace_remote]
    rfl
  · obtain ⟨h, derived, session⟩ := sessions_modify slot (g := fun f =>
      { f with mSessionID := (t.fork slot).mSessionID.derive.2 }) (derive_same slot) i f found
    have placed := sessions_emplace (t.fork slot).mSessionID.derive.1 i h derived
    obtain ⟨h', there, session'⟩ := sessions_modify ((t.modify slot fun f =>
      { f with mSessionID := (t.fork slot).mSessionID.derive.2 }).emplace
        (t.fork slot).mSessionID.derive.1).2 (g := fun f => { f with mLocalId :=
          ((t.modify slot fun f =>
            { f with mSessionID := (t.fork slot).mSessionID.derive.2 }).emplace
            (t.fork slot).mSessionID.derive.1).1.mNextLocalSocketFork }) (fun _ _ => rfl) i h placed
    exact ⟨h', there, session'.trans session⟩

/-- A fresh meta message gives its slot id a meaning. -/
theorem peerSession_initRemoteSocketFork {slotId : UInt32} (ids : t.IdsOk) (remotes : t.RemotesOk)
    (fresh : t.FreshMeta slotId id) (k : UInt32) :
    (t.initRemoteSocketFork slotId id).1.peerSession k =
      if k = slotId then some id.mVal else t.peerSession k := by
  obtain ⟨assigned, free, open_⟩ := fresh
  have kept := sessions_modify (t := (t.emplace id).1) (t.emplace id).2
    (g := fun f => { f with mRemoteId := slotId }) fun _ _ => rfl
  rw [initRemoteSocketFork_accepted ids assigned open_]
  unfold peerSession
  by_cases key : k = slotId
  · simp only [key, free, and_self, if_true, Option.map_some]
    obtain ⟨here, session⟩ := (ids.emplace id).get (emplace_slot t id)
    obtain ⟨h, there, same⟩ := kept _ _ here
    have there' : ((t.emplace id).1.modify (t.emplace id).2 fun f =>
      { f with mRemoteId := slotId }).fork (t.emplace id).2 = h := fork_of_get there
    show some (((t.emplace id).1.modify (t.emplace id).2 fun f =>
      { f with mRemoteId := slotId }).fork (t.emplace id).2).mSessionID.mVal = _
    rw [there', same, session]
  · simp only [key, false_and, if_false]
    cases mapped : t.mRemoteSocketForkMapping_ k with
    | none => rfl
    | some slot =>
      have placed := sessions_emplace id slot _ (remotes.get mapped).1
      obtain ⟨h, there, same⟩ := kept _ _ placed
      have there' : ((t.emplace id).1.modify (t.emplace id).2 fun f =>
        { f with mRemoteId := slotId }).fork slot = h := fork_of_get there
      show some (((t.emplace id).1.modify (t.emplace id).2 fun f =>
        { f with mRemoteId := slotId }).fork slot).mSessionID.mVal = _
      rw [there', same]
      rfl

/-- What a free slot id and an unknown session make of a meta message. -/
theorem freshMeta_of_free {slotId : UInt32} (ids : t.IdsOk) (remotes : t.RemotesOk)
    (assigned : slotId ≠ unassigned) (free : t.peerSession slotId = none)
    (new : ∀ k, t.peerSession k ≠ some id.mVal) : t.FreshMeta slotId id := by
  refine ⟨assigned, by simpa [peerSession] using free, fun slot mapped => ?_⟩
  by_contra named
  obtain ⟨found, session⟩ := ids.get mapped
  have here := (remotes (t.fork slot).mRemoteId slot).mpr ⟨_, found, rfl, named⟩
  exact new (t.fork slot).mRemoteId (by simp [peerSession, here, session])

end ForkTable
end Coproto
