import Coproto.Invariants.TableStep
import Coproto.Source.Party

/-!
# Both parties derive the same sessions

Socket.h:242-252, SocketScheduler.cpp:92-155. The session of a socket is a
function of the root and of its path, whatever the peer sends and in whatever
order: a slot that a meta message created carries a counter no fork has moved.
-/
namespace Coproto
open SockScheduler Runs

namespace ForkTable
variable {t u v : ForkTable} {id : SessionID}

/-- Slots are added with a fresh counter; sessions and counters stay. -/
structure Grows (t u : ForkTable) : Prop where
  kept : ∀ {k slot}, t.mIdSocketForkMapping_ k = some slot →
    u.mIdSocketForkMapping_ k = some slot ∧ (u.fork slot).mSessionID = (t.fork slot).mSessionID
  fresh : ∀ {k slot}, t.mIdSocketForkMapping_ k = none → u.mIdSocketForkMapping_ k = some slot →
    (u.fork slot).mSessionID.mChildIdx = 0

theorem Grows.refl : Grows t t :=
  ⟨fun mapped => ⟨mapped, rfl⟩, fun unmapped mapped => by simp [unmapped] at mapped⟩

theorem Grows.trans (first : Grows t u) (second : Grows u v) : Grows t v := by
  refine ⟨fun mapped => ?_, fun {k slot} unmapped mapped => ?_⟩
  · obtain ⟨mapped', same⟩ := first.kept mapped
    obtain ⟨mapped'', same'⟩ := second.kept mapped'
    exact ⟨mapped'', same'.trans same⟩
  · cases h : u.mIdSocketForkMapping_ k with
    | none => exact second.fresh h mapped
    | some slot' =>
      obtain ⟨mapped', same⟩ := second.kept h
      rw [mapped] at mapped'
      cases mapped'
      rw [same]
      exact first.fresh unmapped h

theorem fork_modify (t : ForkTable) (slot : Nat) (g : SocketFork → SocketFork) (i : Nat)
    (inside : i < t.mSocketForks_.length) :
    (t.modify slot g).fork i = if slot = i then g (t.fork i) else t.fork i := by
  have here : t.mSocketForks_[i]? = some (t.fork i) := by simp [fork, List.getD, inside]
  refine fork_of_get ?_
  rw [getElem?_modify, here]
  rfl

theorem Grows.modify (ok : t.IdsOk) (slot : Nat) {g : SocketFork → SocketFork}
    (same : ∀ f, (g f).mSessionID = f.mSessionID) : Grows t (t.modify slot g) := by
  refine ⟨fun mapped => ⟨mapped, ?_⟩, fun unmapped mapped => ?_⟩
  · rw [fork_modify t slot g _ (ok.lt mapped)]
    split
    · exact same _
    · rfl
  · have mapped' : t.mIdSocketForkMapping_ _ = some _ := mapped
    simp [unmapped] at mapped'

theorem Grows.emplace (ok : t.IdsOk) (fresh : id.mChildIdx = 0) : Grows t (t.emplace id).1 := by
  cases h : t.mIdSocketForkMapping_ id.mVal with
  | some slot =>
    rw [emplace_mapped h]
    exact .refl
  | none =>
    have ok' := ok.emplace id
    rw [emplace_new h] at ok' ⊢
    refine ⟨fun {k slot} mapped => ?_, fun {k slot} unmapped mapped => ?_⟩
    · have other : k ≠ id.mVal := by
        rintro rfl
        simp [h] at mapped
      refine ⟨by simpa [other] using mapped, ?_⟩
      have here : (t.mSocketForks_ ++ [({ mSessionID := id } : SocketFork)])[slot]? =
          t.mSocketForks_[slot]? := List.getElem?_append_left (ok.lt mapped)
      rw [fork_of_get (here.trans (ok.get mapped).1)]
    · have new : k = id.mVal := by
        by_contra other
        simp [other, unmapped] at mapped
      subst new
      simp only [if_true, Option.some.injEq] at mapped
      subst mapped
      simp [fork, fresh]

theorem Grows.initLocalSocketFork (ok : t.IdsOk) (fresh : id.mChildIdx = 0) :
    Grows t (t.initLocalSocketFork id).1 := by
  have written := (Grows.emplace ok fresh).trans (.modify (ok.emplace id) (t.emplace id).2
    (g := fun f => { f with mLocalId := (t.emplace id).1.mNextLocalSocketFork }) fun _ => rfl)
  exact ⟨written.kept, written.fresh⟩

theorem Grows.initRemoteSocketFork (ok : t.IdsOk) (slotId : UInt32) (fresh : id.mChildIdx = 0) :
    Grows t (t.initRemoteSocketFork slotId id).1 := by
  unfold ForkTable.initRemoteSocketFork
  split
  · exact .refl
  · dsimp only
    split
    · exact .emplace ok fresh
    · have written := (Grows.emplace ok fresh).trans (.modify (ok.emplace id) (t.emplace id).2
        (g := fun f => { f with mRemoteId := slotId }) fun _ => rfl)
      exact ⟨written.kept, written.fresh⟩

end ForkTable

/-! ## Paths and sessions -/

theorem socketId_snoc (root : SessionID) (path : List Nat) (k : Nat) :
    socketId root (path ++ [k]) = (socketId root path).child k := by
  simp [socketId]

/-- No two of these paths lead to one session. -/
def DistinctIds (root : SessionID) (paths : List (List Nat)) : Prop :=
  ∀ p ∈ paths, ∀ q ∈ paths, (socketId root p).mVal = (socketId root q).mVal → p = q

theorem DistinctIds.mono {root : SessionID} {paths paths' : List (List Nat)}
    (distinct : DistinctIds root paths) (sub : ∀ p ∈ paths', p ∈ paths) : DistinctIds root paths' :=
  fun p mp q mq => distinct p (sub p mp) q (sub q mq)

namespace Party

def paths (p : Party) : List (List Nat) := p.sockets.map Prod.fst

variable {root : SessionID} {t u : ForkTable} {sockets : List (List Nat × (UInt64 × UInt64))}

theorem children_snoc (path path' : List Nat) (k : Nat) (v : UInt64 × UInt64) :
    children (sockets ++ [(path ++ [k], v)]) path' =
      children sockets path' + if path = path' then 1 else 0 := by
  simp [children, List.countP_append, List.countP_cons]

/-- The table and the sockets of one party. -/
structure Paired (root : SessionID) (t : ForkTable)
    (sockets : List (List Nat × (UInt64 × UInt64))) : Prop where
  ids : ∀ {path v}, (path, v) ∈ sockets → v = (socketId root path).mVal
  counters : ∀ {path v}, (path, v) ∈ sockets → ∃ slot, t.mIdSocketForkMapping_ v = some slot ∧
    (t.fork slot).mSessionID.mChildIdx =
      (socketId root path).mChildIdx + UInt64.ofNat (children sockets path)
  idle : ∀ {v slot}, t.mIdSocketForkMapping_ v = some slot → v ∉ sockets.map Prod.snd →
    (t.fork slot).mSessionID.mChildIdx = 0
  numbered : ∀ {path k v}, (path ++ [k], v) ∈ sockets →
    k ≤ children sockets path ∧ path ∈ sockets.map Prod.fst

theorem Paired.grows (paired : Paired root t sockets) (grows : t.Grows u) : Paired root u sockets := by
  refine ⟨paired.ids, fun member => ?_, fun {v slot} mapped unused => ?_, paired.numbered⟩
  · obtain ⟨slot, mapped, counter⟩ := paired.counters member
    obtain ⟨mapped', same⟩ := grows.kept mapped
    exact ⟨slot, mapped', by rw [same, counter]⟩
  · cases h : t.mIdSocketForkMapping_ v with
    | none => exact grows.fresh h mapped
    | some slot' =>
      obtain ⟨mapped', same⟩ := grows.kept h
      rw [mapped] at mapped'
      cases mapped'
      rw [same]
      exact paired.idle h unused

/-- A path with no socket has no children either. -/
theorem Paired.children_unused (paired : Paired root t sockets) {path : List Nat}
    (unused : path ∉ sockets.map Prod.fst) : children sockets path = 0 := by
  refine List.countP_eq_zero.mpr fun socket member child => unused ?_
  simp only [decide_eq_true_eq] at child
  obtain ⟨p, v⟩ := socket
  obtain ⟨nonempty, parent⟩ := child
  have split : p.dropLast ++ [p.getLast nonempty] = p := List.dropLast_append_getLast nonempty
  rw [← split] at member
  exact parent ▸ (paired.numbered member).2

/-- The id a fork derives is the one its path stands for. -/
theorem Paired.derive (paired : Paired root t sockets) (ok : t.IdsOk) {path : List Nat}
    {v : UInt64 × UInt64} {slot : Nat} (member : (path, v) ∈ sockets)
    (mapped : t.mIdSocketForkMapping_ v = some slot) :
    (t.fork slot).mSessionID.derive.1 = socketId root (path ++ [children sockets path + 1]) := by
  obtain ⟨slot', mapped', counter⟩ := paired.counters member
  rw [mapped] at mapped'
  cases mapped'
  have session : (t.fork slot).mSessionID = { socketId root path with
      mChildIdx := (socketId root path).mChildIdx + UInt64.ofNat (children sockets path) } := by
    have value := (ok.get mapped).2.trans (paired.ids member)
    exact congrArg₂ SessionID.mk value counter
  rw [session, socketId_snoc]
  rfl

/-- The counter moves in the parent's slot, and in no other. -/
theorem derive_fork (ok : t.IdsOk) {v w : UInt64 × UInt64} {slot i : Nat}
    (mapped : t.mIdSocketForkMapping_ v = some slot) (there : t.mIdSocketForkMapping_ w = some i) :
    ((t.modify slot fun f => { f with mSessionID := (t.fork slot).mSessionID.derive.2 }).fork
      i).mSessionID = if w = v then (t.fork slot).mSessionID.derive.2 else (t.fork i).mSessionID := by
  rw [ForkTable.fork_modify t slot _ i (ok.lt there)]
  by_cases same : w = v
  · subst same
    rw [mapped] at there
    cases there
    simp
  · have other : slot ≠ i := by
      rintro rfl
      exact same ((ok.get there).2.symm.trans (ok.get mapped).2)
    simp [same, other]

/-- A fork adds the socket of the next number below its parent. -/
theorem Paired.fork (paired : Paired root t sockets) (ok : t.IdsOk) {path : List Nat}
    {v : UInt64 × UInt64} {slot : Nat} (member : (path, v) ∈ sockets)
    (mapped : t.mIdSocketForkMapping_ v = some slot) (distinct : DistinctIds root
      ((sockets ++ [(path ++ [children sockets path + 1],
        (t.fork slot).mSessionID.derive.1.mVal)]).map Prod.fst)) :
    Paired root (t.forkSlot slot).1 (sockets ++ [(path ++ [children sockets path + 1],
      (t.fork slot).mSessionID.derive.1.mVal)]) := by
  have derived := paired.derive ok member mapped
  obtain ⟨q, named⟩ : ∃ q, path ++ [children sockets path + 1] = q := ⟨_, rfl⟩
  obtain ⟨t1, moved⟩ : ∃ t1, (t.modify slot fun f =>
    { f with mSessionID := (t.fork slot).mSessionID.derive.2 }) = t1 := ⟨_, rfl⟩
  have session := fun w i => derive_fork ok (w := w) (i := i) mapped
  have ok1 := ok.derive slot
  have maps : t1.mIdSocketForkMapping_ = t.mIdSocketForkMapping_ := by rw [← moved]; rfl
  have result : (t.forkSlot slot).1 = (t1.initLocalSocketFork (socketId root q)).1 := by
    rw [← moved, ← named, ← derived]
    rfl
  rw [derived, named] at distinct ⊢
  rw [moved] at session ok1
  rw [result]
  have zero : (socketId root q).mChildIdx = 0 := by
    rw [← named, socketId_snoc]
    rfl
  have grows := ForkTable.Grows.initLocalSocketFork ok1 zero
  -- the new path, and with it the new session, is not in use
  have unused : q ∉ sockets.map Prod.fst := by
    intro used
    obtain ⟨⟨_, w⟩, old, rfl⟩ := List.mem_map.mp used
    have old' : (path ++ [children sockets path + 1], w) ∈ sockets := named ▸ old
    exact Nat.not_succ_le_self _ (paired.numbered old').1
  have free : ∀ {p w}, (p, w) ∈ sockets → w ≠ (socketId root q).mVal := by
    rintro p w old rfl
    have value := paired.ids old
    have same := distinct q (by simp) p (List.mem_map.mpr ⟨_, List.mem_append_left _ old, rfl⟩) value
    exact unused (same ▸ List.mem_map.mpr ⟨_, old, rfl⟩)
  have counted : ∀ p, children (sockets ++ [(q, (socketId root q).mVal)]) p =
      children sockets p + if path = p then 1 else 0 := by
    intro p
    rw [← named]
    exact children_snoc path p _ _
  refine ⟨?_, ?_, ?_, ?_⟩
  · intro p w new
    rcases List.mem_append.mp new with old | new
    · exact paired.ids old
    · cases List.mem_singleton.mp new
      rfl
  · intro p w new
    rcases List.mem_append.mp new with old | new
    · obtain ⟨i, there, counter⟩ := paired.counters old
      obtain ⟨there', kept⟩ := grows.kept (maps ▸ there)
      refine ⟨i, there', ?_⟩
      rw [kept, session w i there, counted]
      by_cases parent : path = p
      · subst parent
        obtain rfl : w = v := (paired.ids old).trans (paired.ids member).symm
        rw [mapped] at there
        cases there
        simp only [if_true]
        show (t.fork slot).mSessionID.mChildIdx + 1 = _
        rw [counter, UInt64.ofNat_add, UInt64.add_assoc]
        rfl
      · have other : w ≠ v := by
          rintro rfl
          refine parent (distinct path ?_ p ?_ ((paired.ids member).symm.trans (paired.ids old)))
          · exact List.mem_map.mpr ⟨_, List.mem_append_left _ member, rfl⟩
          · exact List.mem_map.mpr ⟨_, List.mem_append_left _ old, rfl⟩
        rw [if_neg other, if_neg parent, Nat.add_zero]
        exact counter
    · cases List.mem_singleton.mp new
      obtain ⟨i, placed⟩ : ∃ i, (t1.initLocalSocketFork (socketId root q)).1.mIdSocketForkMapping_
        (socketId root q).mVal = some i := ⟨_, ForkTable.emplace_slot t1 _⟩
      refine ⟨i, placed, ?_⟩
      have none : children (sockets ++ [(q, (socketId root q).mVal)]) q = 0 := by
        have longer : path ≠ q := by
          rintro rfl
          simpa using congrArg List.length named
        rw [counted, paired.children_unused unused, if_neg longer]
      rw [none, zero]
      cases h : t.mIdSocketForkMapping_ (socketId root q).mVal with
      | none => exact grows.fresh (maps ▸ h) placed
      | some i' =>
        obtain ⟨there', kept⟩ := grows.kept (maps ▸ h)
        rw [placed] at there'
        cases there'
        rw [kept, session _ _ h, if_neg (Ne.symm (free member))]
        refine paired.idle h fun used => ?_
        obtain ⟨⟨p, _⟩, old, rfl⟩ := List.mem_map.mp used
        exact free old rfl
  · intro w i there idle
    simp only [List.map_append, List.mem_append, not_or] at idle
    cases h : t.mIdSocketForkMapping_ w with
    | none => exact grows.fresh (maps ▸ h) there
    | some i' =>
      obtain ⟨there', kept⟩ := grows.kept (maps ▸ h)
      rw [there] at there'
      cases there'
      have other : w ≠ v := by
        rintro rfl
        exact idle.1 (List.mem_map.mpr ⟨_, member, rfl⟩)
      rw [kept, session _ _ h, if_neg other]
      exact paired.idle h idle.1
  · intro p k w new
    rw [counted]
    rcases List.mem_append.mp new with old | new
    · obtain ⟨low, parent⟩ := paired.numbered old
      exact ⟨low.trans (Nat.le_add_right _ _), by simp only [List.map_append, List.mem_append]; exact .inl parent⟩
    · have this := (Prod.mk.inj (List.mem_singleton.mp new)).1
      rw [← named] at this
      obtain ⟨rfl, number⟩ := List.append_inj' this rfl
      obtain rfl := List.singleton_inj.mp number
      refine ⟨by simp, ?_⟩
      simp only [List.map_append, List.mem_append]
      exact .inl (List.mem_map.mpr ⟨_, member, rfl⟩)

/-! ## Runs -/

theorem Paired.init (root : SessionID) : Paired root (ForkTable.init root) [([], root.mVal)] := by
  refine ⟨?_, ?_, ?_, ?_⟩
  · intro path v member
    cases List.mem_singleton.mp member
    rfl
  · intro path v member
    cases List.mem_singleton.mp member
    refine ⟨0, ?_, ?_⟩
    · simp [ForkTable.init, ForkTable.initLocalSocketFork, ForkTable.emplace, ForkTable.modify]
    · simp [children, socketId, ForkTable.fork, ForkTable.init_get, List.getD]
  · intro v slot mapped unused
    have value := ((ForkTable.IdsOk.init root).get mapped)
    have inside := (ForkTable.init_get root slot).symm.trans value.1
    split at inside
    · have forked := Option.some.inj inside
      have session : ((ForkTable.init root).fork slot).mSessionID = root := by rw [← forked]
      exact absurd (by simp [← value.2, session]) unused
    · cases inside
  · intro path k v member
    simp at member

/-- What holds of a party, once its paths lead to distinct sessions. -/
def Inv (root : SessionID) (p : Party) : Prop :=
  BaseInv p.sched ∧ (DistinctIds root p.paths → Paired root p.sched.table p.sockets)

theorem heldSlot_mapped {s : SockScheduler} {session : UInt64 × UInt64} {slot : Nat}
    (held : s.heldSlot session = some slot) : s.table.mIdSocketForkMapping_ session = some slot := by
  unfold heldSlot at held
  split at held
  · exact held
  · cases held

theorem Inv.fork {p p' : Party} {i : Nat} (inv : Inv root p) (taken : p.step (.fork i) = some p') :
    Inv root p' := by
  obtain ⟨base, paired⟩ := inv
  simp only [Party.step] at taken
  split at taken
  · cases taken
  · rename_i path session found
    split at taken <;> cases taken
    rename_i sched forked
    refine ⟨base.step forked, fun distinct => ?_⟩
    obtain ⟨slot, held, rfl⟩ := Option.map_eq_some_iff.mp forked
    have last : (p.sched.fork slot).held.getLast? =
        some (p.sched.table.fork slot).mSessionID.derive.1 := List.getLast?_concat ..
    simp only [last, Option.map_some, Option.toList_some, paths] at distinct ⊢
    have before := paired (distinct.mono fun q old => by
      rw [List.map_append]
      exact List.mem_append_left _ old)
    exact before.fork base.ids (List.mem_of_getElem? found) (heldSlot_mapped held) distinct

theorem Inv.other {p : Party} {e : SockScheduler.Event} {s : SockScheduler} (inv : Inv root p)
    (noFork : ∀ session, e ≠ .fork session) (taken : p.sched.step e = some s) :
    Inv root { p with sched := s } := by
  obtain ⟨base, paired⟩ := inv
  refine ⟨base.step taken, fun distinct => (paired distinct).grows ?_⟩
  cases tableStep base taken with
  | quiet table => exact table ▸ .refl
  | initiated slot table => exact table ▸ .modify base.ids slot fun _ => rfl
  | forked session => exact absurd rfl (noFork session)
  | remote header token task size full table =>
    exact table ▸ .initRemoteSocketFork base.ids _ rfl

theorem step_other (p : Party) {e : SockScheduler.Event} (noFork : ∀ session, e ≠ .fork session) :
    p.step (.other e) = (p.sched.step e).map fun sched => { p with sched } := by
  cases e with
  | fork session => exact absurd rfl (noFork session)
  | _ => rfl

theorem Inv.step {p p' : Party} {e : Event} (inv : Inv root p) (taken : p.step e = some p') :
    Inv root p' := by
  cases e with
  | fork i => exact inv.fork taken
  | other e =>
    by_cases forks : ∃ session, e = .fork session
    · obtain ⟨session, rfl⟩ := forks
      cases taken
    · have noFork : ∀ session, e ≠ .fork session := fun session same => forks ⟨session, same⟩
      rw [step_other p noFork] at taken
      obtain ⟨s, result, rfl⟩ := Option.map_eq_some_iff.mp taken
      exact inv.other noFork result

theorem inv_of_run {es : List Event} {p : Party} (run : Run Party.step anyStep (init root) es p) :
    Inv root p :=
  run.invariant (I := Inv root) ⟨BaseInv.init root, fun _ => Paired.init root⟩
    fun _ _ _ inv _ taken => inv.step taken

end Party

/-- Two parties with one root, each after any run: a socket's session is the one
its path stands for, and sockets pair up exactly along equal paths. -/
theorem fork_agreement {root : SessionID} {es es' : List Party.Event} {a b : Party}
    (runA : Run Party.step anyStep (Party.init root) es a)
    (runB : Run Party.step anyStep (Party.init root) es' b)
    (distinct : DistinctIds root (a.paths ++ b.paths)) :
    (∀ path v, (path, v) ∈ a.sockets → v = (socketId root path).mVal) ∧
    (∀ path v, (path, v) ∈ b.sockets → v = (socketId root path).mVal) ∧
    ∀ path v path' v', (path, v) ∈ a.sockets → (path', v') ∈ b.sockets → (v = v' ↔ path = path') := by
  have pairedA := (Party.inv_of_run runA).2 (distinct.mono fun p => List.mem_append_left _)
  have pairedB := (Party.inv_of_run runB).2 (distinct.mono fun p => List.mem_append_right _)
  refine ⟨fun path v => pairedA.ids, fun path v => pairedB.ids, ?_⟩
  intro path v path' v' memberA memberB
  rw [pairedA.ids memberA, pairedB.ids memberB]
  constructor
  · intro same
    exact distinct path (List.mem_append_left _ (List.mem_map.mpr ⟨_, memberA, rfl⟩)) path'
      (List.mem_append_right _ (List.mem_map.mpr ⟨_, memberB, rfl⟩)) same
  · rintro rfl
    rfl

/-- The root is forked, then its first child. -/
def forksRun : List Party.Event := [.fork 0, .fork 1]

/-- The first child arrives in a slot-init message before it is forked here. -/
def adoptRun : List Party.Event :=
  [.other (.recv SessionID.root.mVal { allowResize := false, size := 1 } .none),
   .other (.run .recvTask),
   .other (.recvReturned Code.success 8 (Header.bytes ⟨0, 2⟩)),
   .other (.recvReturned Code.success 16 (controlBlockBytes (socketId SessionID.root [1]))),
   .fork 0,
   .fork 1]

theorem fork_agreement_adopted : ∃ a b,
    Run Party.step anyStep (Party.init SessionID.root) forksRun a ∧
      Run Party.step anyStep (Party.init SessionID.root) adoptRun b ∧
      ∃ v, ([1, 1], v) ∈ a.sockets ∧ ([1, 1], v) ∈ b.sockets := by
  have reachedA : (exec Party.step anyStep (Party.init SessionID.root) forksRun).map (fun p =>
      p.paths) = some [[], [1], [1, 1]] := by decide
  have reachedB : (exec Party.step anyStep (Party.init SessionID.root) adoptRun).map (fun p =>
      p.paths) = some [[], [1], [1, 1]] := by decide
  obtain ⟨a, runA, pathsA⟩ := Option.map_eq_some_iff.mp reachedA
  obtain ⟨b, runB, pathsB⟩ := Option.map_eq_some_iff.mp reachedB
  have distinct : DistinctIds SessionID.root (a.paths ++ b.paths) := by
    rw [pathsA, pathsB]
    unfold DistinctIds
    decide
  obtain ⟨_, _, pairs⟩ := fork_agreement (.of_exec runA) (.of_exec runB) distinct
  have memberA : [1, 1] ∈ a.paths := by simp [pathsA]
  have memberB : [1, 1] ∈ b.paths := by simp [pathsB]
  obtain ⟨⟨_, v⟩, memberA, rfl⟩ := List.mem_map.mp memberA
  obtain ⟨⟨_, v'⟩, memberB, path⟩ := List.mem_map.mp memberB
  dsimp only at path
  subst path
  have same := (pairs _ v _ v' memberA memberB).mpr rfl
  exact ⟨a, b, .of_exec runA, .of_exec runB, v, memberA, same ▸ memberB⟩

end Coproto
