import Coproto.Lib.Custody
import Coproto.Lib.Runs
import Coproto.Source.InlinePoly

/-!
# Lifetimes of the objects in InlinePoly

Common/InlinePoly.h:73-189. `emplace`, the moves and the destructor destroy what a poly
owns before it gets something else. `setOwned` and `setBorrowed` do not: the object
that was there is never destroyed, and in the inline case its controller is
overwritten by the flag.
-/
namespace Coproto
open Runs

def Obj.number : Obj → Option Nat
  | .made n => some n
  | .lent _ => none

/-- What a poly was given last: the object, and whether it is stored inline. -/
structure Held where
  obj : Obj
  small : Bool
  deriving DecidableEq, Repr

/-- The polys as slots that hold what was installed last. -/
structure Slots where
  held : Heap (Option Held) := Heap.empty
  next : Nat := 0

namespace Slots

/-- A small object is moved into a new one; a larger one changes its slot. -/
def moved (u : Slots) (p m : Nat) : Option Held → Slots
  | some ⟨_, true⟩ =>
    { held := (u.held.set p (some ⟨.made u.next, true⟩)).set m none
      next := u.next + 1 }
  | h => { u with held := (u.held.set p h).set m none }

def step (u : Slots) : Polys.Event → Option Slots
  | .construct p => if (u.held p).isNone then some { u with held := u.held.set p none } else none
  | .constructFrom p m => if (u.held p).isNone then (u.held m).map (u.moved p m) else none
  | .emplace p small => (u.held p).map fun _ =>
    { held := u.held.set p (some ⟨.made u.next, small⟩)
      next := u.next + 1 }
  | .assign p m =>
    if p = m then none
    else (u.held p).bind fun _ => (u.held m).map (u.moved p m)
  | .setOwned p given => (u.held p).map fun _ =>
    { held := u.held.set p (if given then some ⟨.made u.next, false⟩ else none)
      next := if given then u.next + 1 else u.next }
  | .setBorrowed p ptr => (u.held p).map fun _ =>
    { u with held := u.held.set p (ptr.map fun n => ⟨.lent n, false⟩) }
  | .destruct p => (u.held p).map fun _ => { u with held := u.held.set p none }
  | .destroy p => (u.held p).map fun _ => { u with held := u.held.erase p }

end Slots

namespace Polys

/-- The object that goes when the poly at `p` does. -/
def owns (s : Polys) (p : Nat) : Option Obj := (s.polys p).bind InlinePoly.owned

/-- Every object is with one poly, or it was destroyed, once. -/
structure Lifetimes (s : Polys) : Prop where
  each : ∀ n < s.next,
    (s.destroyed.count (.made n) = 1 ∧ ∀ p, s.owns p ≠ some (.made n)) ∨
    (s.destroyed.count (.made n) = 0 ∧ ∃ p, s.owns p = some (.made n) ∧
      ∀ q, s.owns q = some (.made n) → q = p)
  lent : ∀ n, .lent n ∉ s.destroyed

/-- `setOwned` and `setBorrowed` are called on a poly that owns nothing. -/
def Vacant (s : Polys) : Event → Prop
  | .setOwned p _ | .setBorrowed p _ => s.owns p = none
  | _ => True

instance (s : Polys) (e : Event) : Decidable (Vacant s e) := by
  cases e <;> unfold Vacant <;> infer_instance

/-- The polys that these events lead to. -/
structure LifetimesOk (events : List Event) (s : Polys) : Prop where
  lifetimes : Lifetimes s
  /-- `get()` is what was installed last. -/
  get : ∃ u, Run Slots.step anyStep {} events u ∧
    ∀ p, (s.polys p).map InlinePoly.get = (u.held p).map (·.map Held.obj)
  /-- It stays so with the next call, or this one is not `Vacant`. -/
  next : ∀ e t, step s e = some t → (Lifetimes t ↔ Vacant s e)

end Polys

/-! ## One poly -/

namespace InlinePoly
variable {x y : InlinePoly} {o : Obj} {n : Nat}

/-- `mStorage` fits what `mData` points to. -/
def Wf (x : InlinePoly) : Prop :=
  match x.mData with
  | none => True
  | some .inside => ∃ n, x.mStorage = .controller (.made n)
  | some (.outside (.made _)) => x.mStorage = .flag true
  | some (.outside (.lent _)) => x.mStorage = .flag false

/-- The number of the object a poly owns. -/
def item (x : InlinePoly) : Option Nat := x.owned.bind Obj.number

def view (x : InlinePoly) : Option Held := x.get.map fun o => ⟨o, x.isStoredInline⟩

theorem Wf.destruct_owned (wf : x.Wf) : x.destruct.2 = x.owned := by
  obtain ⟨storage, data⟩ := x
  unfold destruct owned
  cases data with
  | none => simp [isStoredInline, get]
  | some place =>
    cases place with
    | inside => simp [isStoredInline]
    | outside o =>
      cases storage with
      | flag owning => cases owning <;> simp [isStoredInline, get, isOwning]
      | _ => simp [isStoredInline, get, isOwning]

/-- What a poly owns was constructed or handed over. -/
theorem Wf.owned_eq (wf : x.Wf) : x.owned = x.item.map .made := by
  obtain ⟨storage, data⟩ := x
  unfold item owned
  cases data with
  | none => simp [isStoredInline, get]
  | some place =>
    cases place with
    | inside =>
      obtain ⟨n, rfl⟩ := wf
      simp [isStoredInline, getController, Obj.number]
    | outside o =>
      cases o with
      | made n =>
        obtain rfl := show storage = _ from wf
        simp [isStoredInline, get, isOwning, Obj.number]
      | lent n =>
        obtain rfl := show storage = _ from wf
        simp [isStoredInline, isOwning]

/-- After `destruct` there is nothing. -/
theorem destruct_mData : x.destruct.1.mData = none := by
  unfold destruct
  split
  · rfl
  · split <;> rfl

theorem destruct_of_none (none : x.mData = none) : x.destruct.2 = Option.none := by
  obtain ⟨storage, data⟩ := x
  obtain rfl := show data = _ from none
  simp [destruct, isStoredInline, get]

theorem destruct_inline (inline : x.isStoredInline = true) :
    x.destruct = (⟨.raw, none⟩, x.getController) := by
  rw [destruct, if_pos inline]

theorem of_mData_none (none : x.mData = none) :
    x.Wf ∧ x.item = Option.none ∧ x.view = Option.none := by
  obtain ⟨storage, data⟩ := x
  obtain rfl := show data = _ from none
  refine ⟨trivial, ?_, rfl⟩
  simp [item, owned, isStoredInline, get]

/-- A poly that took over a pointer. -/
def takenOver (z : InlinePoly) : InlinePoly :=
  { mStorage := match z.isOwning with
      | some owning => .flag owning
      | none => .raw
    mData := z.mData }

theorem Wf.takenOver (wf : x.Wf) (outside : x.isStoredInline = false) :
    x.takenOver.Wf ∧ x.takenOver.item = x.item ∧ x.takenOver.view = x.view := by
  obtain ⟨storage, data⟩ := x
  cases data with
  | none =>
    have empty := of_mData_none (x := ⟨storage, none⟩) rfl
    have empty' := of_mData_none (x := (⟨storage, none⟩ : InlinePoly).takenOver) rfl
    exact ⟨trivial, empty'.2.1.trans empty.2.1.symm, empty'.2.2.trans empty.2.2.symm⟩
  | some place =>
    cases place with
    | inside => cases outside
    | outside o =>
      have same : (⟨storage, some (.outside o)⟩ : InlinePoly).takenOver =
          ⟨storage, some (.outside o)⟩ := by
        cases o with
        | made n =>
          obtain rfl := show storage = _ from wf
          rfl
        | lent n =>
          obtain rfl := show storage = _ from wf
          rfl
      rw [same]
      exact ⟨wf, rfl, rfl⟩

end InlinePoly

/-! ## All polys -/

namespace Polys
variable {s t : Polys} {u : Slots} {e : Event} {p q m k : Nat} {x y z : InlinePoly} {dead : Option Obj}

def holds (s : Polys) (p : Nat) : Option Nat := (s.polys p).bind InlinePoly.item

def gone (s : Polys) : List Nat := s.destroyed.filterMap Obj.number

def AllWf (s : Polys) : Prop := ∀ p x, s.polys p = some x → x.Wf

structure Inv (s : Polys) : Prop where
  wf : s.AllWf
  custody : Custody s.holds s.gone s.next
  lent : ∀ n, .lent n ∉ s.destroyed

theorem count_gone (destroyed : List Obj) (n : Nat) :
    (destroyed.filterMap Obj.number).count n = destroyed.count (.made n) := by
  induction destroyed with
  | nil => rfl
  | cons o os ih =>
    cases o with
    | made k =>
      have first : (Obj.made k :: os).filterMap Obj.number = k :: os.filterMap Obj.number := rfl
      rw [first, List.count_cons, List.count_cons, ih]
      simp
    | lent k =>
      have first : (Obj.lent k :: os).filterMap Obj.number = os.filterMap Obj.number := rfl
      rw [first, List.count_cons, ih]
      simp

theorem AllWf.owns_eq (wf : s.AllWf) (p : Nat) : s.owns p = (s.holds p).map .made := by
  unfold owns holds
  cases here : s.polys p with
  | none => rfl
  | some x => exact (wf p x here).owned_eq

theorem AllWf.owns_iff (wf : s.AllWf) {n : Nat} :
    s.owns p = some (.made n) ↔ s.holds p = some n := by
  rw [wf.owns_eq]
  cases s.holds p with
  | none => simp
  | some k => simp

theorem Inv.lifetimes (inv : Inv s) : Lifetimes s where
  lent := inv.lent
  each n below := by
    rw [← count_gone]
    simp only [ne_eq, inv.wf.owns_iff]
    exact inv.custody.each below

/-- Objects that were owned are destroyed. -/
theorem gone_append (items : List Nat) (destroyed : List Obj) :
    (destroyed ++ items.map Obj.made).filterMap Obj.number =
      destroyed.filterMap Obj.number ++ items := by
  rw [List.filterMap_append, List.filterMap_map]
  congr 1
  exact List.filterMap_some

theorem lent_append (lent : ∀ n, .lent n ∉ s.destroyed) (items : List Nat) (n : Nat) :
    .lent n ∉ s.destroyed ++ items.map Obj.made := by
  intro member
  rcases List.mem_append.mp member with old | new
  · exact lent n old
  · obtain ⟨k, _, same⟩ := List.mem_map.mp new
    cases same

theorem toList_owned (wf : x.Wf) : x.owned.toList = x.item.toList.map Obj.made := by
  rw [wf.owned_eq]
  cases x.item <;> rfl

theorem polys_put {r : InlinePoly × Option Obj} :
    (s.put p r k).polys q = if q = p then some r.1 else s.polys q := rfl

/-- The poly at `p` loses what it owned, and a new object may come in. -/
theorem Inv.put {r : InlinePoly × Option Obj} (inv : Inv s) (here : s.polys p = some x)
    (wf : r.1.Wf) (dies : r.2 = x.owned)
    (gets : (k = 0 ∧ r.1.item = none) ∨ (k = 1 ∧ r.1.item = some s.next)) : Inv (s.put p r k) := by
  have item : s.holds p = x.item := by rw [holds, here]; rfl
  have deads : r.2.toList = (s.holds p).toList.map Obj.made := by
    rw [dies, item, toList_owned (inv.wf p x here)]
  have gone' : (s.put p r k).gone = s.gone ++ (s.holds p).toList := by
    unfold gone Polys.put
    rw [deads, gone_append]
  have holds' : ∀ q, (s.put p r k).holds q = if q = p then r.1.item else s.holds q := by
    intro q
    unfold holds
    rw [polys_put]
    split <;> rfl
  refine ⟨fun q z there => ?_, ?_, fun n => ?_⟩
  · rw [polys_put] at there
    split at there
    · rwa [← Option.some.inj there]
    · exact inv.wf q z there
  · rw [gone']
    rcases gets with ⟨rfl, none⟩ | ⟨rfl, new⟩
    · exact inv.custody.release fun q => by rw [holds', none]
    · have released : Custody (fun q => if q = p then none else s.holds q) _ _ :=
        inv.custody.release fun q => rfl
      apply released.take (p := p) (if_pos rfl)
      intro q
      rw [holds', new]
      by_cases same : q = p
      · rw [if_pos same, if_pos same]
      · rw [if_neg same, if_neg same, if_neg same]
  · unfold Polys.put
    rw [deads]
    exact lent_append inv.lent _ n

theorem moveFrom_inline (inline : z.isStoredInline = true) : s.moveFrom p m x z =
    { polys := (s.polys.set p ⟨.controller s.fresh, some .inside⟩).set m ⟨.raw, none⟩
      next := s.next + 1
      destroyed := s.destroyed ++ (x.destruct.2.toList ++ z.getController.toList) } := by
  have none := InlinePoly.destruct_of_none (InlinePoly.destruct_mData (x := x))
  unfold moveFrom InlinePoly.assign InlinePoly.moveTo InlinePoly.emplaceSmall
  simp only [inline, if_true, none, InlinePoly.destruct_inline inline, Option.toList_none,
    List.append_nil]

theorem moveFrom_outside (outside : z.isStoredInline = false) : s.moveFrom p m x z =
    { polys := (s.polys.set p z.takenOver).set m ⟨.flag false, none⟩
      next := s.next
      destroyed := s.destroyed ++ x.destruct.2.toList } := by
  unfold moveFrom InlinePoly.assign
  simp only [outside, Bool.false_eq_true, if_false]
  rfl

/-- What a move leaves in the polys and in the list of what was destroyed. -/
theorem moveFrom_inline_eqs (inline : z.isStoredInline = true) :
    (∀ q, (s.moveFrom p m x z).polys q = if q = m then some ⟨.raw, none⟩
      else if q = p then some ⟨.controller s.fresh, some .inside⟩ else s.polys q) ∧
      (s.moveFrom p m x z).next = s.next + 1 ∧ (s.moveFrom p m x z).destroyed =
        s.destroyed ++ (x.destruct.2.toList ++ z.getController.toList) := by
  rw [moveFrom_inline inline]
  exact ⟨fun q => rfl, rfl, rfl⟩

theorem moveFrom_outside_eqs (outside : z.isStoredInline = false) :
    (∀ q, (s.moveFrom p m x z).polys q = if q = m then some ⟨.flag false, none⟩
      else if q = p then some z.takenOver else s.polys q) ∧
      (s.moveFrom p m x z).next = s.next ∧ (s.moveFrom p m x z).destroyed =
        s.destroyed ++ x.destruct.2.toList := by
  rw [moveFrom_outside outside]
  exact ⟨fun q => rfl, rfl, rfl⟩

theorem Inv.moveFrom (inv : Inv s) (apart : p ≠ m) (wf : x.Wf) (item : s.holds p = x.item)
    (there : s.polys m = some z) : Inv (s.moveFrom p m x z) := by
  have wfz := inv.wf m z there
  have itemz : s.holds m = z.item := by rw [holds, there]; rfl
  have released : Custody (fun q => if q = p then none else s.holds q) _ _ :=
    inv.custody.release fun q => rfl
  have first : x.destruct.2.toList = (s.holds p).toList.map Obj.made := by
    rw [wf.destruct_owned, toList_owned wf, item]
  cases inline : z.isStoredInline with
  | true =>
    obtain ⟨polys, next, destroyed⟩ := moveFrom_inline_eqs (s := s) (p := p) (m := m) (x := x) inline
    have second : z.getController.toList = (s.holds m).toList.map Obj.made := by
      rw [itemz, ← toList_owned wfz, InlinePoly.owned, if_pos inline]
    rw [first, second, ← List.map_append] at destroyed
    refine ⟨fun q y here => ?_, ?_, fun n => by rw [destroyed]; exact lent_append inv.lent _ n⟩
    · rw [polys] at here
      split at here
      · rw [← Option.some.inj here]
        trivial
      · split at here
        · rw [← Option.some.inj here]
          exact ⟨s.next, rfl⟩
        · exact inv.wf q y here
    · have taken : Custody (fun q => if q = p then some s.next else s.holds q) _ _ :=
        released.take (p := p) (if_pos rfl) fun q => by split <;> rfl
      have given : Custody
          (fun q => if q = m then none else if q = p then some s.next else s.holds q) _ _ :=
        taken.release fun q => rfl
      rw [if_neg (Ne.symm apart), List.append_assoc] at given
      unfold gone
      rw [destroyed, next, gone_append]
      apply given.congr
      intro q
      unfold holds
      rw [polys]
      split
      · rfl
      · split <;> rfl
  | false =>
    obtain ⟨wf', item', _⟩ := wfz.takenOver inline
    obtain ⟨polys, next, destroyed⟩ := moveFrom_outside_eqs (s := s) (p := p) (m := m) (x := x) inline
    rw [first] at destroyed
    refine ⟨fun q y here => ?_, ?_, fun n => by rw [destroyed]; exact lent_append inv.lent _ n⟩
    · rw [polys] at here
      split at here
      · rw [← Option.some.inj here]
        trivial
      · split at here
        · rwa [← Option.some.inj here]
        · exact inv.wf q y here
    · unfold gone
      rw [destroyed, next, gone_append]
      apply released.give (p := p) (q := m) (if_pos rfl) apart
      intro q
      unfold holds
      rw [polys]
      by_cases here : q = p
      · subst here
        rw [if_neg apart, if_pos rfl, if_pos rfl, if_neg (Ne.symm apart)]
        exact item'.trans itemz.symm
      · rw [if_neg here, if_neg here, if_neg here]
        split <;> rfl

/-! ## Steps -/

theorem owned_of_vacant (here : s.polys p = some x) (vacant : s.owns p = none) :
    x.owned = none := by
  rw [owns, here] at vacant
  exact vacant

theorem Inv.step (inv : Inv s) (vacant : Vacant s e) (taken : step s e = some t) : Inv t := by
  cases e with
  | construct p =>
    obtain ⟨free, made⟩ := Option.ite_none_right_eq_some.mp taken
    obtain rfl := Option.some.inj made
    have absent : s.polys p = none := Option.isNone_iff_eq_none.mp free
    refine ⟨fun q y here => ?_, inv.custody.congr fun q => ?_, inv.lent⟩
    · dsimp only at here
      rw [Heap.set_apply] at here
      split at here
      · rw [← Option.some.inj here]
        trivial
      · exact inv.wf q y here
    · unfold holds
      dsimp only
      rw [Heap.set_apply]
      split
      · rename_i same
        rw [same, absent]
        rfl
      · rfl
  | constructFrom p m =>
    obtain ⟨free, made⟩ := Option.ite_none_right_eq_some.mp taken
    have absent : s.polys p = none := Option.isNone_iff_eq_none.mp free
    obtain ⟨z, there, rfl⟩ := Option.map_eq_some_iff.mp made
    have wf : ({} : InlinePoly).Wf := trivial
    apply inv.moveFrom _ wf _ there
    · rintro rfl
      rw [absent] at there
      cases there
    · rw [holds, absent]
      rfl
  | emplace p small =>
    obtain ⟨x, here, rfl⟩ := Option.map_eq_some_iff.mp taken
    have dies := (inv.wf p x here).destruct_owned
    cases small with
    | true =>
      refine inv.put here ⟨s.next, rfl⟩ dies (.inr ⟨rfl, ?_⟩)
      rfl
    | false =>
      refine inv.put here ?_ dies (.inr ⟨rfl, ?_⟩)
      · rfl
      · rfl
  | assign p m =>
    obtain ⟨apart, moved⟩ := Option.ite_none_left_eq_some.mp taken
    obtain ⟨x, here, moved⟩ := Option.bind_eq_some_iff.mp moved
    obtain ⟨z, there, rfl⟩ := Option.map_eq_some_iff.mp moved
    apply inv.moveFrom apart (inv.wf p x here) _ there
    rw [holds, here]
    rfl
  | setOwned p given =>
    obtain ⟨x, here, rfl⟩ := Option.map_eq_some_iff.mp taken
    have none := owned_of_vacant here vacant
    cases given with
    | true =>
      refine inv.put here ?_ none.symm (.inr ⟨rfl, ?_⟩)
      · rfl
      · rfl
    | false =>
      refine inv.put here ?_ none.symm (.inl ⟨rfl, ?_⟩)
      · trivial
      · rfl
  | setBorrowed p ptr =>
    obtain ⟨x, here, rfl⟩ := Option.map_eq_some_iff.mp taken
    have none := owned_of_vacant here vacant
    cases ptr with
    | none =>
      refine inv.put here ?_ none.symm (.inl ⟨rfl, ?_⟩)
      · trivial
      · rfl
    | some n =>
      refine inv.put here ?_ none.symm (.inl ⟨rfl, ?_⟩)
      · rfl
      · rfl
  | destruct p =>
    obtain ⟨x, here, rfl⟩ := Option.map_eq_some_iff.mp taken
    have empty := InlinePoly.of_mData_none (InlinePoly.destruct_mData (x := x))
    exact inv.put here empty.1 (inv.wf p x here).destruct_owned (.inl ⟨rfl, empty.2.1⟩)
  | destroy p =>
    obtain ⟨x, here, rfl⟩ := Option.map_eq_some_iff.mp taken
    have wf := inv.wf p x here
    have item : s.holds p = x.item := by rw [holds, here]; rfl
    rw [wf.destruct_owned, toList_owned wf, ← item]
    refine ⟨fun q y there => ?_, ?_, lent_append inv.lent _⟩
    · dsimp only at there
      rw [Heap.erase_apply] at there
      split at there
      · cases there
      · exact inv.wf q y there
    · unfold gone
      rw [gone_append]
      apply inv.custody.release
      intro q
      unfold holds
      dsimp only
      rw [Heap.erase_apply]
      split <;> rfl

/-! ## What was installed last -/

/-- The slots hold what the polys show. -/
structure Shows (s : Polys) (u : Slots) : Prop where
  inv : Inv s
  next : u.next = s.next
  held : ∀ p, u.held p = (s.polys p).map InlinePoly.view

theorem Shows.of_some (shows : Shows s u) (here : s.polys p = some x) :
    u.held p = some x.view := by
  rw [shows.held, here]
  rfl

theorem Shows.of_none (shows : Shows s u) (free : s.polys p = none) : u.held p = none := by
  rw [shows.held, free]
  rfl

theorem Shows.put {r : InlinePoly × Option Obj} (shows : Shows s u) (inv : Inv (s.put p r k)) :
    Shows (s.put p r k) ⟨u.held.set p r.1.view, u.next + k⟩ := by
  refine ⟨inv, congrArg (· + k) shows.next, fun q => ?_⟩
  rw [polys_put]
  dsimp only
  rw [Heap.set_apply]
  split
  · rfl
  · exact shows.held q

theorem moved_outside {h : Option Held} (outside : ∀ o ∈ h, o.small = false) :
    u.moved p m h = { u with held := (u.held.set p h).set m none } := by
  cases h with
  | none => rfl
  | some o =>
    obtain ⟨obj, small⟩ := o
    obtain rfl := show small = false from outside _ rfl
    rfl

theorem Shows.moveFrom (shows : Shows s u) (there : s.polys m = some z)
    (inv : Inv (s.moveFrom p m x z)) : Shows (s.moveFrom p m x z) (u.moved p m z.view) := by
  have wf := shows.inv.wf m z there
  cases inline : z.isStoredInline with
  | true =>
    obtain ⟨polys, next, _⟩ := moveFrom_inline_eqs (s := s) (p := p) (m := m) (x := x) inline
    have data : z.mData = some .inside := of_decide_eq_true inline
    have shown : ∃ n, z.view = some ⟨.made n, true⟩ := by
      obtain ⟨storage, data'⟩ := z
      obtain rfl := show data' = _ from data
      obtain ⟨n, rfl⟩ := wf
      exact ⟨n, rfl⟩
    obtain ⟨n, view⟩ := shown
    rw [view]
    refine ⟨inv, by rw [next, ← shows.next]; rfl, fun q => ?_⟩
    rw [polys, Slots.moved]
    dsimp only
    rw [Heap.set_apply, Heap.set_apply, shows.next]
    split
    · rfl
    · split
      · rfl
      · exact shows.held q
  | false =>
    obtain ⟨polys, next, _⟩ := moveFrom_outside_eqs (s := s) (p := p) (m := m) (x := x) inline
    have outside : ∀ o ∈ z.view, o.small = false := by
      intro o member
      obtain ⟨obj, _, rfl⟩ := Option.map_eq_some_iff.mp member
      exact inline
    rw [moved_outside outside]
    refine ⟨inv, by rw [next, ← shows.next], fun q => ?_⟩
    rw [polys]
    dsimp only
    rw [Heap.set_apply, Heap.set_apply]
    split
    · rfl
    · split
      · rw [← (wf.takenOver inline).2.2]
        rfl
      · exact shows.held q

theorem Shows.step (shows : Shows s u) (vacant : Vacant s e) (taken : step s e = some t) :
    ∃ v, u.step e = some v ∧ Shows t v := by
  have inv := shows.inv.step vacant taken
  cases e with
  | construct p =>
    obtain ⟨free, made⟩ := Option.ite_none_right_eq_some.mp taken
    obtain rfl := Option.some.inj made
    have absent := shows.of_none (Option.isNone_iff_eq_none.mp free)
    refine ⟨_, if_pos (by rw [absent]; rfl), inv, shows.next, fun q => ?_⟩
    dsimp only
    rw [Heap.set_apply, Heap.set_apply]
    split
    · rfl
    · exact shows.held q
  | constructFrom p m =>
    obtain ⟨free, made⟩ := Option.ite_none_right_eq_some.mp taken
    have absent := shows.of_none (Option.isNone_iff_eq_none.mp free)
    obtain ⟨z, there, rfl⟩ := Option.map_eq_some_iff.mp made
    refine ⟨u.moved p m z.view, ?_, shows.moveFrom there inv⟩
    rw [Slots.step, if_pos (by rw [absent]; rfl), shows.of_some there]
    rfl
  | emplace p small =>
    obtain ⟨x, here, rfl⟩ := Option.map_eq_some_iff.mp taken
    have shown := shows.put inv
    refine ⟨_, ?_, shown⟩
    rw [Slots.step, shows.of_some here, shows.next]
    cases small <;> rfl
  | assign p m =>
    obtain ⟨apart, moved⟩ := Option.ite_none_left_eq_some.mp taken
    obtain ⟨x, here, moved⟩ := Option.bind_eq_some_iff.mp moved
    obtain ⟨z, there, rfl⟩ := Option.map_eq_some_iff.mp moved
    refine ⟨u.moved p m z.view, ?_, shows.moveFrom there inv⟩
    rw [Slots.step, if_neg apart, shows.of_some here, shows.of_some there]
    rfl
  | setOwned p given =>
    obtain ⟨x, here, rfl⟩ := Option.map_eq_some_iff.mp taken
    have shown := shows.put inv
    refine ⟨_, ?_, shown⟩
    rw [Slots.step, shows.of_some here, shows.next]
    cases given <;> rfl
  | setBorrowed p ptr =>
    obtain ⟨x, here, rfl⟩ := Option.map_eq_some_iff.mp taken
    have shown := shows.put inv
    refine ⟨_, ?_, shown⟩
    rw [Slots.step, shows.of_some here]
    cases ptr <;> rfl
  | destruct p =>
    obtain ⟨x, here, rfl⟩ := Option.map_eq_some_iff.mp taken
    have shown := shows.put inv
    refine ⟨_, ?_, shown⟩
    have empty := InlinePoly.of_mData_none (InlinePoly.destruct_mData (x := x))
    rw [Slots.step, shows.of_some here, empty.2.2]
    rfl
  | destroy p =>
    obtain ⟨x, here, rfl⟩ := Option.map_eq_some_iff.mp taken
    refine ⟨{ u with held := u.held.erase p }, ?_, inv, shows.next, fun q => ?_⟩
    · rw [Slots.step, shows.of_some here]
      rfl
    · dsimp only
      rw [Heap.erase_apply, Heap.erase_apply]
      split
      · rfl
      · exact shows.held q

/-! ## A call that is not vacant -/

/-- The object that was owned is with nobody and is not destroyed. -/
theorem Inv.leak (inv : Inv s) (owns : s.owns p ≠ none)
    (other : ∀ n < s.next, y.owned ≠ some (.made n)) : ¬ Lifetimes (s.put p (y, none) k) := by
  intro lifetimes
  obtain ⟨o, owned⟩ := Option.ne_none_iff_exists'.mp owns
  obtain ⟨n, holds, rfl⟩ := Option.map_eq_some_iff.mp ((inv.wf.owns_eq p).symm.trans owned)
  have below := (inv.custody.bound holds).1
  have owns' : ∀ q, (s.put p (y, none) k).owns q = if q = p then y.owned else s.owns q := by
    intro q
    unfold Polys.owns
    rw [polys_put]
    split <;> rfl
  have destroyed : (s.put p (y, none) k).destroyed = s.destroyed := List.append_nil _
  have before := inv.lifetimes.each n below
  have after := lifetimes.each n (Nat.lt_of_lt_of_le below (Nat.le_add_right _ _))
  rw [destroyed] at after
  rcases before with ⟨_, nobody⟩ | ⟨zero, _⟩
  · exact nobody p owned
  · rcases after with ⟨one, _⟩ | ⟨_, q, has, _⟩
    · rw [zero] at one
      cases one
    · rw [owns'] at has
      split at has
      · exact other n below has
      · rename_i apart
        exact apart (inv.custody.unique (inv.wf.owns_iff.mp has) holds)

theorem Inv.vacant_of_lifetimes (inv : Inv s) (taken : Polys.step s e = some t)
    (lifetimes : Lifetimes t) : Vacant s e := by
  cases e with
  | setOwned p given =>
    by_contra owns
    obtain ⟨x, _, rfl⟩ := Option.map_eq_some_iff.mp taken
    refine inv.leak owns ?_ lifetimes
    intro n below same
    cases given with
    | true =>
      have equal : s.next = n := by simpa [InlinePoly.owned, InlinePoly.setOwned,
        InlinePoly.isStoredInline, InlinePoly.isOwning, InlinePoly.get, fresh] using same
      omega
    | false => cases same
  | setBorrowed p ptr =>
    by_contra owns
    obtain ⟨x, _, rfl⟩ := Option.map_eq_some_iff.mp taken
    refine inv.leak owns ?_ lifetimes
    intro n below same
    cases ptr <;> cases same
  | _ => trivial

end Polys

open Polys

/-- Objects live once, and `get()` shows what was installed last, as long as
`setOwned` and `setBorrowed` find nothing that is owned. -/
theorem polys_lifetimesOk {events : List Polys.Event} {s : Polys}
    (run : Run Polys.step Vacant {} events s) : LifetimesOk events s := by
  have start : Shows {} {} := ⟨⟨nofun, Custody.empty, nofun⟩, rfl, fun p => rfl⟩
  obtain ⟨u, follows, shows⟩ := run.simulate start fun _ _ _ _ shows vacant taken =>
    shows.step vacant taken
  refine ⟨shows.inv.lifetimes, ⟨u, follows, fun p => ?_⟩, fun e t taken => ⟨?_, fun vacant => ?_⟩⟩
  · rw [shows.held, Option.map_map]
    cases s.polys p with
    | none => rfl
    | some x =>
      have same : x.get = x.view.map Held.obj := by
        unfold InlinePoly.view
        cases x.get <;> rfl
      rw [Option.map_some, Option.map_some, same]
      rfl
  · exact shows.inv.vacant_of_lifetimes taken
  · exact (shows.inv.step vacant taken).lifetimes

/-- A small object, moved; a large one in its place; one handed over after `destruct`. -/
theorem polys_lifetimesOk_moves : ∃ s, LifetimesOk [.construct 0, .emplace 0 true, .construct 1,
    .assign 1 0, .emplace 0 false, .destruct 0, .setOwned 0 true, .destroy 1, .destroy 0] s ∧
      s.destroyed = [.made 0, .made 2, .made 1, .made 3] := by
  have reached : (exec Polys.step Vacant {} [.construct 0, .emplace 0 true, .construct 1,
      .assign 1 0, .emplace 0 false, .destruct 0, .setOwned 0 true, .destroy 1,
      .destroy 0]).map (·.destroyed) = some [.made 0, .made 2, .made 1, .made 3] := by
    decide
  obtain ⟨s, result, destroyed⟩ := Option.map_eq_some_iff.mp reached
  exact ⟨s, polys_lifetimesOk (.of_exec result), destroyed⟩

/-- `setOwned` on a poly with an inline object: the object is never destroyed. -/
theorem setOwned_leaks : ∃ (events : List Polys.Event) (s : Polys),
    Run Polys.step anyStep {} events s ∧
      events = [.construct 0, .emplace 0 true, .setOwned 0 true, .destroy 0] ∧
      (∀ p, s.polys p = none) ∧ s.next = 2 ∧ s.destroyed = [.made 1] := by
  let events : List Polys.Event := [.construct 0, .emplace 0 true, .setOwned 0 true, .destroy 0]
  have run : Run Polys.step anyStep {} events
      { polys := (((Heap.empty.set 0 {}).set 0 ⟨.controller (.made 0), some .inside⟩).set 0
          ⟨.flag true, some (.outside (.made 1))⟩).erase 0
        next := 2
        destroyed := [.made 1] } := .of_exec rfl
  refine ⟨events, _, run, rfl, fun p => ?_, rfl, rfl⟩
  dsimp only
  rw [Heap.erase_apply]
  split
  · rfl
  · rename_i other
    rw [Heap.set_of_ne other, Heap.set_of_ne other, Heap.set_of_ne other]
    rfl

end Coproto
