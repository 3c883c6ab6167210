import Coproto.Lib.Heap

/-!
# InlinePoly

coproto/Common/InlinePoly.h:73-208. The object is constructed in `mStorage`, behind its
controller, or it lies elsewhere, and then the first byte of `mStorage` is the flag
`isOwning`. Writing the flag overwrites a controller.
-/
namespace Coproto

/-- An object that was constructed or handed over, or one that belongs to somebody else. -/
inductive Obj where
  | made (n : Nat)
  | lent (n : Nat)
  deriving DecidableEq, Repr

/-- The bytes of `mStorage`. -/
inductive PolyStorage where
  | raw
  | controller (o : Obj)
  | flag (owning : Bool)
  deriving DecidableEq, Repr

/-- The object that `mData` points to: the one in `mStorage`, or one elsewhere. -/
inductive Place where
  | inside
  | outside (o : Obj)
  deriving DecidableEq, Repr

structure InlinePoly where
  mStorage : PolyStorage := .raw
  mData : Option Place := none
  deriving DecidableEq, Repr

namespace InlinePoly

def getController (p : InlinePoly) : Option Obj :=
  match p.mStorage with
  | .controller o => some o
  | _ => none

/-- `none` where the byte was not written as a flag. -/
def isOwning (p : InlinePoly) : Option Bool :=
  match p.mStorage with
  | .flag owning => some owning
  | _ => none

def isStoredInline (p : InlinePoly) : Bool := p.mData = some .inside

def get (p : InlinePoly) : Option Obj :=
  match p.mData with
  | none => none
  | some .inside => p.getController
  | some (.outside o) => some o

/-- What `destruct` destroys. -/
def owned (p : InlinePoly) : Option Obj :=
  if p.isStoredInline then p.getController
  else if p.isOwning = some true then p.get
  else none

/-- The poly afterwards, and the object that was destroyed. -/
def destruct (p : InlinePoly) : InlinePoly × Option Obj :=
  if p.isStoredInline then ({ mStorage := .raw, mData := none }, p.getController)
  else if p.get.isSome ∧ p.isOwning = some true then ({ p with mData := none }, p.get)
  else ({ p with mData := none }, none)

/-- `emplace` of an object that fits into `mStorage`. -/
def emplaceSmall (p : InlinePoly) (o : Obj) : InlinePoly × Option Obj :=
  ({ mStorage := .controller o, mData := some .inside }, p.destruct.2)

/-- `emplace` of one that does not. -/
def emplaceLarge (p : InlinePoly) (o : Obj) : InlinePoly × Option Obj :=
  ({ mStorage := .flag true, mData := some (.outside o) }, p.destruct.2)

def setBorrowed (_ : InlinePoly) (ptr : Option Obj) : InlinePoly :=
  { mStorage := .flag false
    mData := ptr.map .outside }

def setOwned (_ : InlinePoly) (ptr : Option Obj) : InlinePoly :=
  { mStorage := .flag true
    mData := ptr.map .outside }

/-- `moveTo`: the object is moved into a new one, `o`, in the destination. -/
def moveTo (p : InlinePoly) (o : Obj) : InlinePoly × Option Obj := p.emplaceSmall o

/-- `operator=(InlinePoly&&)`: both objects afterwards, and what was destroyed. -/
def assign (p m : InlinePoly) (o : Obj) : InlinePoly × InlinePoly × List Obj :=
  let (p, first) := p.destruct
  if m.isStoredInline then
    let (p, second) := p.moveTo o
    let (m, third) := m.destruct
    (p, { m with mData := none }, first.toList ++ second.toList ++ third.toList)
  else
    let flag := match m.isOwning with
      | some owning => .flag owning
      | none => .raw
    ({ mStorage := flag, mData := m.mData }, { mStorage := .flag false, mData := none },
      first.toList)

end InlinePoly

/-- The polys that are alive, by address, and the objects that were destroyed. -/
structure Polys where
  polys : Heap InlinePoly := Heap.empty
  next : Nat := 0
  destroyed : List Obj := []

namespace Polys

inductive Event where
  | construct (p : Nat)
  | constructFrom (p m : Nat)
  | emplace (p : Nat) (small : Bool)
  | assign (p m : Nat)
  /-- With an object that is handed over, or `nullptr`. -/
  | setOwned (p : Nat) (given : Bool)
  | setBorrowed (p : Nat) (ptr : Option Nat)
  | destruct (p : Nat)
  | destroy (p : Nat)
  deriving DecidableEq, Repr

/-- The object the next construction gives. -/
def fresh (s : Polys) : Obj := .made s.next

def put (s : Polys) (p : Nat) (result : InlinePoly × Option Obj) (made : Nat) : Polys :=
  { polys := s.polys.set p result.1
    next := s.next + made
    destroyed := s.destroyed ++ result.2.toList }

/-- `*p = std::move(*m)`. -/
def moveFrom (s : Polys) (p m : Nat) (dest source : InlinePoly) : Polys :=
  let (dest', source', dead) := dest.assign source s.fresh
  { polys := (s.polys.set p dest').set m source'
    next := if source.isStoredInline then s.next + 1 else s.next
    destroyed := s.destroyed ++ dead }

def step (s : Polys) : Event → Option Polys
  | .construct p =>
    if (s.polys p).isNone then some { s with polys := s.polys.set p {} } else none
  | .constructFrom p m =>
    if (s.polys p).isNone then (s.polys m).map (s.moveFrom p m {}) else none
  | .emplace p small => (s.polys p).map fun x =>
    s.put p (if small then x.emplaceSmall s.fresh else x.emplaceLarge s.fresh) 1
  | .assign p m =>
    if p = m then none
    else (s.polys p).bind fun x => (s.polys m).map (s.moveFrom p m x)
  | .setOwned p given => (s.polys p).map fun x =>
    s.put p (x.setOwned (if given then some s.fresh else none), none) (if given then 1 else 0)
  | .setBorrowed p ptr => (s.polys p).map fun x =>
    s.put p (x.setBorrowed (ptr.map .lent), none) 0
  | .destruct p => (s.polys p).map fun x => s.put p x.destruct 0
  | .destroy p => (s.polys p).map fun x =>
    { s with
      polys := s.polys.erase p
      destroyed := s.destroyed ++ x.destruct.2.toList }

end Polys
end Coproto
