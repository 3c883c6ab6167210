import Mathlib.Algebra.Group.Nat.Defs

/-!
# CBQueue

Executor.h:86-182. A ring buffer of callbacks that starts in an array of eight
cells and moves to a vector when it is full. The counters are not reduced, the
mask is the size of the active storage less one. `moved` is what a move leaves
in the object that was moved from; `default` is a default-constructed element.
-/
namespace Coproto

/-- What `mVec` spans. -/
inductive Storage where
  | mArrayBacking | mVecBacking
  deriving DecidableEq, Repr

structure CBQueue (α : Type) where
  mHead : UInt64 := 0
  mTail : UInt64 := 0
  mVec : Storage := .mArrayBacking
  mArrayBacking : Vector α 8
  mVecBacking : Array α := #[]

namespace CBQueue
variable {α : Type} [Inhabited α] (moved : α → α)

def mLogTwoSize : Nat := 6

/-- The default constructor. -/
def empty : CBQueue α := { mArrayBacking := Vector.replicate 8 default }

/-- The elements of `mVec`. -/
def cells (q : CBQueue α) : Array α :=
  match q.mVec with
  | .mArrayBacking => q.mArrayBacking.toArray
  | .mVecBacking => q.mVecBacking

def capacity (q : CBQueue α) : UInt64 := UInt64.ofNat q.cells.size

def size (q : CBQueue α) : UInt64 := q.mHead - q.mTail

def mask (q : CBQueue α) : UInt64 := q.capacity - 1

def store (q : CBQueue α) (i : Nat) (x : α) : CBQueue α :=
  match q.mVec with
  | .mArrayBacking => { q with mArrayBacking := q.mArrayBacking.setIfInBounds i x }
  | .mVecBacking => { q with mVecBacking := q.mVecBacking.setIfInBounds i x }

/-- `for (i = begin, j = 0; i != end; i = (i + 1) & mask, ++j) v[j] = move(mVec[i])`.
The cells that are moved from are not read again. -/
def copyLoop (cells : Array α) (mask stop : UInt64) : Nat → UInt64 → Nat → Array α → Array α
  | 0, _, _, v => v
  | n + 1, i, j, v =>
    if i = stop then v
    else copyLoop cells mask stop n ((i + 1) &&& mask) (j + 1)
      (v.setIfInBounds j (cells.getD i.toNat default))

/-- The branch of `push_back` for a full queue. -/
def grow (q : CBQueue α) : CBQueue α :=
  let v := Array.replicate (max (q.cells.size * 2) (2 ^ mLogTwoSize)) default
  if q.cells.size ≠ 0 then
    { q with
      mVecBacking := copyLoop q.cells q.mask (q.mHead &&& q.mask) q.cells.size
        (q.mTail &&& q.mask) 0 v
      mVec := .mVecBacking
      mHead := q.mHead - q.mTail
      mTail := 0 }
  else q

/-- `push_back`; the mask is taken before the queue grows. -/
def pushBack (q : CBQueue α) (h : α) : CBQueue α :=
  let mask := q.mask
  let q := if q.mHead = q.mTail + q.capacity then q.grow else q
  { q.store (q.mHead &&& mask).toNat h with mHead := q.mHead + 1 }

/-- `pop_front`, which throws on an empty queue. -/
def popFront (q : CBQueue α) : Option (α × CBQueue α) :=
  if q.size = 0 then none
  else
    let i := (q.mTail &&& q.mask).toNat
    let x := q.cells.getD i default
    some (x, { q.store i (moved x) with mTail := q.mTail + 1 })

/-- Move assignment between two queues: the target, then the source. A vector
that was moved from is empty. -/
def moveAssign (q o : CBQueue α) : CBQueue α × CBQueue α :=
  match o.mVec with
  | .mArrayBacking =>
    ({ q with
        mHead := o.mHead, mTail := o.mTail
        mArrayBacking := o.mArrayBacking, mVec := .mArrayBacking },
      { o with mHead := 0, mTail := 0, mArrayBacking := o.mArrayBacking.map moved })
  | .mVecBacking =>
    ({ q with
        mHead := o.mHead, mTail := o.mTail
        mVecBacking := o.mVecBacking, mVec := .mVecBacking },
      { o with mHead := 0, mTail := 0, mVecBacking := #[], mVec := .mArrayBacking })

/-- Move construction: the new queue, then the source. -/
def moveConstruct (o : CBQueue α) : CBQueue α × CBQueue α := moveAssign moved empty o

/-- `std::swap` of two queues. -/
def swap (a b : CBQueue α) : CBQueue α × CBQueue α :=
  let (tmp, a) := moveConstruct moved a
  let (a, b) := moveAssign moved a b
  let (b, _) := moveAssign moved b tmp
  (a, b)

/-- `std::swap` of a queue with itself: the assignment in the middle moves the
emptied queue to itself, whatever that leaves in its cells. -/
def swapSelf (a : CBQueue α) : CBQueue α :=
  let (tmp, a) := moveConstruct moved a
  let a := { a with mArrayBacking := a.mArrayBacking.map moved }
  (moveAssign moved a tmp).1

end CBQueue

/-! ## Queues that move into each other -/

inductive QueueEvent (α : Type) where
  | construct (i : Nat)
  | pushBack (i : Nat) (x : α)
  | popFront (i : Nat)
  | size (i : Nat)
  | moveConstruct (i j : Nat)
  | moveAssign (i j : Nat)
  | swap (i j : Nat)
  deriving DecidableEq, Repr

/-- What the caller sees. -/
inductive QueueOutput (α : Type) where
  | popped (i : Nat) (x : α)
  | thrown (i : Nat)
  | sized (i : Nat) (n : Nat)
  deriving DecidableEq, Repr

structure NamedQueues (Q α : Type) where
  queues : Nat → Option Q := fun _ => none
  outputs : List (QueueOutput α) := []

namespace NamedQueues
variable {Q α : Type}

def put (s : NamedQueues Q α) (i : Nat) (q : Q) : NamedQueues Q α :=
  { s with queues := fun j => if j = i then some q else s.queues j }

def emit (s : NamedQueues Q α) (o : QueueOutput α) : NamedQueues Q α :=
  { s with outputs := s.outputs ++ [o] }

end NamedQueues

namespace CBQueue
variable {α : Type} [Inhabited α] (moved : α → α)

/-- A call on named queues. A new queue takes a name that is free; an object
that is moved onto itself is left unspecified by C++, so `moveAssign` is between
two queues. -/
def step (s : NamedQueues (CBQueue α) α) : QueueEvent α → Option (NamedQueues (CBQueue α) α)
  | .construct i => if s.queues i = none then some (s.put i empty) else none
  | .pushBack i x => (s.queues i).map fun q => s.put i (q.pushBack x)
  | .popFront i => (s.queues i).map fun q =>
    match q.popFront moved with
    | some (x, q) => (s.put i q).emit (.popped i x)
    | none => s.emit (.thrown i)
  | .size i => (s.queues i).map fun q => s.emit (.sized i q.size.toNat)
  | .moveConstruct i j =>
    if s.queues i = none then
      (s.queues j).map fun o =>
        let r := moveConstruct moved o
        (s.put i r.1).put j r.2
    else none
  | .moveAssign i j =>
    if i ≠ j then
      (s.queues i).bind fun q => (s.queues j).map fun o =>
        let r := moveAssign moved q o
        (s.put i r.1).put j r.2
    else none
  | .swap i j =>
    (s.queues i).bind fun a => (s.queues j).map fun b =>
      if i = j then s.put i (swapSelf moved a)
      else
        let r := swap moved a b
        (s.put i r.1).put j r.2

end CBQueue
end Coproto
