import Mathlib.Algebra.GroupWithZero.Nat
import Mathlib.Logic.Function.Iterate

/-!
# Queue

coproto/Common/Queue.h:14-394. A chain of ring blocks of doubling size, from
`mBegin` along `mNext` to `mLast`. The counters of a block are not reduced. An
entry that was never constructed, one that was destroyed and one without a value
all hold `none`. Every block has an address of its own, the inline buffer `0`.

`destroyed` and `deleted` record the elements that were destroyed and the blocks
that were given back.
-/
namespace Coproto

/-- The address of an entry: its block and its number there. -/
structure EntryPtr where
  block : Nat
  slot : Nat
  deriving DecidableEq, Repr

/-- Failed assertions and exceptions; `endless` is a loop that is not done in time. -/
inductive QueueFault where
  | badAlloc | blockCapacity | nullBlock
  | iteratorInvalid | derefInvalid
  | frontSize | frontOccupied | backSize | badOptionalAccess
  | popFrontValue
  | eraseNoBlock | erasePtr | eraseSize | eraseInvalid
  | endless
  deriving DecidableEq, Repr

namespace Queue

structure Block (α : Type) where
  addr : Nat
  mSizeMask : UInt64
  mBegin : UInt64 := 0
  mEnd : UInt64 := 0
  data : Nat → Option α := fun _ => none

namespace Block
variable {α : Type}

def occupied (b : Block α) : UInt64 := b.mEnd - b.mBegin

def capacity (b : Block α) : UInt64 := b.mSizeMask + 1

def vacant (b : Block α) : UInt64 := b.capacity - b.occupied

/-- Where the entry of a counter is. -/
def slot (b : Block α) (index : UInt64) : Nat := (index &&& b.mSizeMask).toNat

/-- The element a slot holds, with its address. -/
def element (b : Block α) (slot : Nat) : Option (EntryPtr × α) :=
  (b.data slot).map fun x => (⟨b.addr, slot⟩, x)

def entry (b : Block α) (index : UInt64) : Option (EntryPtr × α) := b.element (b.slot index)

def front (b : Block α) : Option (EntryPtr × α) := b.entry b.mBegin

def back (b : Block α) : Option (EntryPtr × α) := b.entry (b.mEnd - 1)

def write (b : Block α) (slot : Nat) (x : Option α) : Block α :=
  { b with data := fun j => if j = slot then x else b.data j }

/-- `construct(end(), x)` and `++mEnd`. -/
def construct (b : Block α) (x : α) : Block α :=
  { b.write (b.slot b.mEnd) (some x) with mEnd := b.mEnd + 1 }

/-- The first entry, which has no value, is destroyed. -/
def dropFront (b : Block α) : Block α := { b with mBegin := b.mBegin + 1 }

/-- The address lies between `data()` and its end. -/
def contains (b : Block α) (p : EntryPtr) : Bool :=
  p.block = b.addr ∧ p.slot < b.capacity.toNat

end Block

/-- `mBlock` is the block pointed at with those that follow it, `[]` for `nullptr`. -/
structure Iterator (α : Type) where
  mBlock : List (Block α)
  mIndex : UInt64

namespace Iterator
variable {α : Type}

def entry (it : Iterator α) : Option (EntryPtr × α) :=
  match it.mBlock with
  | [] => none
  | b :: _ => b.entry it.mIndex

def valid (it : Iterator α) : Bool :=
  match it.mBlock with
  | [] => false
  | b :: _ => b.mBegin ≤ it.mIndex ∧ (b.entry it.mIndex).isSome

/-- The constructor from a block and an index. -/
def make (block : List (Block α)) (index : UInt64) : Except QueueFault (Iterator α) :=
  let it : Iterator α := ⟨block, index⟩
  if block.isEmpty ∨ it.valid then .ok it else .error .iteratorInvalid

/-- `operator*`, as the address and the value of the element. -/
def deref (it : Iterator α) : Except QueueFault (EntryPtr × α) :=
  if it.valid then
    match it.entry with
    | some r => .ok r
    | none => .error .badOptionalAccess
  else .error .derefInvalid

/-- The inner loop of `operator++`. -/
def skipEnds : List (Block α) → UInt64 → Iterator α
  | [], index => ⟨[], index⟩
  | b :: bs, index =>
    if index = b.mEnd then
      match bs with
      | [] => ⟨[], 0⟩
      | c :: cs => skipEnds (c :: cs) c.mBegin
    else ⟨b :: bs, index⟩

/-- The outer loop of `operator++`, with fuel. -/
def advance : Nat → Iterator α → Iterator α
  | 0, it => it
  | n + 1, it =>
    let it := skipEnds it.mBlock (it.mIndex + 1)
    if it.mBlock.isEmpty ∨ it.entry.isSome then it else advance n it

/-- `operator++`: every round passes an entry of the blocks that follow. -/
def next (it : Iterator α) : Iterator α :=
  advance ((it.mBlock.map (·.occupied.toNat)).sum + 1) it

/-- Comparison with `end()`. -/
def atEnd (it : Iterator α) : Bool := it.mBlock.isEmpty ∧ it.mIndex = 0

end Iterator

def DefaultCapacity : UInt64 := 8

end Queue

structure Queue (α : Type) where
  mSize : Nat := 0
  blocks : List (Queue.Block α) := []
  nextAddr : Nat := 1
  destroyed : List (EntryPtr × α) := []
  deleted : List (Queue.Block α) := []

namespace Queue
variable {α : Type}

/-- The default constructor: one block in `mInitalBuff`. -/
def empty : Queue α := { blocks := [{ addr := 0, mSizeMask := DefaultCapacity - 1 }] }

def mLast (q : Queue α) : Option (Block α) := q.blocks.getLast?

/-- `allocateBlock(nextSize)`. An entry takes two bytes at least, so `operator new`
throws for `2 ^ 62` of them. -/
def allocateBlock (q : Queue α) (nextSize : UInt64) : Except QueueFault (Queue α) :=
  if 2 ^ 62 ≤ nextSize.toNat then .error .badAlloc
  else if nextSize &&& (nextSize - 1) ≠ 0 then .error .blockCapacity
  else .ok
    { q with
      blocks := q.blocks ++ [{ addr := q.nextAddr, mSizeMask := nextSize - 1 }]
      nextAddr := q.nextAddr + 1 }

/-- `allocateBlock()`. -/
def allocateNext (q : Queue α) : Except QueueFault (Queue α) :=
  q.allocateBlock (match q.mLast with
    | some last => 2 * last.capacity
    | none => DefaultCapacity)

/-- The next power of two, for sizes up to `2 ^ 32`. -/
def roundUp (capacity : UInt64) : UInt64 :=
  let v := capacity - 1
  let v := v ||| (v >>> 1)
  let v := v ||| (v >>> 2)
  let v := v ||| (v >>> 4)
  let v := v ||| (v >>> 8)
  let v := v ||| (v >>> 16)
  v + 1

def reserve (q : Queue α) (capacity : UInt64) : Except QueueFault (Queue α) :=
  let v := roundUp capacity
  if q.mLast.all (·.capacity < v) then q.allocateBlock v else .ok q

/-- `Queue(capacity)`. -/
def withCapacity (capacity : UInt64) : Except QueueFault (Queue α) := reserve {} capacity

def frontEntry (q : Queue α) : Except QueueFault (Option (EntryPtr × α)) :=
  match q.blocks with
  | [] => .error .nullBlock
  | b :: _ => if b.occupied = 0 then .error .frontOccupied else .ok b.front

def value : Option (EntryPtr × α) → Except QueueFault (EntryPtr × α)
  | some r => .ok r
  | none => .error .badOptionalAccess

def front (q : Queue α) : Except QueueFault (EntryPtr × α) :=
  if q.mSize = 0 then .error .frontSize else q.frontEntry.bind value

def back (q : Queue α) : Except QueueFault (EntryPtr × α) :=
  if q.mSize = 0 then .error .backSize
  else
    match q.mLast with
    | none => .error .nullBlock
    | some last => value last.back

/-- `reset()` on the entry of an element, and `--mSize`. -/
def resetEntry (q : Queue α) (r : EntryPtr × α) : Queue α :=
  { q with
    mSize := q.mSize - 1
    blocks := q.blocks.map fun b => if b.addr = r.1.block then b.write r.1.slot none else b
    destroyed := q.destroyed ++ [r] }

/-- `operator delete`; the inline buffer is kept. -/
def release (b : Block α) (deleted : List (Block α)) : List (Block α) :=
  if b.addr = 0 then deleted else deleted ++ [b]

/-- The loop of `pop_front`, with fuel. -/
def skipHoles : Nat → List (Block α) → List (Block α) → List (Block α) × List (Block α)
  | n + 1, b :: bs, deleted =>
    if b.occupied ≠ 0 ∧ b.front.isNone then
      if b.dropFront.occupied = 0 ∧ bs ≠ [] then skipHoles n bs (release b.dropFront deleted)
      else skipHoles n (b.dropFront :: bs) deleted
    else (b :: bs, deleted)
  | _, bs, deleted => (bs, deleted)

/-- `pop_front`: every round of the loop drops an entry. -/
def popFront (q : Queue α) : Except QueueFault (Queue α) :=
  if q.mSize = 0 then .error .popFrontValue
  else q.frontEntry.bind fun
    | none => .error .popFrontValue
    | some r =>
      let q := q.resetEntry r
      let rest := skipHoles (q.blocks.map (·.occupied.toNat)).sum q.blocks q.deleted
      .ok { q with blocks := rest.1, deleted := rest.2 }

/-! ## Iterators into a queue -/

def finish : Iterator α := ⟨[], 0⟩

def begin (q : Queue α) : Except QueueFault (Iterator α) :=
  if q.mSize = 0 then .ok finish
  else Iterator.make q.blocks ((q.blocks.head?.map Block.mBegin).getD 0)

def backIterator (q : Queue α) : Except QueueFault (Iterator α) :=
  if q.mSize = 0 then .ok finish
  else Iterator.make q.mLast.toList ((q.mLast.map (·.mEnd - 1)).getD 0)

/-- `std::advance(begin(), k)`. -/
def iterator (q : Queue α) (k : Nat) : Except QueueFault (Iterator α) :=
  q.begin.map (Nat.iterate Iterator.next k)

/-- `for (it = begin(); it != end(); ++it) visit(*it)`, for `n` rounds at most. -/
def visitFrom : Nat → Iterator α → Except QueueFault (List (EntryPtr × α))
  | 0, _ => .error .endless
  | n + 1, it =>
    if it.atEnd then .ok []
    else it.deref.bind fun r => (visitFrom n it.next).map (r :: ·)

/-- What is visited from `begin()` on; one round more than there are elements. -/
def visit (q : Queue α) : Except QueueFault (List (EntryPtr × α)) :=
  q.begin.bind (visitFrom (q.mSize + 1))

/-! ## push_back and erase -/

/-- `emplace_back`, `push_back`. -/
def emplaceBack (q : Queue α) (x : α) : Except QueueFault (Queue α) :=
  match q.mLast with
  | none => .error .nullBlock
  | some last =>
    (if last.vacant = 0 then q.allocateNext else .ok q).map fun q =>
      { q with
        mSize := q.mSize + 1
        blocks := q.blocks.dropLast ++ (q.mLast.map (·.construct x)).toList }

/-- `erase(Iterator)`. -/
def erase (q : Queue α) (it : Iterator α) : Except QueueFault (Queue α) :=
  if q.mSize = 0 then .error .eraseSize
  else if it.valid = false then .error .eraseInvalid
  else q.front.bind fun f => it.deref.bind fun r =>
    if f.1 = r.1 then q.popFront else .ok (q.resetEntry r)

/-- The search of `erase(T*)`. -/
def findBlock (p : EntryPtr) : List (Block α) → Except QueueFault (List (Block α))
  | [] => .error .eraseNoBlock
  | b :: bs => if b.contains p then .ok (b :: bs) else findBlock p bs

/-- `erase(T*)`: the number of the entry becomes the index of an iterator. -/
def erasePtr (q : Queue α) (p : EntryPtr) : Except QueueFault (Queue α) :=
  (findBlock p q.blocks).bind fun blk =>
    (Iterator.make blk (UInt64.ofNat p.slot)).bind fun iter => iter.deref.bind fun r =>
      if r.1 = p then q.erase iter else .error .erasePtr

/-! ## Calls -/

inductive Event (α : Type) where
  | pushBack (x : α)
  | popFront
  | erase (k : Nat)
  | erasePtr (p : EntryPtr)
  | reserve (capacity : UInt64)
  deriving DecidableEq, Repr

def call (q : Queue α) : Event α → Except QueueFault (Queue α)
  | .pushBack x => q.emplaceBack x
  | .popFront => q.popFront
  | .erase k => (q.iterator k).bind q.erase
  | .erasePtr p => q.erasePtr p
  | .reserve capacity => q.reserve capacity

/-- A call that neither throws nor fails an assertion. -/
def step (q : Queue α) (e : Event α) : Option (Queue α) := (q.call e).toOption

end Queue
end Coproto
