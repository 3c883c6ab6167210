import Coproto.Source.ErrorCode
import Coproto.Source.SessionID

/-!
# Fork tables

SocketFork.h:25-62 and SocketScheduler.cpp:92-155: the list of slots, the maps
from session ids and from the peer's slot ids to slots, and the three functions
that write them. A slot is its position in the list; the list only grows, so a
position is as stable as the iterators of `std::list`. The queues of operations
of a slot are kept with the direction they belong to (`RecvSide`, `SendSide`).

Assertions do not stop the model: each function goes on as a build without
them does and returns the assertions that failed.
-/
namespace Coproto

/-- The assertions of the functions that write the table. -/
inductive ForkFault where
  | initLocalSocketForkLocalId | initRemoteSocketForkSessionID | initRemoteSocketForkSlotId
  deriving DecidableEq, Repr

/-- `COPROTO_ASSERT` and `assert`. -/
def require {φ : Type} (holds : Bool) (fault : φ) : List φ := if holds then [] else [fault]

@[simp] theorem require_true {φ : Type} (fault : φ) : require true fault = [] := rfl

/-- `~u32(0)`, the value of an id that has not been assigned. -/
def unassigned : UInt32 := 0xffffffff

structure SocketFork where
  mSessionID : SessionID
  mLocalId : UInt32 := unassigned
  mRemoteId : UInt32 := unassigned
  mInitiated : Bool := false
  deriving DecidableEq, Repr

structure ForkTable where
  mSocketForks_ : List SocketFork := []
  mNextLocalSocketFork : UInt32 := 1
  mIdSocketForkMapping_ : UInt64 × UInt64 → Option Nat := fun _ => none
  mRemoteSocketForkMapping_ : UInt32 → Option Nat := fun _ => none

namespace ForkTable

/-- Dereference of a slot; the slots held in the maps are all in range. -/
def fork (t : ForkTable) (slot : Nat) : SocketFork :=
  t.mSocketForks_.getD slot ⟨SessionID.root, unassigned, unassigned, false⟩

def modify (t : ForkTable) (slot : Nat) (f : SocketFork → SocketFork) : ForkTable :=
  { t with mSocketForks_ := t.mSocketForks_.modify slot f }

/-- The slot of a session, appended and mapped when there is none yet: the
`find` / `emplace_back` / `insert` that both initialisers start with. -/
def emplace (t : ForkTable) (id : SessionID) : ForkTable × Nat :=
  match t.mIdSocketForkMapping_ id.mVal with
  | some slot => (t, slot)
  | none =>
    ({ t with
        mSocketForks_ := t.mSocketForks_ ++ [{ mSessionID := id }]
        mIdSocketForkMapping_ := fun v =>
          if v = id.mVal then some t.mSocketForks_.length else t.mIdSocketForkMapping_ v },
      t.mSocketForks_.length)

def initLocalSocketFork (t : ForkTable) (id : SessionID) : ForkTable × List ForkFault :=
  let faults := match t.mIdSocketForkMapping_ id.mVal with
    | some slot => require ((t.fork slot).mLocalId = unassigned) .initLocalSocketForkLocalId
    | none => []
  let (t, slot) := t.emplace id
  ({ t.modify slot (fun f => { f with mLocalId := t.mNextLocalSocketFork }) with
      mNextLocalSocketFork := t.mNextLocalSocketFork + 1 }, faults)

def initRemoteSocketFork (t : ForkTable) (slotId : UInt32) (id : SessionID) :
    ForkTable × ErrorCode × List ForkFault :=
  if slotId = unassigned then (t, Code.badCoprotoMessageHeader, [])
  else
    let (t, slot) := t.emplace id
    if (t.fork slot).mRemoteId ≠ unassigned then (t, Code.badCoprotoMessageHeader, [])
    else
      let faults :=
        require ((t.fork slot).mSessionID.mVal = id.mVal) .initRemoteSocketForkSessionID ++
        require (t.mRemoteSocketForkMapping_ slotId = none) .initRemoteSocketForkSlotId
      let t := t.modify slot fun f => { f with mRemoteId := slotId }
      -- `unordered_map::insert` leaves a key that is already there alone
      ({ t with mRemoteSocketForkMapping_ := fun k =>
          if k = slotId ∧ t.mRemoteSocketForkMapping_ slotId = none then some slot
          else t.mRemoteSocketForkMapping_ k }, Code.success, faults)

/-- `SockScheduler::fork` on the slot of `s`: derive the child id in place, then
initialise its slot. -/
def forkSlot (t : ForkTable) (slot : Nat) : ForkTable × SessionID × List ForkFault :=
  let (s2, parent) := (t.fork slot).mSessionID.derive
  let (t, faults) := (t.modify slot fun f => { f with mSessionID := parent }).initLocalSocketFork s2
  (t, s2, faults)

/-- The table `init` builds for the root session. -/
def init (sid : SessionID) : ForkTable := (({} : ForkTable).initLocalSocketFork sid).1

end ForkTable
end Coproto
