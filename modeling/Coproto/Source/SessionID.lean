import Mathlib.Logic.Basic

/-!
# Session ids

coproto/Proto/SessionID.h:21-73. A session id names a fork on both sides of the
socket; the child counter is local and takes no part in comparison or hashing.
-/
namespace Coproto

structure SessionID where
  mVal : UInt64 × UInt64
  mChildIdx : UInt64 := 0
  deriving DecidableEq, Repr

namespace SessionID

/-- The polynomial inside `derive`, modulo `2 ^ 64`. -/
def bHash (v : UInt64) : UInt64 := v * (v - 1) * (v - 2) - 23 * v

/-- Round `i` of `derive`: word `i & 1` is replaced, keyed by the other one. -/
def feistelRound (childIdx : UInt64) (i : Nat) (v : UInt64 × UInt64) : UInt64 × UInt64 :=
  if i % 2 = 0 then (bHash (v.2 + childIdx + 32243534) ^^^ v.1 ^^^ 9478532833, v.2)
  else (v.1, bHash (v.1 + childIdx + 32243534) ^^^ v.2 ^^^ 9478532833)

/-- `derive` returns the child id and leaves the parent with the next counter. -/
def derive (id : SessionID) : SessionID × SessionID :=
  let ret := (List.range 5).foldl (fun v i => feistelRound id.mChildIdx i v) id.mVal
  (⟨(ret.1 ^^^ id.mVal.1, ret.2 ^^^ id.mVal.2), 0⟩, { id with mChildIdx := id.mChildIdx + 1 })

/-- `SessionID::root()`. -/
def root : SessionID := ⟨(45234, 325434), 0⟩

@[simp] theorem derive_parent_mVal (id : SessionID) : id.derive.2.mVal = id.mVal := rfl

end SessionID
end Coproto
