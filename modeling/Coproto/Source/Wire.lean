import Coproto.Lib.LittleEndian
import Coproto.Source.SessionID

/-!
# Bytes on the wire

SocketScheduler.h:52-83, 1066-1078. `Header` and `ControlBlock` are sent as their
memory: two 32-bit words, and the two 64-bit words of a session id. Size 0 in a
header announces a control block, any other size a message of that many bytes.
-/
namespace Coproto
open LittleEndian

structure Header where
  mSize : UInt32
  mForkId : UInt32
  deriving DecidableEq, Repr

/-- `sizeof(Header)`, `sizeof(ControlBlock)`. -/
def headerSize : Nat := 8
def controlBlockSize : Nat := 16

def Header.bytes (h : Header) : List UInt8 :=
  leBytes 4 h.mSize.toNat ++ leBytes 4 h.mForkId.toNat

def Header.ofBytes (bs : List UInt8) : Header :=
  ⟨UInt32.ofNat (leNat (bs.take 4)), UInt32.ofNat (leNat ((bs.drop 4).take 4))⟩

/-- `ControlBlock::setSessionID`. -/
def controlBlockBytes (id : SessionID) : List UInt8 :=
  leBytes 8 id.mVal.1.toNat ++ leBytes 8 id.mVal.2.toNat

/-- `ControlBlock::getSessionID`: the child counter starts at 0. -/
def controlBlockSessionID (bs : List UInt8) : SessionID :=
  ⟨(UInt64.ofNat (leNat (bs.take 8)), UInt64.ofNat (leNat ((bs.drop 8).take 8))), 0⟩

@[simp] theorem Header.bytes_length (h : Header) : h.bytes.length = headerSize := by
  simp [Header.bytes, headerSize]

@[simp] theorem controlBlockBytes_length (id : SessionID) :
    (controlBlockBytes id).length = controlBlockSize := by
  simp [controlBlockBytes, controlBlockSize]

theorem Header.ofBytes_bytes (h : Header) : Header.ofBytes h.bytes = h := by
  have size := h.mSize.toNat_lt
  have fork := h.mForkId.toNat_lt
  have last : (leBytes 4 h.mForkId.toNat).take 4 = leBytes 4 h.mForkId.toNat :=
    List.take_of_length_le (by simp)
  simp only [Header.ofBytes, Header.bytes, take_leBytes_append, drop_leBytes_append, last]
  rw [leNat_leBytes_of_lt (by simpa using size), leNat_leBytes_of_lt (by simpa using fork)]
  simp

theorem controlBlockSessionID_bytes (id : SessionID) :
    (controlBlockSessionID (controlBlockBytes id)).mVal = id.mVal := by
  have fst := id.mVal.1.toNat_lt
  have snd := id.mVal.2.toNat_lt
  have last : (leBytes 8 id.mVal.2.toNat).take 8 = leBytes 8 id.mVal.2.toNat :=
    List.take_of_length_le (by simp)
  simp only [controlBlockSessionID, controlBlockBytes, take_leBytes_append, drop_leBytes_append,
    last]
  rw [leNat_leBytes_of_lt (by simpa using fst), leNat_leBytes_of_lt (by simpa using snd)]
  simp

end Coproto
