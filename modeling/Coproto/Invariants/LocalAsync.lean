import Coproto.Lib.Runs
import Coproto.Source.LocalAsyncSock
import Mathlib.Tactic.Linarith

/-!
# The operations of a LocalAsyncSocket

LocalAsyncSock.h:289-568. `Awaiter.Ok` relates what an operation reports to what
was copied; `QueueOk` says of the operations of one end and type that all but the
last are done and that the slot holds the one that waits.
-/
namespace Coproto
namespace LocalAsyncSocket

/-! ## One operation -/

namespace Awaiter
variable {a : Awaiter} {src : List UInt8}

/-- What was moved is the part of the buffer in front of the span. -/
structure Fits (a : Awaiter) : Prop where
  size : a.buffer.length = a.mTotalSize
  room : a.mData ≤ a.mTotalSize
  positive : 0 < a.mTotalSize
  moved : a.moved = a.buffer.take (a.mTotalSize - a.mData)

/-- An operation has no result before it ends; it ends well exactly when its
buffer is done, which takes a suspension, and is resumed once, after it. -/
def Phase (a : Awaiter) : Prop :=
  match a.mEc with
  | none => a.results = [] ∧ 0 < a.mData
  | some ec => (ec.isError = false ↔ a.mData = 0) ∧ (a.mHandle = false → ec.isError = true) ∧
      a.results = if a.mHandle then [(ec, a.mTotalSize - a.mData)] else []

structure Ok (a : Awaiter) : Prop extends Fits a where
  phase : a.Phase

theorem Fits.moved_length (fits : a.Fits) : a.moved.length = a.mTotalSize - a.mData := by
  rw [fits.moved, List.length_take, fits.size]
  omega

theorem Fits.front_length (fits : a.Fits) {m : Nat} (inside : m ≤ a.mData) : (a.front m).length = m := by
  have size := fits.size
  have room := fits.room
  simp only [front, List.length_take, List.length_drop]
  omega

theorem Fits.took (fits : a.Fits) {m : Nat} (inside : m ≤ a.mData) : (a.took (a.front m)).Fits := by
  have length := fits.front_length inside
  have room := fits.room
  refine ⟨fits.size, (Nat.sub_le _ _).trans room, fits.positive, ?_⟩
  have offset : a.mTotalSize - (a.mData - m) = a.mTotalSize - a.mData + m := by omega
  show a.moved ++ a.front m = a.buffer.take (a.mTotalSize - (a.mData - (a.front m).length))
  rw [length, offset, List.take_add, fits.moved]
  rfl

theorem Fits.put (fits : a.Fits) (inside : src.length ≤ a.mData) : (a.put src).Fits := by
  have size := fits.size
  have room := fits.room
  have front : (a.buffer.take (a.mTotalSize - a.mData)).length = a.mTotalSize - a.mData := by
    rw [List.length_take]
    omega
  refine ⟨?_, (Nat.sub_le _ _).trans room, fits.positive, ?_⟩
  · show (a.buffer.take (a.mTotalSize - a.mData) ++ src ++
      a.buffer.drop (a.mTotalSize - a.mData + src.length)).length = a.mTotalSize
    simp only [List.length_append, front, List.length_drop]
    omega
  · have offset : a.mTotalSize - (a.mData - src.length) =
        (a.buffer.take (a.mTotalSize - a.mData) ++ src).length := by
      rw [List.length_append, front]
      omega
    show a.moved ++ src = (a.buffer.take (a.mTotalSize - a.mData) ++ src ++
      a.buffer.drop (a.mTotalSize - a.mData + src.length)).take (a.mTotalSize - (a.mData - src.length))
    rw [offset, List.take_left, fits.moved]

/-- An operation that is pending is ended with a code. -/
theorem Ok.complete (ok : a.Fits) {ec : ErrorCode} (none : a.results = []) (started : a.mHandle = true)
    (code : ec.isError = false ↔ a.mData = 0) : (a.complete ec).Ok := by
  refine ⟨⟨ok.size, ok.room, ok.positive, ok.moved⟩, code, fun idle => ?_, ?_⟩
  · have started' : a.mHandle = false := idle
    simp [started] at started'
  · simp [Awaiter.complete, Awaiter.resume, awaitResume, none, started]

theorem Ok.pending (ok : a.Ok) (mEc : a.mEc = none) : a.results = [] ∧ 0 < a.mData := by
  have phase := ok.phase
  unfold Phase at phase
  rwa [mEc] at phase

end Awaiter

/-! ## The operations of one end and type -/

structure QueueOk (ops : List Awaiter) (slot : Option Nat) : Prop where
  each : ∀ (n : Nat) (a : Awaiter), ops[n]? = some a → a.Ok
  last : ∀ (n : Nat) (a : Awaiter), ops[n]? = some a → a.results = [] → n + 1 = ops.length
  waits : ∀ n : Nat, slot = some n ↔ ∃ a : Awaiter, ops[n]? = some a ∧ a.mHandle = true ∧ a.mEc = none

namespace QueueOk
variable {ops : List Awaiter} {slot : Option Nat} {n : Nat} {a a' : Awaiter}

theorem empty : QueueOk [] none := ⟨by simp, by simp, by simp⟩

/-- The one that waits has no result yet. -/
theorem pending (ok : QueueOk ops slot) (waits : slot = some n) : ∃ a, ops[n]? = some a ∧
    a.mHandle = true ∧ a.mEc = none ∧ a.results = [] ∧ 0 < a.mData ∧ n + 1 = ops.length := by
  obtain ⟨a, found, started, mEc⟩ := (ok.waits n).mp waits
  obtain ⟨none, left⟩ := (ok.each n a found).pending mEc
  exact ⟨a, found, started, mEc, none, left, ok.last n a found none⟩

/-- Beside an operation with no result no other one waits. -/
theorem alone (ok : QueueOk ops slot) (found : ops[n]? = some a) (none : a.results = []) {k : Nat}
    (waits : slot = some k) : k = n := by
  obtain ⟨_, _, _, _, _, _, last⟩ := ok.pending waits
  have last' := ok.last n a found none
  omega

/-- An operation without a result is written; it waits afterwards or not. -/
theorem write (ok : QueueOk ops slot) (found : ops[n]? = some a) (none : a.results = []) (ok' : a'.Ok) :
    QueueOk (ops.set n a') (if a'.mHandle = true ∧ a'.mEc = .none then some n else .none) := by
  have inside := (List.getElem?_eq_some_iff.mp found).1
  refine ⟨fun k b found' => ?_, fun k b found' none' => ?_, fun k => ?_⟩
  · rw [List.getElem?_set] at found'
    split at found'
    · simp only [Option.some.injEq] at found'
      exact found' ▸ ok'
    · exact ok.each k b found'
  · rw [List.length_set]
    rw [List.getElem?_set] at found'
    split at found'
    · rename_i same
      exact same ▸ ok.last n a found none
    · exact ok.last k b found' none'
  · rw [List.getElem?_set]
    by_cases same : n = k
    · subst same
      simp [inside]
    · simp only [same, if_false]
      have other : ¬ ∃ b, ops[k]? = some b ∧ b.mHandle = true ∧ b.mEc = .none := fun waiting =>
        same (ok.alone found none ((ok.waits k).mpr waiting)).symm
      refine iff_of_false (fun waits => ?_) other
      split at waits
      · exact same (Option.some.inj waits)
      · cases waits

/-- A write that leaves the phase of an operation alone. -/
theorem setReg (ok : QueueOk ops slot) (found : ops[n]? = some a) (reg : StopCallback) :
    QueueOk (ops.set n { a with mReg := reg }) slot := by
  have inside := (List.getElem?_eq_some_iff.mp found).1
  have same : ∀ (k : Nat) (b : Awaiter), (ops.set n { a with mReg := reg })[k]? = some b →
      ∃ b' : Awaiter, ops[k]? = some b' ∧ (b = b' ∨ b = { b' with mReg := reg }) := by
    intro k b found'
    rw [List.getElem?_set] at found'
    split at found'
    · rename_i here
      simp only [Option.some.injEq] at found'
      exact ⟨a, here ▸ found, .inr found'.symm⟩
    · exact ⟨b, found', .inl rfl⟩
  refine ⟨fun k b found' => ?_, fun k b found' none => ?_, fun k => ?_⟩
  · obtain ⟨b', old, rfl | rfl⟩ := same k b found'
    · exact ok.each k b old
    · have old' := ok.each k b' old
      exact ⟨⟨old'.size, old'.room, old'.positive, old'.moved⟩, old'.phase⟩
  · rw [List.length_set]
    obtain ⟨b', old, rfl | rfl⟩ := same k b found'
    · exact ok.last k b old none
    · exact ok.last k b' old none
  · rw [ok.waits k, List.getElem?_set]
    by_cases here : n = k
    · subst here
      rw [if_pos rfl, if_pos inside]
      simp only [found, Option.some.injEq, exists_eq_left']
    · simp [here]

/-- An operation is awaited when all before it have their result. -/
theorem push (ok : QueueOk ops slot) (done : ∀ b ∈ ops, b.results ≠ []) (ok' : a'.Ok)
    (unstarted : a'.mHandle = false) : QueueOk (ops ++ [a']) slot := by
  have get : ∀ k b, (ops ++ [a'])[k]? = some b → ops[k]? = some b ∨ k = ops.length ∧ b = a' := by
    intro k b found
    rcases Nat.lt_trichotomy k ops.length with before | rfl | after
    · rw [List.getElem?_append_left before] at found
      exact .inl found
    · simp only [List.getElem?_concat_length, Option.some.injEq] at found
      exact .inr ⟨rfl, found.symm⟩
    · rw [List.getElem?_eq_none (by simp; omega)] at found
      cases found
  refine ⟨fun k b found => ?_, fun k b found none => ?_, fun k => ?_⟩
  · rcases get k b found with old | ⟨_, rfl⟩
    · exact ok.each k b old
    · exact ok'
  · rcases get k b found with old | ⟨rfl, _⟩
    · exact absurd none (done b (List.mem_of_getElem? old))
    · simp
  · rw [ok.waits k]
    constructor
    · rintro ⟨b, old, rest⟩
      exact ⟨b, by rw [List.getElem?_append_left (List.getElem?_eq_some_iff.mp old).1, old], rest⟩
    · rintro ⟨b, found, started, mEc⟩
      rcases get k b found with old | ⟨_, rfl⟩
      · exact ⟨b, old, started, mEc⟩
      · simp [unstarted] at started

end QueueOk

/-! ## The bytes of all operations of one end and type -/

/-- The bytes copied from or to a list of operations. -/
def movedBytes (ops : List Awaiter) : List UInt8 := ops.flatMap Awaiter.moved

section Bytes
variable {ops : List Awaiter} {n : Nat} {a a' : Awaiter}

theorem movedBytes_set (found : ops[n]? = some a) (same : a'.moved = a.moved) :
    movedBytes (ops.set n a') = movedBytes ops := by
  induction ops generalizing n with
  | nil => simp at found
  | cons b ops ih =>
    cases n with
    | zero =>
      simp only [List.getElem?_cons_zero, Option.some.injEq] at found
      simp [movedBytes, found, same]
    | succ n =>
      have rest := ih (n := n) (by simpa using found)
      simp only [movedBytes, List.set_cons_succ, List.flatMap_cons] at rest ⊢
      rw [rest]

/-- Bytes are copied from or to the last operation. -/
theorem movedBytes_last (found : ops[n]? = some a) (last : n + 1 = ops.length) {src : List UInt8}
    (moved : a'.moved = a.moved ++ src) : movedBytes (ops.set n a') = movedBytes ops ++ src := by
  induction ops generalizing n with
  | nil => simp at found
  | cons b ops ih =>
    cases n with
    | zero =>
      obtain rfl : ops = [] := List.length_eq_zero_iff.mp (by simpa using last.symm)
      simp only [List.getElem?_cons_zero, Option.some.injEq] at found
      simp [movedBytes, found, moved]
    | succ n =>
      have rest := ih (n := n) (by simpa using found) (by simpa using last)
      simp only [movedBytes, List.set_cons_succ, List.flatMap_cons] at rest ⊢
      rw [rest, List.append_assoc]

end Bytes

end LocalAsyncSocket
end Coproto
