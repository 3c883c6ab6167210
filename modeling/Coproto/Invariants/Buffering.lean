import Coproto.Lib.Chunks
import Coproto.Lib.Runs
import Coproto.Source.BufferingSocket
import Mathlib.Tactic.Linarith

/-!
# The buffers of a BufferingSocket

BufferingSocket.h:141-231. `Buffer.Ok` is what the assertion in `size` checks,
with the offset inside the first chunk; a buffer that is `Ok` is the queue of
its `contents`.
-/
namespace Coproto
namespace BufferingSocket

namespace Buffer
variable {b : Buffer}

def contents (b : Buffer) : List UInt8 := Chunks.contents b.mFront b.mData

structure Ok (b : Buffer) : Prop where
  fits : Chunks.Fits b.mFront b.mData
  size : b.mSize = b.contents.length

theorem contents_length (fits : Chunks.Fits b.mFront b.mData) :
    b.contents.length + b.mFront = (b.mData.map List.length).sum := by
  rw [contents, Chunks.contents, List.length_drop, List.length_flatten]
  cases h : b.mData with
  | nil => simp_all [Chunks.Fits]
  | cons chunk chunks =>
    rw [h] at fits
    have inside : b.mFront ≤ chunk.length := fits
    simp only [List.map_cons, List.sum_cons]
    omega

/-- An `Ok` buffer passes the assertion in `size`. -/
theorem Ok.sizeOk (ok : b.Ok) : b.sizeOk = true := by
  have total := contents_length ok.fits
  have size := ok.size
  simp only [Buffer.sizeOk, decide_eq_true_eq]
  omega

theorem Ok.push (ok : b.Ok) (data : List UInt8) :
    (b.push data).Ok ∧ (b.push data).contents = b.contents ++ data := by
  have contents : (b.push data).contents = b.contents ++ data :=
    Chunks.contents_push ok.fits data
  refine ⟨⟨Chunks.fits_push ok.fits data, ?_⟩, contents⟩
  rw [contents, List.length_append, ← ok.size]
  rfl

/-- A round of the loop takes from the first chunk and drops it when it is used up. -/
theorem Ok.round {chunk : List UInt8} {rest : List (List UInt8)} (ok : b.Ok)
    (data : b.mData = chunk :: rest) {m : Nat} (room : b.mFront + m ≤ chunk.length) :
    ∃ b' : Buffer, (if b.mFront + m = chunk.length then (⟨0, b.mSize - m, rest⟩ : Buffer)
        else ⟨b.mFront + m, b.mSize - m, chunk :: rest⟩) = b' ∧
      b'.Ok ∧ b.contents = (chunk.drop b.mFront).take m ++ b'.contents := by
  have contents : b.contents = (chunk.drop b.mFront).take m ++
      Chunks.contents (b.mFront + m) (chunk :: rest) := by
    rw [Buffer.contents, data]
    exact Chunks.contents_advance room
  have size : b.mSize - m = (Chunks.contents (b.mFront + m) (chunk :: rest)).length := by
    have taken : ((chunk.drop b.mFront).take m).length = m := by
      simp only [List.length_take, List.length_drop]
      omega
    rw [ok.size, contents, List.length_append, taken, Nat.add_sub_cancel_left]
  refine ⟨_, rfl, ?_⟩
  split
  · rename_i whole
    rw [whole, Chunks.contents_drop] at contents size
    exact ⟨⟨Chunks.fits_zero, size⟩, contents⟩
  · exact ⟨⟨room, size⟩, contents⟩

/-- The loop takes `n` bytes off the front; the bound on its rounds is ample. -/
theorem Ok.popLoop (rounds : Nat) (ok : b.Ok) {n : Nat} (enough : n ≤ b.contents.length)
    (bound : n + b.mData.length ≤ rounds) :
    (Buffer.popLoop rounds b n).1 = b.contents.take n ∧ (Buffer.popLoop rounds b n).2.Ok ∧
      (Buffer.popLoop rounds b n).2.contents = b.contents.drop n := by
  induction rounds generalizing b n with
  | zero =>
    obtain rfl : n = 0 := by omega
    exact ⟨rfl, ok, rfl⟩
  | succ rounds ih =>
    unfold Buffer.popLoop
    split
    · rename_i done
      subst done
      exact ⟨rfl, ok, rfl⟩
    · rename_i open_
      split
      · rename_i none
        rw [contents, none] at enough
        simp at enough
        omega
      · rename_i chunk rest data
        have inside : b.mFront ≤ chunk.length := by
          have fits := ok.fits
          rw [data] at fits
          exact fits
        obtain ⟨m, least⟩ : ∃ m, min n (chunk.length - b.mFront) = m := ⟨_, rfl⟩
        obtain ⟨b', next, ok', contents⟩ := ok.round data (m := m) (by omega)
        have taken : ((chunk.drop b.mFront).take m).length = m := by
          simp only [List.length_take, List.length_drop]
          omega
        have shorter : n - m + b'.mData.length ≤ rounds := by
          rw [data, List.length_cons] at bound
          rw [← next]
          split <;> simp only [List.length_cons] <;> omega
        have left : n - m ≤ b'.contents.length := by
          have whole := congrArg List.length contents
          rw [List.length_append, taken] at whole
          omega
        obtain ⟨bytes, ok'', rest'⟩ := ih ok' left shorter
        dsimp only
        rw [least, next]
        refine ⟨?_, ok'', ?_⟩
        · rw [bytes, contents, List.take_append, taken, List.take_of_length_le (by omega : _ ≤ n)]
        · rw [rest', contents, List.drop_append, taken, List.drop_of_length_le (by omega : _ ≤ n),
            List.nil_append]

/-- `pop(data)` takes the first bytes. -/
theorem Ok.pop (ok : b.Ok) {n : Nat} (enough : n ≤ b.mSize) :
    (b.pop n).1 = b.contents.take n ∧ (b.pop n).2.Ok ∧ (b.pop n).2.contents = b.contents.drop n :=
  ok.popLoop _ (ok.size ▸ enough) le_rfl

/-- `pop()` on a buffer whose first chunk was not opened takes everything. -/
theorem popAll_contents (closed : b.mFront = 0) :
    b.popAll.1 = b.contents ∧ b.popAll.2.Ok ∧ b.popAll.2.contents = [] ∧ b.popAll.2.mFront = 0 := by
  have contents : b.contents = b.mData.flatten := by rw [Buffer.contents, closed, Chunks.contents_zero]
  refine ⟨contents.symm, ⟨closed, ?_⟩, ?_, closed⟩ <;> simp [Buffer.popAll, Buffer.contents]

theorem Ok.empty : Ok {} := ⟨rfl, by simp [contents]⟩

end Buffer

namespace SockImpl
variable {s t : SockImpl} {op : OpId} {a : SendRecvAwaiter}

/-! ## Steps, case by case -/

/-- What an event can do to the socket. -/
inductive SockStep (s : SockImpl) : Event → SockImpl → Prop
  | created (type : OpType) (data : List UInt8) (token : StopToken) (nonempty : data ≠ []) :
      SockStep s (.create type data token) (s.create type data token)
  | canceled (op : OpId) (a : SendRecvAwaiter) (ec : ErrorCode) (live : s.ops op = some a)
      (fresh : a.awaited = false) (mEc : a.mEc = some ec) :
      SockStep s (.await op) { s with
        ops := s.ops.set op { a with awaited := true }
        trace := s.trace ++ [.awaited op a.mType a.mData, .completed op a.mType ec a.mData]
        faults := s.faults ++ [] }
  | sent (op : OpId) (a : SendRecvAwaiter) (live : s.ops op = some a) (fresh : a.awaited = false)
      (mEc : a.mEc = none) (type : a.mType = .send) :
      SockStep s (.await op) { s with
        mOutboundBuffer_ := s.mOutboundBuffer_.push a.mData
        ops := s.ops.set op { a with awaited := true, mEc := some Code.success }
        trace := s.trace ++ [.awaited op .send a.mData, .completed op .send Code.success a.mData]
        faults := s.faults ++ require (s.mOutboundBuffer_.push a.mData).sizeOk .size }
  | served (op : OpId) (a : SendRecvAwaiter) (live : s.ops op = some a) (fresh : a.awaited = false)
      (mEc : a.mEc = none) (type : a.mType = .recv)
      (enough : a.mData.length ≤ s.mInboundBuffer_.mSize) :
      SockStep s (.await op) { s with
        mInboundBuffer_ := (s.mInboundBuffer_.pop a.mData.length).2
        ops := s.ops.set op { a with
          awaited := true, mEc := some Code.success, mData := (s.mInboundBuffer_.pop a.mData.length).1 }
        trace := s.trace ++ [.awaited op .recv a.mData,
          .completed op .recv Code.success (s.mInboundBuffer_.pop a.mData.length).1]
        faults := s.faults ++ (require s.mInboundBuffer_.sizeOk .size ++
          require (s.mInboundBuffer_.pop a.mData.length).2.sizeOk .size) }
  | parked (op : OpId) (a : SendRecvAwaiter) (live : s.ops op = some a) (fresh : a.awaited = false)
      (mEc : a.mEc = none) (type : a.mType = .recv)
      (short : s.mInboundBuffer_.mSize < a.mData.length) :
      SockStep s (.await op) { s with
        mInbound_ := some op
        ops := s.ops.set op { a with awaited := true, mHandle := true }
        trace := s.trace ++ [.awaited op .recv a.mData]
        faults := s.faults ++ require s.mInboundBuffer_.sizeOk .size }
  | late (op : OpId) (a : SendRecvAwaiter) (live : s.ops op = some a) (done : a.mEc ≠ none) :
      SockStep s (.stop op) { s with ops := s.ops.set op { a with mReg := .invoked } }
  | early (op : OpId) (a : SendRecvAwaiter) (live : s.ops op = some a) (mEc : a.mEc = none)
      (idle : a.mHandle = false) :
      SockStep s (.stop op) { s with
        ops := s.ops.set op { a with mReg := .invoked, mEc := some Code.operation_aborted } }
  | aborted (op : OpId) (a : SendRecvAwaiter) (live : s.ops op = some a) (mEc : a.mEc = none)
      (parked : a.mHandle = true) (inbound : Option OpId) (fs : List Fault)
      (type : (a.mType = .recv ∧ inbound = none ∧ fs = require (s.mInbound_ = some op) .stopInbound) ∨
        a.mType = .send ∧ inbound = s.mInbound_ ∧ fs = []) :
      SockStep s (.stop op) { s with
        mInbound_ := inbound
        ops := s.ops.set op { a with mReg := .invoked, mEc := some Code.operation_aborted }
        trace := s.trace ++ [.completed op a.mType Code.operation_aborted a.mData]
        faults := s.faults ++ fs }
  | arrived (data : List UInt8) (unserved : ∀ op a, s.mInbound_ = some op → s.ops op = some a →
        s.mInboundBuffer_.mSize + data.length < a.mData.length) :
      SockStep s (.processInbound data) { s with
        mInboundBuffer_ := s.mInboundBuffer_.push data
        trace := s.trace ++ [.inbound data]
        faults := s.faults ++ require (s.mInboundBuffer_.push data).sizeOk .size }
  | filled (data : List UInt8) (op : OpId) (a : SendRecvAwaiter) (inbound : s.mInbound_ = some op)
      (live : s.ops op = some a) (enough : a.mData.length ≤ s.mInboundBuffer_.mSize + data.length) :
      SockStep s (.processInbound data) { s with
        mInbound_ := none
        mInboundBuffer_ := ((s.mInboundBuffer_.push data).pop a.mData.length).2
        ops := s.ops.set op { a with
          mEc := some Code.success, mData := ((s.mInboundBuffer_.push data).pop a.mData.length).1 }
        trace := s.trace ++ [.inbound data, .completed op a.mType Code.success
          ((s.mInboundBuffer_.push data).pop a.mData.length).1]
        faults := s.faults ++ (require (s.mInboundBuffer_.push data).sizeOk .size ++
          require ((s.mInboundBuffer_.push data).pop a.mData.length).2.sizeOk .size ++
          require a.mHandle .handle) }
  | fetched : SockStep s .getOutbound (s.getOutbound.1.log (.outbound s.getOutbound.2))
  | errored (ec : ErrorCode) (error : ec.isError = true) :
      SockStep s (.setError ec) (s.setError ec)
  | closed : SockStep s .close s.close

theorem awaitSuspend_step (live : s.ops op = some a) (fresh : a.awaited = false) :
    SockStep s (.await op) (s.awaitSuspend op a) := by
  cases mEc : a.mEc with
  | some ec =>
    simpa [awaitSuspend, mEc, resume, log, check, Heap.modify_live live, live] using
      SockStep.canceled op a ec live fresh mEc
  | none =>
    cases type : a.mType with
    | send =>
      simpa [awaitSuspend, mEc, type, resume, log, check, setEc, Heap.modify_live live, live] using
        SockStep.sent op a live fresh mEc type
    | recv =>
      by_cases enough : a.mData.length ≤ s.mInboundBuffer_.mSize
      · simpa [awaitSuspend, mEc, type, resume, log, check, setEc, popInto, enough,
          Heap.modify_live live, live] using SockStep.served op a live fresh mEc type enough
      · simpa [awaitSuspend, mEc, type, log, check, enough, Heap.modify_live live, live] using
          SockStep.parked op a live fresh mEc type (by omega)

theorem stopCallback_step (live : s.ops op = some a) :
    SockStep s (.stop op) (s.stopCallback op a) := by
  cases mEc : a.mEc with
  | some ec =>
    simpa [stopCallback, mEc, Heap.modify_live live, live] using
      SockStep.late op a live (by simp [mEc])
  | none =>
    cases parked : a.mHandle with
    | false =>
      simpa [stopCallback, mEc, parked, setEc, Heap.modify_live live, live] using
        SockStep.early op a live mEc parked
    | true =>
      cases type : a.mType with
      | send =>
        simpa [stopCallback, mEc, parked, type, setEc, resume, check, log,
          Heap.modify_live live, live] using
          SockStep.aborted op a live mEc parked _ _ (.inr ⟨type, rfl, rfl⟩)
      | recv =>
        simpa [stopCallback, mEc, parked, type, setEc, resume, check, log,
          Heap.modify_live live, live] using
          SockStep.aborted op a live mEc parked _ _ (.inl ⟨type, rfl, rfl⟩)

theorem processInbound_step (s : SockImpl) (data : List UInt8) :
    SockStep s (.processInbound data) (s.processInbound data) := by
  have size : (s.mInboundBuffer_.push data).mSize = s.mInboundBuffer_.mSize + data.length := rfl
  cases found : s.mInbound_.bind fun op => (s.ops op).map fun a => (op, a) with
  | none =>
    simpa [processInbound, found, log, check] using
      SockStep.arrived data fun op a inbound live => by simp [inbound, live] at found
  | some waiting =>
    obtain ⟨op, a⟩ := waiting
    obtain ⟨inbound, live⟩ : s.mInbound_ = some op ∧ s.ops op = some a := by
      simp only [Option.bind_eq_some_iff, Option.map_eq_some_iff, Prod.mk.injEq] at found
      obtain ⟨_, inbound, _, live, rfl, rfl⟩ := found
      exact ⟨inbound, live⟩
    by_cases enough : a.mData.length ≤ s.mInboundBuffer_.mSize + data.length
    · simpa [processInbound, found, log, check, size, enough, popInto, setEc, resume,
        Heap.modify_live live, live] using SockStep.filled data op a inbound live enough
    · simpa [processInbound, found, log, check, size, enough] using
        SockStep.arrived data fun op' a' inbound' live' => by
          obtain rfl : op = op' := Option.some.inj (inbound.symm.trans inbound')
          obtain rfl : a = a' := Option.some.inj (live.symm.trans live')
          omega

theorem sockStep {e : Event} (taken : s.step e = some t) : SockStep s e t := by
  cases e with
  | create type data token =>
    simp only [step] at taken
    split at taken <;> cases taken
    rename_i nonempty
    exact .created type data token nonempty
  | await op =>
    simp only [step] at taken
    split at taken
    · cases taken
    · rename_i a live
      split at taken <;> cases taken
      rename_i fresh
      exact awaitSuspend_step live (by simpa using fresh)
  | stop op =>
    simp only [step] at taken
    split at taken
    · cases taken
    · rename_i a live
      split at taken <;> cases taken
      exact stopCallback_step live
  | processInbound data =>
    cases taken
    exact s.processInbound_step data
  | setError ec =>
    simp only [step] at taken
    split at taken <;> cases taken
    rename_i error
    exact .errored ec error
  | getOutbound =>
    cases taken
    exact .fetched
  | close =>
    cases taken
    exact .closed

end SockImpl

end BufferingSocket
end Coproto
