import Coproto.Invariants.Buffering

/-!
# A BufferingSocket is a byte queue, however its input is cut

BufferingSocket.h:141-318, 351-495. Until the socket is closed or failed, what
its receives return is the inbound stream from its first byte on, and what is
fetched is what was sent. `Calm` is the use that is assumed: no error yet, and
one receive at a time.
-/
namespace Coproto
namespace BufferingSocket
open SockImpl Runs

/-- No error is set, and a receive is only awaited when none is parked. -/
def Calm (s : SockImpl) : Event → Prop
  | .setError _ => False
  | .close => False
  | .await op => (s.ops op).all (fun a => a.mType = .send) = true ∨ s.mInbound_ = none
  | _ => True

instance (s : SockImpl) (e : Event) : Decidable (Calm s e) := by
  rcases e with ⟨⟩ <;> dsimp only [Calm] <;> infer_instance

/-! ## What a run shows -/

def Obs.inboundBytes : Obs → List UInt8
  | .inbound data => data
  | _ => []

def Obs.outboundBytes : Obs → List UInt8
  | .outbound result => result.getD []
  | _ => []

/-- The bytes of an operation of the given type that completed without error. -/
def Obs.movedBytes (type : OpType) : Obs → List UInt8
  | .completed _ type' ec data => if type' = type ∧ ec.isError = false then data else []
  | _ => []

def Obs.completes (op : OpId) : Obs → Bool
  | .completed op' _ _ _ => op' = op
  | _ => false

/-- How often an operation has completed. -/
def completions (s : SockImpl) (op : OpId) : Nat := s.trace.countP (Obs.completes op)

/-- The buffer an operation was awaited with: the size stays, and what a send holds. -/
def Given (trace : List Obs) (op : OpId) (type : OpType) (data : List UInt8) : Prop :=
  ∃ given, .awaited op type given ∈ trace ∧ given.length = data.length ∧ (type = .send → given = data)

/-- The bytes: what was received and what is buffered is the inbound stream,
what was fetched and what is buffered is what was sent. -/
structure StreamOk (s : SockImpl) : Prop where
  inbound : s.mInboundBuffer_.Ok
  outbound : s.mOutboundBuffer_.Ok
  closed : s.mOutboundBuffer_.mFront = 0
  received : s.trace.flatMap (Obs.movedBytes .recv) ++ s.mInboundBuffer_.contents =
    s.trace.flatMap Obs.inboundBytes
  sent : s.trace.flatMap Obs.outboundBytes ++ s.mOutboundBuffer_.contents =
    s.trace.flatMap (Obs.movedBytes .send)
  whole : ∀ op type ec data, .completed op type ec data ∈ s.trace → ec.isError = false →
    Given s.trace op type data

/-- The operations: the one that waits is in `mInbound_`, and asks for more than there is. -/
structure OpsOk (s : SockImpl) : Prop where
  fresh : ∀ op, s.nextOp ≤ op → s.ops op = none
  awaited : ∀ op a, s.ops op = some a → a.awaited = true → Given s.trace op a.mType a.mData
  parked : ∀ op, s.mInbound_ = some op → ∃ a, s.ops op = some a ∧ a.mType = .recv ∧
    a.mHandle = true ∧ a.awaited = true ∧ a.mEc = none ∧
    s.mInboundBuffer_.contents.length < a.mData.length
  waiting : ∀ op a, s.ops op = some a → a.mHandle = true → a.mEc = none →
    a.mType = .recv ∧ s.mInbound_ = some op
  early : ∀ op a, s.ops op = some a → a.awaited = false → ∀ ec, a.mEc = some ec → ec.isError = true

/-- Every operation that was awaited has completed once, except for the one that is parked. -/
def Once (s : SockImpl) : Prop := ∀ op,
  completions s op = if (s.ops op).any (·.awaited) = true ∧ s.mInbound_ ≠ some op then 1 else 0

theorem Given.kept {trace : List Obs} {op : OpId} {type : OpType} {data : List UInt8}
    (given : Given trace op type data) (new : List Obs) : Given (trace ++ new) op type data := by
  obtain ⟨bytes, shown, size, same⟩ := given
  exact ⟨bytes, List.mem_append_left _ shown, size, same⟩

variable {s t : SockImpl}

/-- Operations are only said to hold what they were given. -/
theorem StreamOk.whole_append (ok : StreamOk s) {new : List Obs}
    (given : ∀ op type ec data, .completed op type ec data ∈ new → ec.isError = false →
      Given (s.trace ++ new) op type data) (op : OpId) (type : OpType) (ec : ErrorCode)
    (data : List UInt8) (shown : .completed op type ec data ∈ s.trace ++ new)
    (fine : ec.isError = false) : Given (s.trace ++ new) op type data := by
  rcases List.mem_append.mp shown with old | new'
  · exact (ok.whole op type ec data old fine).kept new
  · exact given op type ec data new' fine

theorem StreamOk.whole_completed (ok : StreamOk s) {o : Obs} {op : OpId} {type : OpType}
    {ec : ErrorCode} {data : List UInt8} (other : ∀ p, o.completes p = false)
    (given : Given (s.trace ++ [o, .completed op type ec data]) op type data) :
    ∀ op' type' ec' data', .completed op' type' ec' data' ∈ s.trace ++ [o, .completed op type ec data] →
      ec'.isError = false → Given (s.trace ++ [o, .completed op type ec data]) op' type' data' := by
  refine ok.whole_append fun op' type' ec' data' shown fine => ?_
  rcases List.mem_cons.mp shown with rfl | shown
  · simp [Obs.completes] at other
  · cases List.mem_singleton.mp shown
    exact given

theorem OpsOk.awaited_set (ok : OpsOk s) {op : OpId} {a : SendRecvAwaiter} {new : List Obs}
    (given : a.awaited = true → Given (s.trace ++ new) op a.mType a.mData) (p : OpId)
    (b : SendRecvAwaiter) (live : s.ops.set op a p = some b) (awaited : b.awaited = true) :
    Given (s.trace ++ new) p b.mType b.mData := by
  rw [Heap.set_apply] at live
  split at live
  · rename_i same
    cases live
    exact same ▸ given awaited
  · exact (ok.awaited p b live awaited).kept new

theorem OpsOk.early_set (ok : OpsOk s) {op : OpId} {a : SendRecvAwaiter}
    (early : a.awaited = true ∨ ∃ ec, a.mEc = some ec ∧ ec.isError = true) (p : OpId)
    (b : SendRecvAwaiter) (live : s.ops.set op a p = some b) (before : b.awaited = false)
    (ec : ErrorCode) (mEc : b.mEc = some ec) : ec.isError = true := by
  rw [Heap.set_apply] at live
  split at live
  · cases live
    rcases early with awaited | ⟨ec', mEc', error⟩
    · simp [awaited] at before
    · rw [mEc] at mEc'
      cases mEc'
      exact error
  · exact ok.early p b live before ec mEc

theorem OpsOk.fresh_set (ok : OpsOk s) {op : OpId} {a : SendRecvAwaiter} (a' : SendRecvAwaiter)
    (live : s.ops op = some a) (p : OpId) (above : s.nextOp ≤ p) : s.ops.set op a' p = none := by
  have other : p ≠ op := by
    rintro rfl
    simp [ok.fresh p above] at live
  rw [Heap.set_of_ne other]
  exact ok.fresh p above

/-- An operation that does not wait is written. -/
theorem OpsOk.write (ok : OpsOk s) {op : OpId} {a a' : SendRecvAwaiter} (new : List Obs)
    (live : s.ops op = some a) (trace : t.trace = s.trace ++ new) (cells : t.ops = s.ops.set op a')
    (nextOp : t.nextOp = s.nextOp) (inbound : t.mInbound_ = s.mInbound_)
    (given : a'.awaited = true → Given (s.trace ++ new) op a'.mType a'.mData)
    (early : a'.awaited = true ∨ ∃ ec, a'.mEc = some ec ∧ ec.isError = true)
    (idle : s.mInbound_ ≠ some op) (done : a'.mEc ≠ none)
    (unread : s.mInbound_ = none ∨
      t.mInboundBuffer_.contents.length = s.mInboundBuffer_.contents.length) : OpsOk t := by
  refine ⟨?_, ?_, ?_, ?_, cells ▸ ok.early_set early⟩
  · rw [nextOp, cells]
    exact ok.fresh_set a' live
  · rw [trace, cells]
    exact ok.awaited_set given
  · intro p waits
    rw [inbound] at waits
    obtain ⟨b, live', type, handle, awaited, mEc, short⟩ := ok.parked p waits
    have other : p ≠ op := by
      rintro rfl
      exact idle waits
    refine ⟨b, by rwa [cells, Heap.set_of_ne other], type, handle, awaited, mEc, ?_⟩
    rcases unread with none | same
    · simp [none] at waits
    · rwa [same]
  · intro p b live' handle mEc
    rw [cells, Heap.set_apply] at live'
    split at live'
    · cases live'
      exact absurd mEc done
    · rw [inbound]
      exact ok.waiting p b live' handle mEc

/-- The operation that waits, if any, is written and waits no more. -/
theorem OpsOk.release (ok : OpsOk s) {op : OpId} {a a' : SendRecvAwaiter} {new : List Obs}
    (live : s.ops op = some a) (trace : t.trace = s.trace ++ new) (cells : t.ops = s.ops.set op a')
    (nextOp : t.nextOp = s.nextOp) (inbound : t.mInbound_ = none)
    (given : a'.awaited = true → Given (s.trace ++ new) op a'.mType a'.mData)
    (early : a'.awaited = true ∨ ∃ ec, a'.mEc = some ec ∧ ec.isError = true)
    (waits : s.mInbound_ = some op) (done : a'.mEc ≠ none) : OpsOk t := by
  refine ⟨?_, ?_, by simp [inbound], ?_, cells ▸ ok.early_set early⟩
  · rw [nextOp, cells]
    exact ok.fresh_set a' live
  · rw [trace, cells]
    exact ok.awaited_set given
  · intro p b live' handle mEc
    rw [cells, Heap.set_apply] at live'
    split at live'
    · cases live'
      exact absurd mEc done
    · rename_i other
      have waits' := (ok.waiting p b live' handle mEc).2
      rw [waits] at waits'
      exact absurd (Option.some.inj waits').symm other

/-- The operation that waits. -/
theorem OpsOk.parked_live (ok : OpsOk s) {op : OpId} {a : SendRecvAwaiter}
    (waits : s.mInbound_ = some op) (live : s.ops op = some a) : a.mType = .recv ∧
      a.mHandle = true ∧ a.awaited = true ∧ a.mEc = none ∧
      s.mInboundBuffer_.contents.length < a.mData.length := by
  obtain ⟨b, live', parked⟩ := ok.parked op waits
  obtain rfl : b = a := Option.some.inj (live'.symm.trans live)
  exact parked

/-- An operation that has not been awaited, or has its result, is not the one that waits. -/
theorem OpsOk.idle (ok : OpsOk s) {op : OpId} {a : SendRecvAwaiter} (live : s.ops op = some a)
    (idle : a.awaited = false ∨ a.mEc ≠ none ∨ a.mHandle = false) : s.mInbound_ ≠ some op := by
  intro waits
  obtain ⟨_, handle, awaited, mEc, _⟩ := ok.parked_live waits live
  simp [handle, awaited, mEc] at idle

/-- Observations that show no bytes. -/
theorem StreamOk.quiet (ok : StreamOk s) (new : List Obs) (trace : t.trace = s.trace ++ new)
    (inb : t.mInboundBuffer_ = s.mInboundBuffer_) (out : t.mOutboundBuffer_ = s.mOutboundBuffer_)
    (silent : ∀ o ∈ new, (∃ op type data, o = .awaited op type data) ∨
      ∃ op type ec data, o = .completed op type ec data ∧ ec.isError = true) : StreamOk t := by
  have none : ∀ f : Obs → List UInt8, (∀ op type data, f (.awaited op type data) = []) →
      (∀ op type ec data, ec.isError = true → f (.completed op type ec data) = []) →
      t.trace.flatMap f = s.trace.flatMap f := by
    intro f awaited completed
    rw [trace, List.flatMap_append, List.append_right_eq_self, List.flatMap_eq_nil_iff]
    intro o member
    rcases silent o member with ⟨op, type, data, rfl⟩ | ⟨op, type, ec, data, rfl, error⟩
    · exact awaited op type data
    · exact completed op type ec data error
  have moved : ∀ type, t.trace.flatMap (Obs.movedBytes type) = s.trace.flatMap (Obs.movedBytes type) :=
    fun type => none _ (fun _ _ _ => rfl) fun _ _ _ _ error => by simp [Obs.movedBytes, error]
  refine ⟨inb ▸ ok.inbound, out ▸ ok.outbound, out ▸ ok.closed, ?_, ?_, ?_⟩
  · rw [moved, inb, none _ (fun _ _ _ => rfl) fun _ _ _ _ _ => rfl]
    exact ok.received
  · rw [moved, out, none _ (fun _ _ _ => rfl) fun _ _ _ _ _ => rfl]
    exact ok.sent
  · rw [trace]
    refine ok.whole_append fun op type ec data shown fine => ?_
    rcases silent _ shown with ⟨_, _, _, other⟩ | ⟨_, _, _, _, same, error⟩
    · cases other
    · cases same
      simp [fine] at error

/-- `getOutbound` returns what is buffered and keeps nothing back. -/
theorem StreamOk.getOutbound (ok : StreamOk s) :
    s.getOutbound.2.getD [] = s.mOutboundBuffer_.contents ∧
      s.getOutbound.1.mOutboundBuffer_.contents = [] := by
  obtain ⟨bytes, -, empty, -⟩ := Buffer.popAll_contents ok.closed
  refine ⟨?_, empty⟩
  unfold SockImpl.getOutbound
  dsimp only
  rw [bytes]
  split
  · rename_i drained
    exact drained.1.symm
  · rfl

/-- As long as there is no error there is a result. -/
theorem getOutbound_isSome (fine : s.mEc_.isError = false) : s.getOutbound.2.isSome = true := by
  simp [SockImpl.getOutbound, fine]

theorem sockOk_step {e : Event} (stream : StreamOk s) (ops : OpsOk s) (none : s.faults = [])
    (calm : Calm s e) (step : SockStep s e t) : StreamOk t ∧ OpsOk t ∧ t.faults = [] := by
  cases step with
  | created type data token nonempty =>
    refine ⟨stream.quiet [] (by simp [create]) rfl rfl (by simp), ⟨?_, ?_, ?_, ?_, ?_⟩, none⟩
    · intro p above
      have other : p ≠ s.nextOp := by
        rintro rfl
        exact Nat.not_succ_le_self _ above
      exact (Heap.set_of_ne other).trans (ops.fresh p (Nat.le_of_succ_le above))
    · intro p b live awaited
      simp only [create, Heap.set_apply] at live
      split at live
      · cases live
        cases awaited
      · exact ops.awaited p b live awaited
    · intro p waits
      obtain ⟨b, live, rest⟩ := ops.parked p waits
      have other : p ≠ s.nextOp := by
        rintro rfl
        simp [ops.fresh _ le_rfl] at live
      exact ⟨b, (Heap.set_of_ne other).trans live, rest⟩
    · intro p b live handle mEc
      simp only [create, Heap.set_apply] at live
      split at live
      · cases live
        cases handle
      · exact ops.waiting p b live handle mEc
    · intro p b live before ec mEc
      simp only [create, Heap.set_apply] at live
      split at live
      · cases live
        simp only [Option.ite_none_right_eq_some, Option.some.injEq] at mEc
        exact mEc.2 ▸ rfl
      · exact ops.early p b live before ec mEc
  | canceled op a ec live fresh mEc =>
    have error := ops.early op a live fresh ec mEc
    refine ⟨stream.quiet _ rfl rfl rfl ?_, ?_, by simp [none]⟩
    · intro o member
      simp only [List.mem_cons, List.not_mem_nil, or_false] at member
      exact member.imp (fun same => ⟨op, a.mType, a.mData, same⟩)
        fun same => ⟨op, a.mType, ec, a.mData, same, error⟩
    · exact ops.write _ live rfl rfl rfl rfl (fun _ => ⟨a.mData, by simp, rfl, fun _ => rfl⟩) (.inl rfl)
        (ops.idle live (.inl fresh)) (by simp [mEc]) (.inr rfl)
  | sent op a live fresh mEc type =>
    obtain ⟨pushed, contents⟩ := stream.outbound.push a.mData
    have given : Given (s.trace ++ [.awaited op .send a.mData,
        .completed op .send Code.success a.mData]) op .send a.mData :=
      ⟨a.mData, by simp, rfl, fun _ => rfl⟩
    refine ⟨⟨stream.inbound, pushed, stream.closed, ?_, ?_, ?_⟩, ?_, ?_⟩
    · simpa [Obs.movedBytes, Obs.inboundBytes] using stream.received
    · rw [contents]
      simp [Obs.movedBytes, Obs.outboundBytes, ← stream.sent]
    · exact stream.whole_completed (fun _ => rfl) given
    · exact ops.write _ live rfl rfl rfl rfl (fun _ => type ▸ given) (.inl rfl) (ops.idle live (.inl fresh))
        (by simp) (.inr rfl)
    · simp [none, pushed.sizeOk]
  | served op a live fresh mEc type enough =>
    obtain ⟨bytes, popped, rest⟩ := stream.inbound.pop enough
    have size : (s.mInboundBuffer_.pop a.mData.length).1.length = a.mData.length := by
      rw [bytes, List.length_take, ← stream.inbound.size]
      exact Nat.min_eq_left enough
    have alone : s.mInbound_ = .none := by simpa [Calm, live, type] using calm
    have given : Given (s.trace ++ [.awaited op .recv a.mData, .completed op .recv Code.success
        (s.mInboundBuffer_.pop a.mData.length).1]) op .recv
        (s.mInboundBuffer_.pop a.mData.length).1 :=
      ⟨a.mData, by simp, size.symm, fun other => by cases other⟩
    refine ⟨⟨popped, stream.outbound, stream.closed, ?_, ?_, ?_⟩, ?_, ?_⟩
    · rw [rest]
      simp [Obs.movedBytes, Obs.inboundBytes, ← stream.received, bytes]
    · simpa [Obs.movedBytes, Obs.outboundBytes] using stream.sent
    · exact stream.whole_completed (fun _ => rfl) given
    · exact ops.write _ live rfl rfl rfl rfl (fun _ => type ▸ given) (.inl rfl) (ops.idle live (.inl fresh))
        (by simp) (.inl alone)
    · simp [none, stream.inbound.sizeOk, popped.sizeOk]
  | parked op a live fresh mEc type short =>
    have alone : s.mInbound_ = .none := by simpa [Calm, live, type] using calm
    refine ⟨stream.quiet _ rfl rfl rfl ?_, ⟨ops.fresh_set _ live, ?_, ?_, ?_, ?_⟩, ?_⟩
    · intro o member
      exact .inl ⟨op, .recv, a.mData, List.mem_singleton.mp member⟩
    · exact ops.awaited_set fun _ => ⟨a.mData, by simp [type], rfl, fun _ => rfl⟩
    · intro p waits
      cases waits
      exact ⟨{ a with awaited := true, mHandle := true }, by simp, type, rfl, rfl, mEc,
        stream.inbound.size ▸ short⟩
    · intro p b live' handle mEc'
      simp only [Heap.set_apply] at live'
      split at live'
      · rename_i same
        cases live'
        exact ⟨type, same ▸ rfl⟩
      · have waits := (ops.waiting p b live' handle mEc').2
        rw [alone] at waits
        cases waits
    · exact ops.early_set (.inl rfl)
    · simp [none, stream.inbound.sizeOk]
  | late op a live done =>
    refine ⟨stream.quiet [] (by simp) rfl rfl (by simp), ?_, none⟩
    refine ops.write [] live (by simp) rfl rfl rfl (fun awaited => ?_) ?_
      (ops.idle live (.inr (.inl done))) done (.inr rfl)
    · exact (ops.awaited op a live awaited).kept []
    · cases h : a.awaited with
      | true => exact .inl rfl
      | false =>
        obtain ⟨ec, mEc⟩ := Option.ne_none_iff_exists'.mp done
        exact .inr ⟨ec, mEc, ops.early op a live h ec mEc⟩
  | early op a live mEc idle =>
    refine ⟨stream.quiet [] (by simp) rfl rfl (by simp), ?_, none⟩
    refine ops.write [] live (by simp) rfl rfl rfl (fun awaited => ?_) (.inr ⟨_, rfl, rfl⟩)
      (ops.idle live (.inr (.inr idle))) (by simp) (.inr rfl)
    exact (ops.awaited op a live awaited).kept []
  | aborted op a live mEc parked inbound fs type =>
    obtain ⟨recv, waits⟩ := ops.waiting op a live parked mEc
    obtain ⟨_, rfl, rfl⟩ := type.resolve_right fun send => by simp [recv] at send
    refine ⟨stream.quiet _ rfl rfl rfl ?_, ?_, ?_⟩
    · intro o member
      exact .inr ⟨op, a.mType, Code.operation_aborted, a.mData, List.mem_singleton.mp member, rfl⟩
    · refine ops.release live rfl rfl rfl rfl (fun awaited => ?_) (.inr ⟨_, rfl, rfl⟩) waits
        (by simp)
      exact (ops.awaited op a live awaited).kept _
    · simp [none, waits]
  | arrived data unserved =>
    obtain ⟨pushed, contents⟩ := stream.inbound.push data
    refine ⟨⟨pushed, stream.outbound, stream.closed, ?_, ?_, ?_⟩, ⟨ops.fresh, ?_, ?_, ops.waiting,
      ops.early⟩, by simp [none, pushed.sizeOk]⟩
    · rw [contents]
      simp [Obs.movedBytes, Obs.inboundBytes, ← stream.received]
    · simpa [Obs.movedBytes, Obs.outboundBytes] using stream.sent
    · exact stream.whole_append fun _ _ _ _ shown _ => by simp at shown
    · exact fun p b live awaited => (ops.awaited p b live awaited).kept _
    · intro p waits
      obtain ⟨b, live, type, handle, awaited, mEc, _⟩ := ops.parked p waits
      refine ⟨b, live, type, handle, awaited, mEc, ?_⟩
      rw [contents, List.length_append, ← stream.inbound.size]
      exact unserved p b waits live
  | filled data op a inbound live enough =>
    obtain ⟨type, handle, awaited, mEc, _⟩ := ops.parked_live inbound live
    obtain ⟨pushed, contents⟩ := stream.inbound.push data
    obtain ⟨bytes, popped, rest⟩ := pushed.pop enough
    obtain ⟨r, result⟩ : ∃ r, (s.mInboundBuffer_.push data).pop a.mData.length = r := ⟨_, rfl⟩
    simp only [result] at bytes popped rest ⊢
    have size : r.1.length = a.mData.length := by
      rw [bytes, List.length_take, ← pushed.size]
      exact Nat.min_eq_left enough
    have given : Given (s.trace ++ [.inbound data, .completed op a.mType Code.success r.1]) op
        a.mType r.1 := by
      obtain ⟨bytes', shown, size', _⟩ := ops.awaited op a live awaited
      exact ⟨bytes', List.mem_append_left _ shown, size'.trans size.symm, fun other => by
        simp [type] at other⟩
    refine ⟨⟨popped, stream.outbound, stream.closed, ?_, ?_, ?_⟩, ?_, ?_⟩
    · rw [rest]
      simp [Obs.movedBytes, Obs.inboundBytes, ← stream.received, bytes, type, contents]
    · simpa [Obs.movedBytes, Obs.outboundBytes, type] using stream.sent
    · exact stream.whole_completed (fun _ => rfl) given
    · exact ops.release live rfl rfl rfl rfl (fun _ => given) (.inl awaited) inbound (by simp)
    · simp [none, pushed.sizeOk, popped.sizeOk, handle]
  | fetched =>
    obtain ⟨bytes, popped, empty, closed⟩ := Buffer.popAll_contents stream.closed
    refine ⟨⟨stream.inbound, popped, closed, ?_, ?_, ?_⟩, ⟨ops.fresh, ?_, ops.parked, ops.waiting,
      ops.early⟩, ?_⟩
    · simpa [getOutbound, log, check, Obs.movedBytes, Obs.inboundBytes] using stream.received
    · obtain ⟨result, drained⟩ := stream.getOutbound
      have fetched : (s.trace ++ [Obs.outbound s.getOutbound.2]).flatMap Obs.outboundBytes =
          s.trace.flatMap Obs.outboundBytes ++ s.mOutboundBuffer_.contents := by
        simp [Obs.outboundBytes, result]
      have sent : (s.trace ++ [Obs.outbound s.getOutbound.2]).flatMap (Obs.movedBytes .send) =
          s.trace.flatMap (Obs.movedBytes .send) := by simp [Obs.movedBytes]
      have whole := stream.sent
      rw [← fetched, ← sent] at whole
      rw [show (s.getOutbound.1.log (.outbound s.getOutbound.2)).mOutboundBuffer_.contents = [] from
        drained, List.append_nil]
      exact whole
    · refine stream.whole_append fun _ _ _ _ shown _ => ?_
      simp at shown
    · exact fun p b live awaited => (ops.awaited p b live awaited).kept _
    · simp [getOutbound, check, log, none, stream.outbound.sizeOk, popped.sizeOk, stream.closed]
  | errored ec error => exact calm.elim
  | closed => exact calm.elim

theorem completions_append {new : List Obs} (trace : t.trace = s.trace ++ new) (op : OpId) :
    completions t op = completions s op + new.countP (Obs.completes op) := by
  rw [completions, trace, List.countP_append]
  rfl

/-- Nothing completes, and no operation starts or ends to wait. -/
theorem Once.quiet (once : Once s) (new : List Obs) (trace : t.trace = s.trace ++ new)
    (silent : ∀ op, new.countP (Obs.completes op) = 0)
    (awaited : ∀ op, (t.ops op).any (·.awaited) = (s.ops op).any (·.awaited))
    (inbound : t.mInbound_ = s.mInbound_) : Once t := by
  intro op
  rw [completions_append trace, silent, awaited, inbound]
  exact once op

/-- One operation is written; `own` is what that means for its completions. -/
theorem Once.write (once : Once s) {op : OpId} {a a' : SendRecvAwaiter} (new : List Obs)
    (live : s.ops op = some a) (trace : t.trace = s.trace ++ new) (cells : t.ops = s.ops.set op a')
    (inbound : ∀ p, p ≠ op → (t.mInbound_ = some p ↔ s.mInbound_ = some p))
    (others : ∀ p, p ≠ op → new.countP (Obs.completes p) = 0)
    (own : (if a.awaited = true ∧ s.mInbound_ ≠ some op then 1 else 0) +
      new.countP (Obs.completes op) = if a'.awaited = true ∧ t.mInbound_ ≠ some op then 1 else 0) :
    Once t := by
  intro p
  have before := once p
  rw [completions_append trace, cells]
  by_cases same : p = op
  · subst same
    rw [live] at before
    rw [before, Heap.set_self]
    exact own
  · rw [others p same, Heap.set_of_ne same, before]
    simp [inbound p same]

theorem once_step {e : Event} (ops : OpsOk s) (once : Once s) (calm : Calm s e)
    (step : SockStep s e t) : Once t := by
  cases step with
  | created type data token nonempty =>
    refine once.quiet [] (by simp [create]) (by simp) (fun p => ?_) rfl
    simp only [create, Heap.set_apply]
    split
    · rename_i same
      simp [same, ops.fresh _ le_rfl]
    · rfl
  | canceled op a ec live fresh mEc =>
    exact once.write _ live rfl rfl (fun _ _ => Iff.rfl) (fun p other => by simp [Obs.completes, other.symm])
      (by simp [Obs.completes, fresh, ops.idle live (.inl fresh)])
  | sent op a live fresh mEc type =>
    exact once.write _ live rfl rfl (fun _ _ => Iff.rfl) (fun p other => by simp [Obs.completes, other.symm])
      (by simp [Obs.completes, fresh, ops.idle live (.inl fresh)])
  | served op a live fresh mEc type enough =>
    exact once.write _ live rfl rfl (fun _ _ => Iff.rfl) (fun p other => by simp [Obs.completes, other.symm])
      (by simp [Obs.completes, fresh, ops.idle live (.inl fresh)])
  | parked op a live fresh mEc type short =>
    have alone : s.mInbound_ = none := by simpa [Calm, live, type] using calm
    exact once.write _ live rfl rfl (fun p other => by simp [alone, other.symm])
      (fun p other => by simp [Obs.completes]) (by simp [Obs.completes, fresh])
  | late op a live done =>
    exact once.write [] live (by simp) rfl (fun _ _ => Iff.rfl) (by simp) (by simp)
  | early op a live mEc idle =>
    exact once.write [] live (by simp) rfl (fun _ _ => Iff.rfl) (by simp) (by simp)
  | aborted op a live mEc parked inbound fs type =>
    obtain ⟨recv, waits⟩ := ops.waiting op a live parked mEc
    obtain ⟨_, rfl, rfl⟩ := type.resolve_right fun send => by simp [recv] at send
    obtain ⟨_, _, awaited, _⟩ := ops.parked_live waits live
    exact once.write _ live rfl rfl (fun p other => by simp [waits, other.symm])
      (fun p other => by simp [Obs.completes, other.symm]) (by simp [Obs.completes, awaited, waits])
  | arrived data unserved =>
    exact once.quiet _ rfl (fun _ => by simp [Obs.completes]) (fun _ => rfl) rfl
  | filled data op a waits live enough =>
    obtain ⟨_, _, awaited, _⟩ := ops.parked_live waits live
    exact once.write _ live rfl rfl (fun p other => by simp [waits, other.symm])
      (fun p other => by simp [Obs.completes, other.symm]) (by simp [Obs.completes, awaited, waits])
  | fetched => exact once.quiet _ rfl (fun _ => by simp [Obs.completes]) (fun _ => rfl) rfl
  | errored ec error => exact calm.elim
  | closed => exact calm.elim

/-- No error is set by what may happen. -/
theorem calm_mEc {e : Event} (calm : Calm s e) (step : SockStep s e t) : t.mEc_ = s.mEc_ := by
  cases step with
  | errored ec error => exact calm.elim
  | closed => exact calm.elim
  | _ => rfl

theorem ok_init : StreamOk {} ∧ OpsOk {} :=
  ⟨⟨.empty, .empty, rfl, rfl, rfl, by simp⟩, ⟨by simp, by simp, by simp, by simp, by simp⟩⟩

/-- A receive that waits is served by the inbound data that completes it, and
goes on waiting after any other. -/
theorem OpsOk.processInbound (stream : StreamOk s) (ops : OpsOk s) {op : OpId} {a : SendRecvAwaiter}
    (waits : s.mInbound_ = some op) (live : s.ops op = some a) {data : List UInt8}
    (step : SockStep s (.processInbound data) t) :
    (a.mData.length ≤ s.mInboundBuffer_.contents.length + data.length ∧ t.mInbound_ = none ∧
      t.trace = s.trace ++ [.inbound data, .completed op .recv Code.success
        ((s.mInboundBuffer_.contents ++ data).take a.mData.length)]) ∨
    (s.mInboundBuffer_.contents.length + data.length < a.mData.length ∧ t.mInbound_ = some op ∧
      t.trace = s.trace ++ [.inbound data]) := by
  rw [← stream.inbound.size]
  cases step with
  | arrived data unserved => exact .inr ⟨unserved op a waits live, waits, rfl⟩
  | filled data op' a' inbound live' enough =>
    obtain rfl : op = op' := Option.some.inj (waits.symm.trans inbound)
    obtain rfl : a = a' := Option.some.inj (live.symm.trans live')
    obtain ⟨type, _⟩ := ops.parked_live waits live
    obtain ⟨pushed, contents⟩ := stream.inbound.push data
    refine .inl ⟨enough, rfl, ?_⟩
    rw [type, (pushed.pop enough).1, contents]

/-- What the start of an operation does: nothing but its completion if it was stopped, and otherwise
what its type asks for. -/
theorem await_cases {op : OpId} {a : SendRecvAwaiter} (live : s.ops op = some a)
    (step : SockStep s (.await op) t) :
    (∃ ec, a.mEc = some ec ∧ a.awaited = false ∧ t.mInboundBuffer_ = s.mInboundBuffer_ ∧
      t.mOutboundBuffer_ = s.mOutboundBuffer_ ∧
      t.trace = s.trace ++ [.awaited op a.mType a.mData, .completed op a.mType ec a.mData]) ∨
    (a.mEc = none ∧ a.mType = .send ∧ t.mOutboundBuffer_ = s.mOutboundBuffer_.push a.mData ∧
      t.trace = s.trace ++ [.awaited op .send a.mData, .completed op .send Code.success a.mData]) ∨
    (a.mEc = none ∧ a.mType = .recv ∧ a.mData.length ≤ s.mInboundBuffer_.mSize ∧
      t.mInbound_ = s.mInbound_ ∧ t.trace = s.trace ++ [.awaited op .recv a.mData,
        .completed op .recv Code.success (s.mInboundBuffer_.pop a.mData.length).1]) ∨
    (a.mEc = none ∧ a.mType = .recv ∧ s.mInboundBuffer_.mSize < a.mData.length ∧
      t.mInbound_ = some op ∧ t.trace = s.trace ++ [.awaited op .recv a.mData]) := by
  cases step with
  | canceled op a' ec live' fresh mEc =>
    obtain rfl : a = a' := Option.some.inj (live.symm.trans live')
    exact .inl ⟨ec, mEc, fresh, rfl, rfl, rfl⟩
  | sent op a' live' fresh mEc type =>
    obtain rfl : a = a' := Option.some.inj (live.symm.trans live')
    exact .inr (.inl ⟨mEc, type, rfl, rfl⟩)
  | served op a' live' fresh mEc type enough =>
    obtain rfl : a = a' := Option.some.inj (live.symm.trans live')
    exact .inr (.inr (.inl ⟨mEc, type, enough, rfl, rfl⟩))
  | parked op a' live' fresh mEc type short =>
    obtain rfl : a = a' := Option.some.inj (live.symm.trans live')
    exact .inr (.inr (.inr ⟨mEc, type, short, rfl, rfl⟩))

/-- An operation that was stopped before it starts completes with its error and moves no byte. -/
theorem OpsOk.await_stopped (ops : OpsOk s) {op : OpId} {a : SendRecvAwaiter} {ec : ErrorCode}
    (live : s.ops op = some a) (mEc : a.mEc = some ec) (step : SockStep s (.await op) t) :
    ec.isError = true ∧ t.mInboundBuffer_ = s.mInboundBuffer_ ∧
      t.mOutboundBuffer_ = s.mOutboundBuffer_ ∧
      t.trace = s.trace ++ [.awaited op a.mType a.mData, .completed op a.mType ec a.mData] := by
  rcases await_cases live step with ⟨ec', mEc', fresh, inbound, outbound, trace⟩ | ⟨free, _⟩ |
    ⟨free, _⟩ | ⟨free, _⟩
  · obtain rfl : ec = ec' := Option.some.inj (mEc.symm.trans mEc')
    exact ⟨ops.early op a live fresh ec mEc, inbound, outbound, trace⟩
  all_goals simp [mEc] at free

/-- A receive is served at once when there are enough bytes, and waits otherwise. -/
theorem StreamOk.await_recv (stream : StreamOk s) {op : OpId} {a : SendRecvAwaiter}
    (live : s.ops op = some a) (type : a.mType = .recv) (mEc : a.mEc = none)
    (step : SockStep s (.await op) t) :
    (a.mData.length ≤ s.mInboundBuffer_.contents.length ∧ t.mInbound_ = s.mInbound_ ∧
      t.trace = s.trace ++ [.awaited op .recv a.mData, .completed op .recv Code.success
        (s.mInboundBuffer_.contents.take a.mData.length)]) ∨
    (s.mInboundBuffer_.contents.length < a.mData.length ∧ t.mInbound_ = some op ∧
      t.trace = s.trace ++ [.awaited op .recv a.mData]) := by
  rw [← stream.inbound.size]
  rcases await_cases live step with ⟨ec, stopped, _⟩ | ⟨_, send, _⟩ |
    ⟨_, _, enough, inbound, trace⟩ | ⟨_, _, short, inbound, trace⟩
  · simp [mEc] at stopped
  · simp [type] at send
  · rw [(stream.inbound.pop enough).1] at trace
    exact .inl ⟨enough, inbound, trace⟩
  · exact .inr ⟨short, inbound, trace⟩

/-- A send completes at once, behind what was sent before. -/
theorem StreamOk.await_send (stream : StreamOk s) {op : OpId} {a : SendRecvAwaiter}
    (live : s.ops op = some a) (type : a.mType = .send) (mEc : a.mEc = none)
    (step : SockStep s (.await op) t) :
    t.mOutboundBuffer_.contents = s.mOutboundBuffer_.contents ++ a.mData ∧
      t.trace = s.trace ++ [.awaited op .send a.mData, .completed op .send Code.success a.mData] := by
  rcases await_cases live step with ⟨ec, stopped, _⟩ | ⟨_, _, outbound, trace⟩ | ⟨_, recv, _⟩ |
    ⟨_, recv, _⟩
  · simp [mEc] at stopped
  · rw [outbound]
    exact ⟨(stream.outbound.push a.mData).2, trace⟩
  · simp [type] at recv
  · simp [type] at recv

/-- A stop ends the wait of the receive that is parked, and otherwise only marks
an operation that has no result yet; it takes no byte. -/
theorem OpsOk.stop (ops : OpsOk s) {op : OpId} {a : SendRecvAwaiter} (live : s.ops op = some a)
    (step : SockStep s (.stop op) t) :
    t.mInboundBuffer_ = s.mInboundBuffer_ ∧ t.mOutboundBuffer_ = s.mOutboundBuffer_ ∧
      (s.mInbound_ = some op → t.mInbound_ = none ∧
        t.trace = s.trace ++ [.completed op .recv Code.operation_aborted a.mData]) ∧
      (s.mInbound_ ≠ some op → t.mInbound_ = s.mInbound_ ∧ t.trace = s.trace ∧
        ∃ b, t.ops op = some b ∧ b.mEc = some (a.mEc.getD Code.operation_aborted)) := by
  cases step with
  | late op a' live' done =>
    obtain rfl : a = a' := Option.some.inj (live.symm.trans live')
    obtain ⟨ec, mEc⟩ := Option.ne_none_iff_exists'.mp done
    refine ⟨rfl, rfl, fun waits => absurd waits (ops.idle live (.inr (.inl done))), fun _ => ?_⟩
    exact ⟨rfl, rfl, _, Heap.set_self _ _ _, by simp [mEc]⟩
  | early op a' live' mEc idle =>
    obtain rfl : a = a' := Option.some.inj (live.symm.trans live')
    refine ⟨rfl, rfl, fun waits => absurd waits (ops.idle live (.inr (.inr idle))), fun _ => ?_⟩
    exact ⟨rfl, rfl, _, Heap.set_self _ _ _, by simp [mEc]⟩
  | aborted op a' live' mEc parked inbound fs type =>
    obtain rfl : a = a' := Option.some.inj (live.symm.trans live')
    obtain ⟨recv, waits⟩ := ops.waiting op a live parked mEc
    obtain ⟨_, rfl, rfl⟩ := type.resolve_right fun send => by simp [recv] at send
    exact ⟨rfl, rfl, fun _ => ⟨rfl, by rw [recv]⟩, fun other => absurd waits other⟩

/-- A byte queue in both directions. -/
structure FifoOk (s : SockImpl) : Prop where
  /-- What completed receives returned, in order, is the inbound stream up to
  what is buffered, so an aborted receive takes nothing. -/
  received : s.trace.flatMap (Obs.movedBytes .recv) ++ s.mInboundBuffer_.contents =
    s.trace.flatMap Obs.inboundBytes
  /-- What was fetched is what was sent up to what is buffered. -/
  sent : s.trace.flatMap Obs.outboundBytes ++ s.mOutboundBuffer_.contents =
    s.trace.flatMap (Obs.movedBytes .send)
  whole : ∀ op type ec data, .completed op type ec data ∈ s.trace → ec.isError = false →
    Given s.trace op type data
  fetch : ∀ t, s.step .getOutbound = some t → t.mOutboundBuffer_.contents = [] ∧
    t.trace = s.trace ++ [.outbound (some s.mOutboundBuffer_.contents)]
  send : ∀ op a t, s.ops op = some a → a.mType = .send → a.mEc = none →
    s.step (.await op) = some t →
    t.mOutboundBuffer_.contents = s.mOutboundBuffer_.contents ++ a.mData ∧
      t.trace = s.trace ++ [.awaited op .send a.mData, .completed op .send Code.success a.mData]
  /-- A receive that starts is served at once when there are enough bytes, and parks otherwise. -/
  recv : ∀ op a t, s.ops op = some a → a.mType = .recv → a.mEc = none →
    s.step (.await op) = some t →
    (a.mData.length ≤ s.mInboundBuffer_.contents.length ∧ t.mInbound_ = s.mInbound_ ∧
      t.trace = s.trace ++ [.awaited op .recv a.mData, .completed op .recv Code.success
        (s.mInboundBuffer_.contents.take a.mData.length)]) ∨
    (s.mInboundBuffer_.contents.length < a.mData.length ∧ t.mInbound_ = some op ∧
      t.trace = s.trace ++ [.awaited op .recv a.mData])
  /-- A parked receive waits as long as there are too few bytes, and no longer. -/
  parked : ∀ op a, s.mInbound_ = some op → s.ops op = some a →
    s.mInboundBuffer_.contents.length < a.mData.length ∧
    ∀ data t, s.step (.processInbound data) = some t →
      (a.mData.length ≤ s.mInboundBuffer_.contents.length + data.length ∧ t.mInbound_ = none ∧
        t.trace = s.trace ++ [.inbound data, .completed op .recv Code.success
          ((s.mInboundBuffer_.contents ++ data).take a.mData.length)]) ∨
      (s.mInboundBuffer_.contents.length + data.length < a.mData.length ∧
        t.mInbound_ = some op ∧ t.trace = s.trace ++ [.inbound data])
  /-- A stop ends the wait of a parked receive, and is kept for the start of any other. -/
  stop : ∀ op a t, s.ops op = some a → s.step (.stop op) = some t →
    t.mInboundBuffer_ = s.mInboundBuffer_ ∧ t.mOutboundBuffer_ = s.mOutboundBuffer_ ∧
      (s.mInbound_ = some op → t.mInbound_ = none ∧
        t.trace = s.trace ++ [.completed op .recv Code.operation_aborted a.mData]) ∧
      (s.mInbound_ ≠ some op → t.mInbound_ = s.mInbound_ ∧ t.trace = s.trace ∧
        ∃ b, t.ops op = some b ∧ b.mEc = some (a.mEc.getD Code.operation_aborted))
  stopped : ∀ op a ec t, s.ops op = some a → a.mEc = some ec → s.step (.await op) = some t →
    ec.isError = true ∧ t.mInboundBuffer_ = s.mInboundBuffer_ ∧
      t.mOutboundBuffer_ = s.mOutboundBuffer_ ∧
      t.trace = s.trace ++ [.awaited op a.mType a.mData, .completed op a.mType ec a.mData]
  /-- What was awaited has completed exactly once, unless it is parked. -/
  once : ∀ op, completions s op =
    if (s.ops op).any (·.awaited) = true ∧ s.mInbound_ ≠ some op then 1 else 0
  faults : s.faults = []

/-- The socket is a byte queue in both directions, for every way of cutting its
input and every order of receives, stops, sends and fetches. -/
theorem buffering_fifo {es : List Event} {s : SockImpl} (run : Run step Calm {} es s) : FifoOk s := by
  have all : (StreamOk s ∧ OpsOk s ∧ s.faults = []) ∧ Once s ∧ s.mEc_ = Code.success := by
    refine run.invariant
      (I := fun s => (StreamOk s ∧ OpsOk s ∧ s.faults = []) ∧ Once s ∧ s.mEc_ = Code.success)
      ⟨⟨ok_init.1, ok_init.2, rfl⟩, fun _ => rfl, rfl⟩ ?_
    rintro s e t ⟨⟨stream, ops, none⟩, once, fine⟩ calm taken
    have step := sockStep taken
    exact ⟨sockOk_step stream ops none calm step, once_step ops once calm step,
      (calm_mEc calm step).trans fine⟩
  obtain ⟨⟨stream, ops, none⟩, once, fine⟩ := all
  exact {
    received := stream.received
    sent := stream.sent
    whole := stream.whole
    fetch := fun t taken => by
      cases taken
      obtain ⟨result, drained⟩ := stream.getOutbound
      obtain ⟨bytes, some⟩ := Option.isSome_iff_exists.mp
        (getOutbound_isSome (s := s) (by rw [fine]; rfl))
      rw [some, Option.getD_some] at result
      subst result
      exact ⟨drained, by rw [some]; rfl⟩
    send := fun _ _ _ live type mEc taken => stream.await_send live type mEc (sockStep taken)
    recv := fun _ _ _ live type mEc taken => stream.await_recv live type mEc (sockStep taken)
    parked := fun op a waits live => by
      obtain ⟨_, _, _, _, short⟩ := ops.parked_live waits live
      exact ⟨short, fun data t taken => ops.processInbound stream waits live (sockStep taken)⟩
    stop := fun _ _ _ live taken => ops.stop live (sockStep taken)
    stopped := fun _ _ _ _ live mEc taken => ops.await_stopped live mEc (sockStep taken)
    once := once
    faults := none }

/-- A receive that is stopped while it waits, and one that is cut in three. -/
def chunksRun : List Event :=
  [.processInbound [1, 2],
   .create .recv [0, 0, 0] .live,
   .await 0,
   .stop 0,
   .create .recv [0, 0, 0, 0] .none,
   .await 1,
   .processInbound [],
   .processInbound [3],
   .create .send [9] .none,
   .await 2,
   .getOutbound,
   .processInbound [4, 5]]

theorem buffering_fifo_chunks : ∃ s, Run step Calm {} chunksRun s ∧
    s.trace.flatMap (Obs.movedBytes .recv) = [1, 2, 3, 4] ∧ s.mInboundBuffer_.contents = [5] ∧
    s.trace.flatMap Obs.outboundBytes = [9] ∧ s.mOutboundBuffer_.contents = [] := by
  have reached : (exec step Calm {} chunksRun).map (fun s =>
      (s.trace.flatMap (Obs.movedBytes .recv), s.trace.flatMap Obs.inboundBytes,
        s.trace.flatMap (Obs.movedBytes .send), s.trace.flatMap Obs.outboundBytes)) =
      some ([1, 2, 3, 4], [1, 2, 3, 4, 5], [9], [9]) := by
    decide
  obtain ⟨s, result, facts⟩ := Option.map_eq_some_iff.mp reached
  simp only [Prod.mk.injEq] at facts
  obtain ⟨received, inbound, sent, outbound⟩ := facts
  have ok := buffering_fifo (.of_exec result)
  have stream := ok.received
  have stream' := ok.sent
  rw [received, inbound] at stream
  rw [sent, outbound] at stream'
  exact ⟨s, .of_exec result, received, by simpa using stream, outbound, by simpa using stream'⟩

end BufferingSocket
end Coproto
