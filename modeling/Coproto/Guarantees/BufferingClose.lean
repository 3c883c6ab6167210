import Coproto.Invariants.Buffering

/-!
# A BufferingSocket after close or setError

BufferingSocket.h:258-318, 408-495. `close` and `setError` set `mEc_`, and
`close` announces that it cancels all future requests; `await_suspend` and
`processInbound` never read `mEc_`. The only operations that fail afterwards are
those stopped before they start.
-/
namespace Coproto
namespace BufferingSocket
open SockImpl Runs

/-- What may come afterwards: sends, receives and inbound data. -/
def Later : Event → Prop
  | .create .. => True
  | .await _ => True
  | .processInbound _ => True
  | _ => False

/-- An operation that is started has been stopped before. -/
def StartsStopped (s : SockImpl) : Event → Prop
  | .await op => (s.ops op).all (fun a => a.mEc ≠ none) = true
  | _ => True

instance (e : Event) : Decidable (Later e) := by
  rcases e with ⟨⟩ <;> dsimp only [Later] <;> infer_instance

instance (s : SockImpl) (e : Event) : Decidable (StartsStopped s e) := by
  rcases e with ⟨⟩ <;> dsimp only [StartsStopped] <;> infer_instance

/-- Between `t` and `u` every operation that was started has completed, every
completion carries an error, no send added a byte, and no receive is parked. -/
def Fails (t u : SockImpl) : Prop := ∃ new, u.trace = t.trace ++ new ∧
  (∀ op type data, .awaited op type data ∈ new → ∃ ec data', .completed op type ec data' ∈ new) ∧
  (∀ op type ec data, .completed op type ec data ∈ new → ec.isError = true) ∧
  u.mOutboundBuffer_ = t.mOutboundBuffer_ ∧ u.mInbound_ = none

/-- The call reaches a receive that waits: `setError` does nothing on a socket
that has failed already. -/
def ReachesParked (s : SockImpl) : Event → Prop
  | .setError _ => s.mEc_.isError = true → s.mInbound_ = none
  | _ => True

variable {s t u : SockImpl}

/-! ## Before the call -/

/-- A result an operation has before it starts is an error. -/
structure EarlyOk (s : SockImpl) : Prop where
  fresh : ∀ op, s.nextOp ≤ op → s.ops op = none
  inbound : ∀ op, s.mInbound_ = some op → (s.ops op).any (·.awaited) = true
  early : ∀ op a, s.ops op = some a → a.awaited = false → ∀ ec, a.mEc = some ec → ec.isError = true

/-- A live operation is written, and `mInbound_` is left, set or cleared. -/
theorem EarlyOk.write (ok : EarlyOk s) {op : OpId} {a a' : SendRecvAwaiter} (live : s.ops op = some a)
    (cells : t.ops = s.ops.set op a') (nextOp : t.nextOp = s.nextOp)
    (stays : a.awaited = true → a'.awaited = true)
    (early : a'.awaited = true ∨ ∃ ec, a'.mEc = some ec ∧ ec.isError = true)
    (inbound : t.mInbound_ = s.mInbound_ ∨ t.mInbound_ = none ∨
      t.mInbound_ = some op ∧ a'.awaited = true) : EarlyOk t := by
  refine ⟨fun p above => ?_, fun p waits => ?_, fun p b live' before ec mEc => ?_⟩
  · rw [nextOp] at above
    have other : p ≠ op := by
      rintro rfl
      simp [ok.fresh p above] at live
    rw [cells, Heap.set_of_ne other]
    exact ok.fresh p above
  · rw [cells, Heap.set_apply]
    split
    · rename_i same
      rcases inbound with old | none | ⟨_, awaited⟩
      · rw [old] at waits
        have awaited := ok.inbound p waits
        rw [same, live] at awaited
        exact stays awaited
      · simp [none] at waits
      · exact awaited
    · rename_i other
      rcases inbound with old | none | ⟨set, _⟩
      · exact ok.inbound p (old ▸ waits)
      · simp [none] at waits
      · rw [set] at waits
        exact absurd (Option.some.inj waits).symm other
  · rw [cells, Heap.set_apply] at live'
    split at live'
    · cases live'
      rcases early with awaited | ⟨ec', mEc', error⟩
      · simp [awaited] at before
      · rw [mEc] at mEc'
        cases mEc'
        exact error
    · exact ok.early p b live' before ec mEc

section Resume
variable (s) (op : OpId)

@[simp] theorem resume_ops : (s.resume op).ops = s.ops := by
  unfold resume
  split <;> rfl

@[simp] theorem resume_nextOp : (s.resume op).nextOp = s.nextOp := by
  unfold resume
  split <;> rfl

@[simp] theorem resume_mInbound_ : (s.resume op).mInbound_ = s.mInbound_ := by
  unfold resume
  split <;> rfl

end Resume

/-- Both calls leave the operations alone, except for the one that is parked. -/
structure Shut (s t : SockImpl) : Prop where
  nextOp : t.nextOp = s.nextOp
  ops : (t.ops = s.ops ∧ t.mInbound_ = s.mInbound_) ∨
    (t.mInbound_ = none ∧ ∃ op f, s.mInbound_ = some op ∧ t.ops = s.ops.modify op f ∧
      ∀ a, (f a).awaited = a.awaited)

theorem shut_setError (s : SockImpl) (ec : ErrorCode) : Shut s (s.setError ec) := by
  unfold SockImpl.setError
  split
  · exact ⟨rfl, .inl ⟨rfl, rfl⟩⟩
  · dsimp only
    split
    · exact ⟨rfl, .inl ⟨rfl, rfl⟩⟩
    · rename_i op waits
      exact ⟨by simp [check, setEc], .inr ⟨by simp, op, fun a => { a with mEc := some ec }, waits,
        by simp [check, setEc], fun _ => rfl⟩⟩

theorem shut_close (s : SockImpl) : Shut s s.close := by
  unfold SockImpl.close
  dsimp only
  split
  · exact ⟨rfl, .inl ⟨rfl, rfl⟩⟩
  · rename_i op waits
    exact ⟨by simp [check], .inr ⟨by simp, op,
      fun a => { a with mEc := some (a.mEc.getD Code.operation_aborted) }, waits, by simp [check],
      fun _ => rfl⟩⟩

theorem EarlyOk.shut (ok : EarlyOk s) (shut : Shut s t) : EarlyOk t := by
  rcases shut.ops with ⟨ops, inbound⟩ | ⟨none, op, f, waits, ops, same⟩
  · exact ⟨shut.nextOp ▸ ops ▸ ok.fresh, inbound ▸ ops ▸ ok.inbound, ops ▸ ok.early⟩
  · have waited := ok.inbound op waits
    obtain ⟨a, live, awaited⟩ := (Option.any_eq_true _ _).mp waited
    rw [Heap.modify_live live] at ops
    exact ok.write live ops shut.nextOp (fun h => (same a).trans h) (.inl ((same a).trans awaited))
      (.inr (.inl none))

theorem EarlyOk.step {e : Event} (ok : EarlyOk s) (step : SockStep s e t) : EarlyOk t := by
  cases step with
  | created type data token nonempty =>
    refine ⟨fun p above => ?_, fun p waits => ?_, fun p b live before ec mEc => ?_⟩
    · have other : p ≠ s.nextOp := by
        rintro rfl
        exact Nat.not_succ_le_self _ above
      exact (Heap.set_of_ne other).trans (ok.fresh p (Nat.le_of_succ_le above))
    · have awaited := ok.inbound p waits
      have other : p ≠ s.nextOp := by
        rintro rfl
        simp [ok.fresh _ le_rfl] at awaited
      simpa [create, Heap.set_of_ne other] using awaited
    · simp only [create, Heap.set_apply] at live
      split at live
      · cases live
        simp only [Option.ite_none_right_eq_some, Option.some.injEq] at mEc
        exact mEc.2 ▸ rfl
      · exact ok.early p b live before ec mEc
  | canceled op a ec live => exact ok.write live rfl rfl (fun _ => rfl) (.inl rfl) (.inl rfl)
  | sent op a live => exact ok.write live rfl rfl (fun _ => rfl) (.inl rfl) (.inl rfl)
  | served op a live => exact ok.write live rfl rfl (fun _ => rfl) (.inl rfl) (.inl rfl)
  | parked op a live =>
    exact ok.write live rfl rfl (fun _ => rfl) (.inl rfl) (.inr (.inr ⟨rfl, rfl⟩))
  | late op a live done =>
    refine ok.write live rfl rfl id ?_ (.inl rfl)
    cases h : a.awaited with
    | true => exact .inl rfl
    | false =>
      obtain ⟨ec, mEc⟩ := Option.ne_none_iff_exists'.mp done
      exact .inr ⟨ec, mEc, ok.early op a live h ec mEc⟩
  | early op a live => exact ok.write live rfl rfl id (.inr ⟨_, rfl, rfl⟩) (.inl rfl)
  | aborted op a live mEc parked inbound fs type =>
    refine ok.write live rfl rfl id (.inr ⟨_, rfl, rfl⟩) ?_
    rcases type with ⟨_, none, _⟩ | ⟨_, same, _⟩
    · exact .inr (.inl none)
    · exact .inl same
  | arrived data => exact ⟨ok.fresh, ok.inbound, ok.early⟩
  | filled data op a inbound live =>
    have awaited := ok.inbound op inbound
    rw [live] at awaited
    exact ok.write live rfl rfl id (.inl awaited) (.inr (.inl rfl))
  | fetched => exact ⟨ok.fresh, ok.inbound, ok.early⟩
  | errored ec error => exact ok.shut (shut_setError s ec)
  | closed => exact ok.shut (shut_close s)

/-! ## After the call -/

/-- A receive is parked, or something has completed without error. -/
def Survives (t u : SockImpl) : Prop := u.mInbound_ ≠ none ∨ ∃ new op type ec data,
  u.trace = t.trace ++ new ∧ .completed op type ec data ∈ new ∧ ec.isError = false

theorem Survives.not_fails (survives : Survives t u) : ¬ Fails t u := by
  rintro ⟨new, trace, _, errors, _, none⟩
  rcases survives with parked | ⟨new', op, type, ec, data, trace', shown, fine⟩
  · exact parked none
  · obtain rfl : new = new' := List.append_cancel_left (trace.symm.trans trace')
    simp [errors op type ec data shown] at fine

/-- The trace of a later step, and what it shows. -/
theorem later_grows {e : Event} (later : Later e) (step : SockStep s e t) :
    ∃ more, t.trace = s.trace ++ more := by
  cases step with
  | created => exact ⟨[], by simp [create]⟩
  | late => exact later.elim
  | early => exact later.elim
  | aborted => exact later.elim
  | fetched => exact later.elim
  | errored => exact later.elim
  | closed => exact later.elim
  | _ => exact ⟨_, rfl⟩

/-- What has completed stays completed. -/
theorem Survives.completed {new more : List Obs} {op : OpId} {type : OpType} {ec : ErrorCode}
    {data : List UInt8} {v : SockImpl} (trace : u.trace = t.trace ++ new)
    (grown : v.trace = u.trace ++ more) (shown : .completed op type ec data ∈ new ++ more)
    (fine : ec.isError = false) : Survives t v :=
  .inr ⟨new ++ more, op, type, ec, data, by rw [grown, trace, List.append_assoc], shown, fine⟩

/-- A socket that has gone on goes on: a parked receive stays, is replaced by
another one, or completes without error. -/
theorem Survives.step {e : Event} {v : SockImpl} (survives : Survives t u)
    (grown : ∃ new, u.trace = t.trace ++ new) (later : Later e) (step : SockStep u e v) :
    Survives t v := by
  rcases survives with parked | ⟨new, op, type, ec, data, trace, shown, fine⟩
  · obtain ⟨new, trace⟩ := grown
    cases step with
    | created => exact .inl parked
    | canceled => exact .inl parked
    | sent => exact .inl parked
    | served => exact .inl parked
    | parked => exact .inl (by simp)
    | arrived => exact .inl parked
    | filled data op a =>
      exact .completed trace rfl (List.mem_append_right _ (.tail _ (.head _))) rfl
    | late => exact later.elim
    | early => exact later.elim
    | aborted => exact later.elim
    | fetched => exact later.elim
    | errored => exact later.elim
    | closed => exact later.elim
  · obtain ⟨more, grown⟩ := later_grows later step
    exact .completed trace grown (List.mem_append_left _ shown) fine

/-- On a socket with nothing parked, exactly an operation stopped before it starts
leaves nothing that goes on. -/
theorem Fails.step {e : Event} {v : SockImpl} (fails : Fails t u) (early : EarlyOk u) (later : Later e)
    (step : SockStep u e v) :
    StartsStopped u e ∧ Fails t v ∨ ¬ StartsStopped u e ∧ Survives t v := by
  obtain ⟨new, trace, finished, errors, out, none⟩ := fails
  cases step with
  | created type data token =>
    exact .inl ⟨trivial, new, trace, finished, errors, out, none⟩
  | canceled op a ec live fresh mEc =>
    refine .inl ⟨by simp [StartsStopped, live, mEc], new ++ [.awaited op a.mType a.mData,
      .completed op a.mType ec a.mData], by rw [← List.append_assoc, ← trace], ?_, ?_, out, none⟩
    · intro op' type data shown
      rcases List.mem_append.mp shown with old | new'
      · obtain ⟨ec', data', done⟩ := finished op' type data old
        exact ⟨ec', data', List.mem_append_left _ done⟩
      · simp only [List.mem_cons, Obs.awaited.injEq, reduceCtorEq, List.not_mem_nil, or_false] at new'
        obtain ⟨rfl, rfl, rfl⟩ := new'
        exact ⟨ec, a.mData, by simp⟩
    · intro op' type ec' data shown
      rcases List.mem_append.mp shown with old | new'
      · exact errors op' type ec' data old
      · simp only [List.mem_cons, Obs.completed.injEq, reduceCtorEq, List.not_mem_nil, or_false,
          false_or] at new'
        obtain ⟨_, _, rfl, _⟩ := new'
        exact early.early op a live fresh _ mEc
  | sent op a live fresh mEc =>
    exact .inr ⟨by simp [StartsStopped, live, mEc], .completed trace rfl (List.mem_append_right _ (.tail _ (.head _))) rfl⟩
  | served op a live fresh mEc =>
    exact .inr ⟨by simp [StartsStopped, live, mEc], .completed trace rfl (List.mem_append_right _ (.tail _ (.head _))) rfl⟩
  | parked op a live fresh mEc =>
    exact .inr ⟨by simp [StartsStopped, live, mEc], .inl (by simp)⟩
  | arrived data =>
    refine .inl ⟨trivial, new ++ [.inbound data], by rw [← List.append_assoc, ← trace], ?_, ?_, out,
      none⟩
    · intro op type data' shown
      obtain ⟨ec, data'', done⟩ := finished op type data' (by simpa using shown)
      exact ⟨ec, data'', List.mem_append_left _ done⟩
    · exact fun op type ec data' shown => errors op type ec data' (by simpa using shown)
  | filled data op a inbound => simp [none] at inbound
  | late => exact later.elim
  | early => exact later.elim
  | aborted => exact later.elim
  | fetched => exact later.elim
  | errored => exact later.elim
  | closed => exact later.elim

/-- Once something has gone on, it does so to the end. -/
theorem Survives.of_run {fs : List Event} (survives : Survives t t)
    (later : Run SockImpl.step (fun _ e => Later e) t fs u) : Survives t u := by
  have all : Survives t u ∧ ∃ new, u.trace = t.trace ++ new := by
    refine later.invariant (I := fun u => Survives t u ∧ ∃ new, u.trace = t.trace ++ new)
      ⟨survives, [], by simp⟩ ?_
    rintro v e w ⟨survives, new, trace⟩ met taken
    obtain ⟨more, grown⟩ := later_grows met (sockStep taken)
    exact ⟨survives.step ⟨new, trace⟩ met (sockStep taken), new ++ more, by
      rw [grown, trace, List.append_assoc]⟩
  exact all.1

theorem Fails.start (none : t.mInbound_ = none) : Fails t t :=
  ⟨[], by simp, by simp, by simp, rfl, none⟩

/-- From a socket with nothing parked, every run has failed all it started, or
has started an operation that was not stopped. -/
theorem later_cases {fs : List Event} (early : EarlyOk t) (none : t.mInbound_ = none)
    (later : Run SockImpl.step (fun _ e => Later e) t fs u) :
    EarlyOk u ∧ (∃ new, u.trace = t.trace ++ new) ∧
    ((Run SockImpl.step (fun s e => Later e ∧ StartsStopped s e) t fs u ∧ Fails t u) ∨
      Survives t u) := by
  induction later with
  | nil => exact ⟨early, ⟨[], by simp⟩, .inl ⟨.nil, .start none⟩⟩
  | snoc _ met taken ih =>
    obtain ⟨early', grown, cases_⟩ := ih
    have step := sockStep taken
    obtain ⟨more, trace⟩ := later_grows met step
    refine ⟨early'.step step, ?_, ?_⟩
    · obtain ⟨new, before⟩ := grown
      exact ⟨new ++ more, by rw [trace, before, List.append_assoc]⟩
    · rcases cases_ with ⟨run, fails⟩ | survives
      · rcases fails.step early' met step with ⟨stopped, fails'⟩ | ⟨_, survives⟩
        · exact .inl ⟨.snoc run ⟨met, stopped⟩ taken, fails'⟩
        · exact .inr survives
      · exact .inr (survives.step grown met step)

/-- No receive is parked after the call exactly if it reached the one that was. -/
theorem reachesParked_iff {e : Event} (shuts : e = .close ∨ ∃ ec, e = .setError ec)
    (taken : s.step e = some t) : t.mInbound_ = none ↔ ReachesParked s e := by
  rcases shuts with rfl | ⟨ec, rfl⟩
  · cases taken
    have none : s.close.mInbound_ = none := by
      unfold SockImpl.close
      dsimp only
      split
      · rename_i h
        exact h
      · simp
    simp [none, ReachesParked]
  · simp only [SockImpl.step] at taken
    split at taken <;> cases taken
    unfold SockImpl.setError ReachesParked
    by_cases failed : s.mEc_.isError = true
    · simp [failed]
    · have reaches : (s.mEc_.isError = true → s.mInbound_ = none) ↔ True :=
        iff_true_intro fun error => absurd error failed
      rw [if_neg failed, reaches, iff_true]
      dsimp only
      split
      · rename_i h
        exact h
      · simp

/-- After `close` or `setError`, whatever came before: later operations fail,
nothing is sent and nothing is left parked exactly if the call reached a receive
that was parked and every later operation had been stopped before it started. -/
theorem fails_iff {es fs : List Event} {e : Event} (before : Run SockImpl.step anyStep {} es s)
    (shuts : e = .close ∨ ∃ ec, e = .setError ec) (taken : s.step e = some t)
    (later : Run SockImpl.step (fun _ e => Later e) t fs u) :
    Fails t u ↔ ReachesParked s e ∧
      Run SockImpl.step (fun s e => Later e ∧ StartsStopped s e) t fs u := by
  have early : EarlyOk s := before.invariant (I := EarlyOk) ⟨by simp, by simp, by simp⟩
    fun _ _ _ ok _ taken => ok.step (sockStep taken)
  have early' := early.step (sockStep taken)
  rw [← reachesParked_iff shuts taken]
  constructor
  · intro fails
    have none : t.mInbound_ = none := by
      by_contra parked
      exact (Survives.of_run (.inl parked) later).not_fails fails
    obtain ⟨_, _, ⟨run, _⟩ | survives⟩ := later_cases early' none later
    · exact ⟨none, run⟩
    · exact absurd fails survives.not_fails
  · rintro ⟨none, run⟩
    refine (run.invariant (I := fun u => Fails t u ∧ EarlyOk u) ⟨.start none, early'⟩ ?_).1
    rintro v e w ⟨fails, early⟩ ⟨met, stopped⟩ taken
    rcases fails.step early met (sockStep taken) with ⟨_, fails'⟩ | ⟨running, _⟩
    · exact ⟨fails', early.step (sockStep taken)⟩
    · exact absurd stopped running

/-- A receive waits, the socket is closed, and a send is stopped before it starts. -/
theorem fails_iff_stopped : ∃ s t u,
    Run SockImpl.step anyStep {} [.create .recv [0, 0] .none, .await 0] s ∧
    s.step .close = some t ∧
    Run SockImpl.step (fun _ e => Later e) t [.create .send [5] .stopped, .await 1] u ∧
    Fails t u := by
  have reached : (exec SockImpl.step anyStep {} [.create .recv [0, 0] .none, .await 0]).isSome := by
    decide
  obtain ⟨s, opened⟩ := Option.isSome_iff_exists.mp reached
  have later : ((exec SockImpl.step anyStep {} [.create .recv [0, 0] .none, .await 0]).bind fun s =>
      exec SockImpl.step (fun s e => Later e ∧ StartsStopped s e) s.close
        [.create .send [5] .stopped, .await 1]).isSome := by
    decide
  rw [opened, Option.bind_some] at later
  obtain ⟨u, result⟩ := Option.isSome_iff_exists.mp later
  have run := Run.of_exec result
  refine ⟨s, s.close, u, .of_exec opened, rfl, run.mono fun _ _ met => met.1, ?_⟩
  exact (fails_iff (.of_exec opened) (.inl rfl) rfl (run.mono fun _ _ met => met.1)).mpr
    ⟨trivial, run⟩

/-! ## The failing run -/

/-- A closed socket takes the bytes of a send, which succeeds, and parks a receive. -/
theorem closedRun_goes_on : ∃ t u, ({} : SockImpl).step .close = some t ∧
    Run SockImpl.step (fun _ e => Later e) t
      [.create .send [5] .none, .await 0, .create .recv [0] .none, .await 1] u ∧
    u.trace = [.awaited 0 .send [5], .completed 0 .send Code.success [5], .awaited 1 .recv [0]] ∧
    u.mOutboundBuffer_.contents = [5] ∧ u.mInbound_ = some 1 ∧ ¬ Fails t u := by
  have reached : (exec SockImpl.step (fun _ e => Later e) ({} : SockImpl).close
      [.create .send [5] .none, .await 0, .create .recv [0] .none, .await 1]).map (fun u =>
        (u.trace, u.mOutboundBuffer_, u.mInbound_)) =
      some ([.awaited 0 .send [5], .completed 0 .send Code.success [5], .awaited 1 .recv [0]],
        ⟨0, 1, [[5]]⟩, some 1) := by
    decide
  obtain ⟨u, result, facts⟩ := Option.map_eq_some_iff.mp reached
  simp only [Prod.mk.injEq] at facts
  obtain ⟨trace, out, inbound⟩ := facts
  refine ⟨_, u, rfl, .of_exec result, trace, by rw [out]; rfl, inbound, ?_⟩
  rintro ⟨_, _, _, _, _, none⟩
  simp [none] at inbound

end BufferingSocket
end Coproto
