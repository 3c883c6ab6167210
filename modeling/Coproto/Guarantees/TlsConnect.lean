import Coproto.Source.TlsConnect
import Coproto.Lib.Runs

/-!
# Connecting over TLS

Three parties lower `mSynchronousFlag` in an attempt, and the last one goes on. The handler of
`async_connect` lowers it by two where no handshake follows. Who goes on is then not
always the one who looks at `mRetryOnFailure`, and for an unsigned `char` it may be nobody.
-/
namespace Coproto.AsioTlsConnect

open Runs

variable {c : TlsConnectConfig} {h : Nat} {s t : AsioTlsConnect} {e : Event}

/-! ### What the parties of an attempt have left to do -/

/-- The parties that have yet to lower the flag, in an attempt whose handshake has begun. -/
def parties (s : AsioTlsConnect) : Nat :=
  s.initiator.toNat + (decide (s.connect = .shaking)).toNat +
    (decide (s.handshake = .waiting)).toNat

/-- An error that is not retried. -/
def Final (c : TlsConnectConfig) (ec : ConnectEc) : Prop :=
  ec = .connection_refused → c.mRetryOnFailure = false

instance (c : TlsConnectConfig) (ec : ConnectEc) : Decidable (Final c ec) :=
  inferInstanceAs (Decidable (_ → _))

/-- No party of the attempt has anything left to do. -/
structure Quiet (s : AsioTlsConnect) : Prop where
  initiator : s.initiator = false
  connect : s.connect ≠ .waiting ∧ s.connect ≠ .shaking
  handshake : s.handshake ≠ .waiting
  timer : s.timer = false

/-- The coroutine is still waiting. -/
structure Suspended (h : Nat) (s : AsioTlsConnect) : Prop where
  handle : s.mHandle = some h
  resumed : s.resumed = []
  untouched : s.touched = false

inductive Phase (c : TlsConnectConfig) (s : AsioTlsConnect) : Prop
  | connecting (connect : s.connect = .waiting) (handshake : s.handshake = .idle)
      (flag : s.mSynchronousFlag = if s.initiator then 2 else 1) (timer : s.timer = false)
  | failed {ec : ConnectEc} (connect : s.connect = .failed ec) (handshake : s.handshake = .idle)
      (initiator : s.initiator = true) (flag : s.mSynchronousFlag = 0) (final : Final c ec)
      (timer : s.timer = false)
  | shaking (connect : s.connect = .shaking ∨ s.connect = .done)
      (handshake : s.handshake = .waiting ∨ s.handshake = .done) (live : 0 < s.parties)
      (flag : s.mSynchronousFlag = BitVec.ofNat 8 (s.parties - 1)) (timer : s.timer = false)
  | sleeping (initiator : s.initiator = false)
      (connect : s.connect ≠ .waiting ∧ s.connect ≠ .shaking) (handshake : s.handshake ≠ .waiting)
      (timer : s.timer = true)

inductive Inv (c : TlsConnectConfig) (h : Nat) (s : AsioTlsConnect) : Prop
  | suspended (before : Suspended h s) (phase : Phase c s)
  | resumed (quiet : Quiet s) (once : s.resumed = [some h]) (untouched : s.touched = false)
      (final : ∀ ec, s.connect = .failed ec → Final c ec)

theorem Inv.init : Inv c h (init h) := by
  apply Inv.suspended
  · exact ⟨rfl, rfl, rfl⟩
  · exact .connecting rfl rfl rfl rfl

theorem Suspended.touch_eq (before : Suspended h s) : s.touch = s := by
  have resumed := before.resumed
  have untouched := before.untouched
  cases s
  simp_all [touch]

theorem Quiet.resume_inv (quiet : Quiet s) (before : Suspended h s)
    (final : ∀ ec, s.connect = .failed ec → Final c ec) : Inv c h s.resume := by
  apply Inv.resumed
  · exact ⟨quiet.initiator, quiet.connect, quiet.handshake, quiet.timer⟩
  · simp [resume, before.resumed, before.handle]
  · exact before.untouched
  · exact final

theorem Quiet.retry_inv (quiet : Quiet s) (before : Suspended h s) : Inv c h s.retry := by
  apply Inv.suspended
  · exact ⟨before.handle, before.resumed, before.untouched⟩
  · exact .sleeping quiet.initiator quiet.connect quiet.handshake rfl

/-- The last party may go on either way, if it looks at the error. -/
theorem Quiet.retryOrResume_inv (quiet : Quiet s) (before : Suspended h s)
    (same : ∀ ec, s.connect = .failed ec → s.mEc = ec) : Inv c h (s.retryOrResume c) := by
  unfold retryOrResume
  split
  · exact quiet.retry_inv before
  · rename_i other
    apply quiet.resume_inv before
    intro ec failed refused
    have code := same ec failed
    subst code
    simpa [refused] using other

/-- The party that is last sees a zero, and no other one does. -/
theorem flag_eq_zero {n : Nat} (live : 0 < n) (few : n ≤ 3) :
    BitVec.ofNat 8 (n - 1) = 0 ↔ n = 1 := by
  obtain rfl | rfl | rfl : n = 1 ∨ n = 2 ∨ n = 3 := by omega
  all_goals decide

theorem flag_lower {n : Nat} (more : 1 < n) (few : n ≤ 3) :
    BitVec.ofNat 8 (n - 1) - 1 = BitVec.ofNat 8 (n - 1 - 1) := by
  obtain rfl | rfl : n = 2 ∨ n = 3 := by omega
  all_goals decide

theorem parties_le (s : AsioTlsConnect) : s.parties ≤ 3 := by
  have initiator := Bool.toNat_le s.initiator
  have connect := Bool.toNat_le (decide (s.connect = .shaking))
  have handshake := Bool.toNat_le (decide (s.handshake = .waiting))
  unfold parties
  omega

/-! ### The condition, and what is asked of every state -/

/-- A connect that fails meets the initiator where the code gets the outcome right, and `retry`
reads `mToken` before the coroutine goes on. -/
def Orderly (c : TlsConnectConfig) (s : AsioTlsConnect) : Event → Prop
  | .connected ec =>
    ec = .success ∨
      if s.initiator then Final c ec
      else c.charSigned = true
  | .retried => s.resumed = []
  | _ => True

instance (c : TlsConnectConfig) (s : AsioTlsConnect) : (e : Event) → Decidable (Orderly c s e)
  | .initiator | .connectUpdated | .handshaken _ | .timer => inferInstanceAs (Decidable True)
  | .connected _ | .retried => by unfold Orderly; infer_instance

/-- What the awaiting coroutine may rely on. A state in which nothing is left to run ends a run,
so a refused attempt is followed by another one. -/
structure ConnectOk (c : TlsConnectConfig) (h : Nat) (s : AsioTlsConnect) : Prop where
  once : s.resumed = [] ∨ s.resumed = [some h]
  untouched : s.touched = false
  finishes : (∀ e, step c s e = none) → s.resumed = [some h]
  retries : s.connect = .failed .connection_refused → c.mRetryOnFailure = true → s.resumed = []

/-! ### Every party keeps the invariant -/

theorem quiet_of_parties (none : s.parties = 0) (connect : s.connect = .shaking ∨ s.connect = .done)
    (timer : s.timer = false) : Quiet s := by
  unfold parties at none
  refine ⟨?_, ⟨?_, ?_⟩, ?_, timer⟩
  · cases pending : s.initiator
    · rfl
    · simp [pending] at none
  · rcases connect with now | now <;> simp [now]
  · intro now
    simp [now] at none
  · intro now
    simp [now] at none

/-- A party of a handshake lowers the flag: it is the last one exactly if it saw a zero. -/
theorem lower (live : 0 < s.parties) (flag : s.mSynchronousFlag = BitVec.ofNat 8 (s.parties - 1))
    (connect : t.connect = .shaking ∨ t.connect = .done)
    (handshake : t.handshake = .waiting ∨ t.handshake = .done)
    (less : s.parties = t.parties + 1) (lowered : t.mSynchronousFlag = s.mSynchronousFlag - 1)
    (timer : t.timer = false) :
    (s.mSynchronousFlag = 0 → Quiet t) ∧ (¬ s.mSynchronousFlag = 0 → Phase c t) := by
  have few := s.parties_le
  rw [flag, flag_eq_zero live few]
  constructor
  · intro last
    exact quiet_of_parties (by omega) connect timer
  · intro others
    apply Phase.shaking connect handshake
    · omega
    · rw [lowered, flag, flag_lower (by omega) few, less, Nat.add_sub_cancel]
    · exact timer

theorem Inv.initiatorUpdate (inv : Inv c h s) (pending : s.initiator = true) :
    Inv c h s.touch.initiatorUpdate := by
  cases inv with
  | resumed quiet => simp [quiet.initiator] at pending
  | suspended before phase =>
    rw [before.touch_eq]
    have before' : Suspended h { s with
        initiator := false
        mSynchronousFlag := s.mSynchronousFlag - 1 } :=
      ⟨before.handle, before.resumed, before.untouched⟩
    cases phase with
    | connecting connect handshake flag timer =>
      have two : s.mSynchronousFlag = 2 := by simpa [pending] using flag
      have more : ¬ s.mSynchronousFlag = 0 := by rw [two]; decide
      rw [AsioTlsConnect.initiatorUpdate, if_neg more]
      apply Inv.suspended before'
      exact .connecting connect handshake (by simp [two]) timer
    | failed connect handshake initiator flag final timer =>
      rw [AsioTlsConnect.initiatorUpdate, if_pos flag]
      apply Quiet.resume_inv _ before'
      · intro ec failed
        cases connect.symm.trans failed
        exact final
      · exact ⟨rfl, by simp [connect], by simp [handshake], timer⟩
    | shaking connect handshake live flag timer =>
      have after := lower (c := c) (t := { s with
        initiator := false
        mSynchronousFlag := s.mSynchronousFlag - 1 }) live flag connect handshake
        (by simp [parties, pending]; omega) rfl timer
      rw [AsioTlsConnect.initiatorUpdate]
      split
      · rename_i last
        apply (after.1 last).resume_inv before'
        intro ec failed
        rcases connect with now | now <;> cases now.symm.trans failed
      · rename_i others
        exact .suspended before' (after.2 others)
    | sleeping initiator => simp [initiator] at pending

theorem Inv.connectUpdate (inv : Inv c h s) (pending : s.connect = .shaking) :
    Inv c h (s.touch.connectUpdate c) := by
  cases inv with
  | resumed quiet => exact absurd pending quiet.connect.2
  | suspended before phase =>
    rw [before.touch_eq]
    have before' : Suspended h { s with
        connect := .done
        mSynchronousFlag := s.mSynchronousFlag - 1 } :=
      ⟨before.handle, before.resumed, before.untouched⟩
    cases phase with
    | connecting connect => simp [connect] at pending
    | failed connect => simp [connect] at pending
    | shaking connect handshake live flag timer =>
      have after := lower (c := c) (t := { s with
        connect := .done
        mSynchronousFlag := s.mSynchronousFlag - 1 }) live flag (.inr rfl) handshake
        (by simp [parties, pending]; omega) rfl timer
      rw [AsioTlsConnect.connectUpdate]
      split
      · rename_i last
        exact (after.1 last).retryOrResume_inv before' nofun
      · rename_i others
        exact .suspended before' (after.2 others)
    | sleeping _ connect => exact absurd pending connect.2

theorem Inv.handshakeHandler (inv : Inv c h s) (pending : s.handshake = .waiting)
    (ec : ConnectEc) : Inv c h (s.touch.handshakeHandler ec) := by
  cases inv with
  | resumed quiet => exact absurd pending quiet.handshake
  | suspended before phase =>
    rw [before.touch_eq]
    have before' : Suspended h { s with
        mEc := ec
        handshake := .done
        mSynchronousFlag := s.mSynchronousFlag - 1 } :=
      ⟨before.handle, before.resumed, before.untouched⟩
    cases phase with
    | connecting _ handshake => simp [handshake] at pending
    | failed _ handshake => simp [handshake] at pending
    | shaking connect handshake live flag timer =>
      have after := lower (c := c) (t := { s with
        mEc := ec
        handshake := .done
        mSynchronousFlag := s.mSynchronousFlag - 1 }) live flag connect (.inr rfl)
        (by simp [parties, pending]) rfl timer
      rw [AsioTlsConnect.handshakeHandler]
      split
      · rename_i last
        apply (after.1 last).resume_inv before'
        intro ec failed
        rcases connect with now | now <;> cases now.symm.trans failed
      · rename_i others
        exact .suspended before' (after.2 others)
    | sleeping _ _ handshake => exact absurd pending handshake

theorem Inv.connectHandler (inv : Inv c h s) (pending : s.connect = .waiting) (ec : ConnectEc)
    (met : Orderly c s (.connected ec)) : Inv c h (s.touch.connectHandler c ec) := by
  cases inv with
  | resumed quiet => exact absurd pending quiet.connect.1
  | suspended before phase =>
    rw [before.touch_eq]
    cases phase with
    | failed connect => simp [connect] at pending
    | shaking connect => rcases connect with now | now <;> simp [now] at pending
    | sleeping _ connect => exact absurd pending connect.1
    | connecting connect handshake flag timer =>
      rw [AsioTlsConnect.connectHandler]
      split
      · rename_i error
        have before' : Suspended h { s with
            mEc := ec
            mSynchronousFlag := s.mSynchronousFlag - 2
            connect := .failed ec } := ⟨before.handle, before.resumed, before.untouched⟩
        have outcome := met.resolve_left error
        by_cases initiator : s.initiator = true
        · -- the counter has come to zero: the initiator is going to resume
          rw [if_pos initiator] at outcome flag
          have zero : s.mSynchronousFlag - 2 = 0 := by
            rw [flag]
            rfl
          have nonneg : ¬ negative c (s.mSynchronousFlag - 2) = true := by
            rw [zero]
            simp [negative]
          rw [if_neg nonneg]
          apply Inv.suspended before'
          exact .failed rfl handshake initiator zero outcome timer
        · rw [if_neg initiator] at outcome flag
          have below : negative c (s.mSynchronousFlag - 2) = true := by
            rw [flag, negative, outcome]
            rfl
          rw [if_pos below]
          apply Quiet.retryOrResume_inv _ before'
          · intro ec failed
            cases failed
            rfl
          · exact ⟨by simpa using initiator, by simp, by simp [handshake], timer⟩
      · refine .suspended ⟨before.handle, before.resumed, before.untouched⟩ ?_
        refine .shaking (.inl rfl) (.inl rfl) ?_ ?_ timer
        · simp [parties]
        · cases initiator : s.initiator <;> simp [parties, flag, initiator]

theorem Inv.timerHandler (inv : Inv c h s) (pending : s.timer = true) :
    Inv c h s.touch.timerHandler := by
  cases inv with
  | resumed quiet => simp [quiet.timer] at pending
  | suspended before =>
    rw [before.touch_eq]
    apply Inv.suspended
    · exact ⟨before.handle, before.resumed, before.untouched⟩
    · exact .connecting rfl rfl rfl rfl

theorem Inv.retryReturns (inv : Inv c h s) (before : s.resumed = []) :
    Inv c h { s.touch with retrying := s.retrying - 1 } := by
  cases inv with
  | resumed _ once => simp [once] at before
  | suspended before phase =>
    rw [before.touch_eq]
    refine .suspended ⟨before.handle, before.resumed, before.untouched⟩ ?_
    cases phase with
    | connecting connect handshake flag timer => exact .connecting connect handshake flag timer
    | failed connect handshake initiator flag final timer =>
      exact .failed connect handshake initiator flag final timer
    | shaking connect handshake live flag timer =>
      exact .shaking connect handshake live flag timer
    | sleeping initiator connect handshake timer =>
      exact .sleeping initiator connect handshake timer

theorem Inv.step (inv : Inv c h s) (met : Orderly c s e) (taken : step c s e = some t) :
    Inv c h t := by
  cases e with
  | initiator =>
    obtain ⟨pending, ⟨⟩⟩ := Option.ite_none_right_eq_some.mp taken
    exact inv.initiatorUpdate pending
  | connected ec =>
    obtain ⟨pending, ⟨⟩⟩ := Option.ite_none_right_eq_some.mp taken
    exact inv.connectHandler pending ec met
  | connectUpdated =>
    obtain ⟨pending, ⟨⟩⟩ := Option.ite_none_right_eq_some.mp taken
    exact inv.connectUpdate pending
  | handshaken ec =>
    obtain ⟨pending, ⟨⟩⟩ := Option.ite_none_right_eq_some.mp taken
    exact inv.handshakeHandler pending ec
  | timer =>
    obtain ⟨pending, ⟨⟩⟩ := Option.ite_none_right_eq_some.mp taken
    exact inv.timerHandler pending
  | retried =>
    obtain ⟨_, ⟨⟩⟩ := Option.ite_none_right_eq_some.mp taken
    exact inv.retryReturns met

/-! ### Nothing is left to run only once the coroutine has gone on -/

theorem Phase.live (phase : Phase c s) : ∃ e, (step c s e).isSome := by
  cases phase with
  | connecting connect => exact ⟨.connected .success, by simp [AsioTlsConnect.step, connect]⟩
  | failed _ _ initiator => exact ⟨.initiator, by simp [AsioTlsConnect.step, initiator]⟩
  | shaking connect handshake live =>
    by_cases initiator : s.initiator = true
    · exact ⟨.initiator, by simp [AsioTlsConnect.step, initiator]⟩
    by_cases updating : s.connect = .shaking
    · exact ⟨.connectUpdated, by simp [AsioTlsConnect.step, updating]⟩
    by_cases waiting : s.handshake = .waiting
    · exact ⟨.handshaken .success, by simp [AsioTlsConnect.step, waiting]⟩
    simp [parties, initiator, updating, waiting] at live
  | sleeping _ _ _ timer => exact ⟨.timer, by simp [AsioTlsConnect.step, timer]⟩

theorem Inv.ok (inv : Inv c h s) : ConnectOk c h s := by
  cases inv with
  | suspended before phase =>
    refine ⟨.inl before.resumed, before.untouched, ?_, fun _ _ => before.resumed⟩
    intro ended
    obtain ⟨e, enabled⟩ := phase.live
    simp [ended e] at enabled
  | resumed _ once untouched final =>
    refine ⟨.inr once, untouched, fun _ => once, ?_⟩
    intro refused retries
    have gone := final _ refused rfl
    rw [retries] at gone
    cases gone

/-! ### Runs with finitely many attempts are finite -/

def ConnectHandler.rank : ConnectHandler → Nat
  | .waiting => 5
  | .shaking => 2
  | _ => 0

/-- An upper bound on the events of the present attempt that are still to come. -/
def rank (s : AsioTlsConnect) : Nat :=
  2 * s.initiator.toNat + ConnectHandler.rank s.connect +
    2 * (decide (s.handshake = .waiting)).toNat + s.retrying

def gain (e : Event) : Nat := if e = .timer then 8 else 0

@[simp] theorem rank_touch (s : AsioTlsConnect) : s.touch.rank = s.rank := rfl

@[simp] theorem rank_resume (s : AsioTlsConnect) : s.resume.rank = s.rank := rfl

theorem rank_retryOrResume (c : TlsConnectConfig) (s : AsioTlsConnect) :
    (s.retryOrResume c).rank ≤ s.rank + 1 := by
  unfold retryOrResume
  split
  · exact Nat.le_refl _
  · simp

theorem rank_initiatorUpdate (pending : s.initiator = true) :
    s.initiatorUpdate.rank + 2 = s.rank := by
  unfold initiatorUpdate
  split
  · rw [rank_resume]
    simp only [rank, pending, Bool.toNat_true, Bool.toNat_false]
    omega
  · simp only [rank, pending, Bool.toNat_true, Bool.toNat_false]
    omega

theorem rank_connectHandler (pending : s.connect = .waiting) (ec : ConnectEc) :
    (s.connectHandler c ec).rank + 1 ≤ s.rank := by
  have before : s.rank = 2 * s.initiator.toNat + 5 +
      2 * (decide (s.handshake = .waiting)).toNat + s.retrying := by
    simp [rank, pending, ConnectHandler.rank]
  unfold connectHandler
  simp only
  split
  · split
    · refine Nat.le_trans (Nat.add_le_add_right (rank_retryOrResume _ _) 1) ?_
      simp only [rank, ConnectHandler.rank] at before ⊢
      omega
    · simp only [rank, ConnectHandler.rank] at before ⊢
      omega
  · simp only [rank, ConnectHandler.rank, decide_true, Bool.toNat_true] at before ⊢
    omega

theorem rank_connectUpdate (pending : s.connect = .shaking) :
    (s.connectUpdate c).rank + 1 ≤ s.rank := by
  have before : s.rank = 2 * s.initiator.toNat + 2 +
      2 * (decide (s.handshake = .waiting)).toNat + s.retrying := by
    simp [rank, pending, ConnectHandler.rank]
  unfold connectUpdate
  simp only
  split
  · refine Nat.le_trans (Nat.add_le_add_right (rank_retryOrResume _ _) 1) ?_
    simp only [rank, ConnectHandler.rank] at before ⊢
    omega
  · simp only [rank, ConnectHandler.rank] at before ⊢
    omega

theorem rank_handshakeHandler (pending : s.handshake = .waiting) (ec : ConnectEc) :
    (s.handshakeHandler ec).rank + 2 = s.rank := by
  unfold handshakeHandler
  split
  · rw [rank_resume]
    simp [rank, pending]
    omega
  · simp [rank, pending]
    omega

theorem rank_timerHandler (s : AsioTlsConnect) : s.timerHandler.rank ≤ s.rank + 7 := by
  simp only [rank, timerHandler, await_suspend, ConnectHandler.rank]
  simp
  omega

theorem rank_step (taken : step c s e = some t) : t.rank + 1 ≤ s.rank + gain e := by
  cases e with
  | initiator =>
    obtain ⟨pending, ⟨⟩⟩ := Option.ite_none_right_eq_some.mp taken
    have less := rank_initiatorUpdate (s := s.touch) pending
    rw [rank_touch] at less
    omega
  | connected ec =>
    obtain ⟨pending, ⟨⟩⟩ := Option.ite_none_right_eq_some.mp taken
    exact rank_connectHandler (s := s.touch) pending ec
  | connectUpdated =>
    obtain ⟨pending, ⟨⟩⟩ := Option.ite_none_right_eq_some.mp taken
    exact rank_connectUpdate (s := s.touch) pending
  | handshaken ec =>
    obtain ⟨pending, ⟨⟩⟩ := Option.ite_none_right_eq_some.mp taken
    have less := rank_handshakeHandler (s := s.touch) pending ec
    rw [rank_touch] at less
    omega
  | timer =>
    obtain ⟨_, ⟨⟩⟩ := Option.ite_none_right_eq_some.mp taken
    exact Nat.add_le_add_right (rank_timerHandler s.touch) 1
  | retried =>
    obtain ⟨pending, ⟨⟩⟩ := Option.ite_none_right_eq_some.mp taken
    have some_left : s.retrying - 1 + 1 = s.retrying := Nat.sub_add_cancel pending
    apply Nat.le_of_eq
    change _ + (s.retrying - 1) + 1 = _ + s.retrying + 0
    rw [Nat.add_assoc, some_left]
    rfl

theorem gain_sum (es : List Event) : (es.map gain).sum = 8 * es.count .timer := by
  induction es with
  | nil => rfl
  | cons e es ih =>
    rw [List.map_cons, List.sum_cons, ih, List.count_cons, gain]
    by_cases timer : e = .timer <;> simp [timer]
    omega

/-! ### Every run -/

theorem connect_ok {es : List Event} (run : Run (step c) (Orderly c) (init h) es s) :
    ConnectOk c h s ∧ es.length ≤ 8 * es.count .timer + 7 := by
  constructor
  · exact (run.invariant Inv.init fun _ _ _ inv met taken => inv.step met taken).ok
  · have bound := run.length_le fun _ _ _ taken => rank_step taken
    have start : (init h).rank = 7 := rfl
    rw [gain_sum, start] at bound
    omega

/-- A refused attempt, and a second one that gets through. -/
theorem connect_ok_retried : ∃ s,
    Run (step ⟨true, true⟩) (Orderly ⟨true, true⟩) (init 5)
      [.initiator, .connected .connection_refused, .timer, .retried, .connected .success,
        .handshaken .success, .initiator, .connectUpdated] s ∧
    ConnectOk ⟨true, true⟩ 5 s ∧ s.resumed = [some 5] := by
  have computed : (exec (step ⟨true, true⟩) (Orderly ⟨true, true⟩) (init 5)
      [.initiator, .connected .connection_refused, .timer, .retried, .connected .success,
        .handshaken .success, .initiator, .connectUpdated]).map (·.resumed) =
      some [some 5] := by decide
  obtain ⟨s, result, resumed⟩ := Option.map_eq_some_iff.mp computed
  exact ⟨s, .of_exec result, (connect_ok (.of_exec result)).1, resumed⟩

/-- The handler of a refused connect runs before the initiator, which resumes. Where `char` is
unsigned nobody goes on after a connect that fails. And `retry` reads the token of an object that
may be gone. -/
theorem connect_refused :
    (∃ s, Run (step ⟨true, true⟩) anyStep (init 5) [.connected .connection_refused, .initiator] s ∧
      ¬ ConnectOk ⟨true, true⟩ 5 s) ∧
    (∃ s, Run (step ⟨false, true⟩) anyStep (init 5) [.initiator, .connected .other] s ∧
      ¬ ConnectOk ⟨false, true⟩ 5 s) ∧
    (∃ s, Run (step ⟨true, true⟩) anyStep (init 5)
      [.initiator, .connected .connection_refused, .timer, .initiator, .connected .other,
        .retried] s ∧ ¬ ConnectOk ⟨true, true⟩ 5 s) := by
  refine ⟨?_, ?_, ?_⟩
  · have computed : (exec (step ⟨true, true⟩) anyStep (init 5)
        [.connected .connection_refused, .initiator]).map (fun s => (s.connect, s.resumed)) =
        some (.failed .connection_refused, [some 5]) := by decide
    obtain ⟨s, result, facts⟩ := Option.map_eq_some_iff.mp computed
    obtain ⟨connect, resumed⟩ := Prod.mk.inj facts
    refine ⟨s, .of_exec result, ?_⟩
    intro ok
    simp [ok.retries connect rfl] at resumed
  · have computed : (exec (step ⟨false, true⟩) anyStep (init 5)
        [.initiator, .connected .other]).map
          (fun s => ((s.initiator, s.connect, s.handshake), s.timer, s.retrying, s.resumed)) =
        some ((false, .failed .other, .idle), false, 0, []) := by decide
    obtain ⟨s, result, facts⟩ := Option.map_eq_some_iff.mp computed
    simp only [Prod.mk.injEq] at facts
    obtain ⟨⟨initiator, connect, handshake⟩, timer, retrying, resumed⟩ := facts
    refine ⟨s, .of_exec result, ?_⟩
    intro ok
    have ended : ∀ e, step ⟨false, true⟩ s e = none := by
      intro e
      cases e <;> simp [AsioTlsConnect.step, initiator, connect, handshake, timer, retrying]
    simp [ok.finishes ended] at resumed
  · have computed : (exec (step ⟨true, true⟩) anyStep (init 5)
        [.initiator, .connected .connection_refused, .timer, .initiator, .connected .other,
          .retried]).map (·.touched) = some true := by decide
    obtain ⟨s, result, touched⟩ := Option.map_eq_some_iff.mp computed
    refine ⟨s, .of_exec result, ?_⟩
    intro ok
    simp [ok.untouched] at touched

end Coproto.AsioTlsConnect
