import Coproto.Invariants.LocalAsync

/-!
# A LocalAsyncSocket pair moves bytes once and in order

LocalAsyncSock.h:289-568. At most one send and one receive are outstanding on
each end (`OneEach`); lengths, stop requests, injected errors and closes are free.
-/
namespace Coproto
namespace LocalAsyncSocket
open SharedState Runs

/-- The operations awaited before on that end and of that type have returned. -/
def OneEach (s : SharedState) : Event → Prop
  | .await idx type _ _ => ∀ a ∈ s.ops idx type, a.results ≠ []
  | _ => True

instance (s : SharedState) (e : Event) : Decidable (OneEach s e) := by
  unfold OneEach
  split <;> infer_instance

namespace SharedState
variable {s t : SharedState}

section Access
variable (s) (i j : Bool) (ty ty' : OpType) (n : Nat) (v : Option Nat) (a : Awaiter)

@[simp] theorem slot_setSlot : (s.setSlot i ty v).slot j ty' =
    if j = i ∧ ty' = ty then v else s.slot j ty' := by
  cases i <;> cases j <;> cases ty <;> cases ty' <;> rfl

@[simp] theorem slot_setOp : (s.setOp i ty n a).slot j ty' = s.slot j ty' := by
  cases ty' <;> rfl

@[simp] theorem slot_check (fs : List Fault) : (s.check fs).slot j ty' = s.slot j ty' := by
  cases ty' <;> rfl

@[simp] theorem ops_setSlot : (s.setSlot i ty v).ops = s.ops := rfl

@[simp] theorem ops_check (fs : List Fault) : (s.check fs).ops = s.ops := rfl

@[simp] theorem ops_setOp : (s.setOp i ty n a).ops j ty' =
    if j = i ∧ ty' = ty then (s.ops j ty').set n a else s.ops j ty' := rfl

@[simp] theorem faults_setSlot : (s.setSlot i ty v).faults = s.faults := rfl

@[simp] theorem faults_setOp : (s.setOp i ty n a).faults = s.faults := rfl

@[simp] theorem faults_check (fs : List Fault) : (s.check fs).faults = s.faults ++ fs := rfl

end Access

/-! ## Steps, case by case -/

/-- What an event can do to the pair. -/
inductive PairStep (s : SharedState) : Event → SharedState → Prop
  | awaited (idx : Bool) (type : OpType) (data : List UInt8) (token : StopToken) (nonempty : data ≠ []) :
      PairStep s (.await idx type data token) (s.await idx type data token)
  | suspended (idx : Bool) (type : OpType) (n : Nat) (errFn : Option ErrorCode) (a : Awaiter)
      (found : (s.ops idx type)[n]? = some a) (fresh : a.mHandle = false) :
      PairStep s (.suspend idx type n errFn) (s.suspend idx type n a errFn)
  | stopped (idx : Bool) (type : OpType) (n : Nat) (a : Awaiter)
      (found : (s.ops idx type)[n]? = some a) :
      PairStep s (.stop idx type n) (s.stopCallback idx type n a)
  | closed (idx : Bool) : PairStep s (.close idx) (s.close idx)

theorem pairStep {e : Event} (taken : s.step e = some t) : PairStep s e t := by
  cases e with
  | await idx type data token =>
    simp only [SharedState.step] at taken
    split at taken <;> cases taken
    rename_i nonempty
    exact .awaited idx type data token nonempty
  | suspend idx type n errFn =>
    simp only [SharedState.step] at taken
    split at taken
    · cases taken
    · rename_i a found
      split at taken <;> cases taken
      rename_i fresh
      exact .suspended idx type n errFn a found (by simpa using fresh)
  | stop idx type n =>
    simp only [SharedState.step] at taken
    split at taken
    · cases taken
    · rename_i a found
      split at taken <;> cases taken
      exact .stopped idx type n a found
  | close idx =>
    cases taken
    exact .closed idx

/-! ## What a step keeps -/

/-- Operations stay where they are; what is started stays started, and what a
caller was resumed with stays. -/
def Kept (s t : SharedState) : Prop := ∀ i ty (n : Nat) (a : Awaiter), (s.ops i ty)[n]? = some a →
  ∃ b : Awaiter, (t.ops i ty)[n]? = some b ∧ a.results <+: b.results ∧
    (a.mHandle = true → b.mHandle = true)

theorem Kept.of_ops (ops : t.ops = s.ops) : Kept s t :=
  fun _ _ _ a found => ⟨a, by rwa [ops], List.prefix_rfl, id⟩

theorem Kept.trans {u : SharedState} (first : Kept s t) (second : Kept t u) : Kept s u := by
  intro i ty n a found
  obtain ⟨b, found', results, started⟩ := first i ty n a found
  obtain ⟨c, found'', results', started'⟩ := second i ty n b found'
  exact ⟨c, found'', results.trans results', started' ∘ started⟩

section Kept
variable {i : Bool} {ty : OpType} {n : Nat} {a a' : Awaiter}

theorem Kept.setOp (found : (s.ops i ty)[n]? = some a) (results : a.results <+: a'.results)
    (started : a.mHandle = true → a'.mHandle = true) : Kept s (s.setOp i ty n a') := by
  intro j ty' k b found'
  rw [ops_setOp]
  by_cases here : j = i ∧ ty' = ty
  · obtain ⟨rfl, rfl⟩ := here
    simp only [and_self, if_true, List.getElem?_set]
    by_cases same : n = k
    · subst same
      obtain rfl : a = b := Option.some.inj (found.symm.trans found')
      exact ⟨a', by simp [(List.getElem?_eq_some_iff.mp found).1], results, started⟩
    · exact ⟨b, by simpa [same] using found', List.prefix_rfl, id⟩
  · exact ⟨b, by rwa [if_neg here], List.prefix_rfl, id⟩

theorem Kept.settle (found : (s.ops i ty)[n]? = some a) (results : a.results <+: a'.results)
    (started : a.mHandle = true → a'.mHandle = true) : Kept s (s.settle i ty n a') := by
  unfold SharedState.settle
  split
  · exact (Kept.of_ops (t := s.setSlot i ty none) rfl).trans
      (.setOp found (results.trans (List.prefix_append _ _)) started)
  · exact .setOp found results started

theorem Kept.transfer {dir : Bool} {nSend nRecv : Nat} {snd rcv : Awaiter}
    (foundSend : (s.ops (!dir) .send)[nSend]? = some snd)
    (foundRecv : (s.ops dir .recv)[nRecv]? = some rcv) :
    Kept s (s.transfer dir nSend nRecv snd rcv) := by
  unfold SharedState.transfer
  dsimp only
  obtain ⟨src, copied⟩ : ∃ src, snd.front (min snd.mData rcv.mData) = src := ⟨_, rfl⟩
  obtain ⟨u, checked⟩ : ∃ u, s.check (require (min snd.mData rcv.mData ≠ 0) .transferMin) = u := ⟨_, rfl⟩
  have ops : u.ops = s.ops := checked ▸ rfl
  have other : (u.settle dir .recv nRecv (rcv.put src)).ops (!dir) .send = s.ops (!dir) .send := by
    unfold SharedState.settle
    split <;> simp [ops]
  rw [copied, checked]
  refine .trans ?_ (.settle (a := snd) (other ▸ foundSend) List.prefix_rfl id)
  refine .trans (.of_ops ops) ?_
  exact .settle (a := rcv) (ops ▸ foundRecv) List.prefix_rfl id

theorem Kept.stopCallback (found : (s.ops i ty)[n]? = some a) : Kept s (s.stopCallback i ty n a) := by
  unfold SharedState.stopCallback
  dsimp only
  split
  · exact .setOp found List.prefix_rfl id
  · refine (Kept.of_ops (s := s) rfl).trans (.setOp (a := a) found ?_ fun started => ?_)
    · split
      · exact List.prefix_append _ _
      · exact List.prefix_rfl
    · split <;> exact started

theorem Kept.closeOp (s : SharedState) (i : Bool) (ty : OpType) (ec : ErrorCode) :
    Kept s (s.closeOp i ty ec) := by
  unfold SharedState.closeOp
  split
  · exact .of_ops rfl
  · dsimp only
    split
    · exact .of_ops rfl
    · rename_i found
      exact (Kept.of_ops (s := s) rfl).trans (.setOp found (List.prefix_append _ _) id)

/-- The second part of `await_suspend` starts its operation. -/
theorem Kept.suspend (found : (s.ops i ty)[n]? = some a) (errFn : Option ErrorCode) :
    Kept (s.setOp i ty n { a with mHandle := true }) (s.suspend i ty n a errFn) := by
  have started : ((s.setOp i ty n { a with mHandle := true }).ops i ty)[n]? =
      some { a with mHandle := true } := by
    simp [(List.getElem?_eq_some_iff.mp found).1]
  have again : ∀ b : Awaiter, (s.setOp i ty n { a with mHandle := true }).setOp i ty n b =
      s.setOp i ty n b := by
    intro b
    simp only [SharedState.setOp, SharedState.mk.injEq, true_and, and_true]
    funext j ty'
    split <;> simp
  unfold SharedState.suspend
  dsimp only
  obtain ⟨ec, code⟩ : ∃ ec, (if (s.mEc i).isError then s.mEc i else errFn.getD (s.mEc i)) = ec :=
    ⟨_, rfl⟩
  rw [code]
  split
  · rw [← again ({ a with mHandle := true } : Awaiter).resume]
    exact .setOp started (List.prefix_append _ _) id
  · split
    · have ended : Kept (s.setOp i ty n { a with mHandle := true })
          (s.setOp i ty n (({ a with mHandle := true } : Awaiter).complete ec)) := by
        rw [← again (({ a with mHandle := true } : Awaiter).complete ec)]
        exact .setOp started (List.prefix_append _ _) id
      exact ended.trans (.of_ops rfl)
    · split
      · split
        · rename_i foundSend foundRecv
          exact Kept.trans (.of_ops rfl) (.transfer foundSend foundRecv)
        · exact .of_ops rfl
      · exact .of_ops rfl

end Kept

theorem Kept.step {e : Event} (step : PairStep s e t) : Kept s t := by
  cases step with
  | awaited idx type data token nonempty =>
    have pushed : ∀ a : Awaiter, Kept s { s with
        ops := fun i ty => if i = idx ∧ ty = type then s.ops i ty ++ [a] else s.ops i ty } := by
      intro a i ty n b found
      refine ⟨b, ?_, List.prefix_rfl, id⟩
      dsimp only
      split
      · rw [List.getElem?_append_left (List.getElem?_eq_some_iff.mp found).1]
        exact found
      · exact found
    unfold SharedState.await
    dsimp only
    split
    · exact (pushed _).trans (.stopCallback (by simp))
    · exact pushed _
  | suspended idx type n errFn a found fresh =>
    have started : Kept s (s.setOp idx type n { a with mHandle := true }) :=
      .setOp found List.prefix_rfl fun _ => rfl
    exact started.trans (.suspend found errFn)
  | stopped idx type n a found => exact .stopCallback found
  | closed idx =>
    unfold SharedState.close
    dsimp only
    refine .trans ?_ (.closeOp _ idx .send _)
    refine .trans ?_ (.closeOp _ (!idx) .recv _)
    refine .trans ?_ (.closeOp _ (!idx) .send _)
    refine .trans ?_ (.closeOp _ idx .recv _)
    exact .of_ops rfl

/-! ## The invariant -/

/-- Queues and slots agree, a direction is never left with both operations, and
what was written in it is what was taken. -/
structure Inv (s : SharedState) : Prop where
  queues : ∀ i ty, QueueOk (s.ops i ty) (s.slot i ty)
  single : ∀ i, s.slot (!i) .send = none ∨ s.slot i .recv = none
  streams : ∀ i, movedBytes (s.ops i .recv) = movedBytes (s.ops (!i) .send)
  faults : s.faults = []

/-- One operation is written, nothing is copied. -/
theorem Inv.write {i : Bool} {ty : OpType} {n : Nat} {a a' : Awaiter} (inv : Inv s)
    (found : (s.ops i ty)[n]? = some a) {v : Option Nat}
    (ops : t.ops = (s.setOp i ty n a').ops)
    (slot : ∀ j ty', t.slot j ty' = if j = i ∧ ty' = ty then v else s.slot j ty')
    (queue : QueueOk ((s.ops i ty).set n a') v) (same : a'.moved = a.moved)
    (single : v = none ∨ v = s.slot i ty) (faults : t.faults = []) : Inv t := by
  refine ⟨fun j ty' => ?_, fun j => ?_, fun j => ?_, faults⟩
  · rw [ops, slot, ops_setOp]
    by_cases here : j = i ∧ ty' = ty
    · rw [if_pos here, if_pos here, here.1, here.2]
      exact queue
    · rw [if_neg here, if_neg here]
      exact inv.queues j ty'
  · have keeps : ∀ j ty', s.slot j ty' = none → t.slot j ty' = none := by
      intro j ty' none
      rw [slot]
      split
      · rename_i here
        rcases single with rfl | rfl
        · rfl
        · rw [← here.1, ← here.2, none]
      · exact none
    exact (inv.single j).imp (keeps _ _) (keeps _ _)
  · have bytes : ∀ j ty', movedBytes (t.ops j ty') = movedBytes (s.ops j ty') := by
      intro j ty'
      rw [ops, ops_setOp]
      split
      · rename_i here
        rw [here.1, here.2]
        exact movedBytes_set found same
      · rfl
    rw [bytes, bytes, inv.streams]

/-- As long as an operation has not started, no other one of its kind waits. -/
theorem Inv.free (inv : Inv s) {i : Bool} {ty : OpType} {n : Nat} {a : Awaiter}
    (found : (s.ops i ty)[n]? = some a) (results : a.results = []) (fresh : a.mHandle = false) :
    s.slot i ty = none := by
  have queue := inv.queues i ty
  refine Option.eq_none_iff_forall_ne_some.mpr fun k waits => ?_
  obtain rfl := queue.alone found results waits
  obtain ⟨b, found', started, _⟩ := (queue.waits k).mp waits
  obtain rfl : a = b := Option.some.inj (found.symm.trans found')
  simp [fresh] at started

/-- The slot of an operation that has no result. -/
theorem Inv.slot_eq (inv : Inv s) {i : Bool} {ty : OpType} {n : Nat} {a : Awaiter}
    (found : (s.ops i ty)[n]? = some a) (mEc : a.mEc = none) :
    s.slot i ty = if a.mHandle then some n else none := by
  have queue := inv.queues i ty
  have results := ((queue.each n a found).pending mEc).1
  cases started : a.mHandle with
  | true => exact (queue.waits n).mpr ⟨a, found, started, mEc⟩
  | false => exact inv.free found results started

theorem Inv.stopCallback (inv : Inv s) {i : Bool} {ty : OpType} {n : Nat} {a : Awaiter}
    (found : (s.ops i ty)[n]? = some a) : Inv (s.stopCallback i ty n a) := by
  have queue := inv.queues i ty
  have ok := queue.each n a found
  unfold SharedState.stopCallback
  dsimp only
  cases completed : a.mEc.isSome with
  | true =>
    rw [if_pos rfl]
    refine inv.write found (v := s.slot i ty) rfl (fun j ty' => ?_) (queue.setReg found .invoked) rfl
      (.inr rfl) inv.faults
    rw [slot_setOp]
    split
    · rename_i here
      rw [here.1, here.2]
    · rfl
  | false =>
    have mEc : a.mEc = none := by simpa using completed
    obtain ⟨results, left⟩ := ok.pending mEc
    have slot := inv.slot_eq found mEc
    rw [if_neg (by simp)]
    obtain ⟨a', ended⟩ : ∃ a' : Awaiter, (if a.mHandle then
        ({ a with mReg := .invoked } : Awaiter).complete Code.operation_aborted
      else { a with mReg := .invoked, mEc := some Code.operation_aborted }) = a' := ⟨_, rfl⟩
    have ok' : a'.Ok ∧ a'.mEc = some Code.operation_aborted ∧ a'.moved = a.moved := by
      rw [← ended]
      have fits : ({ a with mReg := .invoked } : Awaiter).Fits := ⟨ok.size, ok.room, ok.positive, ok.moved⟩
      by_cases started : a.mHandle = true
      · rw [if_pos started]
        refine ⟨Awaiter.Ok.complete fits results started ?_, rfl, rfl⟩
        simp [Nat.ne_of_gt left]
      · rw [if_neg started]
        refine ⟨⟨⟨ok.size, ok.room, ok.positive, ok.moved⟩, ?_, fun _ => rfl, ?_⟩, rfl, rfl⟩
        · simp [Nat.ne_of_gt left]
        · simp [results, started]
    rw [ended]
    refine inv.write found (v := .none) rfl (fun j ty' => by simp) ?_ ok'.2.2 (.inl rfl) ?_
    · simpa [ok'.2.1] using queue.write found results ok'.1
    · simp [inv.faults, slot]

theorem Inv.await (inv : Inv s) {i : Bool} {ty : OpType} {data : List UInt8} (token : StopToken)
    (nonempty : data ≠ []) (done : ∀ a ∈ s.ops i ty, a.results ≠ []) :
    Inv (s.await i ty data token) := by
  obtain ⟨a, made⟩ : ∃ a : Awaiter, ({
      buffer := data
      mData := data.length
      mTotalSize := data.length
      mReg := if token = .none then .none else .registered } : Awaiter) = a := ⟨_, rfl⟩
  have length : 0 < data.length := List.length_pos_iff.mpr nonempty
  have ok : a.Ok ∧ a.mHandle = false ∧ a.moved = [] := by
    rw [← made]
    exact ⟨⟨⟨rfl, le_rfl, length, by simp⟩, rfl, length⟩, rfl, rfl⟩
  have pushed : Inv { s with
      ops := fun j ty' => if j = i ∧ ty' = ty then s.ops j ty' ++ [a] else s.ops j ty' } := by
    have slots : ∀ ops j ty', SharedState.slot { s with ops := ops } j ty' = s.slot j ty' := by
      intro ops j ty'
      cases ty' <;> rfl
    refine ⟨fun j ty' => ?_, fun j => ?_, fun j => ?_, inv.faults⟩
    · rw [slots]
      dsimp only
      split
      · rename_i here
        rw [here.1, here.2]
        exact (inv.queues i ty).push done ok.1 ok.2.1
      · exact inv.queues j ty'
    · rw [slots, slots]
      exact inv.single j
    · have bytes : ∀ j ty', movedBytes (if j = i ∧ ty' = ty then s.ops j ty' ++ [a] else s.ops j ty') =
          movedBytes (s.ops j ty') := by
        intro j ty'
        split
        · simp [movedBytes, ok.2.2]
        · rfl
      dsimp only
      rw [bytes, bytes, inv.streams]
  unfold SharedState.await
  dsimp only
  rw [made]
  split
  · exact pushed.stopCallback (by simp)
  · exact pushed

/-! ## The second part of await_suspend -/

/-- An operation whose span has shrunk stays in its slot, or is done and leaves it. -/
theorem settle_spec {i : Bool} {ty : OpType} {n : Nat} {a a' : Awaiter}
    (queue : QueueOk (s.ops i ty) (some n)) (found : (s.ops i ty)[n]? = some a) (fits : a'.Fits)
    (results : a'.results = []) (started : a'.mHandle = true) (mEc : a'.mEc = none) :
    ∃ b v, (∀ j ty', (s.settle i ty n a').ops j ty' = (s.setOp i ty n b).ops j ty') ∧
      (s.slot i ty = some n → ∀ j ty', (s.settle i ty n a').slot j ty' =
        if j = i ∧ ty' = ty then v else s.slot j ty') ∧
      QueueOk ((s.ops i ty).set n b) v ∧ b.moved = a'.moved ∧ (a'.mData = 0 → v = none) ∧
      (s.settle i ty n a').faults = s.faults := by
  have unresumed : a.results = [] := by
    obtain ⟨b, found', _, _, none, _⟩ := queue.pending rfl
    rw [found] at found'
    cases found'
    exact none
  unfold SharedState.settle
  by_cases empty : a'.mData = 0
  · rw [if_pos empty]
    refine ⟨({ a' with mReg := .none } : Awaiter).complete Code.success, none, fun _ _ => rfl,
      fun _ j ty' => by simp, ?_, rfl, fun _ => rfl, rfl⟩
    have fits' : ({ a' with mReg := .none } : Awaiter).Fits :=
      ⟨fits.size, fits.room, fits.positive, fits.moved⟩
    have ok' : (({ a' with mReg := .none } : Awaiter).complete Code.success).Ok :=
      Awaiter.Ok.complete fits' results started (by simp [empty])
    simpa [Awaiter.complete, Awaiter.resume] using queue.write found unresumed ok'
  · rw [if_neg empty]
    refine ⟨a', some n, fun _ _ => rfl, fun slot j ty' => ?_, ?_, rfl, fun h => absurd h empty, rfl⟩
    · rw [slot_setOp]
      split
      · rename_i here
        rw [here.1, here.2, slot]
      · rfl
    · have ok' : a'.Ok := ⟨fits, by
        unfold Awaiter.Phase
        rw [mEc]
        exact ⟨results, Nat.pos_of_ne_zero empty⟩⟩
      simpa [started, mEc] using queue.write found unresumed ok'

/-- Both operations of a direction wait: what both can move is copied, and at
least one of them is done. -/
theorem transfer_inv {dir : Bool} {nSend nRecv : Nat} {snd rcv : Awaiter}
    (queues : ∀ i ty, QueueOk (s.ops i ty) (s.slot i ty))
    (single : ∀ i, i ≠ dir → s.slot (!i) .send = none ∨ s.slot i .recv = none)
    (streams : ∀ i, movedBytes (s.ops i .recv) = movedBytes (s.ops (!i) .send))
    (faults : s.faults = []) (sends : s.slot (!dir) .send = some nSend)
    (recvs : s.slot dir .recv = some nRecv) (foundSend : (s.ops (!dir) .send)[nSend]? = some snd)
    (foundRecv : (s.ops dir .recv)[nRecv]? = some rcv) :
    Inv (s.transfer dir nSend nRecv snd rcv) := by
  have queueSend := queues (!dir) .send
  have queueRecv := queues dir .recv
  rw [sends] at queueSend
  rw [recvs] at queueRecv
  obtain ⟨snd', foundSend', startedSend, mEcSend, resultsSend, leftSend, lastSend⟩ := queueSend.pending rfl
  obtain rfl : snd' = snd := Option.some.inj (foundSend'.symm.trans foundSend)
  obtain ⟨rcv', foundRecv', startedRecv, mEcRecv, resultsRecv, leftRecv, lastRecv⟩ := queueRecv.pending rfl
  obtain rfl : rcv' = rcv := Option.some.inj (foundRecv'.symm.trans foundRecv)
  have okSend := queueSend.each nSend snd' foundSend
  have okRecv := queueRecv.each nRecv rcv' foundRecv
  obtain ⟨m, least⟩ : ∃ m, min snd'.mData rcv'.mData = m := ⟨_, rfl⟩
  have length : (snd'.front m).length = m := okSend.front_length (by omega)
  have fitsSend : (snd'.took (snd'.front m)).Fits := okSend.took (by omega)
  have fitsRecv : (rcv'.put (snd'.front m)).Fits := okRecv.put (by omega)
  have check : (s.check (require (m ≠ 0) .transferMin)).faults = [] := by
    have positive : m ≠ 0 := by omega
    simp [faults, positive]
  -- the receive is settled first, then the send of the other end
  obtain ⟨b, v, ops, slots, queue, moved, done, faults'⟩ :=
    settle_spec (s := s.check (require (m ≠ 0) .transferMin)) queueRecv foundRecv fitsRecv resultsRecv
      startedRecv mEcRecv
  have slots := slots (by simpa using recvs)
  obtain ⟨t, settled⟩ : ∃ t, (s.check (require (m ≠ 0) .transferMin)).settle dir .recv nRecv
    (rcv'.put (snd'.front m)) = t := ⟨_, rfl⟩
  rw [settled] at ops slots faults'
  have opsSend : t.ops (!dir) .send = s.ops (!dir) .send := by rw [ops]; simp
  obtain ⟨b', v', ops', slots', queue', moved', done', faults''⟩ :=
    settle_spec (s := t) (opsSend ▸ queueSend) (opsSend ▸ foundSend) fitsSend resultsSend startedSend
      mEcSend
  have slots' := slots' (by rw [slots]; simp [sends])
  have result : s.transfer dir nSend nRecv snd' rcv' =
      t.settle (!dir) .send nSend (snd'.took (snd'.front m)) := by
    unfold SharedState.transfer
    dsimp only
    rw [least, settled]
  rw [opsSend] at queue'
  simp only [ops_check] at queue ops
  refine result ▸ ⟨fun i ty => ?_, fun i => ?_, fun i => ?_, ?_⟩
  · rw [ops', slots', ops_setOp]
    by_cases send : i = (!dir) ∧ ty = .send
    · obtain ⟨rfl, rfl⟩ := send
      simp only [and_self, if_true, opsSend]
      exact queue'
    · rw [if_neg send, if_neg send, ops, slots, ops_setOp]
      by_cases recv : i = dir ∧ ty = .recv
      · obtain ⟨rfl, rfl⟩ := recv
        simp only [and_self, if_true]
        exact queue
      · rw [if_neg recv, if_neg recv]
        simpa using queues i ty
  · by_cases here : i = dir
    · subst here
      have empty : (rcv'.put (snd'.front m)).mData = 0 ∨ (snd'.took (snd'.front m)).mData = 0 := by
        show rcv'.mData - (snd'.front m).length = 0 ∨ snd'.mData - (snd'.front m).length = 0
        omega
      rw [slots', slots', slots, slots]
      rcases empty with recv | send
      · exact .inr (by simp [done recv])
      · exact .inl (by simp [done' send])
    · rw [slots', slots', slots, slots]
      simpa [here] using single i here
  · have recvBytes : ∀ j, movedBytes ((t.settle (!dir) .send nSend (snd'.took (snd'.front m))).ops j
        .recv) = movedBytes (s.ops j .recv) ++ if j = dir then snd'.front m else [] := by
      intro j
      rw [ops', ops_setOp, if_neg (by simp), ops, ops_setOp]
      by_cases here : j = dir
      · subst here
        simp only [and_self, if_true]
        exact movedBytes_last foundRecv lastRecv moved
      · simp [here]
    have sendBytes : ∀ j, movedBytes ((t.settle (!dir) .send nSend (snd'.took (snd'.front m))).ops (!j)
        .send) = movedBytes (s.ops (!j) .send) ++ if j = dir then snd'.front m else [] := by
      intro j
      rw [ops', ops_setOp]
      by_cases here : j = dir
      · subst here
        simp only [and_self, if_true, opsSend]
        exact movedBytes_last foundSend lastSend moved'
      · rw [if_neg (by simpa using here), ops, ops_setOp, if_neg (by simp)]
        simp [here]
    rw [recvBytes, sendBytes, streams]
  · rw [faults'', faults', check]

/-- An operation enters its slot: at once matched with its counterpart, or left to wait. -/
theorem Inv.enter (inv : Inv s) {i : Bool} {ty : OpType} {n : Nat} {a : Awaiter}
    (found : (s.ops i ty)[n]? = some a) (ok : a.Ok) (mEc : a.mEc = none) (ec : Bool → ErrorCode)
    (free : s.slot i ty = none) :
    ∃ t : SharedState, ((({ s with mEc := ec } : SharedState).check
        (require (SharedState.slot { s with mEc := ec } i ty = none) .slotTaken)).setSlot i ty
          (some n)).setOp i ty n { a with mHandle := true } = t ∧
      (∀ i ty, QueueOk (t.ops i ty) (t.slot i ty)) ∧
      (∀ j, j ≠ direction i ty → t.slot (!j) .send = none ∨ t.slot j .recv = none) ∧
      (∀ j, movedBytes (t.ops j .recv) = movedBytes (t.ops (!j) .send)) ∧ t.faults = [] := by
  have results := (ok.pending mEc).1
  have ok' : ({ a with mHandle := true } : Awaiter).Ok :=
    ⟨⟨ok.size, ok.room, ok.positive, ok.moved⟩, by
      have phase := ok.pending mEc
      unfold Awaiter.Phase
      rwa [mEc]⟩
  have slots : ∀ j ty', SharedState.slot { s with mEc := ec } j ty' = s.slot j ty' := by
    intro j ty'
    cases ty' <;> rfl
  have queue := (inv.queues i ty).write found results ok'
  rw [if_pos ⟨rfl, mEc⟩] at queue
  refine ⟨_, rfl, fun j ty' => ?_, fun j other => ?_, fun j => ?_, ?_⟩
  · simp only [slot_setOp, slot_setSlot, slot_check, slots, ops_setOp, ops_setSlot, ops_check]
    split
    · rename_i here
      rw [here.1, here.2]
      exact queue
    · exact inv.queues j ty'
  · simp only [slot_setOp, slot_setSlot, slot_check, slots]
    cases ty with
    | send =>
      have elsewhere : ¬ ((!j) = i ∧ OpType.send = .send) := by
        rintro ⟨rfl, _⟩
        simp [direction] at other
      rw [if_neg elsewhere, if_neg (by simp)]
      exact inv.single j
    | recv =>
      have elsewhere : ¬ (j = i ∧ OpType.recv = .recv) := fun here => other here.1
      rw [if_neg elsewhere, if_neg (by simp)]
      exact inv.single j
  · have bytes : ∀ j ty', movedBytes (if j = i ∧ ty' = ty then
        (s.ops j ty').set n { a with mHandle := true } else s.ops j ty') = movedBytes (s.ops j ty') := by
      intro j ty'
      split
      · rename_i here
        rw [here.1, here.2]
        exact movedBytes_set found rfl
      · rfl
    simp only [ops_setOp, ops_setSlot, ops_check]
    rw [bytes, bytes, inv.streams]
  · have slot := slots i ty
    rw [free] at slot
    simp only [faults_setOp, faults_setSlot, faults_check, slot]
    simp [inv.faults]

theorem Inv.suspend (inv : Inv s) {i : Bool} {ty : OpType} {n : Nat} {a : Awaiter}
    (errFn : Option ErrorCode) (found : (s.ops i ty)[n]? = some a) (fresh : a.mHandle = false) :
    Inv (s.suspend i ty n a errFn) := by
  have queue := inv.queues i ty
  have ok := queue.each n a found
  have fits : ({ a with mHandle := true } : Awaiter).Fits := ⟨ok.size, ok.room, ok.positive, ok.moved⟩
  unfold SharedState.suspend
  dsimp only
  cases completed : a.mEc.isSome with
  | true =>
    obtain ⟨ec, mEc⟩ := Option.isSome_iff_exists.mp completed
    have phase := ok.phase
    unfold Awaiter.Phase at phase
    rw [mEc] at phase
    have results : a.results = [] := by simpa [fresh] using phase.2.2
    have ok' : (({ a with mHandle := true } : Awaiter).resume).Ok := by
      have ended := Awaiter.Ok.complete fits results rfl phase.1
      rwa [Awaiter.complete, ← mEc] at ended
    have free : s.slot i ty = none := inv.free found results fresh
    rw [if_pos rfl]
    refine inv.write found (v := .none) rfl (fun j ty' => ?_) ?_ rfl (.inl rfl) inv.faults
    · rw [slot_setOp]
      split
      · rename_i here
        rw [here.1, here.2, free]
      · rfl
    · simpa [Awaiter.resume, mEc] using queue.write found results ok'
  | false =>
    have mEc : a.mEc = none := by simpa using completed
    obtain ⟨results, left⟩ := ok.pending mEc
    have free : s.slot i ty = none := inv.free found results fresh
    rw [if_neg (by simp)]
    obtain ⟨ec, code⟩ : ∃ ec, (if (s.mEc i).isError then s.mEc i else errFn.getD (s.mEc i)) = ec :=
      ⟨_, rfl⟩
    rw [code]
    split
    · rename_i error
      have ok' : (({ a with mHandle := true } : Awaiter).complete ec).Ok :=
        Awaiter.Ok.complete fits results rfl (by simp [error, Nat.ne_of_gt left])
      refine inv.write found (v := .none) rfl (fun j ty' => ?_) ?_ rfl (.inl rfl) inv.faults
      · rw [slot_setOp]
        have same : SharedState.slot { s with mEc := fun j => if j = i then ec else s.mEc j } j ty' =
            s.slot j ty' := by cases ty' <;> rfl
        rw [same]
        split
        · rename_i here
          rw [here.1, here.2, free]
        · rfl
      · simpa [Awaiter.complete, Awaiter.resume] using queue.write found results ok'
    · obtain ⟨t, entered, queues, single, streams, faults⟩ :=
        inv.enter found ok mEc (fun j => if j = i then ec else s.mEc j) free
      rw [entered]
      have sends : (t.mInbound (direction i ty)).mSend = t.slot (!direction i ty) .send := by
        simp [SharedState.slot]
      have recvs : (t.mInbound (direction i ty)).mRecv = t.slot (direction i ty) .recv := rfl
      rw [sends, recvs]
      split
      · rename_i nSend nRecv send recv
        obtain ⟨snd, foundSend, _⟩ := (queues _ _).pending send
        obtain ⟨rcv, foundRecv, _⟩ := (queues _ _).pending recv
        rw [foundSend, foundRecv]
        exact transfer_inv queues single streams faults send recv foundSend foundRecv
      · rename_i unmatched
        refine ⟨queues, fun j => ?_, streams, faults⟩
        by_cases here : j = direction i ty
        · subst here
          cases send : t.slot (!direction i ty) .send with
          | none => exact .inl rfl
          | some nSend =>
            cases recv : t.slot (direction i ty) .recv with
            | none => exact .inr rfl
            | some nRecv => exact absurd recv (unmatched nSend nRecv send)
        · exact single j here

/-! ## close -/

/-- The operation in the slot, if any, ends with the code. -/
def endedOps (ops : List Awaiter) (slot : Option Nat) (ec : ErrorCode) : List Awaiter :=
  match slot with
  | none => ops
  | some n => ops.modify n (·.complete ec)

theorem endedOps_some {ops : List Awaiter} {n : Nat} {a : Awaiter} (found : ops[n]? = some a)
    (ec : ErrorCode) : endedOps ops (some n) ec = ops.set n (a.complete ec) := by
  have inside := (List.getElem?_eq_some_iff.mp found).1
  refine List.ext_getElem? fun k => ?_
  rw [endedOps, List.getElem?_modify, List.getElem?_set]
  by_cases here : n = k
  · subst here
    rw [if_pos rfl, if_pos inside, found]
    simp
  · simp [here]

/-- One slot is cleared. -/
theorem Inv.closeOp (inv : Inv s) (i : Bool) (ty : OpType) (ec : ErrorCode) (error : ec.isError = true) :
    Inv (s.closeOp i ty ec) ∧
    (∀ j ty', (s.closeOp i ty ec).slot j ty' = if j = i ∧ ty' = ty then none else s.slot j ty') ∧
    (∀ j ty', (s.closeOp i ty ec).ops j ty' =
      if j = i ∧ ty' = ty then endedOps (s.ops i ty) (s.slot i ty) ec else s.ops j ty') ∧
    (s.closeOp i ty ec).mEc = s.mEc := by
  have queue := inv.queues i ty
  unfold SharedState.closeOp
  cases slot : s.slot i ty with
  | none =>
    refine ⟨inv, fun j ty' => ?_, fun j ty' => ?_, rfl⟩ <;> dsimp only <;> split
    · rename_i here
      rw [here.1, here.2, slot]
    · rfl
    · rename_i here
      rw [here.1, here.2]
      rfl
    · rfl
  | some n =>
    rw [slot] at queue
    obtain ⟨a, found, started, mEc, results, left, _⟩ := queue.pending rfl
    have ok := queue.each n a found
    have ok' : (a.complete ec).Ok :=
      Awaiter.Ok.complete ok.toFits results started (by simp [error, Nat.ne_of_gt left])
    have queue' := queue.write found results ok'
    simp only [ops_setSlot, found]
    refine ⟨?_, fun j ty' => by simp, fun j ty' => ?_, rfl⟩
    · refine inv.write found (v := .none) rfl (fun j ty' => by simp) ?_ rfl (.inl rfl) ?_
      · simpa [Awaiter.complete, Awaiter.resume] using queue'
      · simp [inv.faults, started, mEc]
    · simp only [ops_setOp, ops_check, ops_setSlot]
      split
      · rename_i here
        rw [here.1, here.2, endedOps_some found]
      · rfl

/-- The code an operation that waits at a close ends with. -/
def closeCode (idx i : Bool) : ErrorCode := if i = idx then Code.closed else Code.remoteClosed

/-- `close` clears all slots; each operation that waited ends with the code of
its end, the others are left alone. -/
theorem Inv.close (inv : Inv s) (idx : Bool) :
    Inv (s.close idx) ∧ (∀ i ty, (s.close idx).slot i ty = none) ∧
    (∀ i ty, (s.close idx).ops i ty = endedOps (s.ops i ty) (s.slot i ty) (closeCode idx i)) ∧
    ∀ i, ((s.close idx).mEc i).isError = true := by
  obtain ⟨s', failed⟩ : ∃ s' : SharedState, { s with
    mEc := fun i =>
      if (s.mEc i).isError then s.mEc i else if i = idx then Code.closed else Code.remoteClosed } = s' :=
    ⟨_, rfl⟩
  have same : (∀ i ty, s'.slot i ty = s.slot i ty) ∧ s'.ops = s.ops ∧
      ∀ i, (s'.mEc i).isError = true := by
    rw [← failed]
    refine ⟨fun i ty => by cases ty <;> rfl, rfl, fun i => ?_⟩
    dsimp only
    split
    · assumption
    · split <;> rfl
  have inv' : Inv s' := by
    refine ⟨fun i ty => ?_, fun i => ?_, fun i => ?_, ?_⟩
    · rw [same.1, same.2.1]
      exact inv.queues i ty
    · rw [same.1, same.1]
      exact inv.single i
    · rw [same.2.1]
      exact inv.streams i
    · rw [← failed]
      exact inv.faults
  obtain ⟨inv1, slots1, ops1, mEc1⟩ := inv'.closeOp idx .recv Code.closed rfl
  obtain ⟨inv2, slots2, ops2, mEc2⟩ := inv1.closeOp (!idx) .send Code.remoteClosed rfl
  obtain ⟨inv3, slots3, ops3, mEc3⟩ := inv2.closeOp (!idx) .recv Code.remoteClosed rfl
  obtain ⟨inv4, slots4, ops4, mEc4⟩ := inv3.closeOp idx .send Code.closed rfl
  have result : s.close idx = (((s'.closeOp idx .recv Code.closed).closeOp (!idx) .send
      Code.remoteClosed).closeOp (!idx) .recv Code.remoteClosed).closeOp idx .send Code.closed := by
    rw [← failed]
    rfl
  rw [result]
  refine ⟨inv4, fun i ty => ?_, fun i ty => ?_, fun i => ?_⟩
  · rw [slots4, slots3, slots2, slots1]
    cases idx <;> cases i <;> cases ty <;> simp
  · simp only [ops4, ops3, ops2, ops1, slots3, slots2, slots1, same.1, same.2.1]
    cases idx <;> cases i <;> cases ty <;> rfl
  · rw [mEc4, mEc3, mEc2, mEc1]
    exact same.2.2 i

theorem Inv.step {e : Event} (inv : Inv s) (met : OneEach s e) (step : PairStep s e t) : Inv t := by
  cases step with
  | awaited idx type data token nonempty => exact inv.await token nonempty met
  | suspended idx type n errFn a found fresh => exact inv.suspend errFn found fresh
  | stopped idx type n a found => exact inv.stopCallback found
  | closed idx => exact (inv.close idx).1

theorem inv_init : Inv {} :=
  ⟨fun _ ty => by cases ty <;> exact .empty, fun _ => .inl rfl, fun _ => rfl, rfl⟩

/-! ## After a close -/

/-- Both ends have failed, and what has ended without error since `t` was
started before. -/
structure After (t u : SharedState) : Prop where
  failed : ∀ i, (u.mEc i).isError = true
  before : ∀ i ty (n : Nat) (a : Awaiter), (u.ops i ty)[n]? = some a → ∀ ec, a.mEc = some ec →
    ec.isError = false →
    ((t.ops i ty)[n]?).any (·.mHandle) = true

variable {u v : SharedState}

/-- A step ends operations with errors only. -/
theorem After.write (after : After t u) (mEc : v.mEc = u.mEc)
    (ops : ∀ i ty (n : Nat) (a : Awaiter), (v.ops i ty)[n]? = some a → (u.ops i ty)[n]? = some a ∨
      (∀ ec, a.mEc = some ec → ec.isError = true) ∨ ∃ b : Awaiter, (u.ops i ty)[n]? = some b ∧ a.mEc = b.mEc) :
    After t v := by
  refine ⟨mEc ▸ after.failed, fun i ty n a found ec ended fine => ?_⟩
  rcases ops i ty n a found with old | error | ⟨b, old, same⟩
  · exact after.before i ty n a old ec ended fine
  · simp [error ec ended] at fine
  · exact after.before i ty n b old ec (same ▸ ended) fine

theorem getElem?_setOp {i : Bool} {ty : OpType} {n : Nat} {a b : Awaiter} {j : Bool} {ty' : OpType}
    {k : Nat} (found : ((u.setOp i ty n a).ops j ty')[k]? = some b) :
    (u.ops j ty')[k]? = some b ∨ b = a ∧ (j = i ∧ ty' = ty ∧ k = n) := by
  rw [ops_setOp] at found
  split at found
  · rename_i here
    rw [List.getElem?_set] at found
    split at found
    · rename_i same
      split at found
      · exact .inr ⟨(Option.some.inj found).symm, here.1, here.2, same.symm⟩
      · cases found
    · exact .inl found
  · exact .inl found

theorem After.stopCallback (after : After t u) {i : Bool} {ty : OpType} {n : Nat} {a : Awaiter}
    (found : (u.ops i ty)[n]? = some a) : After t (u.stopCallback i ty n a) := by
  unfold SharedState.stopCallback
  dsimp only
  split
  · refine after.write rfl fun j ty' k b found' => ?_
    rcases getElem?_setOp found' with old | ⟨rfl, rfl, rfl, rfl⟩
    · exact .inl old
    · exact .inr (.inr ⟨a, found, rfl⟩)
  · refine after.write rfl fun j ty' k b found' => ?_
    rcases getElem?_setOp found' with old | ⟨rfl, rfl, rfl, rfl⟩
    · exact .inl old
    · refine .inr (.inl fun ec ended => ?_)
      split at ended <;> cases ended <;> rfl

theorem After.step {e : Event} (after : After t u) (inv : Inv u) (step : PairStep u e v) :
    After t v := by
  cases step with
  | awaited idx type data token nonempty =>
    have pushed : ∀ a : Awaiter, a.mEc = none → After t { u with
        ops := fun i ty => if i = idx ∧ ty = type then u.ops i ty ++ [a] else u.ops i ty } := by
      refine fun a fresh => after.write rfl fun i ty n b found => ?_
      dsimp only at found
      split at found
      · rw [List.getElem?_append] at found
        split at found
        · exact .inl found
        · have new := List.mem_singleton.mp (List.mem_of_getElem? found)
          exact .inr (.inl fun ec ended => by rw [new, fresh] at ended; cases ended)
      · exact .inl found
    unfold SharedState.await
    dsimp only
    split
    · exact (pushed _ rfl).stopCallback (by simp)
    · exact pushed _ rfl
  | suspended idx type n errFn a found fresh =>
    have failed := after.failed idx
    unfold SharedState.suspend
    dsimp only
    simp only [failed, if_true]
    have same : (fun i => if i = idx then u.mEc idx else u.mEc i) = u.mEc := by
      funext i
      by_cases here : i = idx <;> simp [here]
    rw [same]
    split
    · refine after.write rfl fun j ty' k b found' => ?_
      rcases getElem?_setOp found' with old | ⟨rfl, rfl, rfl, rfl⟩
      · exact .inl old
      · exact .inr (.inr ⟨a, found, rfl⟩)
    · refine after.write rfl fun j ty' k b found' => ?_
      rcases getElem?_setOp found' with old | ⟨rfl, rfl, rfl, rfl⟩
      · exact .inl old
      · exact .inr (.inl fun ec ended => by cases ended; exact failed)
  | stopped idx type n a found => exact after.stopCallback found
  | closed idx =>
    obtain ⟨_, _, ops, failed⟩ := inv.close idx
    refine ⟨failed, fun i ty n a found ec ended fine => ?_⟩
    rw [ops] at found
    unfold endedOps at found
    split at found
    · exact after.before i ty n a found ec ended fine
    · rw [List.getElem?_modify] at found
      obtain ⟨b, old, rfl⟩ := Option.map_eq_some_iff.mp found
      split at ended
      · cases ended
        simp only [closeCode] at fine
        split at fine <;> cases fine
      · exact after.before i ty n b old ec ended fine

end SharedState

/-- An operation waits to be suspended, or in its slot. -/
def Waits (s : SharedState) (i : Bool) (ty : OpType) (n : Nat) (a : Awaiter) : Prop :=
  a.mHandle = false ∨ s.slot i ty = some n

namespace SharedState
variable {s t u : SharedState}

/-- What an operation has been resumed with. -/
theorem Inv.results (inv : Inv s) {i : Bool} {ty : OpType} {n : Nat} {a : Awaiter}
    (found : (s.ops i ty)[n]? = some a) :
    Waits s i ty n a ∧ a.results = [] ∨ ∃ ec, a.mEc = some ec ∧ a.results = [(ec, a.moved.length)] ∧
      (ec.isError = false ↔ a.moved.length = a.buffer.length) := by
  have ok := (inv.queues i ty).each n a found
  have length := ok.moved_length
  have size := ok.size
  have room := ok.room
  cases mEc : a.mEc with
  | none =>
    refine .inl ⟨?_, (ok.pending mEc).1⟩
    have slot := inv.slot_eq found mEc
    cases started : a.mHandle with
    | false => exact .inl started
    | true => exact .inr (by simpa [started] using slot)
  | some ec =>
    have phase := ok.phase
    unfold Awaiter.Phase at phase
    rw [mEc] at phase
    obtain ⟨whole, _, results⟩ := phase
    cases started : a.mHandle with
    | false => exact .inl ⟨.inl started, by simpa [started] using results⟩
    | true =>
      refine .inr ⟨ec, rfl, by simpa [started, length] using results, whole.trans ?_⟩
      omega

/-- A stop ends the wait of an operation that has started; one that has not is
marked for its start. -/
theorem Inv.stop_results (inv : Inv s) {i : Bool} {ty : OpType} {n : Nat} {a : Awaiter}
    (found : (s.ops i ty)[n]? = some a) (mEc : a.mEc = none) :
    (s.stopCallback i ty n a).slot i ty = none ∧
      ∃ b : Awaiter, ((s.stopCallback i ty n a).ops i ty)[n]? = some b ∧
        b.mEc = some (Code.operation_aborted : ErrorCode) ∧
        (a.mHandle = true → b.results = [((Code.operation_aborted : ErrorCode), a.moved.length)]) := by
  have ok := (inv.queues i ty).each n a found
  have results := (ok.pending mEc).1
  have inside := (List.getElem?_eq_some_iff.mp found).1
  unfold SharedState.stopCallback
  dsimp only
  rw [if_neg (by simp [mEc])]
  obtain ⟨b, ended⟩ : ∃ b : Awaiter, (if a.mHandle then
      ({ a with mReg := .invoked } : Awaiter).complete Code.operation_aborted
    else { a with mReg := .invoked, mEc := some Code.operation_aborted }) = b := ⟨_, rfl⟩
  rw [ended]
  refine ⟨by simp, b, by simp [inside], ?_, fun started => ?_⟩
  · rw [← ended]
    split <;> rfl
  · rw [← ended, if_pos started]
    simp [Awaiter.complete, Awaiter.resume, Awaiter.awaitResume, results, ok.moved_length]

/-- The second part of `await_suspend` starts an operation; one that was stopped
before, or finds the end failed, is resumed at once. -/
theorem Inv.suspend_results (inv : Inv s) {i : Bool} {ty : OpType} {n : Nat} {a : Awaiter}
    (found : (s.ops i ty)[n]? = some a) (fresh : a.mHandle = false) (errFn : Option ErrorCode) :
    ∃ b : Awaiter, ((s.suspend i ty n a errFn).ops i ty)[n]? = some b ∧ b.mHandle = true ∧
      (∀ ec, a.mEc = some ec → b.results = [(ec, a.moved.length)]) ∧
      (a.mEc = none → (s.mEc i).isError = true → b.results = [(s.mEc i, a.moved.length)]) := by
  have ok := (inv.queues i ty).each n a found
  have inside := (List.getElem?_eq_some_iff.mp found).1
  have results : a.results = [] := by
    cases mEc : a.mEc with
    | none => exact (ok.pending mEc).1
    | some ec =>
      have phase := ok.phase
      unfold Awaiter.Phase at phase
      rw [mEc] at phase
      simpa [fresh] using phase.2.2
  obtain ⟨b, found', _, started⟩ := Kept.suspend found errFn i ty n { a with mHandle := true }
    (by simp [inside])
  refine ⟨b, found', started rfl, fun ec mEc => ?_, fun mEc failed => ?_⟩
  · have resumed : s.suspend i ty n a errFn =
        s.setOp i ty n ({ a with mHandle := true } : Awaiter).resume := by
      simp [SharedState.suspend, mEc]
    rw [resumed] at found'
    obtain rfl : ({ a with mHandle := true } : Awaiter).resume = b := by simpa [inside] using found'
    simp [Awaiter.resume, Awaiter.awaitResume, results, mEc, ok.moved_length]
  · have resumed : (s.suspend i ty n a errFn).ops =
        (s.setOp i ty n (({ a with mHandle := true } : Awaiter).complete (s.mEc i))).ops := by
      simp [SharedState.suspend, mEc, failed, SharedState.setOp]
    rw [resumed] at found'
    obtain rfl : ({ a with mHandle := true } : Awaiter).complete (s.mEc i) = b := by
      simpa [inside] using found'
    simp [Awaiter.complete, Awaiter.resume, Awaiter.awaitResume, results, ok.moved_length]

/-- Each operation that waits is resumed by a close. -/
theorem Inv.close_results (inv : Inv s) (idx : Bool) {i : Bool} {ty : OpType} {n : Nat} {a : Awaiter}
    (found : (s.ops i ty)[n]? = some a) (waits : s.slot i ty = some n) :
    ∃ b, ((s.close idx).ops i ty)[n]? = some b ∧ b.results = [(closeCode idx i, a.moved.length)] := by
  have queue := inv.queues i ty
  have ok := queue.each n a found
  rw [waits] at queue
  obtain ⟨b, found', _, _, results, _⟩ := queue.pending rfl
  obtain rfl : a = b := Option.some.inj (found.symm.trans found')
  refine ⟨a.complete (closeCode idx i), ?_, ?_⟩
  · rw [(inv.close idx).2.2.1 i ty, waits, endedOps, List.getElem?_modify, found]
    simp
  · simp [Awaiter.complete, Awaiter.resume, Awaiter.awaitResume, results, ok.moved_length]

/-- A close does not start operations. -/
theorem Inv.close_started (inv : Inv s) (idx i : Bool) (ty : OpType) (n : Nat) :
    (((s.close idx).ops i ty)[n]?).any (·.mHandle) = ((s.ops i ty)[n]?).any (·.mHandle) := by
  rw [(inv.close idx).2.2.1 i ty]
  unfold endedOps
  split
  · rfl
  · rw [List.getElem?_modify]
    cases (s.ops i ty)[n]? with
    | none => rfl
    | some a =>
      simp only [Option.any_some]
      split <;> rfl

/-- What starts after a close does not succeed. -/
theorem Inv.after_close {fs : List Event} (inv : Inv s) (idx : Bool)
    (run : Run SharedState.step OneEach (s.close idx) fs u) {i : Bool} {ty : OpType} {n : Nat} {a : Awaiter}
    (found : (u.ops i ty)[n]? = some a) (unstarted : ((s.ops i ty)[n]?).any (·.mHandle) = false) :
    ∀ r ∈ a.results, r.1.isError = true := by
  have closed := inv.close idx
  have start : After (s.close idx) (s.close idx) := by
    refine ⟨closed.2.2.2, fun i ty n a found ec ended fine => ?_⟩
    have phase := ((closed.1.queues i ty).each n a found).phase
    unfold Awaiter.Phase at phase
    rw [ended] at phase
    cases started : a.mHandle with
    | true => simp [found, started]
    | false => simp [phase.2.1 started] at fine
  have all : Inv u ∧ After (s.close idx) u := by
    refine run.invariant (I := fun u => Inv u ∧ After (s.close idx) u) ⟨closed.1, start⟩ ?_
    rintro v e w ⟨inv, after⟩ met taken
    exact ⟨inv.step met (pairStep taken), after.step inv (pairStep taken)⟩
  intro r member
  rcases all.1.results found with ⟨_, none⟩ | ⟨ec, ended, results, _⟩
  · simp [none] at member
  · rw [results] at member
    cases List.mem_singleton.mp member
    by_contra fine
    have started := all.2.before i ty n a found ec ended (by simpa using fine)
    rw [inv.close_started, unstarted] at started
    cases started

end SharedState

/-- What holds in every state of the pair, and of its next steps. -/
structure PairOk (s : SharedState) : Prop where
  /-- Each direction delivers the bytes it takes, in order. -/
  streams : ∀ i, movedBytes (s.ops i .recv) = movedBytes (s.ops (!i) .send)
  /-- A send and a receive never wait for each other. -/
  single : ∀ i, s.slot (!i) .send = none ∨ s.slot i .recv = none
  /-- An operation is resumed once, when it waits no more, with success exactly for
  a whole buffer and with the number of bytes that were moved. -/
  resumed : ∀ i ty (n : Nat) (a : Awaiter), (s.ops i ty)[n]? = some a →
    a.moved = a.buffer.take a.moved.length ∧
    (Waits s i ty n a ∧ a.results = [] ∨ ∃ ec, a.results = [(ec, a.moved.length)] ∧
      (ec.isError = false ↔ a.moved.length = a.buffer.length))
  kept : ∀ e t, s.step e = some t → Kept s t
  suspended : ∀ i ty (n : Nat) (a : Awaiter) errFn t, (s.ops i ty)[n]? = some a →
    s.step (.suspend i ty n errFn) = some t →
    ∃ b : Awaiter, (t.ops i ty)[n]? = some b ∧ b.mHandle = true ∧
      (∀ ec, a.mEc = some ec → b.results = [(ec, a.moved.length)]) ∧
      (a.mEc = none → (s.mEc i).isError = true → b.results = [(s.mEc i, a.moved.length)])
  /-- A stop ends the wait of an operation, or is there when it starts. -/
  stopped : ∀ i ty (n : Nat) (a : Awaiter) t, (s.ops i ty)[n]? = some a → a.mEc = none →
    s.step (.stop i ty n) = some t →
    t.slot i ty = none ∧ ∃ b : Awaiter, (t.ops i ty)[n]? = some b ∧
      b.mEc = some (Code.operation_aborted : ErrorCode) ∧
      (a.mHandle = true → b.results = [((Code.operation_aborted : ErrorCode), a.moved.length)])
  /-- A close ends what waits with the code of its end. -/
  closed : ∀ idx t, s.step (.close idx) = some t → ∀ i ty (n : Nat) (a : Awaiter),
    (s.ops i ty)[n]? = some a → s.slot i ty = some n → ∃ b, (t.ops i ty)[n]? = some b ∧
      b.results = [(closeCode idx i, a.moved.length)]
  /-- What starts after a close does not succeed. -/
  late : ∀ idx t fs u, s.step (.close idx) = some t → Run step OneEach t fs u →
    ∀ i ty (n : Nat) (a : Awaiter), (u.ops i ty)[n]? = some a →
      ((s.ops i ty)[n]?).any Awaiter.mHandle = false → ∀ r ∈ a.results, r.1.isError = true
  faults : s.faults = []

/-- A pair moves bytes once and in order and resumes every operation once, for
any lengths and any order of awaits, stops, injected errors and closes. -/
theorem localAsync_ok {es : List Event} {s : SharedState} (run : Run step OneEach {} es s) :
    PairOk s := by
  have inv : Inv s := run.invariant (I := Inv) inv_init fun _ _ _ inv met taken =>
    inv.step met (pairStep taken)
  refine ⟨inv.streams, inv.single, fun i ty n a found => ⟨?_, ?_⟩, fun _ _ taken => .step (pairStep taken),
    ?_, ?_, ?_, ?_, inv.faults⟩
  · have ok := (inv.queues i ty).each n a found
    rw [ok.moved_length]
    exact ok.moved
  · rcases inv.results found with waits | ⟨ec, _, results, whole⟩
    · exact .inl waits
    · exact .inr ⟨ec, results, whole⟩
  · intro i ty n a errFn t found taken
    cases pairStep taken with
    | suspended _ _ _ _ a' found' fresh =>
      obtain rfl : a = a' := Option.some.inj (found.symm.trans found')
      exact inv.suspend_results found fresh errFn
  · intro i ty n a t found mEc taken
    cases pairStep taken with
    | stopped _ _ _ a' found' =>
      obtain rfl : a = a' := Option.some.inj (found.symm.trans found')
      exact inv.stop_results found mEc
  · intro idx t taken i ty n a found waits
    cases taken
    exact inv.close_results idx found waits
  · intro idx t fs u taken later i ty n a found unstarted
    cases taken
    exact inv.after_close idx later found unstarted

/-- A send of three bytes meets a receive of two; then the receiving end closes
while the rest of the send waits. -/
def partialRun : List Event :=
  [.await false .send [1, 2, 3] .live,
   .suspend false .send 0 none,
   .await true .recv [0, 0] .none,
   .suspend true .recv 0 none]

theorem localAsync_ok_partial : ∃ s t, Run step OneEach {} partialRun s ∧
    s.step (.close true) = some t ∧
    movedBytes (s.ops true .recv) = [1, 2] ∧ movedBytes (s.ops false .send) = [1, 2] ∧
    ∃ b, (t.ops false .send)[0]? = some b ∧ b.results = [((Code.remoteClosed : ErrorCode), 2)] := by
  have reached : (exec step OneEach {} partialRun).map (fun s =>
      (movedBytes (s.ops true .recv), s.slot false .send,
        ((s.ops false .send)[0]?).map Awaiter.moved)) = some ([1, 2], some 0, some [1, 2]) := by
    decide
  obtain ⟨s, result, facts⟩ := Option.map_eq_some_iff.mp reached
  simp only [Prod.mk.injEq, Option.map_eq_some_iff] at facts
  obtain ⟨recv, waits, a, found, moved⟩ := facts
  have ok := localAsync_ok (.of_exec result)
  obtain ⟨b, found', results⟩ := ok.closed true (s.close true) rfl false .send 0 a found waits
  refine ⟨s, s.close true, .of_exec result, rfl, recv, ?_, b, found', by simpa [moved, closeCode] using results⟩
  exact (ok.streams true).symm.trans recv

end LocalAsyncSocket
end Coproto
