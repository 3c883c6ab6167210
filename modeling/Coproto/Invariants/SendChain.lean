import Coproto.Invariants.SendStep
import Coproto.Lib.Linked

/-!
# The list of sends

SendOperation.h:109-124, SocketScheduler.h:568-626, 969-1026. As long as no send
is linked behind an operation that was erased, the list along `mNext` holds the
live sends in the order they were posted, and the send in progress is the front
of the list and of the queue of its slot.
-/
namespace Coproto

/-- A send is linked behind an operation that is no longer there. -/
def LosesSend (s : SockScheduler) : SockScheduler.Event → Prop
  | .send session data _ => (s.heldSlot session).isSome = true ∧ data.length ≠ 0 ∧
      s.mEC.isError = false ∧ s.tx.mSendTask.waits = false ∧
      s.tx.mSendBufferLast.any (fun last => (s.tx.ops last).isNone) = true
  | _ => False

instance (s : SockScheduler) (e : SockScheduler.Event) : Decidable (LosesSend s e) := by
  rcases e with ⟨⟩ <;> dsimp only [LosesSend] <;> infer_instance

namespace SendSide

/-- What `mPrev` of an operation holds. -/
def prev (tx : SendSide) (op : OpId) : Option OpId := (tx.ops op).bind SendOperation.mPrev

/-- An operation that is live and has been started. -/
def Started (tx : SendSide) (op : OpId) : Prop :=
  ∃ o, tx.ops op = some o ∧ o.mStatus ≠ .NotStarted

/-- The operation is the oldest of its slot. -/
def AtFront (tx : SendSide) (op : OpId) : Prop :=
  ∃ slot, tx.home op = some slot ∧ (tx.mSendOps slot).head? = some op

/-- `xs` is the list of the live operations. -/
structure Listed (tx : SendSide) (xs : List OpId) : Prop where
  chain : Linked.Chain tx.next tx.prev xs
  sorted : xs.Pairwise (· < ·)
  mem : ∀ {p : OpId}, p ∈ xs ↔ (tx.ops p).isSome = true

/-- The list between `mSendBufferBegin` and `mSendBufferLast`; the latter may be
left pointing at an operation that was erased. -/
structure ChainOk (tx : SendSide) (xs : List OpId) : Prop extends Listed tx xs where
  begin : tx.mSendBufferBegin = xs.head?
  waiting : ∀ p ∈ xs.tail, ∀ (o : SendOperation), tx.ops p = some o → o.mStatus = .NotStarted
  last : ∀ l, tx.mSendBufferLast = some l → (tx.ops l).isSome = true → xs.getLast? = some l
  ending : tx.mSendBufferLast = none → xs = []

variable {tx tx' : SendSide} {op p : OpId} {xs : List OpId} {slot nextOp slots : Nat}
  {ec mEC : ErrorCode}

/-! ## Links of single operations -/

theorem prev_modify {f : SendOperation → SendOperation} (ops : tx'.ops = tx.ops.modify op f)
    (same : ∀ o, (f o).mPrev = o.mPrev) (p : OpId) : tx'.prev p = tx.prev p := by
  unfold SendSide.prev
  rw [ops, Heap.modify_apply]
  split
  · cases tx.ops p <;> simp [same]
  · rfl

theorem next_congr (ops : tx'.ops = tx.ops) (p : OpId) : tx'.next p = tx.next p :=
  congrArg (fun heap : Heap SendOperation => (heap p).bind SendOperation.mNext) ops

theorem prev_congr (ops : tx'.ops = tx.ops) (p : OpId) : tx'.prev p = tx.prev p :=
  congrArg (fun heap : Heap SendOperation => (heap p).bind SendOperation.mPrev) ops

@[simp] theorem prev_setError (p : OpId) : (tx.setError op ec).prev p = tx.prev p :=
  prev_modify (f := fun o => { o with mError := some ec }) rfl (fun _ => rfl) p

@[simp] theorem prev_completeOn (p : OpId) : (tx.completeOn op).prev p = tx.prev p :=
  prev_modify (f := fun o => { o with mCH := false }) rfl (fun _ => rfl) p

theorem prev_setNext (next : Option OpId) (p : OpId) : (tx.setNext op next).prev p =
    if next = some p then (tx.ops p).bind fun _ => some op else tx.prev p := by
  unfold SendSide.prev
  rw [setNext_apply]
  by_cases target : next = some p
  · cases tx.ops p <;> simp [target]
  · cases tx.ops p <;> simp [target]

theorem next_erase (p : OpId) : (tx.erase slot op).next p = if p = op then none else tx.next p := by
  unfold SendSide.next
  by_cases same : p = op <;> simp [Heap.erase_apply, same]

theorem prev_erase (p : OpId) : (tx.erase slot op).prev p = if p = op then none else tx.prev p := by
  unfold SendSide.prev
  by_cases same : p = op <;> simp [Heap.erase_apply, same]

theorem isSome_setNext (next : Option OpId) (p : OpId) :
    ((tx.setNext op next).ops p).isSome = (tx.ops p).isSome := by
  rw [setNext_apply, Option.isSome_map]

/-! ## The list -/

namespace Listed

theorem nodup (listed : tx.Listed xs) : xs.Nodup := listed.sorted.imp Nat.ne_of_lt

theorem congr (listed : tx.Listed xs) (nexts : ∀ p ∈ xs, tx'.next p = tx.next p)
    (prevs : ∀ p ∈ xs, tx'.prev p = tx.prev p)
    (live : ∀ p, (tx'.ops p).isSome = (tx.ops p).isSome) : tx'.Listed xs :=
  ⟨listed.chain.congr nexts fun p tail => prevs p (List.mem_of_mem_tail tail), listed.sorted,
    by intro p; rw [live p, listed.mem]⟩

/-- A write that keeps both links of an operation. -/
theorem modify (listed : tx.Listed xs) {f : SendOperation → SendOperation}
    (ops : tx'.ops = tx.ops.modify op f) (next : ∀ o, (f o).mNext = o.mNext)
    (prev : ∀ o, (f o).mPrev = o.mPrev) : tx'.Listed xs := by
  refine listed.congr (fun p _ => next_modify ops next p) (fun p _ => prev_modify ops prev p) ?_
  intro p
  rw [ops, Heap.isSome_modify]

theorem setError (listed : tx.Listed xs) (op : OpId) (ec : ErrorCode) : (tx.setError op ec).Listed xs :=
  listed.modify rfl (fun _ => rfl) fun _ => rfl

theorem completeOn (listed : tx.Listed xs) (op : OpId) : (tx.completeOn op).Listed xs :=
  listed.modify rfl (fun _ => rfl) fun _ => rfl

/-- The first operation is erased; its own link may have been cleared before. -/
theorem pop (listed : tx.Listed (op :: xs)) (slot : Nat) : (tx.erase slot op).Listed xs := by
  have once := List.nodup_cons.mp listed.nodup
  have away : ∀ p ∈ xs, p ≠ op := by
    rintro p member rfl
    exact once.1 member
  refine ⟨listed.chain.tail.congr ?_ ?_, (List.pairwise_cons.mp listed.sorted).2, ?_⟩
  · intro p member
    rw [next_erase, if_neg (away p member)]
  · intro p tail
    rw [prev_erase, if_neg (away p (List.mem_of_mem_tail tail))]
  · intro p
    by_cases same : p = op
    · simp [same, once.1]
    · have old := listed.mem (p := p)
      simpa [same, Heap.erase_of_ne same] using old

/-- The first of the list is the oldest of its slot. -/
theorem front (listed : tx.Listed (op :: xs)) (queues : tx.QueuesOk nextOp slots) :
    tx.AtFront op := by
  obtain ⟨o, live⟩ := Option.isSome_iff_exists.mp (listed.mem.mp List.mem_cons_self)
  have home := home_eq_some live
  have member := queues.mem.mpr home
  refine ⟨o.mSocketFork, home, ?_⟩
  cases cells : tx.mSendOps o.mSocketFork with
  | nil => simp [cells] at member
  | cons first rest =>
    have le := queues.head_le cells home
    have inside : tx.home first = some o.mSocketFork :=
      queues.mem.mp (cells ▸ List.mem_cons_self)
    obtain ⟨a, live', _⟩ := Option.map_eq_some_iff.mp inside
    have ge : op ≤ first := by
      rcases List.mem_cons.mp (listed.mem.mpr (by simp [live'] : (tx.ops first).isSome = true)) with
        same | behind
      · exact same.ge
      · exact le_of_lt ((List.pairwise_cons.mp listed.sorted).1 first behind)
    rw [List.head?_cons, Nat.le_antisymm le ge]

/-- The queue of a slot is the list restricted to it. -/
theorem queue (listed : tx.Listed xs) (queues : tx.QueuesOk nextOp slots) (slot : Nat) :
    xs.filter (fun p => tx.home p = some slot) = tx.mSendOps slot := by
  refine queues.eq_of_mem_iff (listed.sorted.filter _) fun p => ?_
  simp only [List.mem_filter, decide_eq_true_eq, and_iff_right_iff_imp]
  intro home
  obtain ⟨o, live, _⟩ := Option.map_eq_some_iff.mp home
  exact listed.mem.mpr (by simp [live])

theorem length_le (listed : tx.Listed xs) (queues : tx.QueuesOk nextOp slots) :
    xs.length ≤ nextOp := by
  have bound : ∀ p ∈ xs, p < nextOp := by
    intro p member
    obtain ⟨o, live⟩ := Option.isSome_iff_exists.mp (listed.mem.mp member)
    exact (queues.bound (home_eq_some live)).1
  have inside : xs ⊆ List.range nextOp := fun p member => List.mem_range.mpr (bound p member)
  simpa using (listed.nodup.subperm inside).length_le

end Listed

/-- A front operation leaves its queue with a pop. -/
theorem AtFront.popFront (front : tx.AtFront op) : tx.popFront (tx.slotOf op) =
    tx.erase (tx.slotOf op) op := by
  obtain ⟨slot, home, head⟩ := front
  have here : tx.slotOf op = slot := (congrArg (Option.getD · 0) home).trans rfl
  rw [here]
  cases cells : tx.mSendOps slot with
  | nil => simp [cells] at head
  | cons first rest =>
    simp only [cells, List.head?_cons, Option.some.injEq] at head
    rw [← head]
    exact popFront_eq cells

/-- The first of the list fails and leaves. -/
theorem Listed.popFail (listed : tx.Listed (op :: xs)) (queues : tx.QueuesOk nextOp slots)
    (ec : ErrorCode) :
    tx.fail op ec = ((tx.setError op ec).completeOn op).erase (tx.slotOf op) op := by
  have marked := (listed.setError op ec).completeOn op
  have queues' : ((tx.setError op ec).completeOn op).QueuesOk nextOp slots :=
    (queues.setError op ec).completeOn op
  have slot : ((tx.setError op ec).completeOn op).slotOf op = tx.slotOf op :=
    slotOf_congr (by simp)
  rw [SendSide.fail, ← slot, (marked.front queues').popFront]

theorem Listed.fail (listed : tx.Listed (op :: xs)) (queues : tx.QueuesOk nextOp slots)
    (ec : ErrorCode) : (tx.fail op ec).Listed xs := by
  rw [listed.popFail queues]
  exact ((listed.setError op ec).completeOn op).pop _

/-- The drain meets the operations of the list in order and erases them all. -/
theorem Listed.drain (listed : tx.Listed xs) (queues : tx.QueuesOk nextOp slots) {n : Nat}
    (enough : xs.length ≤ n) (p : OpId) : (tx.drain n xs.head? ec).ops p = none := by
  induction xs generalizing tx n ec with
  | nil =>
    have dead : (tx.ops p).isSome ≠ true := fun live => by simpa using listed.mem.mpr live
    have same : tx.drain n none ec = tx := by cases n <;> rfl
    rw [List.head?_nil, same]
    exact Option.not_isSome_iff_eq_none.mp dead
  | cons op xs ih =>
    cases n with
    | zero => simp at enough
    | succ n =>
      rw [List.head?_cons, SendSide.drain, listed.chain.next_head]
      exact ih (listed.fail queues ec) queues.fail (Nat.le_of_succ_le_succ enough)

/-- `completePrev` on the oldest operation of a slot erases it and nothing else. -/
theorem finish_apply (front : tx.AtFront op) (ec : ErrorCode) (p : OpId) :
    (tx.finish op ec).ops p = if p = op then none else tx.ops p := by
  obtain ⟨m, marked⟩ : ∃ m, (if ec.isError then tx.setError op ec else tx).completeOn op = m :=
    ⟨_, rfl⟩
  have home : m.home op = tx.home op := by
    rw [← marked]
    split <;> simp
  have queues : m.mSendOps = tx.mSendOps := by
    rw [← marked]
    split <;> rfl
  have others : ∀ p, p ≠ op → m.ops p = tx.ops p := by
    intro p other
    rw [← marked]
    split <;> simp [Heap.modify_of_ne other]
  have cleared : (m.setNext op none).AtFront op := by
    obtain ⟨slot, here, head⟩ := front
    have head' : ((m.setNext op none).mSendOps slot).head? = some op := by
      rw [setNext_queues, queues, head]
    exact ⟨slot, (home_setNext none op).trans (home.trans here), head'⟩
  have slotSame : (m.setNext op none).slotOf op = tx.slotOf op :=
    slotOf_congr ((home_setNext none op).trans home)
  have ops : (tx.finish op ec).ops = ((m.setNext op none).erase (tx.slotOf op) op).ops := by
    rw [← slotSame, ← cleared.popFront, slotSame, ← marked]
    rfl
  rw [ops, erase_ops, Heap.erase_apply]
  by_cases same : p = op
  · rw [if_pos same, if_pos same]
  · rw [if_neg same, if_neg same, setNext_apply, ← others p same]
    cases m.ops p <;> simp [same]

namespace ChainOk

theorem congr (ok : tx.ChainOk xs) (ops : tx'.ops = tx.ops)
    (begin : tx'.mSendBufferBegin = tx.mSendBufferBegin)
    (last : tx'.mSendBufferLast = tx.mSendBufferLast) : tx'.ChainOk xs := by
  have next : tx'.next = tx.next := funext (next_congr ops)
  have prev : tx'.prev = tx.prev := funext (prev_congr ops)
  refine ⟨⟨by rw [next, prev]; exact ok.chain, ok.sorted, by rw [ops]; exact ok.mem⟩,
    begin.trans ok.begin, by rw [ops]; exact ok.waiting, by rw [ops, last]; exact ok.last,
    by rw [last]; exact ok.ending⟩

/-- A write that keeps the links of an operation, and the status of all but the
first one. -/
theorem modify (ok : tx.ChainOk xs) {f : SendOperation → SendOperation}
    (ops : tx'.ops = tx.ops.modify op f) (next : ∀ o, (f o).mNext = o.mNext)
    (prev : ∀ o, (f o).mPrev = o.mPrev)
    (status : op ∈ xs.tail → ∀ o, (f o).mStatus = o.mStatus)
    (begin : tx'.mSendBufferBegin = tx.mSendBufferBegin)
    (last : tx'.mSendBufferLast = tx.mSendBufferLast) : tx'.ChainOk xs := by
  refine ⟨ok.toListed.modify ops next prev, begin.trans ok.begin, fun p tail o live => ?_,
    fun l there live => ?_, by rw [last]; exact ok.ending⟩
  · rw [ops, Heap.modify_eq_some] at live
    obtain ⟨a, old, rfl⟩ := live
    have waits := ok.waiting p tail a old
    split
    · rename_i same
      rwa [status (same ▸ tail)]
    · exact waits
  · rw [ops, Heap.isSome_modify] at live
    exact ok.last l (last ▸ there) live

theorem setReg (ok : tx.ChainOk xs) (op : OpId) (reg : StopCallback) : (tx.setReg op reg).ChainOk xs :=
  ok.modify rfl (fun _ => rfl) (fun _ => rfl) (fun _ _ => rfl) rfl rfl

theorem setStatus (ok : tx.ChainOk (op :: xs)) (status : OpStatus) :
    (tx.setStatus op status).ChainOk (op :: xs) :=
  ok.modify rfl (fun _ => rfl) (fun _ => rfl)
    (fun tail => absurd tail (List.nodup_cons.mp ok.nodup).1) rfl rfl

theorem empty (none : ∀ p, tx.ops p = none) (begin : tx.mSendBufferBegin = .none)
    (last : tx.mSendBufferLast = .none) : tx.ChainOk [] :=
  ⟨⟨.nil, .nil, by intro p; simp [none]⟩, begin, by simp, by simp [last], fun _ => rfl⟩

/-- The first operation leaves; what follows has not been started. -/
theorem finish (ok : tx.ChainOk (op :: xs)) (queues : tx.QueuesOk nextOp slots) (ec : ErrorCode) :
    (tx.finish op ec).ChainOk xs ∧
      ∀ p ∈ xs, ∀ o, (tx.finish op ec).ops p = some o → o.mStatus = .NotStarted := by
  have front := ok.toListed.front queues
  have away : ∀ p ∈ xs, p ≠ op := by
    rintro p member rfl
    exact (List.nodup_cons.mp ok.nodup).1 member
  have rest : ∀ p, p ≠ op → (tx.finish op ec).ops p = tx.ops p := by
    intro p other
    rw [finish_apply front, if_neg other]
  have gone : (tx.finish op ec).ops op = none := by rw [finish_apply front, if_pos rfl]
  have next : ∀ p, p ≠ op → (tx.finish op ec).next p = tx.next p := by
    intro p other
    unfold SendSide.next
    rw [rest p other]
  have prev : ∀ p, p ≠ op → (tx.finish op ec).prev p = tx.prev p := by
    intro p other
    unfold SendSide.prev
    rw [rest p other]
  have step := ok.chain.next_head
  refine ⟨⟨⟨ok.chain.tail.congr (fun p member => next p (away p member))
    (fun p tail => prev p (away p (List.mem_of_mem_tail tail))),
    (List.pairwise_cons.mp ok.sorted).2, ?_⟩, step, ?_, ?_, ?_⟩, ?_⟩
  · intro p
    by_cases same : p = op
    · simp [same, gone, (List.nodup_cons.mp ok.nodup).1]
    · rw [rest p same, ← ok.mem]
      simp [same]
  · intro p tail o live
    have member := List.mem_of_mem_tail tail
    rw [rest p (away p member)] at live
    exact ok.waiting p member o live
  · intro l there live
    have other : l ≠ op := by
      rintro rfl
      simp [gone] at live
    have there' : tx.mSendBufferLast = some l := by
      simp only [SendSide.finish] at there
      split at there
      · cases there
      · exact there
    rw [rest l other] at live
    have final := ok.last l there' live
    cases xs with
    | nil => exact absurd (by simpa using final.symm) other
    | cons x xs => rwa [List.getLast?_cons_cons] at final
  · intro none
    simp only [SendSide.finish] at none
    split at none
    · rename_i alone
      rw [step] at alone
      exact List.head?_eq_none_iff.mp alone
    · cases ok.ending none
  · intro p member o live
    rw [rest p (away p member)] at live
    exact ok.waiting p member o live

/-- A send that has not been started leaves the list, wherever it is. -/
theorem cut (ok : tx.ChainOk xs) (tail : op ∈ xs.tail) {o : SendOperation}
    (live : tx.ops op = some o) {o' : SendOperation} (next : o'.mNext = o.mNext)
    (prev : o'.mPrev = o.mPrev) : (tx.cut op o').ChainOk (xs.erase op) := by
  obtain ⟨as, a, bs, rfl⟩ := Linked.exists_before tail
  have once := ok.nodup
  have before : tx.prev op = some a := ok.chain.prev_inner
  have link : o'.mPrev = some a := by simpa [SendSide.prev, live, prev] using before
  have follows : o'.mNext = tx.next op := by simp [SendSide.next, live, next]
  have erased : (as ++ a :: op :: bs).erase op = as ++ a :: bs := by
    have split := List.nodup_append.mp once
    have notFront : op ∉ as := fun member => split.2.2 op member op (by simp) rfl
    have other : a ≠ op := by
      rintro rfl
      exact (List.nodup_cons.mp split.2.1).1 (by simp)
    rw [List.erase_append_right _ notFront, List.erase_cons_tail (by simpa using other),
      List.erase_cons_head]
  obtain ⟨m, marked⟩ : ∃ m, (tx.setError op Code.operation_aborted).completeOn op = m := ⟨_, rfl⟩
  have nextM : ∀ p, m.next p = tx.next p := by
    intro p
    rw [← marked, next_completeOn, next_setError]
  have prevM : ∀ p, m.prev p = tx.prev p := by
    intro p
    rw [← marked, prev_completeOn, prev_setError]
  have liveM : ∀ p, (m.ops p).isSome = (tx.ops p).isSome := by
    intro p
    rw [← marked]
    simp
  have statusM : ∀ p b, m.ops p = some b → ∃ b', tx.ops p = some b' ∧ b.mStatus = b'.mStatus := by
    intro p b there
    rw [← marked] at there
    obtain ⟨c, first, rfl⟩ := Heap.modify_eq_some.mp there
    obtain ⟨d, second, rfl⟩ := Heap.modify_eq_some.mp first
    refine ⟨d, second, ?_⟩
    by_cases same : p = op <;> simp [same]
  obtain ⟨u, result⟩ : ∃ u, tx.cut op o' = u := ⟨_, rfl⟩
  have shape : u.ops = ((m.setNext a (tx.next op)).erase o'.mSocketFork op).ops := by
    rw [← result, SendSide.cut, link, follows, marked]
  have beginU : u.mSendBufferBegin = tx.mSendBufferBegin := by
    rw [← result]
    exact cut_mSendBufferBegin o'
  have lastU : u.mSendBufferLast = tx.mSendBufferLast := by
    rw [← result, SendSide.cut, link]
    rfl
  have nextU : ∀ p, u.next p = if p = op then none else
      if p = a then (m.ops a).bind fun _ => tx.next op else tx.next p := by
    intro p
    rw [next_congr shape, next_erase, next_setNext, nextM]
  have prevU : ∀ p, u.prev p = if p = op then none else
      if tx.next op = some p then (m.ops p).bind fun _ => some a else tx.prev p := by
    intro p
    rw [prev_congr shape, prev_erase, prev_setNext, prevM]
  have liveU : ∀ p, (u.ops p).isSome = true ↔ p ≠ op ∧ (tx.ops p).isSome = true := by
    intro p
    rw [shape, erase_ops, Heap.erase_apply]
    by_cases same : p = op
    · simp [same]
    · rw [if_neg same, isSome_setNext, liveM]
      simp [same]
  have statusU : ∀ p b, u.ops p = some b → ∃ b', tx.ops p = some b' ∧ b.mStatus = b'.mStatus := by
    intro p b there
    rw [shape, erase_ops, Heap.erase_apply] at there
    split at there
    · cases there
    · rw [setNext_apply, Option.map_eq_some_iff] at there
      obtain ⟨c, old, rfl⟩ := there
      exact statusM p c old
  have liveA : ∃ c, m.ops a = some c := by
    rw [← Option.isSome_iff_exists, liveM]
    exact ok.mem.mp (by simp)
  obtain ⟨c, here⟩ := liveA
  have otherA : a ≠ op := by
    rintro rfl
    exact (List.nodup_cons.mp (List.nodup_append.mp once).2.1).1 (by simp)
  rw [result, erased]
  have fewer : List.Sublist (as ++ a :: bs) (as ++ a :: op :: bs) :=
    List.Sublist.append_left ((List.sublist_cons_self op bs).cons_cons a) as
  have listed : u.Listed (as ++ a :: bs) := by
    refine ⟨?_, ok.sorted.sublist fewer, ?_⟩
    · refine ok.chain.unlink once ?_ (fun d step => ?_) (fun p _ other gone => ?_) fun p _ gone away => ?_
      · rw [nextU, if_neg otherA, if_pos rfl, here]
        rfl
      · have member : d ∈ bs := by
          have whole : Linked.Chain tx.next tx.prev ((as ++ [a]) ++ op :: bs) := by
            simpa using ok.chain
          have after := whole.suffix.next_head
          rw [after] at step
          exact List.mem_of_head? step
        have notOp : d ≠ op := by
          rintro rfl
          exact (List.nodup_cons.mp (List.nodup_cons.mp (List.nodup_append.mp once).2.1).2).1 member
        obtain ⟨e, there⟩ := Option.isSome_iff_exists.mp
          ((liveM d).trans (ok.mem.mp (by simp [member] : d ∈ as ++ a :: op :: bs)))
        rw [prevU, if_neg notOp, if_pos step, there]
        rfl
      · rw [nextU, if_neg gone, if_neg other]
      · rw [prevU, if_neg gone, if_neg away]
    · intro p
      rw [liveU, ← ok.mem]
      have absent : op ∉ as ++ a :: bs := by
        rw [← erased]
        exact fun member => (once.mem_erase_iff.mp member).1 rfl
      by_cases same : p = op
      · simp [same, absent]
      · simp [same]
  refine ⟨listed, ?_, ?_, ?_, ?_⟩
  · rw [beginU, ok.begin]
    cases as <;> rfl
  · intro p tail' b there
    obtain ⟨b', old, same⟩ := statusU p b there
    rw [same]
    refine ok.waiting p ?_ b' old
    cases as with
    | nil => exact List.mem_cons_of_mem _ tail'
    | cons x as =>
      have inside : p ∈ as ++ a :: bs := tail'
      show p ∈ as ++ a :: op :: bs
      simp only [List.mem_append, List.mem_cons] at inside ⊢
      exact inside.imp_right (Or.imp_right .inr)
  · intro l there live'
    rw [lastU] at there
    obtain ⟨notOp, old⟩ := (liveU l).mp live'
    have final := ok.last l there old
    cases bs with
    | nil => exact absurd (by simpa using final.symm) notOp
    | cons c cs => simpa using final
  · intro none
    rw [lastU] at none
    cases as <;> cases ok.ending none

/-- A posted send is linked behind the last one. -/
theorem link (ok : tx.ChainOk xs) {l : OpId} (last : tx.mSendBufferLast = some l)
    (live : (tx.ops l).isSome = true) (fresh : tx.ops op = none) (newest : ∀ p ∈ xs, p < op)
    {o : SendOperation} (next : o.mNext = none) (status : o.mStatus = .NotStarted) :
    ((tx.pushBack slot op o).link op).ChainOk (xs ++ [op]) := by
  have final := ok.last l last live
  have other : l ≠ op := by
    rintro rfl
    simp [fresh] at live
  have absent : op ∉ xs := fun member => Nat.lt_irrefl _ (newest op member)
  obtain ⟨m, placed⟩ : ∃ m, tx.pushBack slot op o = m := ⟨_, rfl⟩
  have opsM : ∀ p, m.ops p = if p = op then some o else tx.ops p := by
    intro p
    rw [← placed, pushBack_ops, Heap.set_apply]
  have lastM : m.mSendBufferLast = some l := by rw [← placed]; exact last
  obtain ⟨u, linked⟩ : ∃ u, m.link op = u := ⟨_, rfl⟩
  have shape : u = { m.setNext l (some op) with mSendBufferLast := some op } := by
    rw [← linked, SendSide.link, lastM]
  have nextU : ∀ p, u.next p = if p = l then some op else if p = op then none else tx.next p := by
    intro p
    have same : u.ops = (m.setNext l (some op)).ops := by rw [shape]
    rw [next_congr same, next_setNext]
    obtain ⟨b, there⟩ := Option.isSome_iff_exists.mp live
    have thereM : m.ops l = some b := by rw [opsM, if_neg other, there]
    by_cases here : p = l
    · rw [if_pos here, if_pos here, thereM]
      rfl
    · rw [if_neg here, if_neg here]
      unfold SendSide.next
      rw [opsM]
      split
      · exact next
      · rfl
  have prevU : ∀ p, u.prev p = if p = op then some l else tx.prev p := by
    intro p
    have same : u.ops = (m.setNext l (some op)).ops := by rw [shape]
    rw [prev_congr same, prev_setNext, opsM]
    by_cases same : p = op
    · subst same
      simp
    · rw [if_neg (by simpa using Ne.symm same), if_neg same]
      unfold SendSide.prev
      rw [opsM, if_neg same]
  have opsU : ∀ p, p ≠ op → ∀ b, u.ops p = some b → ∃ b', tx.ops p = some b' ∧
      b.mStatus = b'.mStatus := by
    intro p away b there
    rw [shape] at there
    have there' : (m.setNext l (some op)).ops p = some b := there
    rw [setNext_apply, opsM, if_neg away, Option.map_eq_some_iff] at there'
    obtain ⟨b', old, rfl⟩ := there'
    exact ⟨b', old, rfl⟩
  have liveU : ∀ p, (u.ops p).isSome = true ↔ p = op ∨ (tx.ops p).isSome = true := by
    intro p
    have same : u.ops p = (m.setNext l (some op)).ops p := by rw [shape]
    rw [same, isSome_setNext, opsM]
    by_cases here : p = op <;> simp [here]
  rw [placed, linked]
  refine ⟨⟨?_, ?_, ?_⟩, ?_, ?_, ?_, ?_⟩
  · refine ok.chain.push absent ok.nodup final ?_ ⟨?_, ?_⟩ (fun p member away => ?_) fun p member => ?_
    · rw [nextU, if_neg (Ne.symm other), if_pos rfl]
    · rw [nextU, if_pos rfl]
    · rw [prevU, if_pos rfl]
    · have notOp : p ≠ op := fun same => absent (same ▸ member)
      rw [nextU, if_neg away, if_neg notOp]
    · have notOp : p ≠ op := fun same => absent (same ▸ member)
      rw [prevU, if_neg notOp]
  · refine List.pairwise_append.mpr ⟨ok.sorted, List.pairwise_singleton _ _, fun p member q tail => ?_⟩
    rw [List.mem_singleton.mp tail]
    exact newest p member
  · intro p
    rw [liveU, ← ok.mem]
    simp [or_comm]
  · have begin : u.mSendBufferBegin = tx.mSendBufferBegin := by
      rw [shape, ← placed]
      rfl
    rw [begin, ok.begin]
    cases xs with
    | nil => cases final
    | cons x xs => rfl
  · intro p tail b there
    by_cases same : p = op
    · subst same
      have there' : (m.setNext l (some p)).ops p = some b := by rw [shape] at there; exact there
      rw [setNext_apply, opsM, if_pos rfl, Option.map_some, Option.some.injEq] at there'
      rw [← there']
      exact status
    · obtain ⟨b', old, eq⟩ := opsU p same b there
      rw [eq]
      refine ok.waiting p ?_ b' old
      cases xs with
      | nil => cases final
      | cons x xs =>
        have inside : p ∈ xs ++ [op] := tail
        exact (List.mem_append.mp inside).resolve_right (by simpa using same)
  · intro l' there _
    have here : op = l' := by
      rw [shape] at there
      exact Option.some.inj there
    rw [List.getLast?_concat, here]
  · intro none
    rw [shape] at none
    cases none

end ChainOk

/-! ## The front of the list -/

/-- The list of the live sends, the first of them in progress. -/
structure Chained (tx : SendSide) : Prop where
  chain : ∃ xs, tx.ChainOk xs
  fronted : ∀ p, tx.mSendBufferBegin = some p → tx.Started p

/-- A write to other operations, or one that leaves an operation started. -/
theorem Started.modify (started : tx.Started p) {f : SendOperation → SendOperation}
    (ops : tx'.ops = tx.ops.modify op f)
    (keeps : ∀ o, o.mStatus ≠ .NotStarted → (f o).mStatus ≠ .NotStarted) : tx'.Started p := by
  obtain ⟨o, live, status⟩ := started
  by_cases same : p = op
  · refine ⟨f o, ?_, keeps o status⟩
    rw [ops, same, Heap.modify_self, ← same, live]
    rfl
  · exact ⟨o, by rw [ops, Heap.modify_of_ne same, live], status⟩

theorem Started.setNext (started : tx.Started p) (op : OpId) (next : Option OpId) :
    (tx.setNext op next).Started p := by
  obtain ⟨o, live, status⟩ := started
  refine ⟨{ o with
    mNext := if p = op then next else o.mNext
    mPrev := if next = some p then some op else o.mPrev }, ?_, status⟩
  rw [setNext_apply, live]
  rfl

theorem Started.cut (started : tx.Started p) (other : p ≠ op) (o : SendOperation) :
    (tx.cut op o).Started p := by
  have failed : (tx.setError op Code.operation_aborted).Started p :=
    started.modify rfl fun _ kept => kept
  have done : ((tx.setError op Code.operation_aborted).completeOn op).Started p :=
    failed.modify rfl fun _ kept => kept
  have erased (u : SendSide) (left : u.Started p) : (u.erase o.mSocketFork op).Started p := by
    obtain ⟨b, live, status⟩ := left
    exact ⟨b, by rw [erase_ops, Heap.erase_of_ne other, live], status⟩
  unfold SendSide.cut
  cases o.mPrev with
  | none => exact erased _ done
  | some prev => exact erased _ (done.setNext prev o.mNext)

theorem Chained.congr (ok : tx.Chained) (ops : tx'.ops = tx.ops)
    (begin : tx'.mSendBufferBegin = tx.mSendBufferBegin)
    (last : tx'.mSendBufferLast = tx.mSendBufferLast) : tx'.Chained := by
  obtain ⟨xs, chain⟩ := ok.chain
  refine ⟨⟨xs, chain.congr ops begin last⟩, fun p front => ?_⟩
  obtain ⟨o, live, status⟩ := ok.fronted p (begin ▸ front)
  exact ⟨o, by rw [ops, live], status⟩

/-- What has not been started is not the first. -/
theorem Chained.waits (ok : tx.Chained) (chain : tx.ChainOk xs) {o : SendOperation}
    (live : tx.ops op = some o) (idle : o.mStatus = .NotStarted) : op ∈ xs.tail := by
  have member : op ∈ xs := chain.mem.mpr (by simp [live])
  cases xs with
  | nil => cases member
  | cons x xs =>
    rcases List.mem_cons.mp member with rfl | tail
    · obtain ⟨o', live', status⟩ := ok.fronted op chain.begin
      rw [live, Option.some.injEq] at live'
      exact absurd (live' ▸ idle) status
    · exact tail

theorem Chained.stop (ok : tx.Chained) (op : OpId) (failed : Bool) : (tx.stop op failed).Chained := by
  obtain ⟨m, marked⟩ : ∃ m, (tx.log (.stopRequested op failed)).setReg op .invoked = m := ⟨_, rfl⟩
  have opsM : m.ops = tx.ops.modify op fun o => { o with mReg := .invoked } := by rw [← marked]; rfl
  have beginM : m.mSendBufferBegin = tx.mSendBufferBegin := by rw [← marked]; rfl
  have startedM : ∀ p, tx.Started p → m.Started p := fun p started =>
    started.modify opsM fun _ kept => kept
  obtain ⟨xs, chain⟩ := ok.chain
  have chainM : m.ChainOk xs := by
    refine chain.modify opsM (fun _ => rfl) (fun _ => rfl) (fun _ _ => rfl) beginM ?_
    rw [← marked]
    rfl
  have task : (tx.stop op failed).mSendBufferBegin = tx.mSendBufferBegin :=
    tx.stop_mSendBufferBegin failed
  unfold SendSide.stop at task ⊢
  cases live : tx.ops op with
  | none => exact ok
  | some o =>
    by_cases idle : o.mStatus = .NotStarted
    · have tail := ok.waits chain live idle
      have liveM : m.ops op = some { o with mReg := .invoked } := by simp [opsM, live]
      simp only [live, idle, if_true, abort, marked] at task ⊢
      refine ⟨⟨_, chainM.cut tail liveM rfl rfl⟩, fun p front => ?_⟩
      rw [task] at front
      have other : p ≠ op := by
        rintro rfl
        obtain ⟨o', live', status⟩ := ok.fronted p front
        rw [live, Option.some.injEq] at live'
        exact status (live' ▸ idle)
      exact (startedM p (ok.fronted p front)).cut other _
    · simp only [live, idle, if_false] at task ⊢
      have ops : (tx.halt op failed).ops = m.ops.modify op fun o => { o with mStatus := .Canceling } := by
        rw [← marked]
        rfl
      refine ⟨⟨xs, chainM.modify ops (fun _ => rfl) (fun _ => rfl) (fun tail => ?_) ?_ ?_⟩,
        fun p front => ?_⟩
      · exact absurd (chain.waiting op tail o live) idle
      · rw [← marked]
        rfl
      · rw [← marked]
        rfl
      · exact (startedM p (ok.fronted p front)).modify ops fun _ _ => by simp

theorem Chained.arm (ok : tx.Chained) (op : OpId) (token : StopToken) : (tx.arm op token).Chained := by
  have marked : (tx.setReg op .registered).Chained := by
    obtain ⟨xs, chain⟩ := ok.chain
    exact ⟨⟨xs, chain.setReg op _⟩, fun p front =>
      (ok.fronted p front).modify rfl fun _ kept => kept⟩
  cases token with
  | none => exact ok
  | live => exact marked
  | stopped => exact marked.stop op false

/-- A posted send becomes the list of a parked task, or its last element. -/
theorem Chained.enqueue (ok : tx.Chained) (flags : tx.FlagsOk) (task : tx.TaskOk mEC)
    (queues : tx.QueuesOk nextOp slots)
    (kept : tx.mSendTask.waits = false → ∀ l, tx.mSendBufferLast = some l → (tx.ops l).isSome = true)
    (running : tx.mSendTask.waits = false → tx.mSendBufferLast ≠ none)
    (slot : Nat) (data : List UInt8) : (tx.enqueue slot nextOp data).Chained := by
  obtain ⟨xs, chain⟩ := ok.chain
  have newest : ∀ p o, tx.ops p = some o → p < nextOp := fun p o live =>
    (queues.bound (home_eq_some live)).1
  have fresh : tx.ops nextOp = none := by
    refine Option.eq_none_iff_forall_ne_some.mpr fun o live => ?_
    exact Nat.lt_irrefl _ (newest _ o live)
  have flag : (tx.pushBack slot nextOp { mSendBuffer := data, mSocketFork := slot }).mNextSendOp =
    tx.mSendTask.waits := flags
  unfold SendSide.enqueue
  dsimp only
  rw [flag]
  cases waits : tx.mSendTask.waits with
  | true =>
    have begin : tx.mSendBufferBegin = none := by
      unfold TaskOk at task
      unfold SendTask.waits at waits
      split at waits <;> simp_all
    have none : xs = [] := List.head?_eq_none_iff.mp (chain.begin.symm.trans begin)
    subst none
    have dead : ∀ p, tx.ops p = none := fun p =>
      Option.not_isSome_iff_eq_none.mp fun live => by simpa using chain.mem.mpr live
    rw [if_pos rfl]
    refine ⟨⟨[nextOp], ⟨⟨.single ?_, List.pairwise_singleton _ _, ?_⟩, rfl, by simp, ?_, ?_⟩⟩,
      fun p front => ?_⟩
    · simp [SendSide.next]
    · intro p
      by_cases same : p = nextOp
      · simp [same]
      · simp [Heap.set_of_ne same, Heap.modify_of_ne same, dead, same]
    · intro l there _
      cases there
      rfl
    · intro none
      cases none
    · cases front
      exact ⟨{ mSendBuffer := data, mSocketFork := slot, mStatus := .InProgress }, by simp, by simp⟩
  | false =>
    rw [if_neg (by simp)]
    obtain ⟨l, last⟩ := Option.ne_none_iff_exists'.mp (running waits)
    have live := kept waits l last
    refine ⟨⟨_, chain.link last live fresh (fun p member => ?_) rfl rfl⟩, fun p front => ?_⟩
    · obtain ⟨o, there⟩ := Option.isSome_iff_exists.mp (chain.mem.mp member)
      exact newest p o there
    · have lastM : (tx.pushBack slot nextOp
          { mSendBuffer := data, mSocketFork := slot }).mSendBufferLast = some l := last
      rw [SendSide.link, lastM] at front ⊢
      have started := ok.fronted p front
      have other : p ≠ nextOp := by
        rintro rfl
        obtain ⟨o, there, _⟩ := started
        simp [fresh] at there
      have placed : (tx.pushBack slot nextOp
          { mSendBuffer := data, mSocketFork := slot }).Started p := by
        obtain ⟨o, there, status⟩ := started
        exact ⟨o, by rw [pushBack_ops, Heap.set_of_ne other, there], status⟩
      obtain ⟨o, there, status⟩ := placed.setNext l (some nextOp)
      exact ⟨o, there, status⟩

/-- The send in progress is done. -/
theorem Chained.await (chain : tx.ChainOk (op :: xs)) (queues : tx.QueuesOk nextOp slots)
    (awaits : (tx.finish op ec).Await mEC nextOp ec tx') : tx'.Chained := by
  obtain ⟨rest, waiting⟩ := chain.finish queues ec
  have queues' : (tx.finish op ec).QueuesOk nextOp slots := queues.finish
  cases awaits with
  | shut failed =>
    obtain ⟨code, chosen⟩ : ∃ code, (if ec.isError then ErrorCode.coproto .cancel else ec) = code :=
      ⟨_, rfl⟩
    rw [chosen]
    have listed : (tx.finish op ec).closing.Listed xs :=
      rest.toListed.congr (fun _ _ => rfl) (fun _ _ => rfl) fun _ => rfl
    have closing : (tx.finish op ec).closing.QueuesOk nextOp slots := queues'.congr rfl fun _ => rfl
    have none : ∀ p, ((tx.finish op ec).shut nextOp code).ops p = none := by
      intro p
      have drained : ((tx.finish op ec).closing.drain nextOp xs.head? code).ops p = .none :=
        listed.drain closing (rest.toListed.length_le queues') p
      rw [← rest.begin] at drained
      exact drained
    obtain ⟨_, _, _, shape⟩ := (tx.finish op ec).close_shape nextOp code
    have begin : ((tx.finish op ec).shut nextOp code).mSendBufferBegin = .none := by
      rw [shut, shape]
    refine ⟨⟨[], .empty none begin (by rw [shut, shape])⟩, fun p front => ?_⟩
    rw [begin] at front
    cases front
  | take p ok begin =>
    obtain ⟨ys, rfl⟩ : ∃ ys, xs = p :: ys := by
      rw [rest.begin] at begin
      exact List.head?_eq_some_iff.mp begin
    have taken : ((tx.finish op ec).take p).ChainOk (p :: ys) :=
      (rest.setStatus .InProgress).congr rfl rfl rfl
    refine ⟨⟨_, taken⟩, fun q front => ?_⟩
    have here : p = q := Option.some.inj (begin.symm.trans front)
    obtain ⟨o, live⟩ := Option.isSome_iff_exists.mp (rest.mem.mp List.mem_cons_self)
    subst here
    exact ⟨{ o with mStatus := .InProgress }, by simp [live], by simp⟩
  | park ok begin =>
    refine ⟨⟨xs, rest.congr rfl rfl rfl⟩, fun q front => ?_⟩
    rw [park_mSendBufferBegin, begin] at front
    cases front

/-- The operation of a transport call in flight is the first of the list. -/
theorem Chained.sending (ok : tx.Chained) (task : tx.TaskOk mEC) {part : SendPart} {token : StopId}
    (sending : tx.mSendTask = .sending part op token) : ∃ xs, tx.ChainOk (op :: xs) := by
  obtain ⟨xs, chain⟩ := ok.chain
  have begin := chain.begin
  simp only [SendSide.TaskOk, sending] at task
  rw [task.2] at begin
  obtain ⟨ys, rfl⟩ := List.head?_eq_some_iff.mp begin.symm
  exact ⟨ys, chain⟩

end SendSide

/-! ## Steps -/

namespace SockScheduler
variable {s t : SockScheduler}

theorem chained_sendStep {e : Event} (inv : SendInv s) (chained : s.tx.Chained)
    (met : ¬ LosesSend s e) (step : SendStep s e t) : t.tx.Chained := by
  cases step with
  | quiet tx mEC nextOp => exact tx ▸ chained
  | woken tx first failed nextOp =>
    rw [tx]
    exact chained.congr SendSide.wakeError_ops SendSide.wakeError_mSendBufferBegin
      SendSide.wakeError_mSendBufferLast
  | rejected session data token ec error tx mEC nextOp =>
    rw [tx]
    exact chained.congr rfl rfl rfl
  | posted session data token slot held full ok tx mEC nextOp =>
    rw [tx]
    have logged : (s.tx.log (.posted s.nextOp session data)).Chained := chained.congr rfl rfl rfl
    refine (logged.enqueue inv.flags inv.task (inv.queues.congr rfl fun _ => rfl) ?_ ?_ slot data).arm
      _ token
    · intro busy l last
      by_contra dead
      refine met ⟨by rw [held]; rfl, full, ok, busy, ?_⟩
      have last' : s.tx.mSendBufferLast = some l := last
      rw [last']
      simpa using dead
    · intro busy none
      obtain ⟨xs, chain⟩ := chained.chain
      have empty := chain.ending none
      have begin := chain.begin
      have task := inv.task
      rw [empty] at begin
      have busy' : s.tx.mSendTask.waits = false := busy
      unfold SendSide.TaskOk at task
      unfold SendTask.waits at busy'
      split at task <;> simp_all
  | stopped op armed tx mEC nextOp =>
    rw [tx]
    exact chained.stop op _
  | closed e task tx mEC nextOp =>
    rw [tx]
    exact chained.congr rfl rfl rfl
  | started op part task opening tx mEC nextOp =>
    rw [tx]
    exact chained.congr rfl rfl rfl
  | advanced part part' op token task x call full follows tx mEC nextOp =>
    rw [tx]
    exact chained.congr rfl rfl rfl
  | finished part op token task x call reason awaits mEC nextOp =>
    obtain ⟨ys, chain⟩ := chained.sending inv.task task
    have logged : (s.tx.log (.xfer op part x)).ChainOk (op :: ys) := chain.congr rfl rfl rfl
    exact SendSide.Chained.await logged (inv.queues.congr rfl fun _ => rfl) awaits

theorem chained_init (sid : SessionID) : (init sid).tx.Chained := by
  rw [BaseInv.init_eq]
  exact ⟨⟨[], .empty (fun _ => rfl) rfl rfl⟩, fun p front => by cases front⟩

/-- The operation a transport call of the send task is made for. -/
theorem sending_front (inv : SendInv s) (chained : s.tx.Chained) {part : SendPart} {op : OpId}
    {token : StopId} (task : s.tx.mSendTask = .sending part op token) : s.tx.AtFront op := by
  obtain ⟨ys, chain⟩ := chained.sending inv.task task
  exact chain.toListed.front inv.queues

end SockScheduler

end Coproto
