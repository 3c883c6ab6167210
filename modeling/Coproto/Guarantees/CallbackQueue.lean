import Coproto.Lib.Ring
import Coproto.Lib.Runs
import Coproto.Source.CBQueue

/-!
# CBQueue as a FIFO list

Executor.h:89-116, 136-175. As long as nothing is pushed on a full queue, every
`CBQueue` is a list, through moves and swaps. A push on a full queue copies
nothing, since the loop starts where it ends, and writes through the old mask.
-/
namespace Coproto
open Runs

/-- A callback is pushed on a queue that is full. -/
def PushesFull {α : Type} (s : NamedQueues (CBQueue α) α) : QueueEvent α → Prop
  | .pushBack i _ => ∃ q ∈ s.queues i, q.size = q.capacity
  | _ => False

instance {α : Type} (s : NamedQueues (CBQueue α) α) (e : QueueEvent α) :
    Decidable (PushesFull s e) := by
  cases e <;> unfold PushesFull <;> infer_instance

/-! ## The queue a caller has in mind -/

namespace Fifo
variable {α : Type}

/-- The same calls on lists. -/
def step (s : NamedQueues (List α) α) : QueueEvent α → Option (NamedQueues (List α) α)
  | .construct i => if s.queues i = none then some (s.put i []) else none
  | .pushBack i x => (s.queues i).map fun xs => s.put i (xs ++ [x])
  | .popFront i => (s.queues i).map fun xs =>
    match xs with
    | x :: xs => (s.put i xs).emit (.popped i x)
    | [] => s.emit (.thrown i)
  | .size i => (s.queues i).map fun xs => s.emit (.sized i xs.length)
  | .moveConstruct i j =>
    if s.queues i = none then (s.queues j).map fun xs => (s.put i xs).put j [] else none
  | .moveAssign i j =>
    if i ≠ j then (s.queues i).bind fun _ => (s.queues j).map fun ys => (s.put i ys).put j []
    else none
  | .swap i j =>
    (s.queues i).bind fun xs => (s.queues j).map fun ys => (s.put i ys).put j xs

end Fifo

/-! ## One queue -/

namespace CBQueue
variable {α : Type} [Inhabited α] {q o : CBQueue α} (moved : α → α)

/-- The cells of the inline array, as a ring of eight. -/
def inlineCells (q : CBQueue α) (i : Nat) : α := q.mArrayBacking.toArray.getD i default

/-- The elements, oldest first. -/
def contents (q : CBQueue α) : List α :=
  Ring.contents q.inlineCells 8 q.mTail.toNat q.size.toNat

/-- The queue is in its inline array and holds at most eight elements. -/
structure Inline (q : CBQueue α) : Prop where
  storage : q.mVec = .mArrayBacking
  bound : q.size.toNat ≤ 8

omit [Inhabited α] in
theorem Inline.size_cells (small : Inline q) : q.cells.size = 8 := by
  simp [cells, small.storage]

omit [Inhabited α] in
theorem Inline.capacity_eq (small : Inline q) : q.capacity = 8 := by
  simp [capacity, small.size_cells]

omit [Inhabited α] in
/-- `x & 7` is `x` modulo the eight cells. -/
theorem Inline.index (small : Inline q) (x : UInt64) : (x &&& q.mask).toNat = x.toNat % 8 := by
  have mask : q.mask = 7 := by rw [mask, small.capacity_eq]; rfl
  rw [mask, UInt64.toNat_and]
  exact Nat.and_two_pow_sub_one_eq_mod x.toNat 3

theorem inlineCells_store (small : Inline q) {i : Nat} (inside : i < 8) (x : α) :
    (q.store i x).inlineCells = Ring.write q.inlineCells i x := by
  funext j
  simp only [store, small.storage, inlineCells, Ring.write]
  by_cases here : j = i
  · subst here
    simp [Array.getD_eq_getD_getElem?, inside]
  · simp [Array.getD_eq_getD_getElem?, here, Array.getElem?_setIfInBounds_ne, Ne.symm here]

theorem empty_inline : Inline (empty : CBQueue α) := ⟨rfl, by simp [empty, size]⟩

@[simp] theorem contents_empty : (empty : CBQueue α).contents = [] := by
  simp [contents, empty, size]

theorem length_contents : q.contents.length = q.size.toNat := by simp [contents]

omit [Inhabited α] in
theorem size_eq_iff (c : UInt64) : q.mHead = q.mTail + c ↔ q.size = c := by
  unfold size
  rw [← UInt64.toNat_inj, ← UInt64.toNat_inj, UInt64.toNat_sub, UInt64.toNat_add]
  have head := q.mHead.toNat_lt
  have tail := q.mTail.toNat_lt
  have count := c.toNat_lt
  omega

omit [Inhabited α] in
/-- The head counter, modulo the cells, is as many cells behind the tail as
there are elements. -/
theorem head_mod (q : CBQueue α) : q.mHead.toNat % 8 = (q.mTail.toNat + q.size.toNat) % 8 := by
  unfold size
  rw [UInt64.toNat_sub]
  have head := q.mHead.toNat_lt
  have tail := q.mTail.toNat_lt
  omega

/-- One more element, as long as the counters do not meet again. -/
theorem toNat_succ_sub (head tail : UInt64) (less : (head - tail).toNat < 8) :
    (head + 1 - tail).toNat = (head - tail).toNat + 1 := by
  rw [UInt64.toNat_sub] at less ⊢
  rw [UInt64.toNat_sub, UInt64.toNat_add]
  have headLt := head.toNat_lt
  have tailLt := tail.toNat_lt
  have one : (1 : UInt64).toNat = 1 := rfl
  omega

theorem toNat_sub_succ (head tail : UInt64) (positive : 0 < (head - tail).toNat) :
    (head - (tail + 1)).toNat + 1 = (head - tail).toNat := by
  rw [UInt64.toNat_sub] at positive ⊢
  rw [UInt64.toNat_sub, UInt64.toNat_add]
  have headLt := head.toNat_lt
  have tailLt := tail.toNat_lt
  have one : (1 : UInt64).toNat = 1 := rfl
  omega

theorem pushBack_spec (small : Inline q) (room : q.size ≠ q.capacity) (x : α) :
    Inline (q.pushBack x) ∧ (q.pushBack x).contents = q.contents ++ [x] := by
  have bound := small.bound
  have less : q.size.toNat < 8 := by
    rw [small.capacity_eq, ne_eq, ← UInt64.toNat_inj] at room
    have eight : (8 : UInt64).toNat = 8 := rfl
    omega
  have inside : q.mHead.toNat % 8 < 8 := Nat.mod_lt _ (by decide)
  have result : q.pushBack x = { q.store (q.mHead.toNat % 8) x with mHead := q.mHead + 1 } := by
    have notFull : q.mHead ≠ q.mTail + q.capacity := fun full => room ((size_eq_iff _).mp full)
    simp only [pushBack, notFull, if_false, small.index]
  have stored : (q.store (q.mHead.toNat % 8) x).mTail = q.mTail ∧
      (q.store (q.mHead.toNat % 8) x).mVec = q.mVec := by
    simp [store, small.storage]
  have count : (q.pushBack x).size.toNat = q.size.toNat + 1 := by
    rw [result]
    show (q.mHead + 1 - (q.store (q.mHead.toNat % 8) x).mTail).toNat = _
    rw [stored.1]
    exact toNat_succ_sub _ _ less
  refine ⟨⟨by rw [result]; exact stored.2.trans small.storage, by omega⟩, ?_⟩
  have cells : (q.pushBack x).inlineCells =
      Ring.write q.inlineCells ((q.mTail.toNat + q.size.toNat) % 8) x := by
    rw [result, ← head_mod, ← inlineCells_store small inside]
    rfl
  have tail : (q.pushBack x).mTail = q.mTail := by rw [result]; exact stored.1
  rw [contents, cells, count, tail]
  exact Ring.contents_push less x

theorem popFront_spec (small : Inline q) (nonempty : q.size ≠ 0) :
    ∃ x q', q.popFront moved = some (x, q') ∧ Inline q' ∧ q.contents = x :: q'.contents := by
  have positive : 0 < q.size.toNat := by
    rw [ne_eq, ← UInt64.toNat_inj] at nonempty
    have zero : (0 : UInt64).toNat = 0 := rfl
    omega
  obtain ⟨n, size⟩ : ∃ n, q.size.toNat = n + 1 := ⟨q.size.toNat - 1, by omega⟩
  have bound := small.bound
  have inside : q.mTail.toNat % 8 < 8 := Nat.mod_lt _ (by decide)
  obtain ⟨q', left⟩ : ∃ q' : CBQueue α, { q.store (q.mTail.toNat % 8)
    (moved (q.inlineCells (q.mTail.toNat % 8))) with mTail := q.mTail + 1 } = q' := ⟨_, rfl⟩
  have stored : (q.store (q.mTail.toNat % 8) (moved (q.inlineCells (q.mTail.toNat % 8)))).mHead =
      q.mHead ∧ (q.store (q.mTail.toNat % 8) (moved (q.inlineCells (q.mTail.toNat % 8)))).mVec =
      q.mVec := by
    simp [store, small.storage]
  have read : q.cells.getD (q.mTail.toNat % 8) default = q.inlineCells (q.mTail.toNat % 8) := by
    simp [CBQueue.cells, inlineCells, small.storage]
  have count : q'.size.toNat = n := by
    have popped := toNat_sub_succ q.mHead q.mTail positive
    have whole : (q.mHead - q.mTail).toNat = n + 1 := size
    rw [← left]
    show ((q.store (q.mTail.toNat % 8) (moved (q.inlineCells (q.mTail.toNat % 8)))).mHead -
      (q.mTail + 1)).toNat = n
    rw [stored.1]
    omega
  refine ⟨q.inlineCells (q.mTail.toNat % 8), q', ?_, ⟨?_, by omega⟩, ?_⟩
  · simp only [popFront, nonempty, if_false, small.index, read, left]
  · rw [← left]
    exact stored.2.trans small.storage
  · have cells : q'.inlineCells = Ring.write q.inlineCells (q.mTail.toNat % 8)
        (moved (q.inlineCells (q.mTail.toNat % 8))) := by
      rw [← left, ← inlineCells_store small inside]
      rfl
    have tail : q'.mTail.toNat % 8 = (q.mTail.toNat + 1) % 8 := by
      rw [← left]
      show (q.mTail + 1).toNat % 8 = _
      rw [UInt64.toNat_add]
      have one : (1 : UInt64).toNat = 1 := rfl
      omega
    unfold contents
    rw [size, Ring.contents_pop, cells, count, Ring.contents_mod tail,
      Ring.contents_write_popped (by omega)]

theorem popFront_empty (empty : q.size = 0) : q.popFront moved = none ∧ q.contents = [] := by
  refine ⟨by simp [popFront, empty], ?_⟩
  rw [← List.length_eq_zero_iff, length_contents, empty]
  rfl

theorem moveAssign_spec (target source : CBQueue α) (small : Inline source) :
    Inline (moveAssign moved target source).1 ∧
      (moveAssign moved target source).1.contents = source.contents ∧
      Inline (moveAssign moved target source).2 ∧
      (moveAssign moved target source).2.contents = [] := by
  have result : moveAssign moved target source =
      ({ target with
          mHead := source.mHead, mTail := source.mTail
          mArrayBacking := source.mArrayBacking, mVec := .mArrayBacking },
        { source with mHead := 0, mTail := 0, mArrayBacking := source.mArrayBacking.map moved }) := by
    simp [moveAssign, small.storage]
  rw [result]
  exact ⟨⟨rfl, small.bound⟩, rfl, ⟨small.storage, by simp [size]⟩, by simp [contents, size]⟩

theorem swap_spec (small : Inline q) (small' : Inline o) :
    Inline (swap moved q o).1 ∧ (swap moved q o).1.contents = o.contents ∧
      Inline (swap moved q o).2 ∧ (swap moved q o).2.contents = q.contents := by
  obtain ⟨tmp, held, _, _⟩ := moveAssign_spec moved empty q small
  obtain ⟨first, same, _, _⟩ := moveAssign_spec moved (moveConstruct moved q).2 o small'
  obtain ⟨second, same', _, _⟩ := moveAssign_spec moved
    (moveAssign moved (moveConstruct moved q).2 o).2 (moveConstruct moved q).1 tmp
  exact ⟨first, same, second, same'.trans held⟩

theorem swapSelf_spec (small : Inline q) :
    Inline (swapSelf moved q) ∧ (swapSelf moved q).contents = q.contents := by
  obtain ⟨tmp, held, _, _⟩ := moveAssign_spec moved empty q small
  obtain ⟨first, same, _, _⟩ := moveAssign_spec moved
    { (moveConstruct moved q).2 with
      mArrayBacking := (moveConstruct moved q).2.mArrayBacking.map moved }
    (moveConstruct moved q).1 tmp
  exact ⟨first, same.trans held⟩

/-! ## All queues -/

/-- Every queue is inline and holds the list of the same name; the callers have
seen the same. -/
structure Refines (s : NamedQueues (CBQueue α) α) (l : NamedQueues (List α) α) : Prop where
  queues : ∀ i, (s.queues i).map contents = l.queues i
  inline : ∀ i q, s.queues i = some q → Inline q
  outputs : s.outputs = l.outputs

variable {s t : NamedQueues (CBQueue α) α} {l : NamedQueues (List α) α}

theorem Refines.put (refines : Refines s l) (i : Nat) (small : Inline q) :
    Refines (s.put i q) (l.put i q.contents) where
  queues j := by
    by_cases here : j = i <;> simp [NamedQueues.put, here, refines.queues]
  inline j p found := by
    by_cases here : j = i
    · simp only [NamedQueues.put, here, if_true, Option.some.injEq] at found
      exact found ▸ small
    · simp only [NamedQueues.put, here, if_false] at found
      exact refines.inline j p found
  outputs := refines.outputs

theorem Refines.emit (refines : Refines s l) (o : QueueOutput α) :
    Refines (s.emit o) (l.emit o) :=
  ⟨refines.queues, refines.inline, by simp [NamedQueues.emit, refines.outputs]⟩

theorem Refines.free (refines : Refines s l) {i : Nat} : s.queues i = none ↔ l.queues i = none := by
  rw [← refines.queues]
  simp

/-- A call on the queues is the call on the lists. -/
theorem refines_step {e : QueueEvent α} (refines : Refines s l) (room : ¬ PushesFull s e)
    (taken : step moved s e = some t) : ∃ m, Fifo.step l e = some m ∧ Refines t m := by
  have list : ∀ {i q}, s.queues i = some q → l.queues i = some q.contents := fun found => by
    rw [← refines.queues, found]
    rfl
  cases e with
  | construct i =>
    simp only [step] at taken
    split at taken <;> cases taken
    rename_i free
    refine ⟨l.put i [], by simp [Fifo.step, refines.free.mp free], ?_⟩
    simpa using refines.put i empty_inline
  | pushBack i x =>
    obtain ⟨q, found, rfl⟩ := Option.map_eq_some_iff.mp taken
    have small := refines.inline i q found
    obtain ⟨small', same⟩ := pushBack_spec small (fun full => room ⟨q, found, full⟩) x
    refine ⟨l.put i (q.contents ++ [x]), by simp [Fifo.step, list found], ?_⟩
    rw [← same]
    exact refines.put i small'
  | popFront i =>
    obtain ⟨q, found, rfl⟩ := Option.map_eq_some_iff.mp taken
    have small := refines.inline i q found
    by_cases none : q.size = 0
    · obtain ⟨thrown, nil⟩ := popFront_empty moved none
      rw [thrown]
      exact ⟨l.emit (.thrown i), by simp [Fifo.step, list found, nil], refines.emit _⟩
    · obtain ⟨x, q', popped, small', same⟩ := popFront_spec moved small none
      rw [popped]
      exact ⟨(l.put i q'.contents).emit (.popped i x), by simp [Fifo.step, list found, same],
        (refines.put i small').emit _⟩
  | size i =>
    obtain ⟨q, found, rfl⟩ := Option.map_eq_some_iff.mp taken
    exact ⟨l.emit (.sized i q.size.toNat), by simp [Fifo.step, list found, length_contents],
      refines.emit _⟩
  | moveConstruct i j =>
    simp only [step] at taken
    split at taken
    · rename_i free
      obtain ⟨o, found, rfl⟩ := Option.map_eq_some_iff.mp taken
      obtain ⟨small, same, small', nil⟩ := moveAssign_spec moved empty o (refines.inline j o found)
      refine ⟨(l.put i o.contents).put j [], by simp [Fifo.step, refines.free.mp free, list found], ?_⟩
      have moved' := (refines.put i small).put j small'
      rwa [same, nil] at moved'
    · cases taken
  | moveAssign i j =>
    simp only [step] at taken
    split at taken
    · rename_i other
      obtain ⟨q, target, rest⟩ := Option.bind_eq_some_iff.mp taken
      obtain ⟨o, found, rfl⟩ := Option.map_eq_some_iff.mp rest
      obtain ⟨small, same, small', nil⟩ := moveAssign_spec moved q o (refines.inline j o found)
      refine ⟨(l.put i o.contents).put j [], by simp [Fifo.step, other, list target, list found], ?_⟩
      have moved' := (refines.put i small).put j small'
      rwa [same, nil] at moved'
    · cases taken
  | swap i j =>
    obtain ⟨a, first, rest⟩ := Option.bind_eq_some_iff.mp taken
    obtain ⟨b, second, rfl⟩ := Option.map_eq_some_iff.mp rest
    refine ⟨(l.put i b.contents).put j a.contents, by simp [Fifo.step, list first, list second], ?_⟩
    split
    · rename_i same
      subst same
      cases first.symm.trans second
      obtain ⟨small, held⟩ := swapSelf_spec moved (refines.inline i a first)
      have put := refines.put i small
      rw [held] at put
      refine ⟨fun k => ?_, put.inline, put.outputs⟩
      rw [put.queues]
      by_cases here : k = i <;> simp [NamedQueues.put, here]
    · obtain ⟨small, same, small', same'⟩ :=
        swap_spec moved (refines.inline i a first) (refines.inline j b second)
      have put := (refines.put i small).put j small'
      rwa [same, same'] at put

/-- The queues show what the lists show, and hold what the lists hold. -/
theorem refines_fifo {es : List (QueueEvent α)}
    (run : Run (step moved) (fun s e => ¬ PushesFull s e) {} es s) :
    ∃ l : NamedQueues (List α) α, Run Fifo.step anyStep {} es l ∧ s.outputs = l.outputs ∧
      ∀ i, (s.queues i).map contents = l.queues i := by
  have start : Refines ({} : NamedQueues (CBQueue α) α) {} := ⟨fun _ => rfl, by simp, rfl⟩
  obtain ⟨l, run', refines⟩ := run.simulate start
    (fun _ _ _ _ refines room taken => refines_step moved refines room taken)
  exact ⟨l, run', refines.outputs, refines.queues⟩

/-- Eight pushes, a pop, one more push and a swap: the ring wraps around. -/
def wrapRun : List (QueueEvent Nat) :=
  [.construct 0, .construct 1] ++ (List.range 8).map (fun x => .pushBack 0 x) ++
    [.popFront 0, .pushBack 0 8, .swap 0 1, .popFront 1, .size 1]

theorem refines_fifo_wrap : ∃ s, Run (step id) (fun s e => ¬ PushesFull s e) {} wrapRun s ∧
    s.outputs = [.popped 0 0, .popped 1 1, .sized 1 7] ∧
    ∃ l : NamedQueues (List Nat) Nat, Run Fifo.step anyStep {} wrapRun l ∧ s.outputs = l.outputs ∧
      ∀ i, (s.queues i).map contents = l.queues i := by
  have reached : (exec (step id) (fun s e => ¬ PushesFull s e) {} wrapRun).map (·.outputs) =
      some [.popped 0 0, .popped 1 1, .sized 1 7] := by decide
  obtain ⟨s, result, outputs⟩ := Option.map_eq_some_iff.mp reached
  exact ⟨s, .of_exec result, outputs, refines_fifo id (.of_exec result)⟩

/-! ## The failing run -/

def fullRun : List (QueueEvent Nat) :=
  [.construct 0] ++ (List.range 9).map (fun x => .pushBack 0 (x + 1)) ++ [.popFront 0, .popFront 0]

/-- The ninth value comes out first, then a default one; a FIFO gives the first
and the second. -/
theorem fullRun_diverges : ∃ s l, Run (step id) anyStep {} fullRun s ∧
    Run Fifo.step anyStep {} fullRun l ∧ s.outputs = [.popped 0 9, .popped 0 0] ∧
    l.outputs = [.popped 0 1, .popped 0 2] := by
  have reached : (exec (step id) anyStep {} fullRun).map (·.outputs) =
      some [.popped 0 9, .popped 0 0] := by decide
  have wanted : (exec (Fifo.step (α := Nat)) anyStep {} fullRun).map (·.outputs) =
      some [.popped 0 1, .popped 0 2] := by decide
  obtain ⟨s, result, outputs⟩ := Option.map_eq_some_iff.mp reached
  obtain ⟨l, result', outputs'⟩ := Option.map_eq_some_iff.mp wanted
  exact ⟨s, l, .of_exec result, .of_exec result', outputs, outputs'⟩

end CBQueue
end Coproto
