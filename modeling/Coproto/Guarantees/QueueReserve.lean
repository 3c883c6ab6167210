import Coproto.Guarantees.QueueList

/-!
# reserve

Common/Queue.h:191-253, 279-304. `reserve` links a block behind the last one,
whatever that one holds. Behind entries this shows nowhere. Behind an empty block
it does: the next push goes to the new block, and `front()`, `begin()` and
`pop_front` look at the empty one.
-/
namespace Coproto
open Runs

namespace Queue
variable {α : Type} {q t : Queue α} {e : Event α} {c : UInt64} {n : Nat}

/-- What successive calls of `front` and `pop_front` give, `n` at most. -/
def drain : Nat → Queue α → Except QueueFault (List (EntryPtr × α))
  | 0, _ => .ok []
  | n + 1, q =>
    if q.mSize = 0 then .ok []
    else (Queue.front q).bind fun r => q.popFront.bind fun q => (drain n q).map (r :: ·)

/-- Everything that can be seen of a queue is its contents. -/
structure Seen (q : Queue α) : Prop where
  size : q.mSize = q.contents.length
  front : ∀ r ∈ q.contents.head?, Queue.front q = .ok r
  visit : q.visit = .ok q.contents
  drain : drain q.mSize q = .ok q.contents

/-- A `reserve` that has to allocate finds entries in the last block, and no
counter passes `2 ^ 64` between entries. -/
def ReservesFilled (q : Queue α) : Event α → Prop
  | .pushBack _ => ¬ Wraps q
  | .reserve c => (1 ≤ c.toNat ∧ c.toNat ≤ 2 ^ 32) ∧ ReservesBehind q c
  | .popFront | .erase _ | .erasePtr _ => True

instance (q : Queue α) (e : Event α) : Decidable (ReservesFilled q e) := by
  rcases e with ⟨⟩ <;> dsimp only [ReservesFilled] <;> infer_instance

/-- The last block has room for a power of two that is at least `c`. -/
def Reserved (c : UInt64) (q : Queue α) : Prop :=
  ∃ last n, q.mLast = some last ∧ last.capacity.toNat = 2 ^ n ∧ c.toNat ≤ 2 ^ n

/-- `reserve` changes nothing that can be seen, now or after more pushes. -/
structure ReserveOk (q : Queue α) : Prop where
  seen : Seen q
  reserve : ∀ c, ReservesFilled q (.reserve c) →
    ∃ t, q.reserve c = .ok t ∧ t.contents = q.contents ∧ Seen t ∧ Reserved c t
  pushes : ∀ xs t, Run step ReservesFilled q (xs.map .pushBack) t →
    t.contents.map (·.2) = q.contents.map (·.2) ++ xs ∧ Seen t

/-! ## What can be seen -/

theorem Ok.drain (ok : q.Ok) (rounds : q.contents.length ≤ n) : drain n q = .ok q.contents := by
  induction n generalizing q with
  | zero =>
    rw [List.length_eq_zero_iff.mp (Nat.le_zero.mp rounds)]
    rfl
  | succ n ih =>
    unfold Queue.drain
    rcases ok.first with ⟨empty, _⟩ | ⟨r, rest, first, _⟩
    · rw [if_pos (by rw [ok.size, empty]; rfl), empty]
    · have some := ok.mSize_ne (show r ∈ q.contents by simp [first])
      obtain ⟨t, pops, removes⟩ := ok.popFront first
      have left : t.contents = rest := by
        rw [removes.eraseIdx ok (k := 0) (by rw [first]; rfl), first]
        rfl
      have shorter : t.contents.length ≤ n := by
        rw [first, List.length_cons] at rounds
        rw [left]
        omega
      rw [if_neg some, ok.front_eq first, pops, Except.bind, Except.bind, ih removes.ok shorter,
        left, first]
      rfl

theorem Ok.seen (ok : q.Ok) (unwrapped : ∀ b ∈ q.blocks, b.Unwrapped) : Seen q where
  size := ok.size
  front r first := by
    obtain ⟨rest, split⟩ := List.head?_eq_some_iff.mp first
    exact ok.front_eq split
  visit := ok.visit unwrapped
  drain := ok.drain (Nat.le_of_eq ok.size.symm)

/-! ## Runs with reserve -/

theorem ReservesFilled.keepsFilled (met : ReservesFilled q e) : KeepsFilled q e := by
  cases e with
  | reserve c => exact met.2
  | _ => trivial

theorem ok_step_filled (ok : q.Ok) (unwrapped : ∀ b ∈ q.blocks, b.Unwrapped)
    (met : ReservesFilled q e) (taken : step q e = some t) :
    t.Ok ∧ ∀ b ∈ t.blocks, b.Unwrapped := by
  rcases ok.step_cases met.keepsFilled taken with
    ⟨x, p, rfl, adds⟩ | ⟨r, _, removes⟩ | ⟨c, rfl, keeps⟩
  · exact ⟨adds.ok, adds.unwrapped met unwrapped⟩
  · exact ⟨removes.ok, removes.unwrapped unwrapped⟩
  · exact ⟨keeps.ok, keeps.unwrapped unwrapped⟩

theorem ok_of_filled {start : Queue α} {events : List (Event α)}
    (run : Run step ReservesFilled start events q) (ok : start.Ok)
    (unwrapped : ∀ b ∈ start.blocks, b.Unwrapped) : q.Ok ∧ ∀ b ∈ q.blocks, b.Unwrapped := by
  induction run with
  | nil => exact ⟨ok, unwrapped⟩
  | snoc _ met taken ih => exact ok_step_filled ih.1 ih.2 met taken

/-- `Queue(capacity)`. -/
theorem Ok.withCapacity (some : 1 ≤ c.toNat) (small : c.toNat ≤ 2 ^ 32)
    (made : withCapacity c = .ok q) : q.Ok ∧ ∀ b ∈ q.blocks, b.Unwrapped := by
  obtain ⟨n, _, power, _⟩ := roundUp_pow some small
  have allocates : Queue.allocateBlock ({} : Queue α) (roundUp c) = .ok q := made
  obtain ⟨below, _, rfl⟩ := allocateBlock_eq_ok allocates
  have empty := fresh_occupied ({} : Queue α) (roundUp c)
  have blocks : (extend ({} : Queue α) (roundUp c)).blocks = [fresh {} (roundUp c)] := rfl
  refine ⟨⟨⟨?_, ?_, ?_, ?_, nofun⟩, ?_⟩, ?_⟩
  · rw [blocks]
    exact Chain.single (fresh_ok _ power below)
  · rw [blocks]
    exact List.cons_ne_nil _ _
  · intro b member
    rw [blocks] at member
    rw [List.mem_singleton.mp member]
    exact Nat.lt_succ_self 1
  · rw [contents, blocks, live_cons, Block.cells_empty empty]
    rfl
  · intro b top full
    rw [blocks] at top
    obtain rfl := Option.some.inj top
    exact absurd empty full
  · intro b member
    rw [blocks] at member
    rw [List.mem_singleton.mp member, Block.Unwrapped, empty]
    exact Nat.zero_le _

/-- A `reserve` that allocates no more than `2 ^ 32` entries goes through. -/
theorem Ok.reserve_eq_ok (ok : q.Ok) (some : 1 ≤ c.toNat) (small : c.toNat ≤ 2 ^ 32) :
    ∃ t, q.reserve c = .ok t := by
  obtain ⟨init, last, split⟩ := ok.blocks_eq
  obtain ⟨n, bound, power, _⟩ := roundUp_pow some small
  unfold Queue.reserve
  rw [mLast_eq split]
  by_cases more : last.capacity < roundUp c
  · have width : 2 ^ n ≤ 2 ^ 32 := Nat.pow_le_pow_right Nat.two_pos bound
    have below : ¬ 2 ^ 62 ≤ (roundUp c).toNat := by
      rw [power]
      exact Nat.not_le_of_lt (Nat.lt_of_le_of_lt width (by decide))
    exact ⟨q.extend (roundUp c), by simpa [more] using allocateBlock_of_pow q power below⟩
  · exact ⟨q, by simp [more]⟩

theorem Ok.reserveOk (ok : q.Ok) (unwrapped : ∀ b ∈ q.blocks, b.Unwrapped) : ReserveOk q := by
  refine ⟨ok.seen unwrapped, fun c met => ?_, fun xs t run => ?_⟩
  · obtain ⟨⟨some, small⟩, behind⟩ := met
    obtain ⟨t, reserves⟩ := ok.reserve_eq_ok some small
    obtain ⟨keeps, last, tail, large⟩ := ok.reserve behind reserves
    obtain ⟨n, _, power, enough⟩ := roundUp_pow some small
    obtain ⟨init, last', split⟩ := keeps.ok.blocks_eq
    obtain rfl := Option.some.inj (tail.symm.trans (mLast_eq split))
    have good := (Chain.append_iff.mp (split ▸ keeps.ok.chain)).1
    obtain ⟨m, _, size⟩ := good.capacity_pow
    refine ⟨t, reserves, keeps.contents, keeps.ok.seen (keeps.unwrapped unwrapped), last, m, tail,
      size, ?_⟩
    have bound := UInt64.le_iff_toNat_le.mp large
    omega
  · have good := ok_of_filled run ok unwrapped
    refine ⟨?_, good.1.seen good.2⟩
    generalize events : xs.map Event.pushBack = es at run
    induction run generalizing xs with
    | nil =>
      rw [List.map_eq_nil_iff.mp events, List.append_nil]
    | @snoc es u t e before met taken ih =>
      obtain ⟨ys, zs, rfl, early, late⟩ := List.map_eq_append_iff.mp events
      obtain ⟨x, rfl, rfl⟩ := List.map_eq_singleton_iff.mp late
      have good' := ok_of_filled before ok unwrapped
      rcases good'.1.emplaceBack x with fails | ⟨t', p, same, adds⟩
      · cases fails.symm.trans (call_of_step taken)
      · obtain rfl := Except.ok.inj (same.symm.trans (call_of_step taken))
        rw [adds.contents, List.map_append, ih ys good' early, List.append_assoc]
        rfl

end Queue

open Queue

/-- In runs where `reserve` allocates behind entries only, it does not change a queue. -/
theorem queue_reserveOk {α : Type} {start q : Queue α} {events : List (Event α)}
    (constructed : start = Queue.empty ∨
      ∃ c, (1 ≤ c.toNat ∧ c.toNat ≤ 2 ^ 32) ∧ Queue.withCapacity c = .ok start)
    (run : Run Queue.step ReservesFilled start events q) : ReserveOk q := by
  have good : start.Ok ∧ ∀ b ∈ start.blocks, b.Unwrapped := by
    rcases constructed with rfl | ⟨c, ⟨some, small⟩, made⟩
    · exact ⟨Ok.empty, unwrapped_empty⟩
    · exact Ok.withCapacity some small made
  obtain ⟨ok, unwrapped⟩ := ok_of_filled run good.1 good.2
  exact ok.reserveOk unwrapped

theorem queue_reserveOk_sixteen : ∃ q : Queue Nat, ReserveOk q ∧
    q.contents = [(⟨0, 1⟩, 2), (⟨1, 0⟩, 3)] := by
  have reached : (exec Queue.step ReservesFilled (Queue.empty : Queue Nat)
      [.pushBack 1, .pushBack 2, .reserve 16, .pushBack 3, .popFront]).map (·.contents) =
      some [(⟨0, 1⟩, 2), (⟨1, 0⟩, 3)] := by
    decide +kernel
  obtain ⟨q, result, contents⟩ := Option.map_eq_some_iff.mp reached
  exact ⟨q, queue_reserveOk (.inl rfl) (.of_exec result), contents⟩

/-- After `reserve` on an empty queue the element that is pushed is not found. -/
theorem reserve_empty : ∃ (events : List (Event Nat)) (q : Queue Nat),
    Run Queue.step anyStep Queue.empty events q ∧ events = [.reserve 16, .pushBack 5] ∧
      q.mSize = 1 ∧ Queue.front q = .error .frontOccupied ∧ q.visit.toOption.isNone = true := by
  let events : List (Event Nat) := [.reserve 16, .pushBack 5]
  have reached : (exec Queue.step anyStep Queue.empty events).map
      (fun q => (q.mSize, q.visit.toOption.isNone, match Queue.front q with
        | .ok _ => none
        | .error fault => some fault)) = some (1, true, some .frontOccupied) := by
    decide +kernel
  obtain ⟨q, result, facts⟩ := Option.map_eq_some_iff.mp reached
  obtain ⟨size, rest⟩ := Prod.mk.inj facts
  obtain ⟨visits, fails⟩ := Prod.mk.inj rest
  refine ⟨events, q, .of_exec result, rfl, size, ?_, visits⟩
  cases h : Queue.front q with
  | ok r => simp [h] at fails
  | error fault =>
    rw [h] at fails
    rw [Option.some.inj fails]

end Coproto
