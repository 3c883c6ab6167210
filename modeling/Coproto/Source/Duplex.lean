import Coproto.Source.Link

/-!
# Two schedulers that talk to each other

Both ends of a socket with both directions of its transport: what the send task of either end
writes is read by the receive task of the other one. `link` looks at the direction from `a` to `b`.
-/
namespace Coproto

structure Duplex where
  a : SockScheduler
  b : SockScheduler
  /-- What `a` has written and `b` has not read. -/
  ab : List UInt8 := []
  ba : List UInt8 := []

namespace Duplex
open Link

inductive Event where
  | a (e : SockScheduler.Event)
  | b (e : SockScheduler.Event)
  deriving DecidableEq, Repr

def step (d : Duplex) : Event → Option Duplex
  | .a e =>
    if Lawful d.a e ∧ Arrives d.ba e then
      (d.a.step e).map fun s => { d with
        a := s
        ab := d.ab ++ written d.a e
        ba := unread d.ba e }
    else none
  | .b e =>
    if Lawful d.b e ∧ Arrives d.ab e then
      (d.b.step e).map fun s => { d with
        b := s
        ba := d.ba ++ written d.b e
        ab := unread d.ab e }
    else none

def init (sid sid' : SessionID) : Duplex :=
  { a := .init sid
    b := .init sid' }

/-- The same with the ends exchanged. -/
def swap (d : Duplex) : Duplex :=
  { a := d.b
    b := d.a
    ab := d.ba
    ba := d.ab }

def Event.swap : Event → Event
  | .a e => .b e
  | .b e => .a e

def link (d : Duplex) : Link :=
  { sender := d.a
    receiver := d.b
    wire := d.ab }

variable {d d' : Duplex}

theorem step_swap {e : Event} (taken : d.step e = some d') :
    d.swap.step e.swap = some d'.swap := by
  cases e with
  | a e =>
    obtain ⟨allowed, moved⟩ := Option.ite_none_right_eq_some.mp taken
    obtain ⟨s, went, rfl⟩ := Option.map_eq_some_iff.mp moved
    apply Option.ite_none_right_eq_some.mpr
    exact ⟨allowed, Option.map_eq_some_iff.mpr ⟨s, went, rfl⟩⟩
  | b e =>
    obtain ⟨allowed, moved⟩ := Option.ite_none_right_eq_some.mp taken
    obtain ⟨s, went, rfl⟩ := Option.map_eq_some_iff.mp moved
    apply Option.ite_none_right_eq_some.mpr
    exact ⟨allowed, Option.map_eq_some_iff.mpr ⟨s, went, rfl⟩⟩

end Duplex
end Coproto
