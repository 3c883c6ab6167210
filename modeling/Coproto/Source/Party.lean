import Coproto.Source.Scheduler

/-!
# A party and its tree of sockets

Socket.h:242-252, SocketScheduler.cpp:92-99. `Socket::fork` on any copy of a
socket forks the session of that socket. `sockets` records, for every socket
the party has made, the path of fork numbers that leads to it and its session.
-/
namespace Coproto

/-- The `k`-th child of a session whose counter has not moved yet, from 1. -/
def SessionID.child (id : SessionID) (k : Nat) : SessionID :=
  ({ id with mChildIdx := id.mChildIdx + UInt64.ofNat (k - 1) } : SessionID).derive.1

/-- The session of the socket at a path below the root. -/
def socketId (root : SessionID) (path : List Nat) : SessionID := path.foldl SessionID.child root

structure Party where
  sched : SockScheduler
  sockets : List (List Nat × (UInt64 × UInt64))

namespace Party

/-- The number of forks of the socket at `path` so far. -/
def children (sockets : List (List Nat × (UInt64 × UInt64))) (path : List Nat) : Nat :=
  sockets.countP fun socket => socket.1 ≠ [] ∧ socket.1.dropLast = path

/-- A fork of the `i`-th socket, or anything else that happens to the scheduler. -/
inductive Event where
  | fork (i : Nat)
  | other (e : SockScheduler.Event)
  deriving DecidableEq, Repr

def step (p : Party) : Event → Option Party
  | .fork i =>
    match p.sockets[i]? with
    | none => none
    | some (path, session) =>
      match p.sched.step (.fork session) with
      | none => none
      | some sched => some
        { sched
          sockets := p.sockets ++ (sched.held.getLast?.map fun id =>
            (path ++ [children p.sockets path + 1], id.mVal)).toList }
  | .other (.fork _) => none
  | .other e => (p.sched.step e).map fun sched => { p with sched }

def init (root : SessionID) : Party := ⟨.init root, [([], root.mVal)]⟩

end Party
end Coproto
