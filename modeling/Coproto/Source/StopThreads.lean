import Coproto.Source.Scheduler

/-!
# Threads, mMutex and stop callbacks

SocketScheduler.h:596-624, 668-805, 969-1026, SocketScheduler.cpp:54-86, 176-274
and Executor.h:237-381. A thread that requests a stop enters the stop callback of an
operation; only then does it take `mMutex`, acquire a handle of the execution queue,
and run it outside the lock. Every critical section of `SockScheduler.step` runs on
some thread, and the destructor of an operation that a section erases waits, with
the mutex held, while another thread is inside the callback of that operation
(LocalAsyncSock.h:515-528).
-/
namespace Coproto
namespace StopThreads

abbrev ThreadId := Nat

/-- Inside a stop callback: before `Lock l(mMutex)`, in `exQueue.run()` as the runner
or with something left to resume, and past that. -/
inductive Phase where
  | entering | running | leaving
  deriving DecidableEq, Repr

/-- A thread inside a callback; `mAquired` is that of the handle it acquired there. -/
structure Inside where
  thread : ThreadId
  op : OpId
  phase : Phase := .entering
  mAquired : Bool := false
  deriving DecidableEq, Repr

/-- `holder` is in a critical section and waits, in the destructor of an
operation, for the stop callback of it; `waiting` wait for the mutex. `inside` has
the innermost callback of a thread first. -/
structure State where
  sched : SockScheduler
  mHasRunner : Bool := false
  inside : List Inside := []
  entered : List OpId := []
  holder : Option (ThreadId × SockScheduler.Event × OpId) := none
  waiting : List ThreadId := []

/-- `role` is for the handles that are not acquired in a stop callback: they take the
role of the runner and give it up. -/
inductive Event where
  | enter (t : ThreadId) (op : OpId)
  | call (t : ThreadId) (e : SockScheduler.Event)
  | block (t : ThreadId) (e : SockScheduler.Event) (op : OpId)
  | swap (t : ThreadId)
  | release (t : ThreadId) (last : Bool)
  | resumed (t : ThreadId)
  | leave (t : ThreadId)
  | role (runner : Bool)
  deriving DecidableEq, Repr

/-- The event is, or may contain, a critical section. -/
def takesMutex : SockScheduler.Event → Bool
  | .run .recvTask => true
  | .run _ => false
  | .socketClose => false
  | _ => true

/-- The critical section of a stop callback of the operation. -/
def isStopOf (op : OpId) (e : SockScheduler.Event) : Bool := e = .stopSend op ∨ e = .stopRecv op

def isStop : SockScheduler.Event → Bool
  | .stopSend _ => true
  | .stopRecv _ => true
  | _ => false

def live (s : SockScheduler) (op : OpId) : Bool := (s.tx.ops op).isSome || (s.rx.ops op).isSome

/-- The callback of the operation is registered. -/
def armed (s : SockScheduler) (op : OpId) : Bool :=
  (s.tx.ops op).any (·.mReg = .registered) || (s.rx.ops op).any (·.mReg = .registered)

/-- The operations that are destroyed between two states. -/
def destroyed (s s' : SockScheduler) : List OpId :=
  (List.range s.nextOp).filter fun op => live s op && !live s' op

namespace State

/-- Another thread is inside the callback of the operation. -/
def othersInside (s : State) (t : ThreadId) (op : OpId) : Bool :=
  s.inside.any fun i => i.op = op ∧ i.thread ≠ t

/-- What the section of `t` that leads to `s'` has to wait for. -/
def contended (s : State) (t : ThreadId) (s' : SockScheduler) : List OpId :=
  (destroyed s.sched s').filter (s.othersInside t)

def top (s : State) (t : ThreadId) : Option Inside := s.inside.find? (·.thread = t)

/-- The mutex is held by another thread. -/
def held (s : State) (t : ThreadId) : Bool := s.holder.any fun h => h.1 ≠ t

/-- A thread that has just entered a callback goes for its critical section, and one
that is leaving a callback makes no call; one that waited for a callback goes on with
the section it was in. -/
def mayCall (s : State) (t : ThreadId) (e : SockScheduler.Event) : Bool :=
  !s.waiting.contains t &&
  (match s.top t with
    | some ⟨_, op, .entering, _⟩ => isStopOf op e
    | some ⟨_, _, .leaving, _⟩ => false
    | _ => !isStop e) &&
  s.holder.all fun h => h.1 = t → h.2.1 = e ∧ s.othersInside t h.2.2 = false

/-- The thread waits for nothing, and neither has to take the mutex for a callback nor
to leave one. -/
def idle (s : State) (t : ThreadId) : Bool :=
  t ∉ s.waiting ∧ (s.top t).all (·.phase = .running) ∧ s.holder.all fun h => h.1 ≠ t

/-- A callback has passed its section. Its handle is the runner if there was none,
and otherwise has a callback to resume only if the section completed the operation. -/
def passed (s : State) (s' : SockScheduler) (i : Inside) : Inside :=
  { i with
    phase := if s.mHasRunner ∧ live s' i.op then .leaving else .running
    mAquired := !s.mHasRunner }

/-- The section is left. -/
def finish (s : State) (t : ThreadId) (s' : SockScheduler) : State :=
  { s with
    sched := s'
    mHasRunner := s.mHasRunner || s.inside.any fun i => i.thread = t ∧ i.phase = .entering
    inside := s.inside.map fun i =>
      if i.thread = t ∧ i.phase = .entering then s.passed s' i else i
    holder := none
    waiting := [] }

def set (s : State) (i i' : Inside) : State :=
  { s with inside := s.inside.map fun j => if j = i then i' else j }

def step (s : State) : Event → Option State
  | .enter t op =>
    if s.idle t ∧ op ∉ s.entered ∧ armed s.sched op then
      some { s with inside := { thread := t, op := op } :: s.inside, entered := op :: s.entered }
    else none
  | .call t e =>
    if s.mayCall t e then
      if s.held t then
        if takesMutex e then some { s with waiting := t :: s.waiting }
        else (s.sched.step e).map fun s' => { s with sched := s' }
      else
        (s.sched.step e).bind fun s' =>
          if s.contended t s' = [] then some (s.finish t s') else none
    else none
  | .block t e op =>
    if s.mayCall t e ∧ s.held t = false ∧ ((s.sched.step e).any fun s' => op ∈ s.contended t s') then
      some { s with holder := some (t, e, op) }
    else none
  -- the section of `runReturnLast`; the queues are not empty, or it waits for the mutex
  | .swap t =>
    if s.idle t then some (if s.held t then { s with waiting := t :: s.waiting } else s) else none
  -- that section of the runner; the queues are empty, and `last` is left to be resumed
  | .release t last =>
    if s.idle t ∧ s.held t = false then
      (s.top t).bind fun i =>
        if i.mAquired then
          some { s.set i { i with
              phase := if last then .running else .leaving
              mAquired := false } with
            mHasRunner := false }
        else none
    else none
  | .resumed t =>
    if s.idle t then
      (s.top t).bind fun i => if i.mAquired then none else some (s.set i { i with phase := .leaving })
    else none
  | .leave t =>
    (s.top t).bind fun i =>
      if i.phase = .leaving then some { s with inside := s.inside.erase i } else none
  | .role runner =>
    if s.inside.any (·.mAquired) then none else some { s with mHasRunner := runner }

def init (sid : SessionID) : State := { sched := .init sid }

end State
end StopThreads
end Coproto
