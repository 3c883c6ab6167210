import Coproto.Source.ForkTable

/-!
# ExecutionQueue

Executor.h:194-381. Handles are acquired under the mutex and push callbacks in
the critical section that acquired them; outside of it, `runReturnLast` runs
them. Every step of that function is an event, so handles of any number of
threads, and of callbacks that acquire one themselves, interleave freely. The
mutex is recursive: a critical section may lie inside another one, but the
section in which a runner swaps the queues excludes all of them.

The queues are lists; `pushed` and `executed` record the run.
-/
namespace Coproto
namespace ExecutionQueue

/-- Where a callback is pushed: with an executor, as a coroutine handle without
one, as a function. -/
inductive Kind where
  | executor | coroutine | function
  deriving DecidableEq, Repr

/-- A callback, named by the handle that pushed it and its number there. -/
structure Task where
  handle : Nat
  seq : Nat
  kind : Kind
  deriving DecidableEq, Repr

/-- Where a handle is: in the critical section that acquired it, after it, in
the loop over `mXCBs`, at the head of `while (mAquired)`, in the loop inside it,
returned, and with its result resumed. -/
inductive Phase where
  | locked
  | released
  | executors
  | loop (next : Option Task)
  | inner (next : Option Task)
  | returned (next : Option Task)
  | done
  deriving DecidableEq, Repr

structure Handle where
  mAquired : Bool
  mXCBs : List Task := []
  mCBs : List Task := []
  mFns : List Task := []
  phase : Phase := .locked
  pushed : List Kind := []
  deriving DecidableEq, Repr

/-- `ExecutionQueue::State`, with the handles acquired so far. -/
structure State where
  mHasRunner : Bool := false
  mCBs : List Task := []
  mFns : List Task := []
  handles : List Handle := []
  executed : List Task := []

namespace State

def set (s : State) (i : Nat) (h : Handle) : State := { s with handles := s.handles.set i h }

def execute (s : State) (ts : List Task) : State := { s with executed := s.executed ++ ts }

/-- The constructor of `Handle`: it becomes the runner if there is none. -/
def acquire (s : State) : State :=
  { s with
    mHasRunner := true
    handles := s.handles ++ [{ mAquired := !s.mHasRunner }] }

/-- `push_back` and `push_back_fn`. -/
def pushBack (s : State) (i : Nat) (h : Handle) (kind : Kind) : State :=
  let task : Task := ⟨i, h.pushed.length, kind⟩
  let h := { h with pushed := h.pushed ++ [kind] }
  match kind with
  | .executor => s.set i { h with mXCBs := h.mXCBs ++ [task] }
  | .coroutine =>
    if h.mAquired then s.set i { h with mCBs := h.mCBs ++ [task] }
    else { s.set i h with mCBs := s.mCBs ++ [task] }
  | .function =>
    if h.mAquired then s.set i { h with mFns := h.mFns ++ [task] }
    else { s.set i h with mFns := s.mFns ++ [task] }

/-- The critical section of `runReturnLast`; the runner goes if it finds nothing. -/
def swap (s : State) (i : Nat) (h : Handle) (next : Option Task) : State :=
  let h := { h with mCBs := s.mCBs, mFns := s.mFns }
  if h.mCBs = [] ∧ h.mFns = [] then
    { s.set i { h with mAquired := false, phase := .loop next } with
      mHasRunner := false, mCBs := [], mFns := [] }
  else { s.set i { h with phase := .inner next } with mCBs := [], mFns := [] }

/-- No critical section is open. -/
def unlocked (s : State) : Bool := s.handles.all fun h => h.phase ≠ .locked

/-- One step of `runReturnLast`. -/
def runStep (s : State) (i : Nat) (h : Handle) : Option State :=
  match h.phase with
  | .executors =>
    match h.mXCBs with
    | task :: rest => some ((s.execute [task]).set i { h with mXCBs := rest })
    | [] => some (s.set i { h with phase := .loop none })
  | .loop next =>
    if h.mAquired then
      if h.mCBs = [] ∧ h.mFns = [] then
        -- the swap takes what the local queues held, nothing, back
        if s.unlocked then some (s.swap i h next) else none
      else some (s.set i { h with phase := .inner next })
    else some (s.set i { h with phase := .returned next })
  | .inner next =>
    match h.mFns, h.mCBs with
    | task :: rest, _ => some ((s.execute [task]).set i { h with mFns := rest })
    | [], task :: rest =>
      -- the previous handle is resumed once the next one is known
      some ((s.execute next.toList).set i { h with mCBs := rest, phase := .inner (some task) })
    | [], [] => some (s.set i { h with phase := .loop next })
  | _ => none

inductive Event where
  | acquire
  | pushBack (i : Nat) (kind : Kind)
  | release (i : Nat)
  | runReturnLast (i : Nat)
  | runStep (i : Nat)
  | resume (i : Nat)
  deriving DecidableEq, Repr

/-- What an event does with the handle it is about. -/
def handleStep (s : State) (i : Nat) (h : Handle) : Event → Option State
  | .acquire => none
  | .pushBack _ kind => if h.phase = .locked then some (s.pushBack i h kind) else none
  | .release _ => if h.phase = .locked then some (s.set i { h with phase := .released }) else none
  | .runReturnLast _ =>
    if h.phase = .released then some (s.set i { h with phase := .executors }) else none
  | .runStep _ => s.runStep i h
  | .resume _ =>
    match h.phase with
    | .returned next => some ((s.execute next.toList).set i { h with phase := .done })
    | _ => none

def Event.handle : Event → Nat
  | .acquire => 0
  | .pushBack i _ => i
  | .release i => i
  | .runReturnLast i => i
  | .runStep i => i
  | .resume i => i

def step (s : State) : Event → Option State
  | .acquire => some s.acquire
  | e => (s.handles[e.handle]?).bind fun h => s.handleStep e.handle h e

end State
end ExecutionQueue
end Coproto
