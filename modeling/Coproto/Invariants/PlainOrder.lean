import Coproto.Invariants.PlainRuns

/-!
# Receives complete in the order of their session

In a run without failures a receive leaves its queue at the front, and the queue of a session holds
what was posted on it and is not done.
-/
namespace Coproto
open SockScheduler Traces

/-- The frame the task is to deliver, and the receive it has been given for it. -/
def RecvTask.delivers : RecvTask → Option (Frame × OpId)
  | .getRequested frame (some (.ok op)) => some (frame, op)
  | .body frame op _ => some (frame, op)
  | _ => none

namespace RecvSide
variable {rx rx' : RecvSide} {op p : OpId} {v : UInt64 × UInt64} {ec mEC : ErrorCode} {slots : Nat}

/-- Nothing about posting and completing. -/
def Muted (o : RecvObs) : Prop :=
  (∀ v, o.postingOn v = none) ∧ o.finishing = none ∧ o.completion = none

theorem postedOn_append (os : List RecvObs) (trace : rx'.trace = rx.trace ++ os) :
    rx'.postedOn v = rx.postedOn v ++ os.filterMap (RecvObs.postingOn v) := by
  rw [postedOn, trace, List.filterMap_append]
  rfl

theorem doneOps_append (os : List RecvObs) (trace : rx'.trace = rx.trace ++ os) :
    rx'.doneOps = rx.doneOps ++ os.filterMap RecvObs.finishing := by
  rw [doneOps, trace, List.filterMap_append]
  rfl

theorem postedOn_muted (grows : Appends Muted rx.trace rx'.trace) :
    rx'.postedOn v = rx.postedOn v := by
  obtain ⟨os, trace, muted⟩ := grows
  have none : os.filterMap (RecvObs.postingOn v) = [] :=
    List.filterMap_eq_nil_iff.mpr fun o member => (muted o member).1 v
  rw [postedOn_append os trace, none, List.append_nil]

theorem doneOps_muted (grows : Appends Muted rx.trace rx'.trace) : rx'.doneOps = rx.doneOps := by
  obtain ⟨os, trace, muted⟩ := grows
  have none : os.filterMap RecvObs.finishing = [] :=
    List.filterMap_eq_nil_iff.mpr fun o member => (muted o member).2.1
  rw [doneOps_append os trace, none, List.append_nil]

theorem doneOn_muted (grows : Appends Muted rx.trace rx'.trace) : rx'.doneOn v = rx.doneOn v := by
  rw [doneOn, doneOn, doneOps_muted grows, postedOn_muted grows]

theorem completions_muted (grows : Appends Muted rx.trace rx'.trace) :
    rx'.completions = rx.completions := by
  obtain ⟨os, trace, muted⟩ := grows
  have none : os.filterMap RecvObs.completion = [] :=
    List.filterMap_eq_nil_iff.mpr fun o member => (muted o member).2.2
  rw [completions, trace, List.filterMap_append, none, List.append_nil]
  rfl

/-- A receive is posted on one session. -/
theorem posted_session {nextOp : OpId} (books : rx.Books nextOp) {w : UInt64 × UInt64}
    (first : .posted op v ∈ rx.trace) (second : .posted op w ∈ rx.trace) : v = w := by
  cases Ledger.Shown.posting_unique books first second rfl rfl
  rfl

/-! ## A receive is posted -/

theorem enqueue_mRecvOps (slot : Nat) (k : UInt32) (op : OpId) (buffer : RecvBuffer) (i : Nat) :
    (rx.enqueue slot k op buffer).mRecvOps i =
      if i = slot then rx.mRecvOps i ++ [op] else rx.mRecvOps i := by
  unfold RecvSide.enqueue
  split
  · rfl
  · split <;> rfl
  · rfl

theorem arm_mRecvOps {token : StopToken} (live : token ≠ .stopped) :
    (rx.arm op token).mRecvOps = rx.mRecvOps := by
  rcases arm_live rx op live with same | same <;> rw [same]
  rfl

theorem arm_trace {token : StopToken} (live : token ≠ .stopped) :
    (rx.arm op token).trace = rx.trace := by
  rcases arm_live rx op live with same | same <;> rw [same]
  rfl

theorem arm_home {token : StopToken} (live : token ≠ .stopped) (p : OpId) :
    (rx.arm op token).home p = rx.home p := by
  rcases arm_live rx op live with same | same <;> rw [same]
  exact home_setReg p

theorem enqueue_home (slot : Nat) (k : UInt32) (op : OpId) (buffer : RecvBuffer) (p : OpId) :
    (rx.enqueue slot k op buffer).home p = if p = op then some slot else rx.home p := by
  have started : ((rx.emplace slot op buffer).setStatus op .InProgress).home p =
      (rx.emplace slot op buffer).home p := home_setStatus p
  unfold RecvSide.enqueue
  split
  · exact started.trans (home_emplace p)
  · split
    · exact started.trans (home_emplace p)
    · exact home_emplace p
  · exact home_emplace p

/-! ## A receive completes -/

/-- What `completePrev` shows of the receive at the front of its queue. -/
theorem finish_completes {o : RecvOperation} (live : rx.ops op = some o) (fine : ec.isError = false) :
    (rx.finish op ec).trace =
      rx.trace ++ [.completed op o.mRecvBuffer.mExPtr.error o.mRecvBuffer.mData] := by
  have shape : (rx.finish op ec).trace = (rx.completeOn op).trace := by
    simp [RecvSide.finish, fine]
  rw [shape, trace_completed live]

theorem finish_queues {slot : Nat} {rest : List OpId} (home : rx.home op = some slot)
    (cells : rx.mRecvOps slot = op :: rest) (ec : ErrorCode) (i : Nat) :
    (rx.finish op ec).mRecvOps i = if i = slot then rest else rx.mRecvOps i := by
  have here : rx.slotOf op = slot := slotOf_home home
  have shape : (rx.finish op ec).mRecvOps i =
      if i = rx.slotOf op then (rx.mRecvOps i).tail else rx.mRecvOps i := by
    by_cases failed : ec.isError = true <;> simp [RecvSide.finish, failed]
  rw [shape, here]
  by_cases same : i = slot
  · rw [if_pos same, if_pos same, same, cells]
    rfl
  · rw [if_neg same, if_neg same]

theorem await_queues (awaits : rx.Await mEC slots ec rx') (ok : ec.isError = false)
    (fine : mEC.isError = false) : rx'.mRecvOps = rx.mRecvOps ∧ rx'.trace = rx.trace := by
  cases awaits with
  | shut failed => simp [ok, fine] at failed
  | next ok num => exact ⟨rfl, rfl⟩
  | park ok num => exact ⟨rfl, rfl⟩

end RecvSide

namespace SockScheduler
variable {s t : SockScheduler} {e : Event}

/-- The queue of a session. -/
def queuedOn (s : SockScheduler) (v : UInt64 × UInt64) : List OpId :=
  match s.table.mIdSocketForkMapping_ v with
  | some slot => s.rx.mRecvOps slot
  | none => []

/-- What was posted on a session is done, or waits in its queue, in this order. -/
def OrderOk (s : SockScheduler) : Prop := ∀ v, s.rx.postedOn v = s.rx.doneOn v ++ s.queuedOn v

theorem queuedOn_of_mapped {v : UInt64 × UInt64} {slot : Nat}
    (mapped : s.table.mIdSocketForkMapping_ v = some slot) : s.queuedOn v = s.rx.mRecvOps slot := by
  rw [queuedOn, mapped]

theorem queuedOn_extends {slots : Nat} (table : s.table.Extends t.table)
    (queues : t.rx.mRecvOps = s.rx.mRecvOps) (unused : ∀ slot, slots ≤ slot → s.rx.mRecvOps slot = [])
    (length : s.table.mSocketForks_.length = slots) (v : UInt64 × UInt64) :
    t.queuedOn v = s.queuedOn v := by
  unfold queuedOn
  cases new : t.table.mIdSocketForkMapping_ v with
  | some slot =>
    cases old : s.table.mIdSocketForkMapping_ v with
    | some i =>
      have same := table.kept v i old
      rw [new, Option.some.injEq] at same
      simp only [queues, same]
    | none =>
      rcases table.added v slot new with mapped | beyond
      · rw [old] at mapped
        cases mapped
      · simp only [queues]
        exact unused slot (length ▸ beyond)
  | none =>
    cases old : s.table.mIdSocketForkMapping_ v with
    | some i =>
      have same := table.kept v i old
      rw [new] at same
      cases same
    | none => rfl

/-- Nothing is posted or completed. -/
theorem OrderOk.keep (order : OrderOk s) (inv : BaseInv s) (table : s.table.Extends t.table)
    (queues : t.rx.mRecvOps = s.rx.mRecvOps)
    (grows : Appends RecvSide.Muted s.rx.trace t.rx.trace) : OrderOk t := by
  intro v
  rw [RecvSide.postedOn_muted grows, RecvSide.doneOn_muted grows, queuedOn_extends table queues
    (fun slot beyond => inv.recv.queues.empty_of_unused beyond) rfl]
  exact order v

theorem OrderOk.post (order : OrderOk s) (inv : BaseInv s) (books : s.rx.Books s.nextOp)
    {session : UInt64 × UInt64} {slot : Nat}
    (mapped : s.table.mIdSocketForkMapping_ session = some slot) (table : t.table = s.table)
    (queues : ∀ i, t.rx.mRecvOps i =
      if i = slot then s.rx.mRecvOps i ++ [s.nextOp] else s.rx.mRecvOps i)
    (trace : t.rx.trace = s.rx.trace ++ [.posted s.nextOp session]) : OrderOk t := by
  intro v
  have posted := RecvSide.postedOn_append (v := v) _ trace
  have done : t.rx.doneOps = s.rx.doneOps := by
    rw [RecvSide.doneOps_append _ trace]
    exact List.append_nil _
  -- the new operation is not done
  have fresh : s.nextOp ∉ s.rx.doneOps := fun member =>
    Nat.lt_irrefl _ (books.bound _ (Ledger.posted_of_done books member))
  by_cases same : session = v
  · subst same
    have posted' : t.rx.postedOn session = s.rx.postedOn session ++ [s.nextOp] := by
      rw [posted]
      simp [RecvObs.postingOn]
    have kept : t.rx.doneOn session = s.rx.doneOn session := by
      rw [RecvSide.doneOn, RecvSide.doneOn, done, posted']
      apply List.filter_congr
      intro op member
      have other : op ≠ s.nextOp := fun same => fresh (same ▸ member)
      simp [other]
    rw [kept, posted', queuedOn_of_mapped (table ▸ mapped), queues, if_pos rfl, order session,
      queuedOn_of_mapped mapped, List.append_assoc]
  · have posted' : t.rx.postedOn v = s.rx.postedOn v := by
      rw [posted]
      simp [RecvObs.postingOn, same]
    have kept : t.rx.doneOn v = s.rx.doneOn v := by
      rw [RecvSide.doneOn, RecvSide.doneOn, done, posted']
    have others : t.queuedOn v = s.queuedOn v := by
      unfold queuedOn
      rw [table]
      cases other : s.table.mIdSocketForkMapping_ v with
      | none => rfl
      | some i =>
        have away : i ≠ slot := by
          rintro rfl
          exact same ((inv.ids.get mapped).2.symm.trans (inv.ids.get other).2)
        simp only [queues, if_neg away]
    rw [kept, posted', others]
    exact order v

/-- The first of a queue completes. -/
theorem OrderOk.complete (order : OrderOk s) (inv : BaseInv s) (books : s.rx.Books s.nextOp)
    {v : UInt64 × UInt64} {slot : Nat} {op : OpId} {rest : List OpId}
    (mapped : s.table.mIdSocketForkMapping_ v = some slot)
    (cells : s.rx.mRecvOps slot = op :: rest) (table : t.table = s.table)
    (queues : ∀ i, t.rx.mRecvOps i = if i = slot then rest else s.rx.mRecvOps i)
    (posted : ∀ w, t.rx.postedOn w = s.rx.postedOn w) (done : t.rx.doneOps = s.rx.doneOps ++ [op]) :
    OrderOk t := by
  have queued : s.queuedOn v = op :: rest := (queuedOn_of_mapped mapped).trans cells
  have here : op ∈ s.rx.postedOn v := by
    rw [order v, queued]
    simp
  intro w
  have split : t.rx.doneOn w = s.rx.doneOn w ++ [op].filter (· ∈ s.rx.postedOn w) := by
    rw [RecvSide.doneOn, RecvSide.doneOn, done, posted, List.filter_append]
  rw [posted, split]
  by_cases same : w = v
  · subst same
    have last : [op].filter (· ∈ s.rx.postedOn w) = [op] := by simp [here]
    rw [last, queuedOn_of_mapped (table ▸ mapped), queues, if_pos rfl, order w, queued,
      List.append_assoc]
    rfl
  · have none : [op].filter (· ∈ s.rx.postedOn w) = [] := by
      have other : op ∉ s.rx.postedOn w := fun there =>
        same (RecvSide.posted_session books (RecvSide.mem_postedOn.mp there)
          (RecvSide.mem_postedOn.mp here))
      simp [other]
    have others : t.queuedOn w = s.queuedOn w := by
      unfold queuedOn
      rw [table]
      cases other : s.table.mIdSocketForkMapping_ w with
      | none => rfl
      | some i =>
        have away : i ≠ slot := by
          rintro rfl
          exact same ((inv.ids.get other).2.symm.trans (inv.ids.get mapped).2)
        simp only [queues, if_neg away]
    rw [none, List.append_nil, others]
    exact order w

/-! ## Steps -/

/-- What the task shows and leaves when its body call returns. -/
structure Filled (s t : SockScheduler) (op : OpId) (bytes : List UInt8) (slot : Nat)
    (rest : List OpId) : Prop where
  home : s.rx.home op = some slot
  cells : s.rx.mRecvOps slot = op :: rest
  queues : ∀ i, t.rx.mRecvOps i = if i = slot then rest else s.rx.mRecvOps i
  trace : ∃ f x, t.rx.trace = s.rx.trace ++ [.body op f x, .completed op none bytes]

theorem PlainRecv.filling {ec : ErrorCode} {bt : Nat} {bytes : List UInt8} {f : Frame} {op : OpId}
    {token : StopId} (front : s.rx.FrontOk s.table) (unharmed : s.rx.Unharmed)
    (fine : s.mEC.isError = false) (task : s.rx.mRecvTask = .body f op token)
    (step : PlainRecv s (.recvReturned ec bt bytes) t) : ∃ slot rest, Filled s t op bytes slot rest := by
  cases step with
  | opening x token' task' size control rx table nextOp =>
    rw [task] at task'
    cases task'
  | data x token' task' size data mapped request table nextOp =>
    rw [task] at task'
    cases task'
  | opened x header token' task' size fresh rx table nextOp =>
    rw [task] at task'
    cases task'
  | filled x f' op' token' task' size fine' awaits table nextOp =>
    rw [task] at task'
    cases task'
    obtain ⟨slot, home, head⟩ := front.serving op (by rw [task]; rfl)
    obtain ⟨rest, cells⟩ := List.head?_eq_some_iff.mp head
    obtain ⟨o, live, homed⟩ := Option.map_eq_some_iff.mp home
    obtain ⟨m, renewed⟩ : ∃ m, ((s.rx.log (.body op f.call x)).fill op bytes).renew s.nextStop = m :=
      ⟨_, rfl⟩
    rw [renewed] at awaits
    have live' : m.ops op =
        some { o with mRecvBuffer := { o.mRecvBuffer with mData := bytes } } := by
      rw [← renewed]
      simp [live]
    have home' : m.home op = some slot := by
      rw [RecvSide.home, live']
      exact congrArg some homed
    have cells' : m.mRecvOps slot = op :: rest := by
      rw [← renewed]
      exact cells
    have before : m.trace = s.rx.trace ++ [.body op f.call x] := by
      rw [← renewed]
      rfl
    have calm : o.mRecvBuffer.mExPtr = .unset := unharmed op o live
    obtain ⟨same, shown⟩ := RecvSide.await_queues awaits fine' fine
    refine ⟨slot, rest, home, cells, fun i => ?_, f.call, x, ?_⟩
    · rw [same, RecvSide.finish_queues home' cells', ← renewed]
      rfl
    · rw [shown, RecvSide.finish_completes live' fine', before]
      simp [calm, ExPtr.error]

/-- A step that does not finish a body completes nothing. -/
theorem PlainRecv.muted (step : PlainRecv s e t) (fine : s.mEC.isError = false)
    (idle : ∀ f op token, s.rx.mRecvTask ≠ .body f op token)
    (calls : ∀ session buffer token, e ≠ .recv session buffer token) :
    t.rx.mRecvOps = s.rx.mRecvOps ∧ Appends RecvSide.Muted s.rx.trace t.rx.trace := by
  have header : ∀ x, RecvSide.Muted (.header x) := fun x => ⟨fun _ => rfl, rfl, rfl⟩
  cases step with
  | posted session buffer token slot slotHeld live rx table nextOp => exact absurd rfl (calls _ _ _)
  | reads r task rx table nextOp => rw [rx]; exact ⟨rfl, .refl⟩
  | fills f op task fits rx table nextOp => rw [rx]; exact ⟨rfl, .refl⟩
  | opening x token task size control rx table nextOp => rw [rx]; exact ⟨rfl, .one (header x)⟩
  | data x token task size data mapped request table nextOp =>
    obtain ⟨u, result⟩ : ∃ u, t.rx = u := ⟨_, rfl⟩
    rw [result] at request ⊢
    cases request with
    | unknown unmapped e error => exact absurd unmapped mapped
    | failed slot known error => simp [fine] at error
    | park slot known ok empty => exact ⟨rfl, .one (header x)⟩
    | serve slot op ops known ok cells => exact ⟨rfl, .one (header x)⟩
  | opened x h token task size fresh rx table nextOp => rw [rx]; exact ⟨rfl, .one (header x)⟩
  | filled x f op token task size fine' awaits table nextOp => exact absurd task (idle _ _ _)

theorem OrderOk.step (order : OrderOk s) (inv : BaseInv s) (front : s.rx.FrontOk s.table)
    (books : s.rx.Books s.nextOp) (unharmed : s.rx.Unharmed) (fine : s.mEC.isError = false)
    (step : PlainStep s e t) : OrderOk t := by
  have table := step.extends
  cases step with
  | idle call rx tx table' held nextOp =>
    exact order.keep inv table (by rw [rx]) (.of_eq (by rw [rx]))
  | forked session slot slotHeld few free rx tx table' held nextOp =>
    exact order.keep inv table (by rw [rx]) (.of_eq (by rw [rx]))
  | sends same step => exact order.keep inv table (by rw [same.rx]) (.of_eq (by rw [same.rx]))
  | recvs same step =>
    cases e with
    | recv session buffer token =>
      cases step with
      | posted _ _ _ slot slotHeld live rx table' nextOp =>
        refine order.post inv books (heldSlot_eq_some slotHeld).2 table' (fun i => ?_) ?_
        · rw [rx, RecvSide.arm_mRecvOps live, RecvSide.enqueue_mRecvOps]
          rfl
        · rw [rx, RecvSide.arm_trace live, RecvSide.trace_enqueue]
          rfl
    | recvReturned ec bt bytes =>
      cases task : s.rx.mRecvTask with
      | body f op token =>
        obtain ⟨slot, rest, filled⟩ := step.filling front unharmed fine task
        obtain ⟨y, x, trace⟩ := filled.trace
        have table' : t.table = s.table := by
          cases step with
          | opened x header token' task' size fresh rx table nextOp =>
            rw [task] at task'
            cases task'
          | _ => assumption
        have inside := (inv.recv.queues.bound filled.home).2
        have mapped : s.table.mIdSocketForkMapping_ (s.table.fork slot).mSessionID.mVal = some slot :=
          (inv.ids _ slot).mpr ⟨_, by simp [ForkTable.fork, List.getD, inside], rfl⟩
        refine order.complete inv books mapped filled.cells table' filled.queues (fun w => ?_) ?_
        · rw [RecvSide.postedOn_append _ trace]
          exact List.append_nil _
        · rw [RecvSide.doneOps_append _ trace]
          rfl
      | _ =>
        obtain ⟨queues, grows⟩ := step.muted fine (by simp [task]) (fun _ _ _ call => by cases call)
        exact order.keep inv table queues grows
    | run cb =>
      cases step with
      | reads r task rx table' nextOp => exact order.keep inv table (by rw [rx]; rfl) (rx ▸ .refl)
      | fills f op task fits rx table' nextOp =>
        exact order.keep inv table (by rw [rx]; rfl) (rx ▸ .refl)
    | _ => cases step

/-! ## The frame and its receive -/

/-- The receive the task was given for a frame belongs to the fork of the frame. -/
def ServesFrame (s : SockScheduler) : Prop :=
  ∀ f op, s.rx.mRecvTask.delivers = some (f, op) →
    ∃ slot, s.table.mRemoteSocketForkMapping_ f.header.mForkId = some slot ∧
      s.rx.home op = some slot

theorem delivers_serving {task : RecvTask} {f : Frame} {op : OpId}
    (delivers : task.delivers = some (f, op)) : task.serving = some op := by
  unfold RecvTask.delivers at delivers
  split at delivers <;> cases delivers <;> rfl

theorem ServesFrame.of_none (none : t.rx.mRecvTask.delivers = none) : ServesFrame t := by
  intro f op delivers
  rw [none] at delivers
  cases delivers

theorem ServesFrame.keep (serves : ServesFrame s)
    (remote : t.table.mRemoteSocketForkMapping_ = s.table.mRemoteSocketForkMapping_)
    (task : t.rx.mRecvTask.delivers = s.rx.mRecvTask.delivers)
    (homes : ∀ f op, s.rx.mRecvTask.delivers = some (f, op) → t.rx.home op = s.rx.home op) :
    ServesFrame t := by
  intro f op delivers
  rw [task] at delivers
  rw [remote, homes f op delivers]
  exact serves f op delivers

theorem ServesFrame.step (serves : ServesFrame s) (inv : BaseInv s) (remotes : s.table.RemotesOk)
    (front : s.rx.FrontOk s.table) (fine : s.mEC.isError = false) (step : PlainStep s e t) :
    ServesFrame t := by
  cases step with
  | idle call rx tx table held nextOp =>
    exact serves.keep (by rw [table]) (by rw [rx]) fun _ _ _ => by rw [rx]
  | forked session slot slotHeld few free rx tx table held nextOp =>
    refine serves.keep ?_ (by rw [rx]) fun _ _ _ => by rw [rx]
    rw [table]
    show ((s.table.modify slot _).emplace _).1.mRemoteSocketForkMapping_ = _
    rw [ForkTable.emplace_remote]
    rfl
  | sends same step =>
    refine serves.keep ?_ (by rw [same.rx]) fun _ _ _ => by rw [same.rx]
    cases step with
    | sent session data token slot slotHeld full fits live tx table nextOp => rw [table]
    | control op task unopened tx table nextOp => rw [table]; rfl
    | header op task opened tx table nextOp => rw [table]
    | advanced part part' op token task x all follows tx table nextOp => rw [table]
    | finished op token task x all fine awaits table nextOp => rw [table]
  | recvs same step =>
    cases step with
    | posted session buffer token slot slotHeld live rx table nextOp =>
      have home (p : OpId) : t.rx.home p = if p = s.nextOp then some slot else s.rx.home p := by
        rw [rx, RecvSide.arm_home live, RecvSide.enqueue_home]
        rfl
      have older : ∀ f p, s.rx.mRecvTask.delivers = some (f, p) → p ≠ s.nextOp := by
        intro f p delivers
        obtain ⟨i, there, _⟩ := front.serving p (delivers_serving delivers)
        exact Nat.ne_of_lt (inv.recv.queues.bound there).1
      have kept : t.rx.mRecvTask.delivers = s.rx.mRecvTask.delivers → ServesFrame t := fun same =>
        serves.keep (by rw [table]) same fun f p delivers => by
          rw [home, if_neg (older f p delivers)]
      have goes : t.rx.mRecvTask = ((s.rx.log (.posted s.nextOp session)).enqueue slot
          (s.table.fork slot).mRemoteId s.nextOp buffer).mRecvTask := by
        rw [rx, RecvSide.arm_mRecvTask]
      unfold RecvSide.enqueue at goes
      split at goes
      · exact .of_none (by rw [goes]; rfl)
      · rename_i frame parked
        split at goes
        · rename_i mine
          -- the frame the task was parked on is of the slot of the new receive
          obtain ⟨own, _⟩ := heldSlot_remote inv.ids remotes slotHeld
          have parked : s.rx.mRecvTask = .getRequested frame none := parked
          obtain ⟨i, mapped, _⟩ := front.parked frame.header.mForkId (by rw [parked]; rfl)
          obtain rfl := own i (mine ▸ mapped)
          intro f p delivers
          rw [goes] at delivers
          cases delivers
          exact ⟨i, table ▸ mapped, by rw [home, if_pos rfl]⟩
        · exact kept (by rw [goes]; rfl)
      · exact kept (by rw [goes]; rfl)
    | reads r task rx table nextOp => exact .of_none (by rw [rx]; rfl)
    | fills f op task fits rx table nextOp =>
      refine serves.keep (by rw [table]) (by rw [rx, task]; rfl) fun _ p _ => ?_
      rw [rx]
      exact RecvSide.home_modify (f := fun o =>
        { o with mRecvBuffer := o.mRecvBuffer.asSpan f.header.mSize.toNat }) rfl (fun _ => rfl) p
    | opening x token task size control rx table nextOp => exact .of_none (by rw [rx]; rfl)
    | data x token task size data mapped request table nextOp =>
      intro f p delivers
      rw [table]
      obtain ⟨u, result⟩ : ∃ u, t.rx = u := ⟨_, rfl⟩
      rw [result] at request delivers ⊢
      cases request with
      | unknown unmapped e error => cases delivers
      | failed slot known error => cases delivers
      | park slot known ok empty => cases delivers
      | serve slot p ops known ok cells =>
        cases delivers
        have home := inv.recv.queues.mem.mp (cells ▸ List.mem_cons_self : p ∈ s.rx.mRecvOps slot)
        exact ⟨slot, known, (RecvSide.home_setStatus p).trans home⟩
    | opened x header token task size fresh rx table nextOp => exact .of_none (by rw [rx]; rfl)
    | filled x f op token task size fine' awaits table nextOp =>
      refine .of_none ?_
      obtain ⟨u, result⟩ : ∃ u, t.rx = u := ⟨_, rfl⟩
      rw [result] at awaits ⊢
      cases awaits with
      | shut failed => simp [fine, fine'] at failed
      | next ok num => rfl
      | park ok num => rfl

end SockScheduler
end Coproto
