import Coproto.Invariants.Talk

/-!
# The reader of a conversation

The receive task takes the stream apart where the send task has put it together; it never meets a
header of an unknown slot or a slot-init message it has to refuse, and gives each payload to a
receive of the session it was sent on.
-/
namespace Coproto
open SockScheduler Traces

/-- A payload and the receive that gets it. -/
abbrev Delivery := Message × OpId

def Delivery.completion (x : Delivery) : Completion := ⟨x.2, none, x.1.payload⟩

namespace SockScheduler
variable {s t : SockScheduler} {e : Event} {p q : Spot} {wire : List UInt8} {items : List Item}

/-- The receive task is at this spot of the stream, and knows what was announced. -/
structure Reads (s : SockScheduler) (p : Spot) : Prop where
  task : s.rx.mRecvTask.At p.pos
  names : ∀ k, p.names k = s.table.peerSession k

theorem recvSize_at {n : Nat} {pos : Position} (there : s.rx.mRecvTask.At pos)
    (size : s.recvSize = some n) : n = pos.size := by
  unfold recvSize at size
  cases task : s.rx.mRecvTask with
  | header token =>
    rw [task] at there size
    cases pos with
    | between => exact (Option.some.inj size).symm
    | _ => cases there
  | control header token =>
    rw [task] at there size
    cases pos with
    | control k v => exact (Option.some.inj size).symm
    | _ => cases there
  | body frame op token =>
    rw [task] at there size
    cases pos with
    | body k m => exact (Option.some.inj size).symm.trans there.2
    | _ => cases there
  | _ =>
    rw [task] at size
    cases size

theorem recvSize_of_taken {ec : ErrorCode} {bt : Nat} {bytes : List UInt8}
    (taken : step s (.recvReturned ec bt bytes) = some t) : s.recvSize = some bytes.length := by
  by_contra other
  have none : s.recvReturned ec bt bytes = none := by
    unfold recvReturned
    rw [if_pos other]
  have taken : s.recvReturned ec bt bytes = some t := taken
  rw [none] at taken
  cases taken

/-- The piece that a call has read. -/
theorem Reads.piece {ec : ErrorCode} {bytes : List UInt8} (reads : Reads s p) (ok : p.Ok)
    (speech : Speech p wire items q) (size : s.recvSize = some bytes.length)
    (arrives : Link.Arrives wire (.recvReturned ec bytes.length bytes)) :
    ∃ ys zs p', Phrase p bytes ys p' ∧
      Speech p' (Link.unread wire (.recvReturned ec bytes.length bytes)) zs q ∧
      items = ys ++ zs := by
  have length := recvSize_at reads.task size
  have nonempty : bytes ≠ [] := by
    apply ne_nil_of_length length
    obtain ⟨pos, names⟩ := p
    cases pos with
    | between => exact Nat.zero_lt_succ _
    | control k v => exact Nat.zero_lt_succ _
    | body k m => exact List.length_pos_of_ne_nil (ok k m rfl).2
  rw [wire_eq rfl arrives] at speech
  exact speech.uncons nonempty fun ds ys q phrase => phrase.piece.length_eq.trans length.symm

/-- What the peer says is well formed. -/
theorem Reads.wellFormed {ec : ErrorCode} {bytes : List UInt8} (reads : Reads s p) (ok : p.Ok)
    (tables : TablesOk s) (speech : Speech p wire items q)
    (size : s.recvSize = some bytes.length)
    (arrives : Link.Arrives wire (.recvReturned ec bytes.length bytes)) :
    ¬ s.Malformed bytes := by
  obtain ⟨ys, zs, p', phrase, _⟩ := reads.piece ok speech size arrives
  have there := reads.task
  unfold Malformed
  cases task : s.rx.mRecvTask with
  | header token =>
    rw [task] at there
    rintro ⟨data, unmapped⟩
    cases phrase with
    | opens names k v =>
      rw [Header.ofBytes_bytes] at data
      exact data rfl
    | control names k id assigned free new => cases there
    | header names k size m fits nonempty named =>
      have known := reads.names k
      rw [Header.ofBytes_bytes] at unmapped
      have silent : s.table.peerSession k = none := by
        rw [ForkTable.peerSession, unmapped]
        rfl
      rw [silent] at known
      cases known.symm.trans named
    | body names k m nonempty => cases there
  | control header token =>
    rw [task] at there
    rintro refused
    apply refused
    cases phrase with
    | control names k id assigned free new =>
      have same : header.mForkId = k := there
      rw [same]
      apply ForkTable.freshMeta_of_free tables.ids tables.remotes assigned
      · rw [← reads.names]
        exact free
      · intro j
        rw [← reads.names, controlBlockSessionID_bytes]
        exact new j
    | _ => cases there
  | _ => exact id

/-- What the receive task has read takes it from one spot to another; `got` is delivered. -/
def Heard (s t : SockScheduler) (p : Spot) (wire : List UInt8) (items : List Item) (q : Spot) :
    Prop :=
  ∃ ys zs p', ∃ got : List Delivery, items = ys ++ zs ∧ Speech p' wire zs q ∧ Reads t p' ∧ p'.Ok ∧
    p.pos.message ++ messagesOf ys = got.map Prod.fst ++ p'.pos.message ∧
    t.rx.completions = s.rx.completions ++ got.map Delivery.completion ∧
    ∀ x ∈ got, .posted x.2 x.1.session ∈ t.rx.trace

theorem Heard.silent (reads : Reads t p) (ok : p.Ok) (speech : Speech p wire items q)
    (completions : t.rx.completions = s.rx.completions) : Heard s t p wire items q := by
  refine ⟨[], items, p, [], rfl, speech, reads, ok, ?_, ?_, nofun⟩
  · simp [messagesOf]
  · simp [completions]

/-- Steps between two calls. -/
theorem Reads.keep (reads : Reads s p) (inv : PlainInv s) (inv' : PlainInv t) (recv : RecvStep s e t)
    (calls : ∀ ec bt bytes, e ≠ .recvReturned ec bt bytes)
    (known : ∀ k, t.table.peerSession k = s.table.peerSession k) : Reads t p where
  task := by
    rcases at_recvStep inv.base recv calls reads.task with ended | there
    · exact absurd ended inv'.reading
    · exact there
  names k := by
    rw [known]
    exact reads.names k

theorem unread_eq (calls : ∀ ec bt bytes, e ≠ .recvReturned ec bt bytes) :
    Link.unread wire e = wire := by
  cases e with
  | recvReturned ec bt bytes => exact absurd rfl (calls ec bt bytes)
  | _ => rfl

theorem Reads.other (reads : Reads s p) (inv : PlainInv s) (inv' : PlainInv t)
    (recv : RecvStep s e t) (calls : ∀ ec bt bytes, e ≠ .recvReturned ec bt bytes) (ok : p.Ok)
    (speech : Speech p wire items q) (known : ∀ k, t.table.peerSession k = s.table.peerSession k)
    (completions : t.rx.completions = s.rx.completions) :
    Heard s t p (Link.unread wire e) items q := by
  rw [unread_eq calls]
  exact .silent (reads.keep inv inv' recv calls known) ok speech completions

/-- What a run shows of the receives stays. -/
theorem PlainStep.recv_grows (step : PlainStep s e t) (inv : PlainInv s) :
    Appends (fun _ => True) s.rx.trace t.rx.trace := by
  cases step with
  | idle call rx tx table held nextOp => exact .of_eq (by rw [rx])
  | forked session slot slotHeld few free rx tx table held nextOp => exact .of_eq (by rw [rx])
  | sends same step => exact .of_eq (by rw [same.rx])
  | recvs same step =>
    cases e with
    | recv session buffer token =>
      cases step with
      | posted _ _ _ slot slotHeld live rx table nextOp =>
        rw [rx, RecvSide.arm_trace live, RecvSide.trace_enqueue]
        exact .one trivial
    | recvReturned ec bt bytes =>
      cases task : s.rx.mRecvTask with
      | body f op token =>
        obtain ⟨_, _, filled⟩ := step.filling inv.serving.front inv.unharmedRecv inv.fine task
        obtain ⟨_, _, trace⟩ := filled.trace
        exact ⟨_, trace, fun _ _ => trivial⟩
      | _ => exact (step.muted inv.fine (by simp [task]) nofun).2.mono fun _ _ => trivial
    | run cb =>
      cases step with
      | reads r task rx table nextOp => exact .of_eq (by rw [rx]; rfl)
      | fills f op task fits rx table nextOp => exact .of_eq (by rw [rx]; rfl)
    | _ => cases step

/-- The receive that the task goes on with was posted on the session of the message. -/
theorem Reads.owner (reads : Reads s p) (inv : PlainInv s) (ok : p.Ok) {f : Frame} {op : OpId}
    {token : StopId} (task : s.rx.mRecvTask = .body f op token) {k : UInt32} {m : Message}
    (here : p.pos = .body k m) : .posted op m.session ∈ s.rx.trace := by
  have there := reads.task
  rw [task, here] at there
  have known := reads.names k
  rw [(ok k m here).1] at known
  obtain ⟨slot, mapped, home⟩ := inv.frame f op (by rw [task]; rfl)
  have number : f.header.mForkId = k := there.1
  rw [number] at mapped
  rw [ForkTable.peerSession, mapped, Option.map_some, Option.some.injEq] at known
  have inside := (inv.tables.remotes.get mapped).1
  have owner : s.table.mIdSocketForkMapping_ m.session = some slot :=
    (inv.tables.ids m.session slot).mpr ⟨_, inside, known.symm⟩
  have queued : op ∈ s.queuedOn m.session := by
    rw [queuedOn_of_mapped owner]
    exact inv.base.recv.queues.mem.mpr home
  apply RecvSide.mem_postedOn.mp
  rw [inv.order m.session]
  exact List.mem_append_right _ queued

/-- The payload is read, and its receive completes. -/
theorem Reads.body {ec : ErrorCode} {bytes : List UInt8} {f : Frame} {op : OpId} {token : StopId}
    (reads : Reads s p) (inv : PlainInv s) (ok : p.Ok) (speech : Speech p wire items q)
    (task : s.rx.mRecvTask = .body f op token) (size : s.recvSize = some bytes.length)
    (arrives : Link.Arrives wire (.recvReturned ec bytes.length bytes))
    (step : PlainRecv s (.recvReturned ec bytes.length bytes) t)
    (between : t.rx.mRecvTask.At .between) (table : t.table = s.table) :
    Heard s t p (Link.unread wire (.recvReturned ec bytes.length bytes)) items q := by
  obtain ⟨ys, zs, p', phrase, speech', split⟩ := reads.piece ok speech size arrives
  obtain ⟨slot, rest, filled⟩ := step.filling inv.serving.front inv.unharmedRecv inv.fine task
  obtain ⟨h, x, trace⟩ := filled.trace
  have owner (k : UInt32) (m : Message) := reads.owner inv ok task (k := k) (m := m)
  have there := reads.task
  rw [task] at there
  cases phrase with
  | body names k m nonempty =>
    refine ⟨_, _, _, [(m, op)], split, speech', ⟨between, fun j => ?_⟩, nofun, rfl, ?_, ?_⟩
    · rw [table]
      exact reads.names j
    · rw [RecvSide.completions, trace, List.filterMap_append]
      rfl
    · intro y member
      cases List.mem_singleton.mp member
      rw [trace]
      exact List.mem_append_left _ (owner k m rfl)
  | _ => cases there

/-- A call of the receive task reads one piece. -/
theorem Reads.call {ec : ErrorCode} {bt : Nat} {bytes : List UInt8} (reads : Reads s p)
    (inv : PlainInv s) (inv' : PlainInv t) (ok : p.Ok) (speech : Speech p wire items q)
    (read : s.recvSize = some bytes.length)
    (arrives : Link.Arrives wire (.recvReturned ec bt bytes))
    (whole : PlainRecv s (.recvReturned ec bt bytes) t) :
    Heard s t p (Link.unread wire (.recvReturned ec bt bytes)) items q := by
  have fine := inv.fine
  have step := whole
  cases step with
  | opening x token task length control rx table nextOp =>
    obtain ⟨ys, zs, p', phrase, speech', split⟩ := reads.piece ok speech read arrives
    obtain ⟨_, grows⟩ := whole.muted fine (by simp [task]) nofun
    have there := reads.task
    rw [task] at there
    have goes : t.rx.mRecvTask = .control (Header.ofBytes bytes) s.rx.mRecvToken := by
      rw [rx]
      rfl
    cases phrase with
    | opens names k v =>
      refine ⟨_, _, _, [], split, speech', ⟨?_, fun j => ?_⟩, nofun, rfl, ?_, nofun⟩
      · rw [goes, Header.ofBytes_bytes]
        rfl
      · rw [table]
        exact reads.names j
      · rw [RecvSide.completions_muted grows]
        simp
    | header names k n m fits nonempty named =>
      rw [Header.ofBytes_bytes] at control
      have zero : n = 0 := control
      rw [zero] at fits
      exact absurd (List.length_eq_zero_iff.mp fits.symm) nonempty
    | _ => cases there
  | data x token task length data mapped request table nextOp =>
    obtain ⟨ys, zs, p', phrase, speech', split⟩ := reads.piece ok speech read arrives
    obtain ⟨_, grows⟩ := whole.muted fine (by simp [task]) nofun
    have there := reads.task
    rw [task] at there
    cases phrase with
    | opens names k v =>
      rw [Header.ofBytes_bytes] at data
      exact absurd rfl data
    | header names k n m fits nonempty named =>
      have goes : t.rx.mRecvTask.At (.body k m) := by
        obtain ⟨u, result⟩ : ∃ u, t.rx = u := ⟨_, rfl⟩
        rw [result] at request ⊢
        rw [Header.ofBytes_bytes] at request mapped
        cases request with
        | unknown unmapped e error => exact absurd unmapped mapped
        | failed slot known error => simp [fine] at error
        | park slot known ok empty => exact ⟨rfl, fits⟩
        | serve slot op ops known ok cells => exact ⟨rfl, fits⟩
      refine ⟨_, _, _, [], split, speech', ⟨goes, fun j => ?_⟩, ?_, rfl, ?_, nofun⟩
      · rw [table]
        exact reads.names j
      · exact (Phrase.header names k n m fits nonempty named).ok
      · rw [RecvSide.completions_muted grows]
        simp
    | _ => cases there
  | opened x header token task length fresh rx table nextOp =>
    obtain ⟨ys, zs, p', phrase, speech', split⟩ := reads.piece ok speech read arrives
    obtain ⟨_, grows⟩ := whole.muted fine (by simp [task]) nofun
    have there := reads.task
    rw [task] at there
    cases phrase with
    | control names k id assigned free new =>
      have same : header.mForkId = k := there
      refine ⟨_, _, _, [], split, speech', ⟨?_, fun j => ?_⟩, nofun, rfl, ?_, nofun⟩
      · rw [rx]
        trivial
      · rw [table, ForkTable.peerSession_initRemoteSocketFork inv.tables.ids inv.tables.remotes
          fresh, controlBlockSessionID_bytes, same, ← reads.names]
      · rw [RecvSide.completions_muted grows]
        simp
    | _ => cases there
  | filled x f op token task length fine' awaits table nextOp =>
    refine reads.body inv ok speech task read arrives whole ?_ table
    rcases at_await awaits with ended | ⟨_, between⟩
    · exact absurd ended inv'.reading
    · exact between

theorem PlainStep.hears (step : PlainStep s e t) (inv : PlainInv s) (inv' : PlainInv t)
    (recv : RecvStep s e t) (ok : p.Ok) (reads : Reads s p) (speech : Speech p wire items q)
    (asked : ∀ ec bt bytes, e = .recvReturned ec bt bytes → s.recvSize = some bytes.length)
    (arrives : Link.Arrives wire e) : Heard s t p (Link.unread wire e) items q := by
  cases step with
  | idle call rx tx table held nextOp =>
    refine reads.other inv inv' recv (fun ec bt bytes same => ?_) ok speech
      (fun k => by rw [table]) (by rw [rx])
    rw [same] at call
    cases call
  | forked session slot slotHeld few free rx tx table held nextOp =>
    refine reads.other inv inv' recv (fun _ _ _ call => by cases call) ok speech (fun k => ?_) (by rw [rx])
    rw [table]
    exact ForkTable.peerSession_forkSlot inv.tables.remotes slot k
  | sends same step =>
    refine reads.other inv inv' recv (fun ec bt bytes call => ?_) ok speech (fun k => ?_)
      (by rw [same.rx])
    · rw [call] at step
      cases step
    · cases step with
      | control op task unopened tx table nextOp =>
        rw [table]
        exact ForkTable.peerSession_modify (g := fun f => { f with mInitiated := true })
          inv.tables.remotes _ (fun _ _ => rfl) k
      | _ =>
        rename_i table _
        rw [table]
  | recvs same step =>
    cases e with
    | recv session buffer token =>
      cases step with
      | posted _ _ _ slot slotHeld live rx table nextOp =>
        refine reads.other inv inv' recv (fun _ _ _ call => by cases call) ok speech (fun k => by rw [table]) ?_
        have trace : t.rx.trace = s.rx.trace ++ [.posted s.nextOp session] := by
          rw [rx, RecvSide.arm_trace live, RecvSide.trace_enqueue]
          rfl
        rw [RecvSide.completions, trace, List.filterMap_append]
        exact List.append_nil _
    | run cb =>
      have calm : t.rx.completions = s.rx.completions := by
        cases step with
        | reads r task rx table nextOp => rw [rx]; rfl
        | fills f op task fits rx table nextOp => rw [rx]; rfl
      refine reads.other inv inv' recv (fun _ _ _ call => by cases call) ok speech (fun k => ?_) calm
      cases step with
      | reads r task rx table nextOp => rw [table]
      | fills f op task fits rx table nextOp => rw [table]
    | recvReturned ec bt bytes =>
      exact reads.call inv inv' ok speech (asked ec bt bytes rfl) arrives step
    | _ => cases step

end SockScheduler
end Coproto
