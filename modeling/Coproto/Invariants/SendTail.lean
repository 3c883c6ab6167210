import Coproto.Invariants.SendChain

/-!
# The end of the list of sends

SocketScheduler.h:596-611. The stop callback of a waiting send takes it off the
list and leaves `mSendBufferLast` alone, which then points at an operation that
is gone when it was the last one. As long as that does not happen,
`mSendBufferLast` is the end of the list and no send is lost.
-/
namespace Coproto

/-- A stop callback takes the last send off the list. A send that is posted with a
stopped token is the last one, unless the task is parked and takes it at once. -/
def CutsTail (s : SockScheduler) : SockScheduler.Event → Prop
  | .stopSend op => s.tx.mSendBufferLast = some op ∧
      (s.tx.ops op).any (·.mStatus = .NotStarted) = true
  | .send session data token => token = .stopped ∧ (s.heldSlot session).isSome = true ∧
      data.length ≠ 0 ∧ s.mEC.isError = false ∧ s.tx.mSendTask.waits = false
  | _ => False

instance (s : SockScheduler) (e : SockScheduler.Event) : Decidable (CutsTail s e) := by
  rcases e with ⟨⟩ <;> dsimp only [CutsTail] <;> infer_instance

namespace SendSide
variable {tx tx' : SendSide} {op : OpId} {xs : List OpId} {ec mEC : ErrorCode} {nextOp slots : Nat}

/-- `mSendBufferLast` does not point at an operation that was erased. -/
def LastLive (tx : SendSide) : Prop :=
  ∀ l, tx.mSendBufferLast = some l → (tx.ops l).isSome = true

theorem LastLive.congr (ok : tx.LastLive) (last : tx'.mSendBufferLast = tx.mSendBufferLast)
    (live : ∀ p, (tx'.ops p).isSome = (tx.ops p).isSome) : tx'.LastLive := by
  intro l there
  rw [live]
  exact ok l (last ▸ there)

/-- The first operation leaves; the last one stays unless it is the same. -/
theorem LastLive.finish (ok : tx.LastLive) (chain : tx.ChainOk (op :: xs))
    (queues : tx.QueuesOk nextOp slots) : (tx.finish op ec).LastLive := by
  obtain ⟨rest, _⟩ := chain.finish queues ec
  intro l there
  simp only [SendSide.finish] at there
  split at there
  · cases there
  · rename_i follows
    have final := chain.last l there (ok l there)
    rw [chain.chain.next_head] at follows
    apply rest.mem.mp
    cases xs with
    | nil => exact absurd rfl follows
    | cons x xs =>
      rw [List.getLast?_cons_cons] at final
      exact List.mem_of_getLast? final

theorem LastLive.await (ok : tx.LastLive) (chain : tx.ChainOk (op :: xs))
    (queues : tx.QueuesOk nextOp slots) (awaits : (tx.finish op ec).Await mEC nextOp ec tx') :
    tx'.LastLive := by
  have left : (tx.finish op ec).LastLive := ok.finish chain queues
  cases awaits with
  | shut failed =>
    obtain ⟨_, _, _, shape⟩ := (tx.finish op ec).close_shape nextOp
      (if ec.isError then ErrorCode.coproto .cancel else ec)
    intro l there
    rw [shut, shape] at there
    cases there
  | take p ok begin => exact left.congr rfl fun q => Heap.isSome_modify _ _ _ _
  | park ok begin => exact left.congr rfl fun _ => rfl

theorem cut_mSendBufferLast (o : SendOperation) :
    (tx.cut op o).mSendBufferLast = tx.mSendBufferLast := by
  unfold SendSide.cut
  cases o.mPrev with
  | none => simp
  | some prev => simp

theorem isSome_cut (o : SendOperation) (p : OpId) :
    ((tx.cut op o).ops p).isSome = (decide (p ≠ op) && (tx.ops p).isSome) := by
  unfold SendSide.cut
  rw [erase_ops, Heap.erase_apply]
  by_cases same : p = op
  · simp [same]
  · rw [if_neg same]
    cases o.mPrev with
    | none => simp [same]
    | some prev => simp [same, isSome_setNext]

theorem LastLive.stop (ok : tx.LastLive) (failed : Bool)
    (inner : tx.mSendBufferLast = some op → (tx.ops op).any (·.mStatus = .NotStarted) = false) :
    (tx.stop op failed).LastLive := by
  unfold SendSide.stop
  cases live : tx.ops op with
  | none => exact ok
  | some o =>
    by_cases idle : o.mStatus = .NotStarted
    · simp only [idle, if_true]
      intro l there
      rw [abort, cut_mSendBufferLast] at there
      have other : l ≠ op := by
        rintro rfl
        have started := inner there
        rw [live] at started
        simp [idle] at started
      rw [abort, isSome_cut]
      simpa [other] using ok l there
    · simp only [idle, if_false]
      exact ok.congr rfl fun p => by simp

theorem LastLive.setReg (ok : tx.LastLive) (op : OpId) (reg : StopCallback) :
    (tx.setReg op reg).LastLive := ok.congr rfl fun p => by simp

theorem LastLive.enqueue (slot : Nat) (op : OpId) (data : List UInt8) :
    (tx.enqueue slot op data).LastLive := by
  unfold SendSide.enqueue
  dsimp only
  split
  · intro l there
    cases there
    simp
  · unfold SendSide.link
    intro l there
    cases there
    split
    · rw [isSome_setNext]
      simp
    · simp

/-- A parked task takes a posted send at once. -/
theorem enqueue_started (flags : tx.FlagsOk) (parked : tx.mSendTask.waits = true) (slot : Nat)
    (op : OpId) (data : List UInt8) :
    ((tx.enqueue slot op data).ops op).any (·.mStatus = .NotStarted) = false := by
  have flag : (tx.pushBack slot op { mSendBuffer := data, mSocketFork := slot }).mNextSendOp =
    tx.mSendTask.waits := flags
  unfold SendSide.enqueue
  dsimp only
  rw [flag, parked, if_pos rfl]
  simp

/-- Behind a task at work a posted send waits at the end of the list. -/
theorem enqueue_waits (flags : tx.FlagsOk) (busy : tx.mSendTask.waits = false) (slot : Nat)
    (op : OpId) (data : List UInt8) : (tx.enqueue slot op data).mSendBufferLast = some op ∧
      ∃ o, (tx.enqueue slot op data).ops op = some o ∧ o.mStatus = .NotStarted := by
  have flag : (tx.pushBack slot op { mSendBuffer := data, mSocketFork := slot }).mNextSendOp =
    tx.mSendTask.waits := flags
  unfold SendSide.enqueue
  dsimp only
  rw [flag, busy, if_neg (by simp)]
  unfold SendSide.link
  refine ⟨rfl, ?_⟩
  split
  · simp only [setNext_apply]
    simp
  · simp

end SendSide

namespace SockScheduler
variable {s t : SockScheduler} {e : Event}

theorem lastLive_sendStep (inv : SendInv s) (chained : s.tx.Chained) (live : s.tx.LastLive)
    (met : ¬ CutsTail s e) (step : SendStep s e t) : t.tx.LastLive := by
  cases step with
  | quiet tx mEC nextOp => exact tx ▸ live
  | woken tx first failed nextOp =>
    rw [tx]
    exact live.congr SendSide.wakeError_mSendBufferLast fun _ => by rw [SendSide.wakeError_ops]
  | rejected session data token ec error tx mEC nextOp =>
    rw [tx]
    exact live.congr rfl fun _ => rfl
  | posted session data token slot held full ok tx mEC nextOp =>
    rw [tx]
    have placed : ((s.tx.log (.posted s.nextOp session data)).enqueue slot s.nextOp data).LastLive :=
      .enqueue slot s.nextOp data
    cases token with
    | none => exact placed
    | live => exact placed.setReg _ _
    | stopped =>
      refine (placed.setReg s.nextOp .registered).stop false fun _ => ?_
      cases parked : s.tx.mSendTask.waits with
      | true =>
        have flags : (s.tx.log (.posted s.nextOp session data)).FlagsOk := inv.flags
        have parked' : (s.tx.log (.posted s.nextOp session data)).mSendTask.waits = true := parked
        have started := SendSide.enqueue_started flags parked' slot s.nextOp data
        rw [SendSide.setReg_ops, Heap.modify_self, Option.any_map]
        exact started
      | false => exact absurd ⟨rfl, by rw [held]; rfl, full, ok, parked⟩ met
  | stopped op armed tx mEC nextOp =>
    rw [tx]
    refine live.stop _ fun last => (Bool.not_eq_true _).mp fun idle => ?_
    exact met ⟨last, idle⟩
  | closed e task tx mEC nextOp =>
    rw [tx]
    exact live.congr rfl fun _ => rfl
  | started op part task opening tx mEC nextOp =>
    rw [tx]
    exact live.congr rfl fun _ => rfl
  | advanced part part' op token task x call full follows tx mEC nextOp =>
    rw [tx]
    exact live.congr rfl fun _ => rfl
  | finished part op token task x call reason awaits mEC nextOp =>
    obtain ⟨xs, chain⟩ := chained.sending inv.task task
    have logged : (s.tx.log (.xfer op part x)).ChainOk (op :: xs) := chain.congr rfl rfl rfl
    have live' : (s.tx.log (.xfer op part x)).LastLive := live.congr rfl fun _ => rfl
    exact live'.await logged (inv.queues.congr rfl fun _ => rfl) awaits

/-- As long as `mSendBufferLast` is live no send is lost. -/
theorem not_losesSend (live : s.tx.LastLive) (e : Event) : ¬ LosesSend s e := by
  intro loses
  unfold LosesSend at loses
  split at loses
  · obtain ⟨_, _, _, _, dead⟩ := loses
    obtain ⟨l, last, gone⟩ := (Option.any_eq_true _ _).mp dead
    rw [Option.isNone_iff_eq_none] at gone
    have there := live l last
    rw [gone] at there
    cases there
  · exact loses

end SockScheduler
end Coproto
