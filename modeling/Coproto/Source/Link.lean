import Coproto.Source.Scheduler

/-!
# Two schedulers and the transport between them

SocketScheduler.h:814-941, 1036-1137. What the send task of one scheduler writes is read by the
receive task of the other one. A call of the transport moves no more than its buffer; `Lawful` is
the transport that moves all of it when it reports success. The way back is left open: its calls
return anything.
-/
namespace Coproto

structure Link where
  sender : SockScheduler
  receiver : SockScheduler
  wire : List UInt8 := []

namespace Link

inductive Event where
  | sender (e : SockScheduler.Event)
  | receiver (e : SockScheduler.Event)
  deriving DecidableEq, Repr

/-- The buffer of the send call in flight. -/
def outgoing (s : SockScheduler) : List UInt8 :=
  match s.tx.mSendTask with
  | .sending part op _ => s.sendBytes part op
  | _ => []

def Moves (ec : ErrorCode) (bt size : Nat) : Prop := bt ≤ size ∧ (ec.isError = false → bt = size)

instance (ec : ErrorCode) (bt size : Nat) : Decidable (Moves ec bt size) :=
  inferInstanceAs (Decidable (_ ∧ _))

/-- What a call that returns does to its buffer. -/
def Lawful (s : SockScheduler) : SockScheduler.Event → Prop
  | .sendReturned ec bt => Moves ec bt (outgoing s).length
  | .recvReturned ec bt bytes => Moves ec bt bytes.length
  | _ => True

instance (s : SockScheduler) (e : SockScheduler.Event) : Decidable (Lawful s e) := by
  rcases e with ⟨⟩ <;> dsimp only [Lawful] <;> infer_instance

/-- A call that returns has moved no more than its buffer, whatever it reports. -/
def Within (s : SockScheduler) : SockScheduler.Event → Prop
  | .sendReturned _ bt => bt ≤ (outgoing s).length
  | .recvReturned _ bt bytes => bt ≤ bytes.length
  | _ => True

instance (s : SockScheduler) (e : SockScheduler.Event) : Decidable (Within s e) := by
  rcases e with ⟨⟩ <;> dsimp only [Within] <;> infer_instance

def written (s : SockScheduler) : SockScheduler.Event → List UInt8
  | .sendReturned _ bt => (outgoing s).take bt
  | _ => []

/-- The bytes of a receive call are the next ones on the wire. -/
def Arrives (wire : List UInt8) : SockScheduler.Event → Prop
  | .recvReturned _ bt bytes => bt ≤ wire.length ∧ bytes.take bt = wire.take bt
  | _ => True

instance (wire : List UInt8) (e : SockScheduler.Event) : Decidable (Arrives wire e) := by
  rcases e with ⟨⟩ <;> dsimp only [Arrives] <;> infer_instance

def unread (wire : List UInt8) : SockScheduler.Event → List UInt8
  | .recvReturned _ bt _ => wire.drop bt
  | _ => wire

def step (l : Link) : Event → Option Link
  | .sender e =>
    if Within l.sender e then
      (l.sender.step e).map fun s => { l with
        sender := s
        wire := l.wire ++ written l.sender e }
    else none
  | .receiver e =>
    if Within l.receiver e ∧ Arrives l.wire e then
      (l.receiver.step e).map fun s => { l with
        receiver := s
        wire := unread l.wire e }
    else none

def init (sid sid' : SessionID) : Link :=
  { sender := .init sid
    receiver := .init sid' }

end Link
end Coproto
