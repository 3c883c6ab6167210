import Mathlib.Logic.Basic

/-!
# AsioTlsConnect

coproto/Socket/AsioSocket.h:1216-1380, a connector whose token cannot be stopped. The
handler of an operation may run on another thread as soon as the operation was started. An
event is the code of one party up to its update of `mSynchronousFlag`, with what the party
goes on to do for the value that it saw.
-/
namespace Coproto

/-- The error codes that the connector tells apart. -/
inductive ConnectEc where
  | success
  | connection_refused
  | other
  deriving DecidableEq, Repr

structure TlsConnectConfig where
  /-- whether plain `char` is signed on the platform -/
  charSigned : Bool
  mRetryOnFailure : Bool

/-- The handler of `async_connect`. It is `shaking` from its call of `async_handshake` to its
update of the flag. -/
inductive ConnectHandler where
  | waiting
  | shaking
  | failed (ec : ConnectEc)
  | done
  deriving DecidableEq, Repr

inductive HandshakeHandler where
  | idle
  | waiting
  | done
  deriving DecidableEq, Repr

structure AsioTlsConnect where
  mHandle : Option Nat
  mEc : ConnectEc := .success
  mSynchronousFlag : BitVec 8 := 0
  mRetryDelay : Nat := 1
  /-- whether `await_suspend` has yet to update the flag -/
  initiator : Bool := false
  connect : ConnectHandler := .waiting
  handshake : HandshakeHandler := .idle
  timer : Bool := false
  /-- the calls of `retry` that have yet to read `mToken` -/
  retrying : Nat := 0
  /-- the handles that were resumed -/
  resumed : List (Option Nat) := []
  /-- whether a party used the object after a handle was resumed -/
  touched : Bool := false
  deriving DecidableEq, Repr

namespace AsioTlsConnect

inductive Event where
  | initiator
  | connected (ec : ConnectEc)
  | connectUpdated
  | handshaken (ec : ConnectEc)
  | timer
  | retried
  deriving DecidableEq, Repr

/-- `f < 0` for a `char`. -/
def negative (c : TlsConnectConfig) (f : BitVec 8) : Bool := c.charSigned && f.msb

def resume (s : AsioTlsConnect) : AsioTlsConnect :=
  { s with
    mHandle := none
    resumed := s.resumed ++ [s.mHandle] }

/-- `retry` up to its call of `async_wait`. -/
def retry (s : AsioTlsConnect) : AsioTlsConnect :=
  { s with
    timer := true
    retrying := s.retrying + 1 }

def retryOrResume (c : TlsConnectConfig) (s : AsioTlsConnect) : AsioTlsConnect :=
  if s.mEc = .connection_refused ∧ c.mRetryOnFailure = true then s.retry else s.resume

/-- `await_suspend` up to its call of `async_connect`. -/
def await_suspend (s : AsioTlsConnect) (h : Option Nat) : AsioTlsConnect :=
  { s with
    mHandle := h
    initiator := true
    connect := .waiting
    handshake := .idle }

/-- `await_ready`, then `await_suspend`. -/
def init (h : Nat) : AsioTlsConnect :=
  ({ mHandle := none, mSynchronousFlag := 2 } : AsioTlsConnect).await_suspend (some h)

/-- The end of `await_suspend`. -/
def initiatorUpdate (s : AsioTlsConnect) : AsioTlsConnect :=
  let t := { s with
    initiator := false
    mSynchronousFlag := s.mSynchronousFlag - 1 }
  if s.mSynchronousFlag = 0 then t.resume else t

def connectHandler (c : TlsConnectConfig) (s : AsioTlsConnect) (ec : ConnectEc) :
    AsioTlsConnect :=
  let s := { s with mEc := ec }
  if s.mEc ≠ .success then
    let f := s.mSynchronousFlag - 2
    let t := { s with
      mSynchronousFlag := f
      connect := .failed ec }
    if negative c f then t.retryOrResume c else t
  else
    { s with
      connect := .shaking
      handshake := .waiting }

/-- The handler of `async_connect` after its call of `async_handshake`. -/
def connectUpdate (c : TlsConnectConfig) (s : AsioTlsConnect) : AsioTlsConnect :=
  let t := { s with
    connect := .done
    mSynchronousFlag := s.mSynchronousFlag - 1 }
  if s.mSynchronousFlag = 0 then t.retryOrResume c else t

def handshakeHandler (s : AsioTlsConnect) (ec : ConnectEc) : AsioTlsConnect :=
  let t := { s with
    mEc := ec
    handshake := .done
    mSynchronousFlag := s.mSynchronousFlag - 1 }
  if s.mSynchronousFlag = 0 then t.resume else t

/-- The handler that `retry` gives to the timer. -/
def timerHandler (s : AsioTlsConnect) : AsioTlsConnect :=
  let t := { s with
    timer := false
    mSynchronousFlag := 2
    mRetryDelay := min (s.mRetryDelay * 2) 1000 }
  t.await_suspend t.mHandle

def touch (s : AsioTlsConnect) : AsioTlsConnect :=
  { s with touched := s.touched || !s.resumed.isEmpty }

def step (c : TlsConnectConfig) (s : AsioTlsConnect) : Event → Option AsioTlsConnect
  | .initiator => if s.initiator then some s.touch.initiatorUpdate else none
  | .connected ec => if s.connect = .waiting then some (s.touch.connectHandler c ec) else none
  | .connectUpdated => if s.connect = .shaking then some (s.touch.connectUpdate c) else none
  | .handshaken ec =>
    if s.handshake = .waiting then some (s.touch.handshakeHandler ec) else none
  | .timer => if s.timer then some s.touch.timerHandler else none
  | .retried =>
    if 0 < s.retrying then some { s.touch with retrying := s.retrying - 1 } else none

end AsioTlsConnect
end Coproto
