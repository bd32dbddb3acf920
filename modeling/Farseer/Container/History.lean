import Farseer.Reader.ProtocolReader

/-! What a socket container does that its user can tell, and what the handlers registered on a
socket are for. The Linux and the Windows container both keep such a history beside their
state; nothing in the source reads it. -/

namespace Farseer

variable {υ : Type}

abbrev ConnectionCallback (υ : Type) := SocketEvent → SocketIdentifier → EStateM Exception υ Unit

/-- What a socket was inserted for. -/
inductive SocketOrigin
  | listen
  | connect
  | accept (listeningSocketIdentifier : SocketIdentifier)
deriving DecidableEq

inductive ContainerEvent (υ : Type)
  /-- a socket was inserted, with no handlers -/
  | socketInserted (socketIdentifier : SocketIdentifier) (origin : SocketOrigin)
  /-- `registerMessageConsumer` returned -/
  | messageConsumerRegistered (socketIdentifier : SocketIdentifier) (protocolIdentifier : ProtocolIdentifier)
      (messageConsumer : Consumer υ)
  /-- `sendRequest` registered the consumer of its response -/
  | responseConsumerRegistered (socketIdentifier : SocketIdentifier)
      (protocolSequenceNumber : ProtocolSequenceNumber) (responseConsumer : Consumer υ)
  /-- a frame was read from the bytes that arrived on a socket -/
  | frameRead (socketIdentifier : SocketIdentifier) (arrival : Arrival υ)
  /-- the connection callback of a socket was called -/
  | notified (socketIdentifier : SocketIdentifier) (socketEvent : SocketEvent) (argument : SocketIdentifier)

def pendingAfter (s : SocketIdentifier) (n : ProtocolSequenceNumber) (pending : Option (Consumer υ)) :
    ContainerEvent υ → Option (Consumer υ)
  | .socketInserted socketIdentifier _ => if socketIdentifier = s then none else pending
  | .responseConsumerRegistered socketIdentifier sequenceNumber consumer =>
    if socketIdentifier = s ∧ sequenceNumber = n then some consumer else pending
  | .frameRead socketIdentifier (.response _ sequenceNumber _ _) =>
    if socketIdentifier = s ∧ sequenceNumber = n then none else pending
  | _ => pending

/-- The consumer of a request sent on a socket whose response has not arrived there. -/
def pendingConsumer (s : SocketIdentifier) (n : ProtocolSequenceNumber) (history : List (ContainerEvent υ)) :
    Option (Consumer υ) :=
  history.foldl (pendingAfter s n) none

def registeredAfter (s : SocketIdentifier) (p : ProtocolIdentifier) (registered : Option (Consumer υ)) :
    ContainerEvent υ → Option (Consumer υ)
  | .socketInserted socketIdentifier _ => if socketIdentifier = s then none else registered
  | .messageConsumerRegistered socketIdentifier protocolIdentifier consumer =>
    if socketIdentifier = s ∧ protocolIdentifier = p then some consumer else registered
  | _ => registered

def registeredConsumer (s : SocketIdentifier) (p : ProtocolIdentifier) (history : List (ContainerEvent υ)) :
    Option (Consumer υ) :=
  history.foldl (registeredAfter s p) none

/-- The frame that arrived on a socket went to the handler registered on that socket, or to nobody
if there was none. -/
def Consults (history : List (ContainerEvent υ)) (s : SocketIdentifier) : Arrival υ → Prop
  | .message identifier _ found => found = registeredConsumer s identifier history
  | .request .. => True
  | .response _ sequenceNumber _ found => found = pendingConsumer s sequenceNumber history

/-- Every frame that arrived on a socket went to the handler of that socket. -/
def HandlersConsulted (s : SocketIdentifier) (history : List (ContainerEvent υ)) : Prop :=
  ∀ before arrival after, history = before ++ .frameRead s arrival :: after → Consults before s arrival

theorem pendingConsumer_concat (s : SocketIdentifier) (n : ProtocolSequenceNumber)
    (history : List (ContainerEvent υ)) (event : ContainerEvent υ) :
    pendingConsumer s n (history ++ [event]) = pendingAfter s n (pendingConsumer s n history) event := by
  unfold pendingConsumer
  rw [List.foldl_concat]

theorem registeredConsumer_concat (s : SocketIdentifier) (p : ProtocolIdentifier)
    (history : List (ContainerEvent υ)) (event : ContainerEvent υ) :
    registeredConsumer s p (history ++ [event]) = registeredAfter s p (registeredConsumer s p history) event := by
  unfold registeredConsumer
  rw [List.foldl_concat]

theorem HandlersConsulted.nil (s : SocketIdentifier) : HandlersConsulted s ([] : List (ContainerEvent υ)) := by
  intro before arrival after h
  cases before <;> cases h

theorem HandlersConsulted.concat {s : SocketIdentifier} {history : List (ContainerEvent υ)}
    (h : HandlersConsulted s history) {event : ContainerEvent υ}
    (hevent : ∀ arrival, event = .frameRead s arrival → Consults history s arrival) :
    HandlersConsulted s (history ++ [event]) := by
  intro before arrival after heq
  rcases List.eq_nil_or_concat' after with rfl | ⟨after, last, rfl⟩
  · obtain ⟨rfl, hlast⟩ := List.append_inj' heq rfl
    exact hevent arrival (List.singleton_inj.mp hlast)
  · rw [← List.cons_append, ← List.append_assoc] at heq
    obtain ⟨rfl, -⟩ := List.append_inj' heq rfl
    exact h before arrival after rfl

end Farseer
