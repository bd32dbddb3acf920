import Farseer.Reader.Pending

/-! Requests that are answered. `invokeCallback` turns whatever the callback of the user does into an expected response,
and the consumer of a response is called with the outcome of its own request. -/

namespace Farseer

variable {υ : Type}

def Exception.what : Exception → Option (List UInt8)
  | .logicError message | .runtimeError message | .reservedNameError message | .duplicateProtocolNameError message
  | .invalidMapKeyError message | .messageNameNotDefinedError message | .protocolFieldSelfReferenceError message
  | .duplicateFieldNameError message | .protocolIdentifierAlreadyRegisteredError message
  | .protocolNotRegisteredError message | .protocolConsumerAlreadyRegisteredError message =>
    some message.toUTF8.toList
  | .requestProtocolError errorCode errorMessage =>
    some (("Error code: " ++ toString errorCode ++ ", error message: ").toUTF8.toList ++ errorMessage)
  | .badAnyCast => some "bad any_cast".toUTF8.toList
  | .standard what => some what
  | .internalSocketError _ | .internalSocketErrorWithCode _ | .socketNotFoundError _ | .unknown | .danglingReference
  | .outOfFuel => none

namespace Expected

variable {T : Type}

def internalServerErrorCode : UInt32 := 0

def fromInternalServerError : Option (List UInt8) → Expected T
  | none => .fromFailure internalServerErrorCode "Internal server error".toUTF8.toList
  | some errorMessage =>
    .fromFailure internalServerErrorCode ("Internal server error: ".toUTF8.toList ++ errorMessage)

/-- The `catch` clauses of `invokeCallback`. -/
def caught : Exception → Expected T
  | .requestProtocolError errorCode errorMessage => .fromFailure errorCode errorMessage
  | e => fromInternalServerError e.what

end Expected

namespace RequestProtocol

variable (p : RequestProtocol)

/-- A `UniqueFunction<Response(Request&&)>`. -/
abbrev Callback (υ : Type) := p.metadata.type.Value → EStateM Exception υ p.response.fields.Value

def invokeCallback (callback : p.Callback υ) : RequestConsumer υ := fun request user =>
  match (Program.lift (anyCast p.metadata.type request) >>= callback) user with
  | .ok response user => .ok (.of p.responseType (Expected.fromSuccess response)) user
  | .error e user => .ok (.of p.responseType (Expected.caught e)) user

end RequestProtocol

/-- A call of the callback for a request of a connection, with what it returned or threw. -/
structure RequestCall (p : RequestProtocol) where
  sequenceNumber : ProtocolSequenceNumber
  request : p.metadata.type.Value
  result : Except Exception p.response.fields.Value

namespace RequestCall

variable {p : RequestProtocol}

/-- What the consumer of the response should be called with. -/
def outcome (call : RequestCall p) : p.responseType.Value :=
  match call.result with
  | .ok response => Expected.fromSuccess response
  | .error (.requestProtocolError errorCode errorMessage) => Expected.fromFailure errorCode errorMessage
  | .error e => Expected.fromInternalServerError e.what

def made (callback : p.Callback υ) (user : υ) (sequenceNumber : ProtocolSequenceNumber)
    (request : p.metadata.type.Value) : RequestCall p where
  sequenceNumber := sequenceNumber
  request := request
  result :=
    match callback request user with
    | .ok response _ => .ok response
    | .error e _ => .error e

def responseFrame (call : RequestCall p) : Frame := ⟨.response p, call.sequenceNumber, call.outcome⟩

end RequestCall

variable {p : RequestProtocol}

theorem invokeCallback_made (callback : p.Callback υ) (user : υ) (n : ProtocolSequenceNumber)
    (request : p.metadata.type.Value) : p.invokeCallback callback (.of p.metadata.type request) user =
      .ok (.of p.responseType (RequestCall.made callback user n request).outcome) (Program.final (callback request user)) := by
  rw [RequestProtocol.invokeCallback, anyCast_of, Program.bind_ok (Program.lift_ok _)]
  unfold RequestCall.made RequestCall.outcome
  cases callback request user with
  | ok response user' => rfl
  | error e user' => cases e <;> rfl

def Arrival.call (callback : p.Callback υ) (user : υ) : Arrival υ → Option (RequestCall p)
  | .request identifier sequenceNumber value (some _) =>
    if identifier = p.metadata.protocolIdentifier then
      (anyCast p.metadata.type value).toOption.map (RequestCall.made callback user sequenceNumber)
    else none
  | _ => none

/-- The calls that answered requests while frames arrived one after the other. -/
def callsOf (callback : p.Callback υ) : υ → List (Arrival υ) → List (RequestCall p)
  | _, [] => []
  | user, arrival :: arrivals => (arrival.call callback user).toList ++ callsOf callback (arrival.invoke user) arrivals

theorem Arrival.call_request (callback : p.Callback υ) (user : υ) (n : ProtocolSequenceNumber)
    (request : p.metadata.type.Value) (consumer : RequestConsumer υ) :
    (Arrival.request p.metadata.protocolIdentifier n (.of p.metadata.type request) (some consumer)).call callback user =
      some (RequestCall.made callback user n request) := by
  rw [Arrival.call, if_pos rfl, anyCast_of]
  rfl

theorem responseBytes_made (p : RequestProtocol) (n : ProtocolSequenceNumber) (value : p.responseType.Value) :
    responseBytes p n (.of p.responseType value) = Frame.bytes ⟨.response p, n, value⟩ := by
  rw [responseBytes, anyCast_of]

def ProtocolReader.Calls (reader : ProtocolReader υ) (callback : p.Callback υ) : Prop :=
  reader.inboundRequestConsumers[p.metadata.protocolIdentifier]? = some (p.invokeCallback callback)

theorem deliver_request {callback : p.Callback υ} {s : Reading υ} (h : s.reader.Calls callback)
    (n : ProtocolSequenceNumber) (request : p.metadata.type.Value) :
    deliver s ⟨.request p, n, request⟩ = { s with
      user := Program.final (callback request s.user)
      outboundBytes := s.outboundBytes ++ (RequestCall.made callback s.user n request).responseFrame.bytes
      arrivals := s.arrivals ++ [.request p.metadata.protocolIdentifier n (.of p.metadata.type request)
        (some (p.invokeCallback callback))] } := by
  have hmade := invokeCallback_made callback s.user n request
  simp only [deliver]
  rw [show s.reader.inboundRequestConsumers[p.metadata.protocolIdentifier]? = _ from h]
  simp only [Frame.any, Protocol.type, hmade, responseBytes_made]
  rfl

/-- Requests are answered one after the other: the callback is called once for each, and the response is
appended behind those before it. -/
theorem foldl_deliver_requests {callback : p.Callback υ}
    (requests : List (ProtocolSequenceNumber × p.metadata.type.Value)) {s : Reading υ} (h : s.reader.Calls callback) :
    ∃ (user : υ) (new : List (Arrival υ)),
      (requests.map fun r => (⟨.request p, r.1, r.2⟩ : Frame)).foldl deliver s = { s with
        user
        outboundBytes := s.outboundBytes ++ (callsOf callback s.user new).flatMap fun call => call.responseFrame.bytes
        arrivals := s.arrivals ++ new } ∧
      (callsOf callback s.user new).map (fun call => (call.sequenceNumber, call.request)) = requests ∧
      ∀ call ∈ callsOf callback s.user new, ∃ user',
        call = RequestCall.made callback user' call.sequenceNumber call.request := by
  induction requests generalizing s with
  | nil => exact ⟨s.user, [], by simp [callsOf], rfl, by simp [callsOf]⟩
  | cons r requests ih =>
    obtain ⟨n, request⟩ := r
    rw [List.map_cons, List.foldl_cons, deliver_request h]
    obtain ⟨user, new, hdeliver, hcalls, hmade⟩ := @ih { s with
      user := Program.final (callback request s.user)
      outboundBytes := s.outboundBytes ++ (RequestCall.made callback s.user n request).responseFrame.bytes
      arrivals := s.arrivals ++ [.request p.metadata.protocolIdentifier n (.of p.metadata.type request)
        (some (p.invokeCallback callback))] } h
    let arrival : Arrival υ := .request p.metadata.protocolIdentifier n (.of p.metadata.type request)
      (some (p.invokeCallback callback))
    have hinvoke : arrival.invoke s.user = Program.final (callback request s.user) := by
      rw [Arrival.invoke, invokeCallback_made callback s.user n request]
      rfl
    have hfirst : callsOf callback s.user (arrival :: new) =
        RequestCall.made callback s.user n request :: callsOf callback (Program.final (callback request s.user)) new := by
      rw [callsOf, hinvoke, Arrival.call_request]
      rfl
    refine ⟨user, arrival :: new, ?_, ?_, ?_⟩
    · rw [hdeliver, hfirst]
      simp [arrival]
    · rw [hfirst, List.map_cons, hcalls]
      rfl
    · rw [hfirst]
      rintro call (_ | ⟨_, hcall⟩)
      · exact ⟨s.user, rfl⟩
      · exact hmade call hcall

/-- A request for which `sendRequest` has drawn a number; the sequence number is the number as far as it fits. -/
structure IssuedRequest (p : RequestProtocol) (υ : Type) where
  number : ℕ
  request : p.metadata.type.Value
  responseConsumer : p.responseType.Value → EStateM Exception υ Unit

namespace IssuedRequest

def sequenceNumber (r : IssuedRequest p υ) : ProtocolSequenceNumber := UInt64.ofNat r.number

def frame (r : IssuedRequest p υ) : Frame := ⟨.request p, r.sequenceNumber, r.request⟩

/-- The consumer of its response is called with the outcome. -/
def answer (r : IssuedRequest p υ) (outcome : p.responseType.Value) : Arrival υ :=
  .response p.response.protocolIdentifier r.sequenceNumber (.of p.responseType outcome)
    (some (p.expecting r.responseConsumer))

end IssuedRequest

/-- The response consumers are those of the requests. -/
def ProtocolReader.Awaits (reader : ProtocolReader υ) (requests : List (IssuedRequest p υ)) : Prop :=
  ∀ n : ProtocolSequenceNumber, reader.inboundOneShotResponseConsumers[n]? =
    (requests.find? (·.sequenceNumber = n)).map fun r => p.expecting r.responseConsumer

/-- A request is added whose number no other one has. -/
theorem ProtocolReader.Awaits.insert {reader : ProtocolReader υ} {requests : List (IssuedRequest p υ)}
    (h : reader.Awaits requests) {r : IssuedRequest p υ}
    (hfree : reader.inboundOneShotResponseConsumers.contains r.sequenceNumber = false) :
    (∀ other ∈ requests, other.sequenceNumber ≠ r.sequenceNumber) ∧
    ProtocolReader.Awaits { reader with
      inboundOneShotResponseConsumers :=
        reader.inboundOneShotResponseConsumers.insert r.sequenceNumber (p.expecting r.responseConsumer) }
      (requests ++ [r]) := by
  have hnone := Table.lookup_free hfree
  rw [h, Option.map_eq_none_iff, List.find?_eq_none] at hnone
  have hnew : ∀ other ∈ requests, other.sequenceNumber ≠ r.sequenceNumber := by simpa using hnone
  refine ⟨hnew, fun n => ?_⟩
  rw [Table.lookup_insert, List.find?_append]
  split_ifs with hn
  · subst hn
    rw [List.find?_eq_none.mpr hnone]
    simp
  · rw [h]
    simp [hn]

/-- Responses to requests that wait call their consumers, each with the outcome of its own request. -/
theorem foldl_deliver_responses (exchanges : List (IssuedRequest p υ × RequestCall p))
    (hmatch : ∀ e ∈ exchanges, e.2.sequenceNumber = e.1.sequenceNumber) (waiting : List (IssuedRequest p υ))
    {s : Reading υ} (h : s.reader.Awaits (exchanges.map Prod.fst ++ waiting))
    (hdistinct : ((exchanges.map Prod.fst ++ waiting).map IssuedRequest.sequenceNumber).Nodup) :
    ∃ (user : υ) (reader : ProtocolReader υ),
      (exchanges.map fun e => e.2.responseFrame).foldl deliver s =
        { s with user, reader, arrivals := s.arrivals ++ exchanges.map fun e => e.1.answer e.2.outcome } ∧
      reader.Awaits waiting := by
  induction exchanges generalizing s with
  | nil => exact ⟨s.user, s.reader, by simp, h⟩
  | cons e exchanges ih =>
    obtain ⟨r, call⟩ := e
    have hnumber : call.sequenceNumber = r.sequenceNumber := hmatch (r, call) List.mem_cons_self
    simp only [List.map_cons, List.cons_append, List.nodup_cons] at h hdistinct
    have hfound : s.reader.inboundOneShotResponseConsumers[call.sequenceNumber]? = some (p.expecting r.responseConsumer) := by
      rw [hnumber, h]
      simp
    have hdeliver : deliver s call.responseFrame = Reading.eraseOneShot call.sequenceNumber { s with
        user := Program.final (p.expecting r.responseConsumer call.responseFrame.any s.user)
        arrivals := s.arrivals ++ [r.answer call.outcome] } := by
      simp only [deliver, RequestCall.responseFrame, hfound, IssuedRequest.answer, ← hnumber]
      rfl
    have hrest : (Reading.eraseOneShot call.sequenceNumber s).reader.Awaits (exchanges.map Prod.fst ++ waiting) := by
      intro n
      simp only [Reading.eraseOneShot]
      rw [Table.lookup_erase, h, hnumber]
      split_ifs with hn
      · subst hn
        refine (Option.map_eq_none_iff.mpr (List.find?_eq_none.mpr fun other hother => ?_)).symm
        have hne : other.sequenceNumber ≠ r.sequenceNumber := fun heq =>
          hdistinct.1 (List.mem_map.mpr ⟨other, hother, heq⟩)
        simpa using hne
      · simp [hn]
    obtain ⟨user, reader, hfold, hawaits⟩ := @ih (fun e' he' => hmatch e' (List.mem_cons_of_mem _ he'))
      (Reading.eraseOneShot call.sequenceNumber { s with
        user := Program.final (p.expecting r.responseConsumer call.responseFrame.any s.user)
        arrivals := s.arrivals ++ [r.answer call.outcome] }) hrest hdistinct.2
    refine ⟨user, reader, ?_, hawaits⟩
    rw [List.map_cons, List.foldl_cons, hdeliver, hfold]
    simp [Reading.eraseOneShot]

end Farseer
