import Farseer.Lib.Table
import Farseer.Reader.ProtocolReader

/-! What the frames that a reader has read did to its tables and to the user: each was handed to
the handler that the tables had for it, and a response took its handler along. -/

namespace Farseer

variable {υ : Type}

/-- The user code that the arrival of a frame runs, with the value of the frame. -/
def Arrival.invoke (user : υ) : Arrival υ → υ
  | .message _ value (some consumer) => Program.final (consumer value user)
  | .request _ _ value (some consumer) => Program.final (consumer value user)
  | .response _ _ value (some consumer) => Program.final (consumer value user)
  | _ => user

namespace ProtocolReader

/-- The frame went to the handler that the tables have for it, or to nobody. -/
def Serves (reader : ProtocolReader υ) : Arrival υ → Prop
  | .message identifier _ found => found = reader.inboundMessageConsumers[identifier]?
  | .request identifier _ _ found => found = reader.inboundRequestConsumers[identifier]?
  | .response _ sequenceNumber _ found => found = reader.inboundOneShotResponseConsumers[sequenceNumber]?

/-- The tables after a frame: a response is one-shot. -/
def afterArrival (reader : ProtocolReader υ) : Arrival υ → ProtocolReader υ
  | .response _ sequenceNumber _ _ => { reader with
      inboundOneShotResponseConsumers := reader.inboundOneShotResponseConsumers.erase sequenceNumber }
  | _ => reader

/-- The frames were served one after the other, and no other user code ran. -/
inductive Reads : ProtocolReader υ → υ → List (Arrival υ) → ProtocolReader υ → υ → Prop
  | nil (reader : ProtocolReader υ) (user : υ) : Reads reader user [] reader user
  | concat {reader reader' : ProtocolReader υ} {user user' : υ} {arrivals : List (Arrival υ)}
      (h : Reads reader user arrivals reader' user') {arrival : Arrival υ} (hserves : reader'.Serves arrival) :
    Reads reader user (arrivals ++ [arrival]) (reader'.afterArrival arrival) (arrival.invoke user')

theorem Reads.single {reader : ProtocolReader υ} {arrival : Arrival υ} (h : reader.Serves arrival) (user : υ) :
    Reads reader user [arrival] (reader.afterArrival arrival) (arrival.invoke user) := (Reads.nil reader user).concat h

theorem Reads.trans {reader reader' reader'' : ProtocolReader υ} {user user' user'' : υ}
    {arrivals arrivals' : List (Arrival υ)} (h : Reads reader user arrivals reader' user')
    (h' : Reads reader' user' arrivals' reader'' user'') :
    Reads reader user (arrivals ++ arrivals') reader'' user'' := by
  induction h' with
  | nil =>
    rw [List.append_nil]
    exact h
  | concat _ hserves ih =>
    rw [← List.append_assoc]
    exact (ih h).concat hserves

end ProtocolReader

namespace Reading

def Serves (s t : Reading υ) : Prop :=
  ∃ new, t.arrivals = s.arrivals ++ new ∧ ProtocolReader.Reads s.reader s.user new t.reader t.user

instance : IsPreorder (Reading υ) Serves where
  refl s := ⟨[], (List.append_nil _).symm, .nil _ _⟩
  trans s t u := by
    rintro ⟨new, hnew, hreads⟩ ⟨new', hnew', hreads'⟩
    refine ⟨new ++ new', ?_, hreads.trans hreads'⟩
    rw [hnew', hnew, List.append_assoc]

theorem Serves.of_same {s t : Reading υ} (harrivals : t.arrivals = s.arrivals) (hreader : t.reader = s.reader)
    (huser : t.user = s.user) : Serves s t := by
  refine ⟨[], by rw [harrivals, List.append_nil], ?_⟩
  rw [hreader, huser]
  exact .nil _ _

theorem deserialize_serves {α : Type} (deserializer : List UInt8 → EStateM Exception ℕ α) (bitsOffset : ℕ)
    (s : Reading υ) : Program.Within Serves (deserialize deserializer bitsOffset) s := by
  unfold Program.Within deserialize
  cases deserializer s.inboundBytes bitsOffset <;> exact refl_of Serves s

theorem callPointer_serves {α : Type} (pointer : Option α) (s : Reading υ) :
    Program.Within Serves (callPointer pointer) s := by
  cases pointer with
  | none => exact .throw _
  | some f => exact .pure _

theorem lift_serves {α : Type} (r : Except Exception α) (s : Reading υ) :
    Program.Within Serves (Program.lift r) s := by
  cases r <;> exact refl_of Serves s

theorem onOutboundBytes_serves {α : Type} (x : EStateM Exception (List UInt8) α) (s : Reading υ) :
    Program.Within Serves (onOutboundBytes x) s := by
  unfold Program.Within onOutboundBytes Program.zoom
  cases x s.outboundBytes <;> exact .of_same rfl rfl rfl

theorem onUser_final {α : Type} (x : EStateM Exception υ α) (s : Reading υ) :
    Program.final (onUser x s) = { s with user := Program.final (x s.user) } := by
  unfold onUser Program.zoom
  cases x s.user <;> rfl

/-- A frame was recorded and its handler has run. -/
theorem serves_arrival {s t : Reading υ} {arrival : Arrival υ} (hserves : s.reader.Serves arrival)
    (harrivals : t.arrivals = s.arrivals ++ [arrival]) (hreader : t.reader = s.reader.afterArrival arrival)
    (huser : t.user = arrival.invoke s.user) : Serves s t := by
  refine ⟨[arrival], harrivals, ?_⟩
  rw [hreader, huser]
  exact .single hserves s.user

theorem consumeMessage_serves (identifier : ProtocolIdentifier) (message : Any) (s : Reading υ) :
    Program.Within Serves (consumeMessage identifier message) s := by
  refine .get_bind ?_
  cases hconsumer : s.reader.inboundMessageConsumers[identifier]? with
  | none =>
    have hserves : s.reader.Serves (.message identifier message none) := hconsumer.symm
    exact .modify (serves_arrival hserves rfl rfl rfl)
  | some consumer =>
    have hserves : s.reader.Serves (.message identifier message (some consumer)) := hconsumer.symm
    dsimp only
    rw [Program.Within, record, Program.bind_ok (Program.modify_apply _), wrapInTryCatchAndInvoke, Program.catchAll,
      Program.final, onUser_final]
    exact serves_arrival hserves rfl rfl rfl

theorem consumeResponse_serves (identifier : ProtocolIdentifier) (n : ProtocolSequenceNumber) (response : Any)
    (s : Reading υ) : Program.Within Serves (consumeResponse identifier n response) s := by
  refine .get_bind ?_
  cases hconsumer : s.reader.inboundOneShotResponseConsumers[n]? with
  | none =>
    have hserves : s.reader.Serves (.response identifier n response none) := hconsumer.symm
    refine .modify (serves_arrival hserves rfl ?_ rfl)
    rw [ProtocolReader.afterArrival, Table.erase_of_absent hconsumer]
  | some consumer =>
    have hserves : s.reader.Serves (.response identifier n response (some consumer)) := hconsumer.symm
    dsimp only
    rw [Program.Within, record, Program.bind_ok (Program.modify_apply _), wrapInTryCatchAndInvoke,
      Program.scopeExit_ok (by rw [Program.catchAll]), Program.final, onUser_final]
    exact serves_arrival hserves rfl rfl rfl

/-- The request is answered after its handler has run; a failure to do so changes no table. -/
theorem consumeRequest_serves (identifier : ProtocolIdentifier) (descriptor : ProtocolDescriptor)
    (n : ProtocolSequenceNumber) (request : Any) (s : Reading υ) :
    Program.Within Serves (consumeRequest identifier descriptor n request) s := by
  refine .get_bind ?_
  cases hconsumer : s.reader.inboundRequestConsumers[identifier]? with
  | none =>
    have hserves : s.reader.Serves (.request identifier n request none) := hconsumer.symm
    exact .modify (serves_arrival hserves rfl rfl rfl)
  | some consumer =>
    have hserves : s.reader.Serves (.request identifier n request (some consumer)) := hconsumer.symm
    dsimp only
    rw [Program.Within, record, Program.bind_ok (Program.modify_apply _)]
    refine Program.after ?_ fun response t _ => ?_
    · rw [onUser_final]
      exact serves_arrival hserves rfl rfl rfl
    · refine .bind (callPointer_serves _ t) fun serializer u _ => ?_
      exact onOutboundBytes_serves _ u

theorem readInbound_serves (identifier : ProtocolIdentifier) (descriptor : ProtocolDescriptor) (offset : ℕ)
    (s : Reading υ) : Program.Within Serves (readInbound identifier descriptor offset) s := by
  unfold readInbound
  cases descriptor.protocolType with
  | message =>
    refine .bind (callPointer_serves _ s) fun deserializer t _ => ?_
    refine .bind (deserialize_serves _ _ t) fun ⟨read, end'⟩ u _ => ?_
    cases read with
    | none => exact .pure _
    | some message => exact .bind (consumeMessage_serves _ _ u) fun _ v _ => .pure _
  | request =>
    refine .bind (callPointer_serves _ s) fun deserializer t _ => ?_
    refine .bind (deserialize_serves _ _ t) fun ⟨read, end'⟩ u _ => ?_
    cases read with
    | none => exact .pure _
    | some request => exact .bind (consumeRequest_serves _ _ _ _ u) fun _ v _ => .pure _
  | response =>
    refine .bind (callPointer_serves _ s) fun deserializer t _ => ?_
    refine .bind (deserialize_serves _ _ t) fun ⟨read, end'⟩ u _ => ?_
    cases read with
    | none => exact .pure _
    | some response => exact .bind (consumeResponse_serves _ _ _ u) fun _ v _ => .pure _

variable [Ballotin]

theorem readLoop_serves (registry : ProtocolRegistry) (fuel : ℕ) (s : Reading υ) :
    Program.Within Serves (readLoop registry fuel) s := by
  induction fuel generalizing s with
  | zero => exact .throw _
  | succ fuel ih =>
    refine .get_bind ?_
    split_ifs
    · refine .bind (deserialize_serves _ _ s) fun ⟨identifier, start⟩ t _ => ?_
      refine .bind (lift_serves _ t) fun descriptor u _ => ?_
      refine .bind (readInbound_serves _ _ _ u) fun consumed v _ => ?_
      cases consumed with
      | none => exact .pure _
      | some offset => exact .bind (.modify (.of_same rfl rfl rfl)) fun _ x _ => ih x
    · exact .pure _

/-- However `readInboundBytes` ends, the frames it has read were served. -/
theorem readInboundBytes_serves (registry : ProtocolRegistry) (s : Reading υ) :
    Program.Within Serves (readInboundBytes registry) s := by
  refine .bind (.modify (.of_same rfl rfl rfl)) fun _ t _ => .get_bind (.scopeExit ?_)
  have hloop := readLoop_serves registry (t.inboundBytes.length + 1) t
  have herased : Serves (Program.final (readLoop registry (t.inboundBytes.length + 1) t))
      (eraseInboundBytes (Program.final (readLoop registry (t.inboundBytes.length + 1) t))) :=
    .of_same rfl rfl rfl
  exact trans_of Serves hloop herased

end Reading

end Farseer
