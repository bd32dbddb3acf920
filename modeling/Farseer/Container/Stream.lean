import Farseer.Container.Roster
import Farseer.Reader.Answers

/-! What becomes of the bytes that arrive on the sockets of a container. Frames are handed over from the front of them,
and what is not handed over yet waits in the socket; no bytes are lost, none are read twice, and the bytes of one socket
never get into those of another one. Both containers keep the invariant. -/

namespace Farseer

variable {υ : Type}

def deliveryOn (id : SocketIdentifier) : ContainerEvent υ → Option Delivery
  | .frameRead socketIdentifier arrival => if socketIdentifier = id then some arrival.delivery else none
  | _ => none

def deliveriesOn (id : SocketIdentifier) (history : List (ContainerEvent υ)) : List Delivery :=
  history.filterMap (deliveryOn id)

theorem deliveriesOn_append (id : SocketIdentifier) (history more : List (ContainerEvent υ)) :
    deliveriesOn id (history ++ more) = deliveriesOn id history ++ deliveriesOn id more := List.filterMap_append ..

theorem deliveriesOn_frames (id id' : SocketIdentifier) (arrivals : List (Arrival υ)) :
    deliveriesOn id (arrivals.map (.frameRead id')) = if id' = id then arrivals.map Arrival.delivery else [] := by
  induction arrivals with
  | nil => split_ifs <;> rfl
  | cons arrival arrivals ih =>
    rw [List.map_cons, deliveriesOn, List.filterMap_cons, ← deliveriesOn, ih, deliveryOn]
    split_ifs <;> rfl

def servedAs (id : SocketIdentifier) : ContainerEvent υ → Option Delivery
  | .frameRead socketIdentifier arrival => if socketIdentifier = id then arrival.served else none
  | _ => none

def servedOn (id : SocketIdentifier) (history : List (ContainerEvent υ)) : List Delivery :=
  history.filterMap (servedAs id)

theorem servedOn_append (id : SocketIdentifier) (history more : List (ContainerEvent υ)) :
    servedOn id (history ++ more) = servedOn id history ++ servedOn id more := List.filterMap_append ..

theorem servedOn_frames (id id' : SocketIdentifier) (arrivals : List (Arrival υ)) :
    servedOn id (arrivals.map (.frameRead id')) = if id' = id then arrivals.filterMap Arrival.served else [] := by
  induction arrivals with
  | nil => split_ifs <;> rfl
  | cons arrival arrivals ih =>
    rw [List.map_cons, servedOn, List.filterMap_cons, ← servedOn, ih, List.filterMap_cons, servedAs]
    split_ifs
    · rfl
    · rfl

theorem servedOn_sublist (id : SocketIdentifier) (history : List (ContainerEvent υ)) :
    (servedOn id history).Sublist (deliveriesOn id history) := by
  induction history with
  | nil => exact .slnil
  | cons event history ih =>
    rw [servedOn, deliveriesOn, List.filterMap_cons, List.filterMap_cons, ← servedOn, ← deliveriesOn]
    cases hserved : servedAs id event with
    | none =>
      cases deliveryOn id event with
      | none => exact ih
      | some delivery => exact ih.cons _
    | some delivery =>
      have hdelivered : deliveryOn id event = some delivery := by
        cases event with
        | frameRead id' arrival =>
          rw [servedAs] at hserved
          rw [deliveryOn]
          split_ifs at hserved ⊢
          exact congrArg some (Arrival.delivery_of_served hserved)
        | _ => cases hserved
      rw [hdelivered]
      exact ih.cons_cons _

theorem insertedIdentifiers_frames (id : SocketIdentifier) (arrivals : List (Arrival υ)) :
    insertedIdentifiers (arrivals.map (ContainerEvent.frameRead id)) = [] := by
  induction arrivals with
  | nil => rfl
  | cons arrival arrivals ih =>
    rw [List.map_cons, insertedIdentifiers, List.filterMap_cons, ← insertedIdentifiers, ih]
    rfl

theorem insertedIdentifiers_mono {history history' : List (ContainerEvent υ)} (hgrows : history <+: history')
    {id : SocketIdentifier} (hid : id ∈ insertedIdentifiers history) : id ∈ insertedIdentifiers history' := by
  obtain ⟨more, rfl⟩ := hgrows
  rw [insertedIdentifiers_append]
  exact List.mem_append_left _ hid

/-- `inboundBytes` and `outboundBytes` of the sockets that are there, and the history. -/
structure Inboxes (υ : Type) where
  buffers : SocketIdentifier → Option (List UInt8 × List UInt8)
  history : List (ContainerEvent υ)

abbrev ByteMeter := SocketIdentifier → List UInt8

namespace ByteMeter

def add (meter : ByteMeter) (id : SocketIdentifier) (bytes : List UInt8) : ByteMeter :=
  Function.update meter id (meter id ++ bytes)

theorem add_self (meter : ByteMeter) (id : SocketIdentifier) (bytes : List UInt8) :
    meter.add id bytes id = meter id ++ bytes := Function.update_self ..

theorem add_of_ne (meter : ByteMeter) {id id' : SocketIdentifier} (hne : id' ≠ id) (bytes : List UInt8) :
    meter.add id bytes id' = meter id' := Function.update_of_ne hne _ _

theorem add_nil (meter : ByteMeter) (id : SocketIdentifier) : meter.add id [] = meter := by
  rw [add, List.append_nil, Function.update_eq_self]

end ByteMeter

section CarriedOver

variable {β : Type} {nothing : β} {more more' : List (ContainerEvent υ)} {cells cells' cells'' : SocketIdentifier → Option β}

/-- What a socket has it had before, or it is one of the new sockets, which have nothing. -/
def CarriedOver (nothing : β) (more : List (ContainerEvent υ)) (cells cells' : SocketIdentifier → Option β) : Prop :=
  ∀ id cell, cells' id = some cell → cells id = some cell ∨ cell = nothing ∧ id ∈ insertedIdentifiers more

theorem CarriedOver.trans (h : CarriedOver nothing more cells cells') (h' : CarriedOver nothing more' cells' cells'') :
    CarriedOver nothing (more ++ more') cells cells'' := by
  intro id cell hcell
  rw [insertedIdentifiers_append, List.mem_append]
  rcases h' id cell hcell with hold | ⟨hnothing, hnew⟩
  · exact (h id cell hold).imp_right fun ⟨hnothing, hnew⟩ => ⟨hnothing, .inl hnew⟩
  · exact .inr ⟨hnothing, .inr hnew⟩

theorem CarriedOver.of_event {event : ContainerEvent υ} (h : ∀ id cell, cells' id = some cell →
    cells id = some cell ∨ cell = nothing ∧ insertedIdentifier event = some id) :
    CarriedOver nothing [event] cells cells' := fun id cell hcell =>
  (h id cell hcell).imp_right fun ⟨hnothing, hinserted⟩ =>
    ⟨hnothing, List.mem_filterMap.mpr ⟨event, List.mem_singleton_self _, hinserted⟩⟩

/-- What is there was inserted at some time. -/
theorem CarriedOver.known {history : List (ContainerEvent υ)} (h : CarriedOver nothing more cells cells')
    (hknown : ∀ id, cells id ≠ none → id ∈ insertedIdentifiers history) (id : SocketIdentifier)
    (hid : cells' id ≠ none) : id ∈ insertedIdentifiers (history ++ more) := by
  obtain ⟨cell, hsome⟩ := Option.ne_none_iff_exists'.mp hid
  rw [insertedIdentifiers_append, List.mem_append]
  rcases h id cell hsome with hold | ⟨-, hnew⟩
  · exact .inl (hknown id (by rw [hold]; simp))
  · exact .inr hnew

theorem DistinctIdentifiers.new {history : List (ContainerEvent υ)} (h : DistinctIdentifiers (history ++ more))
    {id : SocketIdentifier} (hid : id ∈ insertedIdentifiers more) : id ∉ insertedIdentifiers history := by
  intro hold
  rw [DistinctIdentifiers, insertedIdentifiers_append, ← List.cons_append, List.nodup_append] at h
  exact h.2.2 id (List.mem_cons_of_mem _ hold) id hid rfl

end CarriedOver

/-- No frame was handed over, and a socket has the bytes that it had, or is new and has none. -/
structure Unread (m m' : Inboxes υ) : Prop where
  grows : ∃ more, m'.history = m.history ++ more ∧ (∀ id, deliveriesOn id more = []) ∧
    CarriedOver ([], []) more m.buffers m'.buffers

namespace Unread

theorem of_same {m m' : Inboxes υ} (hbuffers : ∀ id buffers, m'.buffers id = some buffers → m.buffers id = some buffers)
    (hhistory : m'.history = m.history) : Unread m m' :=
  ⟨[], by rw [hhistory, List.append_nil], fun _ => rfl, fun id buffers h => .inl (hbuffers id buffers h)⟩

theorem of_event {m m' : Inboxes υ} (event : ContainerEvent υ) (hevent : ∀ id, deliveryOn id event = none)
    (hhistory : m'.history = m.history ++ [event])
    (hbuffers : ∀ id buffers, m'.buffers id = some buffers →
      m.buffers id = some buffers ∨ buffers = ([], []) ∧ insertedIdentifier event = some id) : Unread m m' :=
  ⟨[event], hhistory, fun id => by simp [deliveriesOn, hevent], .of_event hbuffers⟩

instance : IsPreorder (Inboxes υ) Unread where
  refl _ := of_same (fun _ _ h => h) rfl
  trans m m' m'' := by
    rintro ⟨more, hmore, hnone, hbuffers⟩ ⟨more', hmore', hnone', hbuffers'⟩
    refine ⟨more ++ more', by rw [hmore', hmore, List.append_assoc], fun id => ?_, hbuffers.trans hbuffers'⟩
    rw [deliveriesOn_append, hnone, hnone', List.append_nil]

theorem known {m m' : Inboxes υ} (h : Unread m m')
    (hknown : ∀ id, m.buffers id ≠ none → id ∈ insertedIdentifiers m.history) (id : SocketIdentifier)
    (hid : m'.buffers id ≠ none) : id ∈ insertedIdentifiers m'.history := by
  obtain ⟨more, hmore, -, hbuffers⟩ := h.grows
  rw [hmore]
  exact hbuffers.known hknown id hid

end Unread

section Inward

variable [Ballotin] {registry : ProtocolRegistry} {received : ByteMeter}
  {P : SocketIdentifier → Prop}

/-- What has been received on each socket is accounted for: frames that were handed over and, in a socket that is
there and of which `P` holds, the bytes that wait for the rest of their frame. -/
structure Inward (registry : ProtocolRegistry) (received : ByteMeter) (P : SocketIdentifier → Prop)
    (m : Inboxes υ) : Prop where
  read : ∀ id, ∃ rest, Streamed registry (received id) (deliveriesOn id m.history) rest
  waiting : ∀ id inbound outbound, P id → m.buffers id = some (inbound, outbound) →
    Streamed registry (received id) (deliveriesOn id m.history) inbound ∧ Waits registry inbound ∧ outbound = []
  unknown : ∀ id, id ∉ insertedIdentifiers m.history → received id = []
  known : ∀ id, m.buffers id ≠ none → id ∈ insertedIdentifiers m.history

namespace Inward

variable {m m' : Inboxes υ}

theorem initial : Inward registry (fun _ => []) P ({ buffers := fun _ => none, history := [] } : Inboxes υ) :=
  ⟨fun _ => ⟨[], .nil []⟩, fun _ _ _ _ h => (by cases h), fun _ _ => rfl, fun _ h => absurd rfl h⟩

theorem mono {Q : SocketIdentifier → Prop} (h : Inward registry received P m) (hPQ : ∀ id, Q id → P id) :
    Inward registry received Q m :=
  ⟨h.read, fun id inbound outbound hid => h.waiting id inbound outbound (hPQ id hid), h.unknown, h.known⟩

theorem of_absent {id : SocketIdentifier} (h : Inward registry received (fun id' => id' ≠ id) m)
    (hid : m.buffers id = none) : Inward registry received (fun _ => True) m := by
  refine ⟨h.read, fun id' inbound outbound _ hbuffers => h.waiting id' inbound outbound ?_ hbuffers, h.unknown, h.known⟩
  rintro rfl
  rw [hid] at hbuffers
  cases hbuffers

theorem unread (h : Inward registry received P m) (hunread : Unread m m')
    (hdistinct : DistinctIdentifiers m'.history) : Inward registry received P m' := by
  have hknown := hunread.known h.known
  obtain ⟨more, hmore, hnone, hbuffers⟩ := hunread.grows
  have hdeliveries : ∀ id, deliveriesOn id m'.history = deliveriesOn id m.history := fun id => by
    rw [hmore, deliveriesOn_append, hnone, List.append_nil]
  have hgrows : m.history <+: m'.history := ⟨more, hmore.symm⟩
  rw [hmore] at hdistinct
  refine ⟨fun id => by rw [hdeliveries]; exact h.read id, fun id inbound outbound hP hid => ?_,
    fun id hid => h.unknown id fun hold => hid (insertedIdentifiers_mono hgrows hold), hknown⟩
  rw [hdeliveries]
  rcases hbuffers id _ hid with hold | ⟨hempty, hnew⟩
  · exact h.waiting id inbound outbound hP hold
  · -- nothing was received under an identifier that is new
    cases hempty
    have hreceived := h.unknown id (hdistinct.new hnew)
    obtain ⟨rest, hread⟩ := h.read id
    rw [hreceived] at hread ⊢
    rw [hread.of_empty]
    exact ⟨.nil [], .inl (by decide), rfl⟩

/-- Frames are read off the bytes of one socket, whose buffers change; nothing else does. -/
theorem reading {id : SocketIdentifier} (h : Inward registry received (fun id' => id' ≠ id) m) {arrivals : List (Arrival υ)}
    (hhistory : m'.history = m.history ++ arrivals.map (.frameRead id))
    (hothers : ∀ id', id' ≠ id → m'.buffers id' = m.buffers id') (hid : m.buffers id ≠ none)
    (hread : ∃ rest, Streamed registry (received id)
      (deliveriesOn id m.history ++ arrivals.map Arrival.delivery) rest) :
    Inward registry received (fun id' => id' ≠ id) m' := by
  have hself : deliveriesOn id m'.history = deliveriesOn id m.history ++ arrivals.map Arrival.delivery := by
    rw [hhistory, deliveriesOn_append, deliveriesOn_frames, if_pos rfl]
  have hother : ∀ id', id' ≠ id → deliveriesOn id' m'.history = deliveriesOn id' m.history := fun id' hne => by
    rw [hhistory, deliveriesOn_append, deliveriesOn_frames, if_neg hne.symm, List.append_nil]
  have hinserted : insertedIdentifiers m'.history = insertedIdentifiers m.history := by
    rw [hhistory, insertedIdentifiers_append, insertedIdentifiers_frames, List.append_nil]
  refine ⟨fun id' => ?_, fun id' inbound outbound hne hbuffers => ?_, by rw [hinserted]; exact h.unknown, fun id' hsome => ?_⟩
  · by_cases heq : id' = id
    · subst heq
      rw [hself]
      exact hread
    · rw [hother id' heq]
      exact h.read id'
  · rw [hother id' hne]
    rw [hothers id' hne] at hbuffers
    exact h.waiting id' inbound outbound hne hbuffers
  · rw [hinserted]
    by_cases heq : id' = id
    · exact heq ▸ h.known id hid
    · rw [hothers id' heq] at hsome
      exact h.known id' hsome

end Inward

variable {id : SocketIdentifier} {inbound outbound : List UInt8} {m m' : Inboxes υ}

/-- In the turn of a socket all that was received on it has been read or waits in it; how far the reading got and what
was answered is up to the turn. -/
structure Turn (registry : ProtocolRegistry) (received : ByteMeter) (id : SocketIdentifier)
    (inbound outbound : List UInt8) (m : Inboxes υ) : Prop where
  others : Inward registry received (fun id' => id' ≠ id) m
  buffers : m.buffers id = some (inbound, outbound)
  streamed : Streamed registry (received id) (deliveriesOn id m.history) inbound

/-- Bytes have been received on a socket, but not put into its buffer. -/
theorem Inward.receive (h : Inward registry received (fun _ => True) m) (hid : id ∈ insertedIdentifiers m.history)
    (bytes : List UInt8) : Inward registry (received.add id bytes) (fun id' => id' ≠ id) m := by
  refine ⟨fun id' => ?_, fun id' inbound outbound hne hbuffers => ?_, fun id' hunknown => ?_, h.known⟩
  · by_cases heq : id' = id
    · subst heq
      obtain ⟨rest, hread⟩ := h.read id'
      rw [received.add_self]
      exact ⟨rest ++ bytes, hread.append bytes⟩
    · rw [received.add_of_ne heq]
      exact h.read id'
  · rw [received.add_of_ne hne]
    exact h.waiting id' inbound outbound trivial hbuffers
  · have hne : id' ≠ id := by
      rintro rfl
      exact hunknown hid
    rw [received.add_of_ne hne]
    exact h.unknown id' hunknown

/-- The turn starts with the bytes behind those that waited. -/
theorem Inward.turn (h : Inward registry received (fun _ => True) m) (hid : m.buffers id = some (inbound, outbound))
    (bytes : List UInt8) (hhistory : m'.history = m.history)
    (hothers : ∀ id', id' ≠ id → m'.buffers id' = m.buffers id')
    (hself : m'.buffers id = some (inbound ++ bytes, outbound)) :
    Turn registry (received.add id bytes) id (inbound ++ bytes) [] m' := by
  have hsome : m.buffers id ≠ none := by simp [hid]
  obtain ⟨hstreamed, -, rfl⟩ := h.waiting id inbound outbound trivial hid
  have hreceived := h.receive (h.known id hsome) bytes
  have hnone : m'.history = m.history ++ ([] : List (Arrival υ)).map (.frameRead id) := by
    rw [hhistory]
    exact (List.append_nil _).symm
  refine ⟨hreceived.reading hnone hothers hsome ?_, hself, ?_⟩
  · rw [List.map_nil, List.append_nil]
    exact hreceived.read id
  · rw [received.add_self, hhistory]
    exact hstreamed.append bytes

namespace Turn

theorem read (h : Turn registry received id inbound outbound m) {arrivals : List (Arrival υ)}
    {inbound' outbound' : List UInt8} (hhistory : m'.history = m.history ++ arrivals.map (.frameRead id))
    (hothers : ∀ id', id' ≠ id → m'.buffers id' = m.buffers id') (hself : m'.buffers id = some (inbound', outbound'))
    (hread : Streamed registry inbound (arrivals.map Arrival.delivery) inbound') :
    Turn registry received id inbound' outbound' m' := by
  have hstreamed := h.streamed.trans hread
  refine ⟨h.others.reading hhistory hothers (by simp [h.buffers]) ⟨inbound', hstreamed⟩, hself, ?_⟩
  rw [hhistory, deliveriesOn_append, deliveriesOn_frames, if_pos rfl]
  exact hstreamed

/-- Frames were read off the bytes, but which bytes are kept is open. -/
theorem cut (h : Turn registry received id inbound outbound m) {arrivals : List (Arrival υ)}
    (hhistory : m'.history = m.history ++ arrivals.map (.frameRead id))
    (hothers : ∀ id', id' ≠ id → m'.buffers id' = m.buffers id')
    (hread : ∃ rest, Streamed registry inbound (arrivals.map Arrival.delivery) rest) :
    Inward registry received (fun id' => id' ≠ id) m' := by
  obtain ⟨rest, hread⟩ := hread
  exact h.others.reading hhistory hothers (by simp [h.buffers]) ⟨rest, h.streamed.trans hread⟩

/-- The turn ends when no whole frame is left and the answers have been passed on. -/
theorem settle (h : Turn registry received id inbound [] m) (hwaits : Waits registry inbound) :
    Inward registry received (fun _ => True) m := by
  refine ⟨h.others.read, fun id' inbound' outbound' _ hbuffers => ?_, h.others.unknown, h.others.known⟩
  by_cases heq : id' = id
  · subst heq
    rw [h.buffers] at hbuffers
    cases hbuffers
    exact ⟨h.streamed, hwaits, rfl⟩
  · exact h.others.waiting id' inbound' outbound' heq hbuffers

end Turn

end Inward

end Farseer
