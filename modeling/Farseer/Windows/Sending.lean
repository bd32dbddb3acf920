import Farseer.Windows.Handling

/-! A frame is transmitted whole or the connection is given up. Two of the operations that send compare the bytes that
were transferred with their buffer; the one that sends a request does not. -/

namespace Farseer.Windows

variable {υ : Type}

open SocketContainer OperationScheduler

/-- All the bytes of the buffer were transferred. -/
def Completion.TransfersAll (bytes : List UInt8) : Completion → Prop
  | .succeeded transferred => transferred.length = bytes.length
  | .failed _ => False

/-- `SendBytesUserOperation` and `SendBytesSystemOperation` compare the lengths, `SendRequestUserOperation` does not. -/
def Operation.comparesLengths : Operation υ → Bool
  | .sendRequest .. => false
  | _ => true

/-- The operation has all its bytes on their way, or its socket gets erased: it failed, or the lengths are compared
and differ as the 32-bit numbers that they are cast to, or the socket was erased before. -/
def Operation.Settles (operation : Operation υ) (bytes : List UInt8) (w : World υ) (completion : Completion) : Prop :=
  completion.TransfersAll bytes ∨ w.sockets[operation.getSocketIdentifier]? = none ∨
    match completion with
    | .failed _ => True
    | .succeeded transferred => operation.comparesLengths = true ∧ transferred.length ≠ bytes.length % 2 ^ 32

theorem bytesSent_run (number : ℕ) (bytes : List UInt8) (w : World υ) :
    (number = bytes.length % 2 ^ 32 ∧ bytesSent number bytes w = .ok none w) ∨
      number ≠ bytes.length % 2 ^ 32 ∧ ∃ e, bytesSent number bytes w = .error e w := by
  unfold bytesSent
  split_ifs with heq
  · exact .inl ⟨heq, rfl⟩
  · exact .inr ⟨heq, _, rfl⟩

theorem handleFailedOperation_sending {operation : Operation υ} {bytes : List UInt8}
    (hsending : operation.sending = some bytes) (errorCode : Option ℕ) (w : World υ) :
    handleFailedOperation operation errorCode w = erased operation.getSocketIdentifier w := by
  cases operation with
  | accept => cases hsending
  | _ => rfl

section Consuming

variable [Ballotin] (registry : ProtocolRegistry)

theorem handleSuccessfulOperation_ok {operation : Operation υ} {transferred : List UInt8} {w w' : World υ}
    (hrun : operation.execute registry transferred w = .ok none w') :
    handleSuccessfulOperation registry operation transferred w = w' := by
  rw [handleSuccessfulOperation, hrun]

theorem handleSuccessfulOperation_error {operation : Operation υ} {transferred : List UInt8} {e : Exception}
    {w w' : World υ} (hrun : operation.execute registry transferred w = .error e w') :
    handleSuccessfulOperation registry operation transferred w =
      handleFailedOperation operation (errorCodeOf e) w' := by
  rw [handleSuccessfulOperation, hrun]

/-- A send that succeeded compares, and gives up the connection or leaves all as it was. -/
theorem handleSuccessfulOperation_sending {operation : Operation υ} {bytes : List UInt8}
    (hsending : operation.sending = some bytes) (transferred : List UInt8) (w : World υ) :
    handleSuccessfulOperation registry operation transferred w =
      if operation.comparesLengths = true ∧ transferred.length ≠ bytes.length % 2 ^ 32 then
        erased operation.getSocketIdentifier w
      else w := by
  have hcompared : operation.comparesLengths = true →
      operation.execute registry transferred w = bytesSent transferred.length bytes w →
      handleSuccessfulOperation registry operation transferred w =
        if operation.comparesLengths = true ∧ transferred.length ≠ bytes.length % 2 ^ 32 then
          erased operation.getSocketIdentifier w
        else w := by
    intro hcompares hexecute
    rcases bytesSent_run transferred.length bytes w with ⟨heq, hok⟩ | ⟨hne, e, herror⟩
    · rw [if_neg fun h => h.2 heq]
      exact handleSuccessfulOperation_ok registry (hexecute.trans hok)
    · rw [if_pos ⟨hcompares, hne⟩, ← handleFailedOperation_sending hsending (errorCodeOf e)]
      exact handleSuccessfulOperation_error registry (hexecute.trans herror)
  cases operation with
  | sendBytes id bytes' pending =>
    cases pending with
    | false => cases hsending
    | true =>
      obtain rfl : bytes' = bytes := Option.some.inj hsending
      exact hcompared rfl rfl
  | sendOutboundBytes id bytes' =>
    obtain rfl : bytes' = bytes := Option.some.inj hsending
    exact hcompared rfl rfl
  | sendRequest id n bytes' consumer pending =>
    cases pending with
    | false => cases hsending
    | true =>
      rw [if_neg fun h => Bool.false_ne_true h.1]
      exact handleSuccessfulOperation_ok registry rfl
  | connect | close | listen | registerMessageConsumer | registerRequestCallback | accept | receive => cases hsending

/-- Whatever was posted and however it completes. -/
theorem consumeOperation_settles_iff {operation : Operation υ} {bytes : List UInt8}
    (hsending : operation.sending = some bytes) (completion : Completion) (w : World υ) :
    completion.TransfersAll bytes ∨
        (consumeOperation registry operation completion w).sockets[operation.getSocketIdentifier]? = none ↔
      operation.Settles bytes w completion := by
  refine or_congr_right ?_
  cases completion with
  | failed errorCode =>
    rw [consumeOperation, handleFailedOperation_sending hsending, erased_absent]
    simp
  | succeeded transferred =>
    rw [consumeOperation, handleSuccessfulOperation_sending registry hsending]
    split_ifs with hdiffers
    · rw [erased_absent]
      exact ⟨fun _ => .inr hdiffers, fun _ => rfl⟩
    · exact ⟨.inl, fun h => h.resolve_right hdiffers⟩

end Consuming

/-- The operation has bytes of the socket on their way. -/
def Operation.sendsOn (id : SocketIdentifier) (operation : Operation υ) : Bool :=
  operation.sending.isSome && operation.getSocketIdentifier == id

def World.sends (id : SocketIdentifier) (w : World υ) : List (Operation υ) :=
  w.outstanding.filter (·.sendsOn id)

def World.insertions (id : SocketIdentifier) (w : World υ) : ℕ := (insertedIdentifiers w.history).count id

/-- Unless a socket is inserted under the identifier, none is there that was not, and nothing is sent on it. -/
structure Abandons (id : SocketIdentifier) (w w' : World υ) : Prop where
  insertions : w.insertions id ≤ w'.insertions id
  gone : w'.insertions id = w.insertions id → w.sockets[id]? = none →
    w'.sockets[id]? = none ∧ (w'.sends id).Sublist (w.sends id)

variable {id : SocketIdentifier}

instance : IsPreorder (World υ) (Abandons id) where
  refl w := ⟨le_rfl, fun _ habsent => ⟨habsent, .refl _⟩⟩
  trans u v w h h' := by
    refine ⟨h.insertions.trans h'.insertions, fun hsame habsent => ?_⟩
    have huv := h.insertions
    have hvw := h'.insertions
    obtain ⟨habsent', hsends⟩ := h.gone (by omega) habsent
    obtain ⟨habsent'', hsends'⟩ := h'.gone (by omega) habsent'
    exact ⟨habsent'', hsends'.trans hsends⟩

theorem Abandons.of_same {w w' : World υ} (hinserted : insertedIdentifiers w'.history = insertedIdentifiers w.history)
    (hsockets : w.sockets[id]? = none → w'.sockets[id]? = none) (houtstanding : w'.outstanding = w.outstanding) :
    Abandons id w w' := by
  refine ⟨by rw [World.insertions, World.insertions, hinserted], fun _ habsent => ⟨hsockets habsent, ?_⟩⟩
  rw [World.sends, houtstanding]
  exact .refl _

theorem abandons_lifecycle : Lifecycle (Abandons (υ := υ) id) where
  silent _ _ _ _ := .of_same rfl (fun h => h) rfl
  numbered _ _ := .of_same rfl (fun h => h) rfl
  updated w id' f := by
    refine .of_same rfl (fun habsent => ?_) rfl
    rw [World.updateSocket, Table.lookup_modify, habsent]
    split_ifs with heq
    · rw [heq, habsent]
      rfl
    · rfl
  recorded w events hevents := by
    refine .of_same ?_ (fun h => h) rfl
    rw [insertedIdentifiers_append, hevents, List.append_nil]
  removed w id' := by
    refine .of_same rfl (fun habsent => ?_) rfl
    rw [removeSocket, Table.lookup_erase, habsent, ite_self]
  posted w operation hpostable := by
    refine ⟨le_rfl, fun _ habsent => ⟨habsent, ?_⟩⟩
    -- a send on this socket is posted while the socket is there
    have hother : operation.sendsOn id = false := by
      by_contra hsends
      rw [Bool.not_eq_false, Operation.sendsOn, Bool.and_eq_true, beq_iff_eq] at hsends
      obtain ⟨hsending, rfl⟩ := hsends
      have hpresent := hpostable.2 hsending
      rw [Table.contains_eq, habsent] at hpresent
      cases hpresent
    rw [World.sends, World.post, List.filter_append, List.filter_cons_of_neg (by simp [hother]), List.filter_nil,
      List.append_nil]
    exact .refl _
  inserted w id' s habsent := by
    have hcount : (withSocket id' s w).insertions id = w.insertions id + if id' = id then 1 else 0 := by
      change (insertedIdentifiers (w.history ++ [.socketInserted id' s.origin])).count id = _
      rw [insertedIdentifiers_append, List.count_append]
      simp [insertedIdentifiers, insertedIdentifier, World.insertions, List.count_singleton]
    refine ⟨by omega, fun hsame hnone => ⟨?_, .refl _⟩⟩
    have hne : id' ≠ id := by
      rintro rfl
      rw [hcount, if_pos rfl] at hsame
      omega
    change (w.sockets.insert id' s)[id]? = none
    rw [Table.lookup_insert, if_neg hne, hnone]

namespace OperationScheduler

theorem sends_sublist {w w' : World υ} (h : w'.outstanding.Sublist w.outstanding) :
    (w'.sends id).Sublist (w.sends id) := h.filter _

theorem Step.abandons [Ballotin] {registry : ProtocolRegistry} {l l' : OperationScheduler υ} (h : Step registry l l') :
    Abandons id l.world l'.world := by
  cases h with
  | schedule operation hnot hfresh =>
    refine ⟨le_rfl, fun _ habsent => ⟨habsent, ?_⟩⟩
    have hsends : operation.sendsOn id = false := by
      unfold Operation.sendsOn Operation.sending
      split <;> simp_all [Operation.isPending]
    change (List.filter _ (l.world.outstanding ++ [operation])).Sublist _
    rw [List.filter_append, List.filter_cons_of_neg (by simp [hsends]), List.filter_nil, List.append_nil]
    exact .refl _
  | outcomes script => exact .of_same rfl (fun h => h) rfl
  | consume before after operation completion hnot houtstanding hcompletes =>
    have hdequeued : Abandons id l.world (dequeued before after l.world) := by
      refine ⟨le_rfl, fun _ habsent => ⟨habsent, sends_sublist ?_⟩⟩
      rw [houtstanding]
      exact (List.sublist_cons_self operation after).append_left before
    exact trans_of (Abandons id) hdequeued (abandons_lifecycle.consumeOperation registry operation completion)
  | startDraining => exact .of_same rfl (fun _ => Std.ExtTreeMap.getElem?_empty) rfl
  | drain before after operation hdrain houtstanding =>
    refine ⟨le_rfl, fun _ habsent => ⟨habsent, sends_sublist ?_⟩⟩
    rw [houtstanding]
    exact (List.sublist_cons_self operation after).append_left before

theorem abandons_later [Ballotin] {registry : ProtocolRegistry} {l l' : OperationScheduler υ}
    (h : Relation.ReflTransGen (Step registry) l l') : Abandons id l.world l'.world := by
  induction h with
  | refl => exact refl_of (Abandons id) l.world
  | tail _ hlast ih => exact trans_of (Abandons id) ih hlast.abandons

/-- The socket is not there, and in every run from here, for as long as no other one is inserted under its identifier,
no bytes are posted on it. -/
def GivenUp [Ballotin] (registry : ProtocolRegistry) (id : SocketIdentifier) (l : OperationScheduler υ) : Prop :=
  l.world.sockets[id]? = none ∧ ∀ l', Relation.ReflTransGen (Step registry) l l' →
    l'.world.insertions id = l.world.insertions id →
      l'.world.sockets[id]? = none ∧ (l'.world.sends id).Sublist (l.world.sends id)

theorem givenUp_iff [Ballotin] (registry : ProtocolRegistry) (l : OperationScheduler υ) :
    GivenUp registry id l ↔ l.world.sockets[id]? = none :=
  ⟨fun h => h.1, fun habsent => ⟨habsent, fun _ hrun hsame => (abandons_later hrun).gone hsame habsent⟩⟩

/-- Whatever has been sent and however it completes: all the bytes were transferred or the connection is given up,
exactly when the operation settles. -/
theorem transmittedOrGivenUp_iff [Ballotin] (registry : ProtocolRegistry) (l : OperationScheduler υ)
    (before after : List (Operation υ)) (operation : Operation υ) (bytes : List UInt8) (completion : Completion)
    (hsending : operation.sending = some bytes) :
    completion.TransfersAll bytes ∨
        GivenUp registry operation.getSocketIdentifier (l.consumed registry before after operation completion) ↔
      operation.Settles bytes l.world completion := by
  rw [givenUp_iff]
  exact consumeOperation_settles_iff registry hsending completion (dequeued before after l.world)

/-- A socket is connected, and a request of three bytes was posted on it. -/
def requestingScheduler : OperationScheduler Unit :=
  let _ := referenceBallotin
  let registry : ProtocolRegistry := { protocolDescriptors := ∅ }
  let connect (pending : Bool) : Operation Unit := .connect 1 "127.0.0.1" 8080 (fun _ _ => pure ()) pending
  let request : Operation Unit := .sendRequest 1 1 [1, 2, 3] (fun _ => pure ()) false
  (((((new ()).scheduled (connect false)).consumed registry [] [] (connect false) (.succeeded [])).consumed
    registry [] [] (connect true) (.succeeded [])).scheduled request).consumed
      registry [.receive 1] [] request (.succeeded [])
where
  /-- the request, posted -/
  posted : Operation Unit := .sendRequest 1 1 [1, 2, 3] (fun _ => pure ()) true
  /-- the consumption of another send -/
  sentAgain (l : OperationScheduler Unit) : OperationScheduler Unit :=
    let _ := referenceBallotin
    (l.scheduled (.sendBytes 1 [4] false)).consumed { protocolDescriptors := ∅ } [.receive 1] [] (.sendBytes 1 [4] false)
      (.succeeded [])

/-- One of the three bytes is transferred; the socket is kept, and the bytes of the next frame follow. -/
theorem requestingScheduler_truncated :
    let _ := referenceBallotin
    let registry : ProtocolRegistry := { protocolDescriptors := ∅ }
    let l := requestingScheduler.consumed registry [.receive 1] [] requestingScheduler.posted (.succeeded [1])
    requestingScheduler.Reachable registry ∧
      requestingScheduler.world.outstanding = [.receive 1] ++ requestingScheduler.posted :: [] ∧
      requestingScheduler.posted.sending = some [1, 2, 3] ∧
      ¬ ((Completion.succeeded [1]).TransfersAll [1, 2, 3] ∨ l.world.sockets[(1 : SocketIdentifier)]? = none) ∧
      ((requestingScheduler.sentAgain l).world.sends 1).filterMap Operation.sending = [[4]] := by
  let _ := referenceBallotin
  let registry : ProtocolRegistry := { protocolDescriptors := ∅ }
  refine ⟨?_, rfl, rfl, ?_, by decide⟩
  · have hscheduled := (Run.initial (R := Step registry) ()).step
      (.schedule _ (.connect 1 "127.0.0.1" 8080 (fun _ _ => pure ()) false) rfl rfl)
    have hconnecting := hscheduled.step (.consume _ [] [] _ (.succeeded []) rfl rfl fun _ => rfl)
    have hconnected := hconnecting.step (.consume _ [] [] (.connect 1 "127.0.0.1" 8080 (fun _ _ => pure ()) true)
      (.succeeded []) rfl rfl fun _ => rfl)
    have hrequested := hconnected.step
      (.schedule _ (.sendRequest 1 1 [1, 2, 3] (fun _ => pure ()) false) rfl rfl)
    exact hrequested.step (.consume _ [.receive 1] [] _ (.succeeded []) rfl rfl fun _ => rfl)
  · rintro (hall | habsent)
    · exact absurd hall (by simp [Completion.TransfersAll])
    · rw [← Option.isNone_iff_eq_none] at habsent
      exact absurd habsent (by decide)

theorem requestingScheduler_givenUp :
    let _ := referenceBallotin
    let registry : ProtocolRegistry := { protocolDescriptors := ∅ }
    GivenUp registry 1 (requestingScheduler.consumed registry [.receive 1] [] requestingScheduler.posted (.failed 64)) := by
  let _ := referenceBallotin
  let registry : ProtocolRegistry := { protocolDescriptors := ∅ }
  have hsettles := (transmittedOrGivenUp_iff registry requestingScheduler [.receive 1] [] requestingScheduler.posted
    [1, 2, 3] (.failed 64) rfl).mpr (.inr (.inr trivial))
  exact hsettles.resolve_left id

end OperationScheduler

end Farseer.Windows
