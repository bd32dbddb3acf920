import Farseer.Container.Identifiers
import Farseer.Windows.Startup

/-! The identifiers that the Windows scheduler generates: for every call of `listen` and `connect`, and for every
accept that is posted. They are counted over a run, those that other threads get with those of the consumer thread. -/

namespace Farseer.Windows

open Numbering SocketContainer

variable {υ : Type}

def World.sequenced (w : World υ) : Sequenced υ := ⟨w.nextSocketIdentifier, w.history⟩

def World.announced (w : World υ) : List SocketIdentifier := w.outstanding.filterMap Operation.announced

def World.takenByOthers (w : World υ) : ℕ := w.script.identifiersTaken.headD 0

def World.nextGenerated (w : World υ) : SocketIdentifier := (w.nextSocketIdentifier + w.takenByOthers) % 2 ^ 32

def World.Recorded (w : World υ) : Prop :=
  ∀ id, w.sockets.contains id = true → id ∈ insertedIdentifiers w.history

structure Still (w w' : World υ) : Prop where
  next : w'.nextSocketIdentifier = w.nextSocketIdentifier
  inserted : insertedIdentifiers w'.history = insertedIdentifiers w.history
  announced : w'.announced = w.announced
  sockets : ∀ id, w'.sockets.contains id = true → w.sockets.contains id = true

instance : IsPreorder (World υ) Still where
  refl _ := ⟨rfl, rfl, rfl, fun _ hid => hid⟩
  trans _ _ _ h h' := ⟨h'.next.trans h.next, h'.inserted.trans h.inserted, h'.announced.trans h.announced,
    fun id hid => h.sockets id (h'.sockets id hid)⟩

theorem Still.recorded {w w' : World υ} (h : Still w w') (hw : w.Recorded) : w'.Recorded := fun id hid =>
  h.inserted ▸ hw id (h.sockets id hid)

theorem Still.handed {w w' : World υ} (h : Still w w') : Handed (2 ^ 32) [] w.sequenced w'.sequenced :=
  .of_same h.next h.inserted

theorem Still.accounted {w w' : World υ} (h : Still w w') {total : ℕ} {pending : List SocketIdentifier}
    (hw : Accounted (2 ^ 32) total pending w.sequenced) : Accounted (2 ^ 32) total pending w'.sequenced := by
  refine hw.mono h.next ?_
  change (insertedIdentifiers w'.history ++ pending).Subperm (insertedIdentifiers w.history ++ pending)
  rw [h.inserted]

theorem Operation.announced_pending {operation : Operation υ} (h : operation.isPending = true) :
    operation.announced = none := by
  cases operation with
  | connect id ipAddress port callback pending =>
    cases pending with
    | false => cases h
    | true => rfl
  | listen => cases h
  | _ => rfl

theorem still_chores : Chores (Still (υ := υ)) where
  silent _ _ _ _ := ⟨rfl, rfl, rfl, fun _ hid => hid⟩
  updated w id f := by
    refine ⟨rfl, rfl, rfl, fun id' hid' => ?_⟩
    change (w.sockets.modify id f).contains id' = true at hid'
    rwa [Std.ExtTreeMap.contains_modify] at hid'
  recorded w events hevents := by
    refine ⟨rfl, ?_, rfl, fun _ hid => hid⟩
    rw [insertedIdentifiers_append, hevents, List.append_nil]
  removed w id := ⟨rfl, rfl, rfl, fun id' hid' => Std.ExtTreeMap.contains_of_contains_erase hid'⟩
  posted w operation hpostable := by
    refine ⟨rfl, rfl, ?_, fun _ hid => hid⟩
    rw [World.announced, World.post, List.filterMap_append]
    simp [Operation.announced_pending hpostable.1, World.announced]

/-- The same but for a socket that was inserted under the identifier or was not. -/
structure MayInsert (id : SocketIdentifier) (w w' : World υ) : Prop where
  next : w'.nextSocketIdentifier = w.nextSocketIdentifier
  inserted : insertedIdentifiers w'.history = insertedIdentifiers w.history ∨
    insertedIdentifiers w'.history = insertedIdentifiers w.history ++ [id]
  announced : w'.announced = w.announced
  recorded : w.Recorded → w'.Recorded

theorem MayInsert.of_still {id : SocketIdentifier} {w w' : World υ} (h : Still w w') : MayInsert id w w' :=
  ⟨h.next, .inl h.inserted, h.announced, h.recorded⟩

theorem MayInsert.still {id : SocketIdentifier} {w w' w'' : World υ} (h : MayInsert id w w') (h' : Still w' w'') :
    MayInsert id w w'' := by
  refine ⟨h'.next.trans h.next, ?_, h'.announced.trans h.announced, fun hw => h'.recorded (h.recorded hw)⟩
  rw [h'.inserted]
  exact h.inserted

theorem Still.mayInsert {id : SocketIdentifier} {w w' w'' : World υ} (h : Still w w') (h' : MayInsert id w' w'') :
    MayInsert id w w'' := by
  refine ⟨h'.next.trans h.next, ?_, h'.announced.trans h.announced, fun hw => h'.recorded (h.recorded hw)⟩
  rw [← h.inserted]
  exact h'.inserted

theorem withSocket_mayInsert (id : SocketIdentifier) (s : Socket υ) (w : World υ) :
    MayInsert id w (withSocket id s w) := by
  have hinserted : insertedIdentifiers (withSocket id s w).history = insertedIdentifiers w.history ++ [id] := by
    change insertedIdentifiers (w.history ++ [_]) = _
    rw [insertedIdentifiers_append]
    rfl
  refine ⟨rfl, .inr hinserted, rfl, fun hw id' hid' => ?_⟩
  change (w.sockets.insert id s).contains id' = true at hid'
  rw [Std.ExtTreeMap.contains_insert, Bool.or_eq_true, beq_iff_eq, Nat.compare_eq_eq] at hid'
  rw [hinserted, List.mem_append]
  rcases hid' with rfl | hid'
  · exact .inr (List.mem_singleton_self _)
  · exact .inl (hw id' hid')

theorem insertSocket_mayInsert (id : SocketIdentifier) (s : Socket υ) (w : World υ) :
    MayInsert id w (Program.final (insertSocket id s w)) := by
  rcases insertSocket_run id s w with ⟨e, herror⟩ | ⟨-, hok⟩
  · rw [herror]
    exact .of_still (refl_of Still w)
  · rw [hok]
    exact withSocket_mayInsert id s w

def World.generated (w : World υ) : World υ :=
  { w with
    script := { w.script with identifiersTaken := w.script.identifiersTaken.tail }
    nextSocketIdentifier := (w.nextGenerated + 1) % 2 ^ 32 }

theorem generateSocketIdentifier_run (w : World υ) :
    generateSocketIdentifier w = .ok w.nextGenerated w.generated := by
  have hdraw : draw Script.identifiersTaken (fun identifiersTaken script => { script with identifiersTaken }) 0 w.script =
      .ok w.takenByOthers { w.script with identifiersTaken := w.script.identifiersTaken.tail } := by
    unfold draw World.takenByOthers
    cases htaken : w.script.identifiersTaken with
    | nil =>
      simp only [List.headD_nil, List.tail_nil]
      rw [← htaken]
    | cons t taken => rfl
  rw [generateSocketIdentifier, Program.bind_ok (onScript_ok hdraw)]
  rfl

/-- The consumer thread generates identifiers in these states, one after the other, and may insert a socket under
each. -/
inductive Generates : List (World υ) → World υ → World υ → Prop
  | done {w w' : World υ} (h : Still w w') : Generates [] w w'
  | call {w u v w' : World υ} {calls : List (World υ)} (h : Still w u)
      (hinserts : MayInsert u.nextGenerated u.generated v) (hrest : Generates calls v w') : Generates (u :: calls) w w'

namespace Generates

variable {w w' w'' : World υ} {calls calls' : List (World υ)}

theorem before (h : Still w w') (h' : Generates calls w' w'') : Generates calls w w'' := by
  cases h' with
  | done hlast => exact .done (trans_of Still h hlast)
  | call hfirst hinserts hrest => exact .call (trans_of Still h hfirst) hinserts hrest

theorem append (h : Generates calls w w') (h' : Generates calls' w' w'') : Generates (calls ++ calls') w w'' := by
  induction h with
  | done hlast => exact h'.before hlast
  | call hfirst hinserts _ ih => exact .call hfirst hinserts (ih h')

theorem still (h : Generates calls w w') (h' : Still w' w'') : Generates calls w w'' :=
  List.append_nil calls ▸ h.append (.done h')

theorem handed_call {u v : World υ} (h : MayInsert u.nextGenerated u.generated v) :
    Handed (2 ^ 32) [u.takenByOthers] u.sequenced v.sequenced := .of_generated h.next h.inserted

theorem handed (h : Generates calls w w') :
    Handed (2 ^ 32) (calls.map World.takenByOthers) w.sequenced w'.sequenced := by
  induction h with
  | done hlast => exact hlast.handed
  | call hfirst hinserts _ ih => exact (hfirst.handed.append (handed_call hinserts)).append ih

theorem announced (h : Generates calls w w') : w'.announced = w.announced := by
  induction h with
  | done hlast => exact hlast.announced
  | call hfirst hinserts _ ih => exact ih.trans (hinserts.announced.trans hfirst.announced)

theorem recorded (h : Generates calls w w') (hw : w.Recorded) : w'.Recorded := by
  induction h with
  | done hlast => exact hlast.recorded hw
  | call hfirst hinserts _ ih => exact ih (hinserts.recorded (hfirst.recorded hw))

end Generates

/-- An identifier is generated that is valid and not used. -/
def InsertsFresh (w : World υ) : Prop :=
  w.nextGenerated ≠ invalidSocketIdentifier ∧ w.sockets.contains w.nextGenerated = false

/-- As long as not all identifiers were generated, each call gets a new one. -/
theorem Generates.fresh {calls : List (World υ)} {w w' : World υ} (h : Generates calls w w') {total : ℕ}
    {pending : List SocketIdentifier} (hrecorded : w.Recorded) (haccounted : Accounted (2 ^ 32) total pending w.sequenced)
    (htotal : after total (calls.map World.takenByOthers) < 2 ^ 32) : ∀ u ∈ calls, InsertsFresh u := by
  induction h generalizing total pending with
  | done =>
    intro u hu
    cases hu
  | @call w u v w' calls hfirst hinserts hrest ih =>
    rw [List.map_cons, after] at htotal
    have hu := hfirst.accounted haccounted
    have hlt : total + u.takenByOthers + 1 < 2 ^ 32 := lt_of_le_of_lt (le_after _ _) htotal
    rintro x (_ | ⟨_, hx⟩)
    · have hnumber : u.nextGenerated = number (2 ^ 32) (total + u.takenByOthers) := by
        rw [← number_add, ← hu.next]
        rfl
      obtain ⟨hvalid, habsent, -⟩ := hu.fresh (Nat.le_add_right total u.takenByOthers) hlt
      rw [← hnumber] at hvalid habsent
      exact ⟨hvalid, Bool.eq_false_iff.mpr fun hcontains => habsent (hfirst.recorded hrecorded _ hcontains)⟩
    · exact ih (hinserts.recorded (hfirst.recorded hrecorded)) (hu.hand (Generates.handed_call hinserts)) htotal x hx

theorem scheduleAccept_generates (listener : SocketIdentifier) (w : World υ) :
    Generates [w] w (Program.final (scheduleAcceptSystemOperation listener w)) := by
  set id := w.nextGenerated with hid
  set t := w.generated with ht
  have hgenerates : ∀ u : World υ, MayInsert id t u → Generates [w] w u := fun u hu =>
    .call (refl_of Still w) hu (.done (refl_of Still u))
  refine Program.after_ok (generateSocketIdentifier_run w) ?_
  have hschedule : MayInsert id t (Program.final (AcceptSystemOperation.schedule listener id t)) := by
    rcases getSocketOrThrow_cases listener t with ⟨s, -, hok⟩ | ⟨e, -, herror⟩
    · rw [AcceptSystemOperation.schedule, Program.bind_ok hok]
      have hinsert := insertSocket_mayInsert id (newSocket .empty listener noCallback true) t
      cases hrun : insertSocket id (newSocket .empty listener noCallback true) t with
      | error e u =>
        rw [hrun] at hinsert
        rw [Program.bind_error hrun]
        exact hinsert
      | ok id' u =>
        rw [hrun] at hinsert
        rw [Program.bind_ok hrun]
        refine hinsert.still ?_
        exact Program.Within.scopeFailure (still_chores.postAccept listener id) fun _ => still_chores.erased id
    · rw [AcceptSystemOperation.schedule, Program.bind_error herror]
      exact .of_still (refl_of Still t)
  cases hrun : AcceptSystemOperation.schedule listener id t with
  | error e u =>
    rw [hrun] at hschedule
    exact Program.after_error hrun (hgenerates u hschedule)
  | ok _ u =>
    rw [hrun] at hschedule
    exact Program.after_ok hrun (hgenerates _ (hschedule.still (still_chores.posted u _ ⟨rfl, nofun⟩)))

namespace AcceptSystemOperation

def prepare (listeningSocketIdentifier pendingAcceptSocketIdentifier : SocketIdentifier) :
    WorldM υ (SocketIdentifier × SocketIdentifier) := do
  let acceptedSocket ← getSocketOrThrow pendingAcceptSocketIdentifier
  let listeningSocket ← getSocketOrThrow listeningSocketIdentifier
  let l ← dereference listeningSocket
  onWindowsSocket acceptedSocket (WindowsSocket.accept l.socket)
  modify (World.updateSocket listeningSocket fun s => { s with consecutiveAcceptFailures := 0 })
  return (listeningSocket, acceptedSocket)

def proceed (listeningSocketIdentifier : SocketIdentifier) (prepared : SocketIdentifier × SocketIdentifier) :
    WorldM υ (Option (Operation υ)) := do
  scheduleAcceptSystemOperation listeningSocketIdentifier
  accepted prepared.1 prepared.2

theorem execute_eq (listener id : SocketIdentifier) :
    (execute listener id : WorldM υ (Option (Operation υ))) = prepare listener id >>= proceed listener := by
  simp only [execute, prepare, bind_assoc, pure_bind]
  rfl

/-- The states in which the failure hook generates an identifier. -/
def failureCalls (listeningSocketIdentifier pendingAcceptSocketIdentifier : SocketIdentifier)
    (errorCode : Option ℕ) (w : World υ) : List (World υ) :=
  let w := erased pendingAcceptSocketIdentifier w
  if w.acceptRescheduled || !w.sockets.contains listeningSocketIdentifier then []
  else if errorCode.any isClientError then [w]
  else
    let w := w.updateSocket listeningSocketIdentifier fun s =>
      { s with consecutiveAcceptFailures := s.consecutiveAcceptFailures + 1 }
    match w.sockets[listeningSocketIdentifier]? with
    | none => []
    | some l => if maximumConsecutiveAcceptFailures ≤ l.consecutiveAcceptFailures then [] else [w]

/-- The states in which a consumed accept generates an identifier. -/
def acceptCalls (listeningSocketIdentifier pendingAcceptSocketIdentifier : SocketIdentifier) (w : World υ) :
    List (World υ) :=
  match prepare listeningSocketIdentifier pendingAcceptSocketIdentifier w with
  | .error e w => failureCalls listeningSocketIdentifier pendingAcceptSocketIdentifier
      (OperationScheduler.errorCodeOf e) w
  | .ok prepared w =>
    w :: match proceed listeningSocketIdentifier prepared w with
      | .ok _ _ => []
      | .error e w => failureCalls listeningSocketIdentifier pendingAcceptSocketIdentifier
          (OperationScheduler.errorCodeOf e) w

end AcceptSystemOperation

namespace ListenUserOperation

/-- What a listen does before it posts an accept. -/
def prepare (socketIdentifier : SocketIdentifier) (ipAddress : String) (port : ℕ)
    (connectionCallback : ConnectionCallback υ) : WorldM υ SocketIdentifier := do
  let windowsSocket ← onScript (createListeningSocket ipAddress port)
  insertSocket socketIdentifier (newSocket windowsSocket invalidSocketIdentifier connectionCallback false)

/-- The state in which an executed listen generates an identifier, if it comes that far. -/
def listenCalls (socketIdentifier : SocketIdentifier) (ipAddress : String) (port : ℕ)
    (connectionCallback : ConnectionCallback υ) (w : World υ) : List (World υ) :=
  match prepare socketIdentifier ipAddress port connectionCallback w with
  | .ok _ w => [w]
  | .error _ _ => []

end ListenUserOperation

def Operation.calls (completion : Completion) (w : World υ) : Operation υ → List (World υ)
  | .listen socketIdentifier ipAddress port connectionCallback =>
    match completion with
    | .failed _ => []
    | .succeeded _ => ListenUserOperation.listenCalls socketIdentifier ipAddress port connectionCallback w
  | .accept listeningSocketIdentifier pendingAcceptSocketIdentifier =>
    match completion with
    | .failed errorCode => AcceptSystemOperation.failureCalls listeningSocketIdentifier pendingAcceptSocketIdentifier
        (some errorCode) w
    | .succeeded _ => AcceptSystemOperation.acceptCalls listeningSocketIdentifier pendingAcceptSocketIdentifier w
  | _ => []

namespace AcceptSystemOperation

theorem prepare_still (listener id : SocketIdentifier) (w : World υ) :
    Program.Within Still (prepare listener id) w := by
  refine .bind (getSocketOrThrow_within id) fun _ t _ => .bind (getSocketOrThrow_within listener) fun _ u _ => ?_
  refine .bind (dereference_within _) fun _ v _ => .bind (still_chores.onWindowsSocket _ _) fun _ x _ => ?_
  exact .bind (.modify (still_chores.updated x _ _)) fun _ y _ => .pure _

theorem reschedule_generates (listener : SocketIdentifier) (w : World υ) :
    Generates [w] w (Program.final (reschedule listener w)) := by
  have hschedule := scheduleAccept_generates listener w
  unfold reschedule Program.scopeFailure
  cases hrun : scheduleAcceptSystemOperation listener w with
  | ok _ t =>
    rw [hrun] at hschedule
    exact hschedule
  | error e t =>
    rw [hrun] at hschedule
    exact hschedule.still (still_chores.erased listener)

theorem onFailure_generates (listener id : SocketIdentifier) (errorCode : Option ℕ) (w : World υ) :
    Generates (failureCalls listener id errorCode w) w (Program.final (onFailure listener id errorCode w)) := by
  have herased : Still w (erased id w) := still_chores.erased id
  set t := erased id w with ht
  rw [failureCalls, ← ht]
  refine Program.after_ok (eraseSocket_ok id w) ?_
  dsimp only
  refine Program.after_ok Program.get_apply ?_
  split_ifs with hdone hclient
  · exact .done herased
  · exact (reschedule_generates listener t).before herased
  · have hcontains : t.sockets.contains listener = true := by
      cases hlistener : t.sockets.contains listener with
      | true => rfl
      | false => exact absurd (by rw [hlistener]; simp) hdone
    rw [Table.contains_eq] at hcontains
    obtain ⟨s, hs⟩ := Option.isSome_iff_exists.mp hcontains
    set u := t.updateSocket listener fun s => { s with consecutiveAcceptFailures := s.consecutiveAcceptFailures + 1 }
      with hu
    have hupdated : Still t u := still_chores.updated t listener _
    have hl : u.sockets[listener]? = some { s with consecutiveAcceptFailures := s.consecutiveAcceptFailures + 1 } := by
      change (t.sockets.modify listener _)[listener]? = _
      rw [Table.lookup_modify, if_pos rfl, hs]
      rfl
    rw [hl]
    dsimp only
    have hget : getSocketOrThrow listener t = .ok listener t := by
      rcases getSocketOrThrow_cases listener t with ⟨_, -, hok⟩ | ⟨e, hnone, -⟩
      · exact hok
      · rw [hs] at hnone
        cases hnone
    refine Program.after_ok hget (Program.after_ok (Program.modify_apply _) (Program.after_ok (dereference_some hl) ?_))
    split_ifs
    · exact .done (trans_of Still herased (trans_of Still hupdated (still_chores.eraseSocket listener)))
    · exact (reschedule_generates listener u).before (trans_of Still herased hupdated)

/-- Consuming an accept that has completed. -/
theorem execute_generates [Ballotin] (registry : ProtocolRegistry) (listener id : SocketIdentifier)
    (transferred : List UInt8) (w : World υ) :
    Generates (acceptCalls listener id w) w
      (OperationScheduler.handleSuccessfulOperation registry (.accept listener id) transferred w) := by
  have hexecute : (Operation.accept listener id : Operation υ).execute registry transferred w =
      (prepare listener id >>= proceed listener) w := by
    rw [← execute_eq]
    rfl
  have hprepare := prepare_still listener id w
  have hpostable := (Operation.accept listener id : Operation υ).execute_postable registry transferred (w := w)
  unfold OperationScheduler.handleSuccessfulOperation acceptCalls
  cases hrun : prepare listener id w with
  | error e t =>
    rw [hexecute, Program.bind_error hrun]
    exact (onFailure_generates listener id _ t).before (hprepare.error hrun)
  | ok prepared t =>
    have hproceed : Generates [t] t (Program.final (proceed listener prepared t)) := by
      have hschedule := scheduleAccept_generates listener t
      cases hscheduled : scheduleAcceptSystemOperation listener t with
      | error e u =>
        rw [hscheduled] at hschedule
        exact Program.after_error hscheduled hschedule
      | ok _ u =>
        rw [hscheduled] at hschedule
        exact Program.after_ok hscheduled (hschedule.still (still_chores.accepted _ _))
    have hrest : (Operation.accept listener id : Operation υ).execute registry transferred w =
        proceed listener prepared t := by rw [hexecute, Program.bind_ok hrun]
    rw [hrest]
    dsimp only
    refine Generates.before (hprepare.ok hrun) ?_
    cases hlast : proceed listener prepared t with
    | error e u =>
      rw [hlast] at hproceed
      exact hproceed.append (onFailure_generates listener id _ u)
    | ok result u =>
      rw [hlast] at hproceed
      cases result with
      | none => exact hproceed
      | some next => exact hproceed.still (still_chores.posted u next (hpostable.ok (hrest.trans hlast) next rfl))

end AcceptSystemOperation

namespace ListenUserOperation

theorem prepare_mayInsert (id : SocketIdentifier) (ipAddress : String) (port : ℕ) (callback : ConnectionCallback υ)
    (w : World υ) : MayInsert id w (Program.final (prepare id ipAddress port callback w)) := by
  have hcreate : Program.Within Still (onScript (createListeningSocket ipAddress port)) w := still_chores.onScript _
  cases hx : onScript (createListeningSocket ipAddress port) w with
  | error e t => exact Program.after_error hx (.of_still (hcreate.error hx))
  | ok s t => exact Program.after_ok hx ((hcreate.ok hx).mayInsert (insertSocket_mayInsert id _ t))

theorem opened_generates (id : SocketIdentifier) (w : World υ) :
    Generates [w] w (Program.final (Program.scopeFailure (erased id) (opened id) w)) := by
  have hopened : Generates [w] w (Program.final (opened id w)) := by
    have hschedule := scheduleAccept_generates id w
    cases hrun : scheduleAcceptSystemOperation id w with
    | error e t =>
      rw [hrun] at hschedule
      exact Program.after_error hrun hschedule
    | ok _ t =>
      rw [hrun] at hschedule
      exact Program.after_ok hrun (hschedule.still (still_chores.notify id _ _))
  unfold Program.scopeFailure
  cases hrun : opened id w with
  | ok _ t =>
    rw [hrun] at hopened
    exact hopened
  | error e t =>
    rw [hrun] at hopened
    exact hopened.still (still_chores.erased id)

theorem prepare_ok {id socket : SocketIdentifier} {ipAddress : String} {port : ℕ} {callback : ConnectionCallback υ}
    {w t : World υ} (h : prepare id ipAddress port callback w = .ok socket t) : socket = id := by
  obtain ⟨s, u, -, hinsert⟩ := Program.bind_eq_ok h
  rcases insertSocket_run id (newSocket s invalidSocketIdentifier callback false) u with ⟨e, herror⟩ | ⟨-, hok⟩
  · rw [herror] at hinsert
    cases hinsert
  · rw [hok] at hinsert
    cases hinsert
    rfl

theorem execute_generates (id : SocketIdentifier) (ipAddress : String) (port : ℕ) (callback : ConnectionCallback υ)
    (w : World υ) : ∃ u, MayInsert id w u ∧
      Generates (listenCalls id ipAddress port callback w) u (Program.final (execute id ipAddress port callback w)) := by
  have hexecute : (execute id ipAddress port callback : WorldM υ (Option (Operation υ))) =
      prepare id ipAddress port callback >>= fun socket => do
        Program.scopeFailure (erased id) (opened socket)
        return none := by
    simp only [execute, prepare, bind_assoc]
  have hprepare := prepare_mayInsert id ipAddress port callback w
  rw [hexecute, listenCalls]
  cases hrun : prepare id ipAddress port callback w with
  | error e t =>
    rw [hrun] at hprepare
    exact ⟨t, hprepare, Program.after_error hrun (.done (refl_of Still t))⟩
  | ok socket t =>
    rw [hrun] at hprepare
    obtain rfl := prepare_ok hrun
    refine ⟨t, hprepare, Program.after_ok hrun ?_⟩
    have hopened := opened_generates socket t
    cases hlast : Program.scopeFailure (erased socket) (opened socket) t with
    | error e u =>
      rw [hlast] at hopened
      exact Program.after_error hlast hopened
    | ok _ u =>
      rw [hlast] at hopened
      exact Program.after_ok hlast hopened

end ListenUserOperation

theorem ConnectUserOperation.execute_mayInsert (id : SocketIdentifier) (ipAddress : String) (port : ℕ)
    (callback : ConnectionCallback υ) (w : World υ) :
    MayInsert id w (Program.final (execute id ipAddress port callback w)) := by
  rcases still_chores.connect_opens id ipAddress port callback with hsame | ⟨s, t, -, ht, -, hrest⟩
  · exact .of_still hsame
  · exact (ht.mayInsert (withSocket_mayInsert id s t)).still hrest

/-- The socket that an operation announces is inserted, or it is not. -/
def Uses : Option SocketIdentifier → World υ → World υ → Prop
  | none, w, w' => w' = w
  | some id, w, w' => MayInsert id w w'

theorem Uses.announced {announced : Option SocketIdentifier} {w u : World υ} (h : Uses announced w u) :
    u.announced = w.announced := by
  cases announced with
  | none => exact congrArg World.announced h
  | some id => exact MayInsert.announced h

theorem Uses.recorded {announced : Option SocketIdentifier} {w u : World υ} (h : Uses announced w u)
    (hw : w.Recorded) : u.Recorded := by
  cases announced with
  | none =>
    cases h
    exact hw
  | some id => exact MayInsert.recorded h hw

/-- The socket that an operation announces is accounted for until it is inserted. -/
theorem Uses.accounted {announced : Option SocketIdentifier} {w u : World υ} (h : Uses announced w u) {total : ℕ}
    {rest : List SocketIdentifier} (hw : Accounted (2 ^ 32) total (rest ++ announced.toList) w.sequenced) :
    Accounted (2 ^ 32) total rest u.sequenced := by
  cases announced with
  | none =>
    cases h
    rwa [Option.toList_none, List.append_nil] at hw
  | some id =>
    refine hw.mono (MayInsert.next h) ?_
    change (insertedIdentifiers u.history ++ rest).Subperm (insertedIdentifiers w.history ++ (rest ++ [id]))
    rcases MayInsert.inserted h with hsame | hmore
    · rw [hsame]
      exact (List.subperm_append_left _).mpr (List.sublist_append_left _ _).subperm
    · rw [hmore, List.append_assoc]
      exact (List.perm_append_comm.append_left _).subperm

/-- An operation may insert the socket that it announces, and then it generates identifiers. -/
theorem OperationScheduler.consumeOperation_generates [Ballotin] (registry : ProtocolRegistry)
    (operation : Operation υ) (completion : Completion) (w : World υ) :
    ∃ u, Uses operation.announced w u ∧
      Generates (operation.calls completion w) u (consumeOperation registry operation completion w) := by
  have hconsumed : ∀ (operation : Operation υ) (transferred : List UInt8),
      (∀ listener id, operation ≠ .accept listener id) →
      Still (Program.final (operation.execute registry transferred w))
        (handleSuccessfulOperation registry operation transferred w) := fun operation transferred haccept =>
    still_chores.consumed registry operation transferred fun errorCode _ =>
      still_chores.handleFailedOperation operation errorCode haccept
  cases operation with
  | connect id ipAddress port callback pending =>
    cases pending with
    | true => exact ⟨w, rfl, .done (still_chores.consumeOperation registry _ completion nofun nofun nofun)⟩
    | false =>
      cases completion with
      | failed errorCode => exact ⟨_, .of_still (still_chores.erased id), .done (refl_of Still _)⟩
      | succeeded transferred =>
        exact ⟨_, ConnectUserOperation.execute_mayInsert id ipAddress port callback w,
          .done (hconsumed (.connect id ipAddress port callback false) transferred nofun)⟩
  | listen id ipAddress port callback =>
    cases completion with
    | failed errorCode => exact ⟨_, .of_still (still_chores.erased id), .done (refl_of Still _)⟩
    | succeeded transferred =>
      obtain ⟨u, huses, hgenerates⟩ := ListenUserOperation.execute_generates id ipAddress port callback w
      exact ⟨u, huses, hgenerates.still (hconsumed (.listen id ipAddress port callback) transferred nofun)⟩
  | accept listener id =>
    refine ⟨w, rfl, ?_⟩
    cases completion with
    | failed errorCode => exact AcceptSystemOperation.onFailure_generates listener id (some errorCode) w
    | succeeded transferred => exact AcceptSystemOperation.execute_generates registry listener id transferred w
  | _ => exact ⟨w, rfl, .done (still_chores.consumeOperation registry _ completion nofun nofun nofun)⟩

/-- A scheduler, how many identifiers were generated for it, those that other threads got and have not yet passed on in
an operation, and the states in which the consumer thread generated one in the last step. -/
structure Ledger (υ : Type) where
  scheduler : OperationScheduler υ
  total : ℕ
  inFlight : List SocketIdentifier
  calls : List (World υ)

namespace Ledger

def Initial (a : Ledger υ) : Prop :=
  ∃ user, a = { scheduler := OperationScheduler.new user, total := 0, inFlight := [], calls := [] }

def pending (a : Ledger υ) : List SocketIdentifier := a.inFlight ++ a.scheduler.world.announced

def generated (l : OperationScheduler υ) : OperationScheduler υ :=
  { l with world := { l.world with nextSocketIdentifier := (l.world.nextSocketIdentifier + 1) % 2 ^ 32 } }

/-- The states in which the consumption of an operation that leaves others outstanding generates an identifier. -/
def consumeCalls (before after : List (Operation υ)) (operation : Operation υ) (completion : Completion)
    (a : Ledger υ) : List (World υ) :=
  operation.calls completion (OperationScheduler.dequeued before after a.scheduler.world)

inductive Step [Ballotin] (registry : ProtocolRegistry) : Ledger υ → Ledger υ → Prop
  /-- `listen` and `connect` generate an identifier, on any thread -/
  | generate (a : Ledger υ) : Step registry a
      { scheduler := generated a.scheduler
        total := a.total + 1
        inFlight := a.inFlight ++ [a.scheduler.world.nextSocketIdentifier]
        calls := [] }
  /-- and pass it on in an operation -/
  | schedule (a : Ledger υ) (operation : Operation υ) (inFlight : List SocketIdentifier)
      (h : a.scheduler.draining = false) (hfresh : operation.isPending = false)
      (hinFlight : a.inFlight.Perm (operation.announced.toList ++ inFlight)) : Step registry a
      { scheduler := a.scheduler.scheduled operation, total := a.total, inFlight, calls := [] }
  | outcomes (a : Ledger υ) (script : Script) :
    Step registry a { a with scheduler := a.scheduler.withScript script, calls := [] }
  /-- what other threads take while an operation is consumed is in flight -/
  | consume (a : Ledger υ) (before after : List (Operation υ)) (operation : Operation υ) (completion : Completion)
      (h : a.scheduler.draining = false)
      (houtstanding : a.scheduler.world.outstanding = before ++ operation :: after)
      (hcompletes : operation.Completes completion) : Step registry a
      { scheduler := a.scheduler.consumed registry before after operation completion
        total := Numbering.after a.total ((a.consumeCalls before after operation completion).map World.takenByOthers)
        inFlight := a.inFlight ++ givenIdentifiers (2 ^ 32) a.total
          ((a.consumeCalls before after operation completion).map World.takenByOthers)
        calls := a.consumeCalls before after operation completion }
  | startDraining (a : Ledger υ) : Step registry a
      { a with
        scheduler := { world := SocketContainer.eraseAllSockets a.scheduler.world, draining := true }
        calls := [] }
  | drain (a : Ledger υ) (before after : List (Operation υ)) (operation : Operation υ)
      (h : a.scheduler.draining = true) (houtstanding : a.scheduler.world.outstanding = before ++ operation :: after) :
    Step registry a
      { a with
        scheduler := { a.scheduler with world := { a.scheduler.world with outstanding := before ++ after } }
        calls := [] }

/-- The identifiers that are generated in a step are valid, different and not those of sockets that are there or
pending; no socket is inserted under an identifier that is used, and a socket that is to be accepted has a listening
socket, which it keeps. -/
structure Fresh (a b : Ledger υ) : Prop where
  valid : invalidSocketIdentifier ∉ handed (2 ^ 32) a.total b.total
  distinct : (handed (2 ^ 32) a.total b.total).Nodup
  unused : ∀ id ∈ handed (2 ^ 32) a.total b.total,
    a.scheduler.world.sockets.contains id = false ∧ id ∉ a.pending
  accepting : ∀ w ∈ b.calls, InsertsFresh w
  executing : ∀ operation ∈ a.scheduler.world.outstanding, ∀ id, operation.announced = some id →
    a.scheduler.world.sockets.contains id = false
  accepted : ∀ (id : SocketIdentifier) (s : Socket υ), b.scheduler.world.sockets[id]? = some s →
    s.pendingAccept = true → s.listeningSocketIdentifier ≠ invalidSocketIdentifier
  kept : ∀ (id : SocketIdentifier) (s t : Socket υ), a.scheduler.world.sockets[id]? = some s →
    b.scheduler.world.sockets[id]? = some t → t.listeningSocketIdentifier = s.listeningSocketIdentifier

variable [Ballotin] {registry : ProtocolRegistry} {a b : Ledger υ}

structure Kept (a : Ledger υ) : Prop where
  accounted : Accounted (2 ^ 32) a.total a.pending a.scheduler.world.sequenced
  recorded : a.scheduler.world.Recorded
  scheduler : a.scheduler.Kept
  drained : a.scheduler.draining = true → a.scheduler.world.sockets = ∅

omit [Ballotin] in
theorem Initial.kept (h : a.Initial) : a.Kept := by
  obtain ⟨user, rfl⟩ := h
  refine ⟨.new (by norm_num), fun id hid => ?_, OperationScheduler.new_kept user, nofun⟩
  change (∅ : Std.ExtTreeMap SocketIdentifier (Socket υ)).contains id = true at hid
  simp at hid

omit [Ballotin] in
theorem dequeued_announced {w : World υ} {before after : List (Operation υ)} {operation : Operation υ}
    (h : w.outstanding = before ++ operation :: after) :
    w.announced.Perm ((OperationScheduler.dequeued before after w).announced ++ operation.announced.toList) := by
  have hcons : (operation :: after).filterMap Operation.announced =
      operation.announced.toList ++ after.filterMap Operation.announced := by
    cases hannounced : operation.announced <;> simp [hannounced]
  rw [World.announced, World.announced, h, OperationScheduler.dequeued, List.filterMap_append, List.filterMap_append,
    hcons, List.append_assoc]
  exact List.perm_append_comm.append_left _

theorem consume_accounted (registry : ProtocolRegistry) {before after : List (Operation υ)} {operation : Operation υ} (completion : Completion)
    (ha : a.Kept) (houtstanding : a.scheduler.world.outstanding = before ++ operation :: after) :
    let taken := (a.consumeCalls before after operation completion).map World.takenByOthers
    let world := (a.scheduler.consumed registry before after operation completion).world
    world.Recorded ∧ Accounted (2 ^ 32) (Numbering.after a.total taken)
      (a.inFlight ++ givenIdentifiers (2 ^ 32) a.total taken ++ world.announced) world.sequenced ∧
    (Numbering.after a.total taken < 2 ^ 32 →
      ∀ u ∈ a.consumeCalls before after operation completion, InsertsFresh u) := by
  set w := OperationScheduler.dequeued before after a.scheduler.world with hw
  intro taken world
  have haccounted : Accounted (2 ^ 32) a.total (a.inFlight ++ w.announced ++ operation.announced.toList) w.sequenced := by
    refine ha.accounted.mono rfl ((List.subperm_append_left _).mpr ?_)
    rw [List.append_assoc]
    exact ((dequeued_announced houtstanding).symm.append_left _).subperm
  obtain ⟨u, huses, hgenerates⟩ := OperationScheduler.consumeOperation_generates registry operation completion w
  have hannounced : world.announced = w.announced := hgenerates.announced.trans huses.announced
  have hrecorded := huses.recorded ha.recorded
  refine ⟨hgenerates.recorded hrecorded, ?_, hgenerates.fresh hrecorded (huses.accounted haccounted)⟩
  refine ((huses.accounted haccounted).hand hgenerates.handed).mono rfl ((List.subperm_append_left _).mpr ?_)
  rw [hannounced, List.append_assoc, List.append_assoc]
  exact (List.perm_append_comm.append_left _).subperm

/-- A step of the scheduler, or another thread generates an identifier. -/
theorem Step.scheduler (h : Step registry a b) :
    b.scheduler = generated a.scheduler ∨ OperationScheduler.Step registry a.scheduler b.scheduler := by
  cases h with
  | generate => exact .inl rfl
  | schedule operation inFlight hnot hfresh => exact .inr (.schedule a.scheduler operation hnot hfresh)
  | outcomes script => exact .inr (.outcomes a.scheduler script)
  | consume before after operation completion hnot houtstanding hcompletes =>
    exact .inr (.consume a.scheduler before after operation completion hnot houtstanding hcompletes)
  | startDraining => exact .inr (.startDraining a.scheduler)
  | drain before after operation hdrain houtstanding =>
    exact .inr (.drain a.scheduler before after operation hdrain houtstanding)

theorem Step.scheduler_kept (h : Step registry a b) (ha : a.scheduler.Kept) : b.scheduler.Kept := by
  rcases h.scheduler with hgenerated | hstep
  · rw [hgenerated]
    intro hdraining
    obtain ⟨flag, hsound⟩ := ha hdraining
    exact ⟨flag, hsound.quiet (.of_sockets rfl rfl rfl rfl)⟩
  · exact hstep.kept ha

theorem Step.grows (h : Step registry a b) : Grows a.scheduler.world b.scheduler.world := by
  rcases h.scheduler with hgenerated | hstep
  · rw [hgenerated]
    exact List.prefix_rfl
  · exact hstep.grows

theorem Step.kept (h : Step registry a b) (ha : a.Kept) : b.Kept := by
  have hscheduler := h.scheduler_kept ha.scheduler
  cases h with
  | generate =>
    refine ⟨?_, ha.recorded, hscheduler, ha.drained⟩
    have hgenerated : Accounted (2 ^ 32) (a.total + 1) (a.pending ++ [a.scheduler.world.nextSocketIdentifier])
        (generated a.scheduler).world.sequenced := ha.accounted.generate rfl rfl
    refine hgenerated.mono rfl ((List.subperm_append_left _).mpr ?_)
    change (a.inFlight ++ [a.scheduler.world.nextSocketIdentifier] ++ a.scheduler.world.announced).Subperm
      (a.inFlight ++ a.scheduler.world.announced ++ [a.scheduler.world.nextSocketIdentifier])
    rw [List.append_assoc, List.append_assoc]
    exact (List.perm_append_comm.append_left _).subperm
  | schedule operation inFlight hnot hfresh hinFlight =>
    refine ⟨ha.accounted.mono rfl ((List.subperm_append_left _).mpr ?_), ha.recorded, hscheduler, ha.drained⟩
    have hannounced : (a.scheduler.world.post operation).announced =
        a.scheduler.world.announced ++ operation.announced.toList := by
      rw [World.announced, World.post, List.filterMap_append]
      cases hone : operation.announced <;> simp [hone, World.announced]
    change (inFlight ++ (a.scheduler.world.post operation).announced).Subperm (a.inFlight ++ a.scheduler.world.announced)
    rw [hannounced, (hinFlight.append_right _).subperm_left, ← List.append_assoc]
    exact (List.perm_append_comm.trans (by rw [List.append_assoc])).subperm
  | outcomes script => exact ⟨ha.accounted, ha.recorded, hscheduler, ha.drained⟩
  | consume before after operation completion hnot houtstanding hcompletes =>
    obtain ⟨hrecorded, haccounted, -⟩ := consume_accounted registry completion ha houtstanding
    refine ⟨haccounted, hrecorded, hscheduler, fun hdraining => ?_⟩
    cases hnot.symm.trans hdraining
  | startDraining =>
    refine ⟨ha.accounted, fun id hid => ?_, hscheduler, fun _ => rfl⟩
    change (∅ : Std.ExtTreeMap SocketIdentifier (Socket υ)).contains id = true at hid
    simp at hid
  | drain before after operation hdrain houtstanding =>
    refine ⟨ha.accounted.mono rfl ((List.subperm_append_left _).mpr ((List.subperm_append_left _).mpr ?_)), ha.recorded,
      hscheduler, ha.drained⟩
    change ((before ++ after).filterMap _).Subperm (a.scheduler.world.outstanding.filterMap _)
    rw [houtstanding]
    exact ((List.sublist_cons_self operation after).append_left before |>.filterMap _).subperm

theorem Step.total_le (h : Step registry a b) : a.total ≤ b.total := by
  cases h with
  | generate => exact Nat.le_succ _
  | schedule | outcomes | startDraining | drain => exact le_refl _
  | consume => exact le_after _ _

omit [Ballotin] in
/-- The sockets that are there are those of the scheduler that is not draining, and it knows their roles. -/
theorem Kept.role (h : a.Kept) (htotal : a.total < 2 ^ 32) {id : SocketIdentifier} {s : Socket υ}
    (hs : a.scheduler.world.sockets[id]? = some s) :
    ∃ role, roleOf id a.scheduler.world.history = some role ∧ s.Plays role := by
  cases hdraining : a.scheduler.draining with
  | true =>
    rw [h.drained hdraining, Std.ExtTreeMap.getElem?_empty] at hs
    cases hs
  | false =>
    obtain ⟨flag, hsound⟩ := h.scheduler hdraining
    obtain ⟨role, hrole, hplays, -⟩ := (hsound.accounts (h.accounted.distinctIdentifiers htotal)).cast id s hs
    exact ⟨role, hrole, hplays⟩

theorem Step.keepsListener (h : Step registry a b) (ha : a.Kept) (htotal : b.total < 2 ^ 32) {id : SocketIdentifier}
    {s t : Socket υ} (hs : a.scheduler.world.sockets[id]? = some s) (ht : b.scheduler.world.sockets[id]? = some t) :
    t.listeningSocketIdentifier = s.listeningSocketIdentifier := by
  have hb := h.kept ha
  obtain ⟨role, hrole, hplays, -⟩ := ha.role (lt_of_le_of_lt h.total_le htotal) hs
  obtain ⟨role', hrole', hplays', -⟩ := hb.role htotal ht
  obtain ⟨origin, hmem, hallows⟩ := roleOf_inserted hrole
  obtain ⟨role'', hrole'', hallows'⟩ := (hb.accounted.distinctIdentifiers htotal).role (h.grows.subset hmem)
  cases hrole'.symm.trans hrole''
  have hs : s.listeningSocketIdentifier = (kindOf role).2.1 := congrArg (·.2.1) hplays
  have ht : t.listeningSocketIdentifier = (kindOf role').2.1 := congrArg (·.2.1) hplays'
  rw [hs, ht]
  cases role <;> cases role' <;> simp_all [SocketOrigin.Allows, kindOf]

omit [Ballotin] in
theorem Kept.accepted (h : a.Kept) (htotal : a.total < 2 ^ 32) {id : SocketIdentifier} {s : Socket υ}
    (hs : a.scheduler.world.sockets[id]? = some s) (hpending : s.pendingAccept = true) :
    s.listeningSocketIdentifier ≠ invalidSocketIdentifier := by
  obtain ⟨role, -, hkind, hgenuine⟩ := h.role htotal hs
  cases role with
  | pending listener =>
    rw [show s.listeningSocketIdentifier = listener from congrArg (·.2.1) hkind]
    exact hgenuine
  | _ => exact absurd (hpending.symm.trans (congrArg Prod.fst hkind)) nofun

/-- A step that does not exhaust the identifiers. -/
theorem Step.fresh (h : Step registry a b) (ha : a.Kept) (htotal : b.total < 2 ^ 32) : a.Fresh b := by
  have hlt : a.total < 2 ^ 32 := lt_of_le_of_lt h.total_le htotal
  have hfree : ∀ id, id ∉ insertedIdentifiers a.scheduler.world.history →
      a.scheduler.world.sockets.contains id = false := fun id habsent =>
    Bool.eq_false_iff.mpr fun hcontains => habsent (ha.recorded id hcontains)
  obtain ⟨hvalid, hdistinct, hunused⟩ := ha.accounted.handed_fresh htotal
  refine ⟨hvalid, hdistinct, fun id hid => ?_, ?_, fun operation hmem id hannounced => ?_,
    fun id s hs hpending => (h.kept ha).accepted htotal hs hpending, fun id s t hs ht => h.keepsListener ha htotal hs ht⟩
  · obtain ⟨habsent, hpending⟩ := hunused id hid
    exact ⟨hfree id habsent, hpending⟩
  · cases h with
    | generate | schedule | outcomes | startDraining | drain =>
      intro w hw
      cases hw
    | consume before after operation completion hnot houtstanding hcompletes =>
      exact (consume_accounted registry completion ha houtstanding).2.2 htotal
  · refine hfree id (ha.accounted.pending_absent hlt (List.mem_append_right _ ?_))
    exact List.mem_filterMap.mpr ⟨operation, hmem, hannounced⟩

theorem run_kept {start : Ledger υ} (hstart : start.Initial)
    (hrun : Relation.ReflTransGen (Step registry) start a) : a.Kept := by
  induction hrun with
  | refl => exact hstart.kept
  | tail _ hlast ih => exact hlast.kept ih

theorem total_le_of_run (hrun : Relation.ReflTransGen (Step registry) a b) : a.total ≤ b.total := by
  induction hrun with
  | refl => exact le_refl _
  | tail _ hlast ih => exact ih.trans hlast.total_le

/-- The identifiers of a run are all fresh exactly if there are fewer than `2 ^ 32`. -/
theorem fresh_run_iff {start : Ledger υ} (hstart : start.Initial)
    (hrun : Relation.ReflTransGen (Step registry) start b) :
    (∀ a a', Relation.ReflTransGen (Step registry) start a → Step registry a a' →
      Relation.ReflTransGen (Step registry) a' b → a.Fresh a') ↔ b.total < 2 ^ 32 := by
  constructor
  · intro hfresh
    obtain ⟨user, rfl⟩ := hstart
    refine lt_of_run (by norm_num) hrun fun a a' hbefore hstep hafter => ?_
    exact (hfresh a a' hbefore hstep hafter).valid
  · intro htotal a a' hbefore hstep hafter
    exact hstep.fresh (run_kept hstart hbefore) (lt_of_le_of_lt (total_le_of_run hafter) htotal)

end Ledger

end Farseer.Windows
