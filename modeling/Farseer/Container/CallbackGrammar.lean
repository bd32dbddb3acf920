import Farseer.Container.Roster

/-! The words that the calls of a connection callback form, over every run of a roster in which
identifiers do not repeat. The role of a socket and whether it is still there determine its word. -/

namespace Farseer

variable {υ : Type}

abbrev Notice := SocketEvent × SocketIdentifier

def noticeTo (id : SocketIdentifier) : ContainerEvent υ → Option Notice
  | .notified receiver event argument => if receiver = id then some (event, argument) else none
  | _ => none

/-- The calls of the connection callback of a socket. -/
def wordOf (id : SocketIdentifier) (history : List (ContainerEvent υ)) : List Notice :=
  history.filterMap (noticeTo id)

def clientWord (client : SocketIdentifier) (word : List Notice) : List Notice :=
  word.filter fun notice => notice == (.clientOpen, client) || notice == (.clientClosed, client)

/-- At most `clientOpen` and then at most `clientClosed`. -/
def ClientGrammar (client : SocketIdentifier) (word : List Notice) : Prop :=
  word = [] ∨ word = [(.clientOpen, client)] ∨ word = [(.clientOpen, client), (.clientClosed, client)]

/-- `serverOpen`, then clients that open and close, and `serverClosed` at the end; a socket that could not
start to accept has only the end. -/
def ServerGrammar (id : SocketIdentifier) (word : List Notice) : Prop :=
  word = [] ∨ word = [(.serverClosed, id)] ∨
    ∃ clients : List Notice,
      (word = (.serverOpen, id) :: clients ∨ word = (.serverOpen, id) :: clients ++ [(.serverClosed, id)]) ∧
      (∀ notice ∈ clients, notice.1 = .clientOpen ∨ notice.1 = .clientClosed) ∧
      ∀ client, ClientGrammar client (clientWord client clients)

/-- At most `clientOpen` and then at most `serverClosed`. -/
def ConnectGrammar (id : SocketIdentifier) (word : List Notice) : Prop :=
  word = [] ∨ word = [(.serverClosed, id)] ∨
    ∃ argument, word = [(.clientOpen, argument)] ∨ word = [(.clientOpen, argument), (.serverClosed, id)]

@[simp] theorem wordOf_concat (id : SocketIdentifier) (history : List (ContainerEvent υ)) (event : ContainerEvent υ) :
    wordOf id (history ++ [event]) = wordOf id history ++ (noticeTo id event).toList := by
  unfold wordOf
  rw [List.filterMap_append]
  cases h : noticeTo id event <;> simp [h]

theorem clientWord_append (client : SocketIdentifier) (word word' : List Notice) :
    clientWord client (word ++ word') = clientWord client word ++ clientWord client word' := by
  unfold clientWord
  rw [List.filter_append]

def Said (id : SocketIdentifier) (present : Bool) (word : List Notice) : Option Role → Prop
  | none | some (.pending _) | some (.accepted _) => word = []
  | some .opening | some .connecting => word = if present then [] else [(.serverClosed, id)]
  | some .listening => ∃ clients, (∀ notice ∈ clients, notice.1 = .clientOpen ∨ notice.1 = .clientClosed) ∧
      word = (.serverOpen, id) :: clients ++ if present then [] else [(.serverClosed, id)]
  | some .connected => ∃ argument, (argument = id ∨ argument = invalidSocketIdentifier) ∧
      word = (.clientOpen, argument) :: if present then [] else [(.serverClosed, id)]

/-- The calls that a listening socket has had about one client. -/
def Reported (client : SocketIdentifier) (present listenerPresent : Bool) (word : List Notice) : Prop :=
  if present then word = [(.clientOpen, client)]
  else word = [(.clientOpen, client), (.clientClosed, client)] ∨
    (listenerPresent = false ∧ word = [(.clientOpen, client)])

/-- What has been told of the sockets is what they are. -/
structure Told (present : SocketIdentifier → Bool) (role : SocketIdentifier → Option Role)
    (word : SocketIdentifier → List Notice) : Prop where
  known : ∀ id, present id = true → role id ≠ none
  said : ∀ id, Said id (present id) (word id) (role id)
  pending : ∀ id listener, role id = some (.pending listener) →
    role listener = some .opening ∨ role listener = some .listening
  accepted : ∀ id listener, role id = some (.accepted listener) → role listener = some .listening ∧
    Reported id (present id) (present listener) (clientWord id (word listener))
  others : ∀ id listener, role listener = some .listening → role id ≠ some (.accepted listener) →
    clientWord id (word listener) = []

namespace Told

variable {present : SocketIdentifier → Bool} {role : SocketIdentifier → Option Role}
  {word : SocketIdentifier → List Notice} {id listener : SocketIdentifier}

open Function in
theorem serverOpened (h : Told present role word) (hpresent : present id = true) (hrole : role id = some .opening) :
    Told present (update role id (some .listening)) (update word id [(.serverOpen, id)]) := by
  have hne : ∀ x l, role x = some (.accepted l) → l ≠ id := by
    rintro x l hx rfl
    have := (h.accepted x _ hx).1
    rw [hrole] at this
    cases this
  constructor
  · intro x hx
    have := h.known x hx
    grind
  · intro x
    have := h.said x
    by_cases hx : x = id
    · subst hx
      simp [Said, hpresent]
    · simpa [hx] using this
  · intro x l hx
    have := h.pending x l
    grind
  · intro x l hx
    have := h.accepted x l
    grind
  · intro x l hl hx
    have := h.others x l
    by_cases hid : l = id
    · subst hid
      simp [clientWord]
    · grind

open Function in
theorem connected (h : Told present role word) (hpresent : present id = true) (hrole : role id = some .connecting)
    {argument : SocketIdentifier} (hargument : argument = id ∨ argument = invalidSocketIdentifier) :
    Told present (update role id (some .connected)) (update word id [(.clientOpen, argument)]) := by
  constructor
  · intro x hx
    have := h.known x hx
    grind
  · intro x
    have := h.said x
    by_cases hx : x = id
    · subst hx
      simpa [Said, hpresent] using hargument
    · simpa [hx] using this
  · intro x l hx
    have := h.pending x l
    grind
  · intro x l hx
    have := h.accepted x l
    grind
  · intro x l hl hx
    have := h.others x l
    grind

open Function in
theorem clientAccepted (h : Told present role word) (hpresent : present id = true)
    (hrole : role id = some (.pending listener)) (hlistener : present listener = true)
    (hlistening : role listener = some .listening) :
    Told present (update role id (some (.accepted listener)))
      (update word listener (word listener ++ [(.clientOpen, id)])) := by
  have hne : listener ≠ id := by
    rintro rfl
    rw [hrole] at hlistening
    cases hlistening
  have hnothing : clientWord id (word listener) = [] := h.others id listener hlistening (by simp [hrole])
  constructor
  · intro x hx
    have := h.known x hx
    grind
  · intro x
    have hsaid := h.said x
    by_cases hx : x = listener
    · subst hx
      obtain ⟨clients, hclients, hword⟩ : ∃ clients, _ := by simpa [Said, hlistening, hlistener] using hsaid
      have : update role id (some (.accepted x)) x = some .listening := by simp [hne, hlistening]
      rw [this, update_self, hword]
      refine ⟨clients ++ [(.clientOpen, id)], ?_, by simp [hlistener]⟩
      grind
    · by_cases hid : x = id
      · subst hid
        simpa [Said, hx, hrole] using hsaid
      · simpa [hx, hid] using hsaid
  · intro x l hx
    have := h.pending x l
    grind
  · intro x l hx
    by_cases hid : x = id
    · subst hid
      have hl : l = listener := by simpa using hx.symm
      subst hl
      rw [update_self, clientWord_append, hnothing]
      exact ⟨by simp [hne, hlistening], by simp [Reported, hpresent, clientWord]⟩
    · have hx' : role x = some (.accepted l) := by simpa [hid] using hx
      obtain ⟨hl, hreported⟩ := h.accepted x l hx'
      refine ⟨by grind, ?_⟩
      by_cases hlist : l = listener
      · subst hlist
        rw [update_self, clientWord_append]
        simpa [clientWord, Ne.symm hid] using hreported
      · rwa [update_of_ne hlist]
  · intro x l hl hx
    have hother := h.others x l
    by_cases hlist : l = listener
    · subst hlist
      have hid : x ≠ id := by
        rintro rfl
        simp at hx
      rw [update_self, clientWord_append, hother hlistening (by simpa [hid] using hx)]
      simp [clientWord, Ne.symm hid]
    · grind

open Function in
theorem inserted (h : Told present role word) (hrole : role id = none) (origin : SocketOrigin)
    (horigin : ∀ listener, origin = .accept listener →
      role listener = some .opening ∨ role listener = some .listening) :
    Told (update present id true) (update role id (some origin.role)) word := by
  have hword : word id = [] := by
    have := h.said id
    rwa [hrole] at this
  have hne : ∀ x l, role x = some (.accepted l) → x ≠ id ∧ l ≠ id := by
    intro x l hx
    have := (h.accepted x l hx).1
    grind
  constructor
  · intro x hx
    have := h.known x
    grind
  · intro x
    have hsaid := h.said x
    by_cases hx : x = id
    · subst hx
      cases origin <;> simp [Said, SocketOrigin.role, hword]
    · simpa [hx] using hsaid
  · intro x l hx
    have := h.pending x l
    by_cases hid : x = id
    · subst hid
      cases origin with
      | accept listener =>
        have hl : listener = l := by simpa [SocketOrigin.role] using hx
        subst hl
        have := horigin listener rfl
        grind
      | listen | connect => simp [SocketOrigin.role] at hx
    · grind
  · intro x l hx
    by_cases hid : x = id
    · subst hid
      cases origin <;> simp [SocketOrigin.role] at hx
    · have hx' : role x = some (.accepted l) := by simpa [hid] using hx
      have := h.accepted x l hx'
      have := hne x l hx'
      grind
  · intro x l hl hx
    by_cases hlid : l = id
    · subst hlid
      rw [hword]
      rfl
    · have hl' : role l = some .listening := by simpa [hlid] using hl
      by_cases hid : x = id
      · subst hid
        exact h.others x l hl' (by simp [hrole])
      · exact h.others x l hl' (by simpa [hid] using hx)

open Function in
theorem pendingErased (h : Told present role word) (hrole : role id = some (.pending listener)) :
    Told (update present id false) role word := by
  constructor
  · intro x hx
    have := h.known x
    grind
  · intro x
    have hsaid := h.said x
    by_cases hx : x = id
    · subst hx
      simpa [Said, hrole] using hsaid
    · simpa [hx] using hsaid
  · exact h.pending
  · intro x l hx
    have := h.accepted x l hx
    grind
  · exact h.others

open Function in
theorem orphanErased (h : Told present role word) (hpresent : present id = true)
    (hrole : role id = some (.accepted listener)) (hlistener : present listener = false) :
    Told (update present id false) role word := by
  constructor
  · intro x hx
    have := h.known x
    grind
  · intro x
    have hsaid := h.said x
    by_cases hx : x = id
    · subst hx
      simpa [Said, hrole] using hsaid
    · simpa [hx] using hsaid
  · exact h.pending
  · intro x l hx
    have := h.accepted x l hx
    by_cases hid : x = id
    · subst hid
      grind [Reported]
    · grind
  · exact h.others

open Function in
theorem clientErased (h : Told present role word) (hpresent : present id = true)
    (hrole : role id = some (.accepted listener)) (hlistener : present listener = true) :
    Told (update present id false) role (update word listener (word listener ++ [(.clientClosed, id)])) := by
  obtain ⟨hlistening, hreported⟩ := h.accepted id listener hrole
  have hne : listener ≠ id := by
    rintro rfl
    rw [hrole] at hlistening
    cases hlistening
  constructor
  · intro x hx
    have := h.known x
    grind
  · intro x
    have hsaid := h.said x
    by_cases hx : x = listener
    · subst hx
      obtain ⟨clients, hclients, hword⟩ : ∃ clients, _ := by simpa [Said, hlistening, hlistener] using hsaid
      rw [update_self, hlistening, hword, update_of_ne hne]
      refine ⟨clients ++ [(.clientClosed, id)], ?_, by simp [hlistener]⟩
      grind
    · by_cases hid : x = id
      · subst hid
        simpa [Said, hx, hrole] using hsaid
      · simpa [hx, hid] using hsaid
  · exact h.pending
  · intro x l hx
    obtain ⟨hl, hreported'⟩ := h.accepted x l hx
    refine ⟨hl, ?_⟩
    by_cases hlist : l = listener
    · subst hlist
      rw [update_self, clientWord_append]
      by_cases hid : x = id
      · subst hid
        have hword : clientWord x (word l) = [(.clientOpen, x)] := by simpa [Reported, hpresent] using hreported
        rw [hword]
        simp [Reported, clientWord]
      · simpa [clientWord, hid, Ne.symm hid, hne] using hreported'
    · rw [update_of_ne hlist]
      grind
  · intro x l hl hx
    have hother := h.others x l hl hx
    by_cases hlist : l = listener
    · subst hlist
      have hid : x ≠ id := by
        rintro rfl
        exact hx hrole
      rw [update_self, clientWord_append, hother]
      simp [clientWord, Ne.symm hid]
    · rwa [update_of_ne hlist]

open Function in
theorem ownErased (h : Told present role word) (hpresent : present id = true)
    (hpending : ∀ listener, role id ≠ some (.pending listener))
    (haccepted : ∀ listener, role id ≠ some (.accepted listener)) :
    Told (update present id false) role (update word id (word id ++ [(.serverClosed, id)])) := by
  have hclient : ∀ x, clientWord x (word id ++ [(.serverClosed, id)]) = clientWord x (word id) := by
    intro x
    rw [clientWord_append]
    simp [clientWord]
  constructor
  · intro x hx
    have := h.known x
    grind
  · intro x
    have hsaid := h.said x
    by_cases hx : x = id
    · subst hx
      rw [update_self, update_self]
      have hknown := h.known x hpresent
      cases hrole : role x with
      | none => exact absurd hrole hknown
      | some r =>
        rw [hpresent, hrole] at hsaid
        cases r with
        | pending l => exact absurd hrole (hpending l)
        | accepted l => exact absurd hrole (haccepted l)
        | opening | connecting =>
          have hword : word x = [] := by simpa [Said] using hsaid
          simp [Said, hword]
        | listening =>
          obtain ⟨clients, hclients, hword⟩ := hsaid
          exact ⟨clients, hclients, by simp [hword]⟩
        | connected =>
          obtain ⟨argument, hargument, hword⟩ := hsaid
          exact ⟨argument, hargument, by simp [hword]⟩
    · simpa [hx] using hsaid
  · exact h.pending
  · intro x l hx
    obtain ⟨hl, hreported⟩ := h.accepted x l hx
    refine ⟨hl, ?_⟩
    by_cases hid : x = id
    · subst hid
      exact absurd hx (haccepted l)
    · by_cases hlist : l = id
      · subst hlist
        rw [update_self, update_self, hclient]
        grind [Reported]
      · rwa [update_of_ne hid, update_of_ne hlist, update_of_ne hlist]
  · intro x l hl hx
    have hother := h.others x l hl hx
    by_cases hlist : l = id
    · subst hlist
      rw [update_self, hclient, hother]
    · rwa [update_of_ne hlist]

end Told

namespace Roster

variable {m m' : Roster υ}

def present (m : Roster υ) (id : SocketIdentifier) : Bool := (m.sockets id).isSome

def word (m : Roster υ) (id : SocketIdentifier) : List Notice := wordOf id m.history

abbrev Told (m : Roster υ) : Prop := Farseer.Told m.present m.role m.word

theorem notify_word (m : Roster υ) (receiver : SocketIdentifier) (event : SocketEvent) (argument : SocketIdentifier) :
    (m.notify receiver event argument).word =
      Function.update m.word receiver (m.word receiver ++ [(event, argument)]) := by
  funext id
  by_cases hid : id = receiver
  · subst hid
    simp [word, notify, record, noticeTo]
  · simp [word, notify, record, noticeTo, hid, Ne.symm hid]

theorem notify_role (m : Roster υ) (receiver : SocketIdentifier) (event : SocketEvent) (argument : SocketIdentifier)
    (id : SocketIdentifier) : (m.notify receiver event argument).role id =
      (m.role id).map fun role => role.afterCall id receiver event argument := by
  simp [role, notify, record, roleAfter]

theorem record_role {event : ContainerEvent υ} (h : ∀ id role, roleAfter id role event = role) (m : Roster υ) :
    (m.record event).role = m.role := by
  funext id
  simp [role, record, h]

theorem setReader_present {id : SocketIdentifier} (h : m.sockets id ≠ none) (reader : ProtocolReader υ) :
    (m.setReader id reader).present = m.present := by
  funext x
  by_cases hx : x = id
  · subst hx
    simp [present, setReader, Option.isSome_iff_ne_none.mpr h]
  · simp [present, setReader, hx]

theorem remove_present (id : SocketIdentifier) (m : Roster υ) :
    (m.remove id).present = Function.update m.present id false := by
  funext x
  by_cases hx : x = id
  · subst hx
    simp [present, remove]
  · simp [present, remove, hx]

theorem Told.of_same (h : m.Told) (hpresent : m'.present = m.present) (hrole : m'.role = m.role)
    (hword : m'.word = m.word) : m'.Told := by
  unfold Told
  rwa [hpresent, hrole, hword]

theorem frames_word (id : SocketIdentifier) (arrivals : List (Arrival υ)) (history : List (ContainerEvent υ))
    (id' : SocketIdentifier) : wordOf id' (history ++ arrivals.map (.frameRead id)) = wordOf id' history := by
  induction arrivals using List.reverseRecOn with
  | nil => simp
  | append_singleton arrivals arrival ih =>
    rw [List.map_append, List.map_singleton, ← List.append_assoc, wordOf_concat, ih]
    simp [noticeTo]

theorem Told.erase (h : m.Told) {id : SocketIdentifier} (hid : m.sockets id ≠ none) : (m.erase id).Told := by
  have hpresent : m.present id = true := Option.isSome_iff_ne_none.mpr hid
  have hrole' : (m.erase id).role = m.role := funext (erase_role id m)
  unfold Told
  rw [hrole']
  unfold Roster.erase
  cases hrole : m.role id with
  | none => exact absurd hrole (h.known id hpresent)
  | some role =>
    have hword : ∀ receiver event, ((m.notify receiver event id).remove id).word =
        Function.update m.word receiver (m.word receiver ++ [(event, id)]) :=
      fun receiver event => notify_word m receiver event id
    cases role with
    | pending listener =>
      dsimp only
      rw [remove_present]
      exact h.pendingErased hrole
    | accepted listener =>
      dsimp only
      split_ifs with hlistener
      · rw [remove_present, hword]
        exact h.clientErased hpresent hrole hlistener
      · rw [remove_present]
        exact h.orphanErased hpresent hrole (by simpa [present] using hlistener)
    | opening | listening | connecting | connected =>
      dsimp only
      rw [remove_present, hword]
      exact h.ownErased hpresent (by simp [hrole]) (by simp [hrole])

theorem Step.told (h : Step m m') (hdistinct : DistinctIdentifiers m'.history) (hm : m.Told) : m'.Told := by
  cases h with
  | inserted id origin habsent horigin =>
    have hrole : m.role id = none := roleOf_eq_none hdistinct.fresh.2
    have hinserted := hm.inserted hrole origin horigin
    have hpresent' : (m.insert id origin).present = Function.update m.present id true := by
      funext x
      by_cases hx : x = id
      · subst hx
        simp [present, insert, record, setReader]
      · simp [present, insert, record, setReader, hx]
    have hrole' : (m.insert id origin).role = Function.update m.role id (some origin.role) := by
      funext x
      by_cases hx : x = id
      · subst hx
        simp [role, insert, record, setReader, roleAfter]
      · simp [role, insert, record, setReader, roleAfter, hx, Ne.symm hx]
    have hword' : (m.insert id origin).word = m.word := by
      funext x
      simp [word, insert, record, setReader, noticeTo]
    unfold Told
    rwa [hpresent', hrole', hword']
  | serverOpened id hid hrole =>
    have hpresent : m.present id = true := Option.isSome_iff_ne_none.mpr hid
    have hsaid := hm.said id
    rw [hrole, hpresent] at hsaid
    have hrole' : (m.notify id .serverOpen id).role = Function.update m.role id (some .listening) := by
      funext x
      rw [notify_role]
      by_cases hx : x = id
      · subst hx
        simp [hrole, Role.afterCall]
      · rw [Function.update_of_ne hx]
        cases m.role x with
        | none => rfl
        | some role => cases role <;> simp [Role.afterCall, Ne.symm hx]
    unfold Told
    rw [hrole', notify_word, show m.word id = [] from hsaid]
    exact hm.serverOpened hpresent hrole
  | connected id argument hid hrole hargument =>
    have hpresent : m.present id = true := Option.isSome_iff_ne_none.mpr hid
    have hsaid := hm.said id
    rw [hrole, hpresent] at hsaid
    have hrole' : (m.notify id .clientOpen argument).role = Function.update m.role id (some .connected) := by
      funext x
      rw [notify_role]
      by_cases hx : x = id
      · subst hx
        simp [hrole, Role.afterCall]
      · rw [Function.update_of_ne hx]
        cases hrolex : m.role x with
        | none => rfl
        | some role =>
          cases role with
          | pending listener =>
            -- nothing is pending on a socket that connects
            have hne : id ≠ listener := by
              rintro rfl
              have := hm.pending x _ hrolex
              rw [hrole] at this
              simp at this
            simp [Role.afterCall, hne]
          | opening | listening | connecting | connected | accepted => simp [Role.afterCall, Ne.symm hx]
    unfold Told
    rw [hrole', notify_word, show m.word id = [] from hsaid]
    exact hm.connected hpresent hrole hargument
  | accepted id listener hid hrole hlistener hlistening =>
    have hrole' : (m.notify listener .clientOpen id).role =
        Function.update m.role id (some (.accepted listener)) := by
      funext x
      rw [notify_role]
      by_cases hx : x = id
      · subst hx
        simp [hrole, Role.afterCall]
      · rw [Function.update_of_ne hx]
        cases hrolex : m.role x with
        | none => rfl
        | some role =>
          cases role with
          | connecting =>
            have hne : listener ≠ x := by
              rintro rfl
              rw [hlistening] at hrolex
              cases hrolex
            simp [Role.afterCall, hne]
          | opening | listening | connected | pending | accepted => simp [Role.afterCall, Ne.symm hx]
    unfold Told
    rw [hrole', notify_word]
    exact hm.clientAccepted (Option.isSome_iff_ne_none.mpr hid) hrole (Option.isSome_iff_ne_none.mpr hlistener)
      hlistening
  | erased id hid => exact hm.erase hid
  | messageConsumerRegistered id reader hid p consumer hfree =>
    refine hm.of_same (setReader_present (by simp [hid]) _) (record_role (fun _ _ => rfl) _) ?_
    funext x
    simp [word, record, setReader, noticeTo]
  | requestConsumerRegistered id reader hid table =>
    exact hm.of_same (setReader_present (by simp [hid]) _) rfl rfl
  | responseConsumerRegistered id reader hid n consumer hfree =>
    refine hm.of_same (setReader_present (by simp [hid]) _) (record_role (fun _ _ => rfl) _) ?_
    funext x
    simp [word, record, setReader, noticeTo]
  | read id hid reader reader' hreader user user' arrivals hreads =>
    refine hm.of_same (setReader_present (by simp [hreader]) _) ?_ ?_
    · funext x
      exact frames_role id arrivals m.history x
    · funext x
      exact frames_word id arrivals m.history x

theorem new_told : (new : Roster υ).Told := by
  refine ⟨fun id h => ?_, fun id => rfl, fun id listener h => ?_, fun id listener h => ?_, fun id listener h => ?_⟩
  · cases h
  · cases h
  · cases h
  · cases h

/-- Whatever happens to the sockets, while identifiers do not repeat their user is told of it. -/
theorem Steps.told (h : Steps new m) (hdistinct : DistinctIdentifiers m.history) : m.Told :=
  h.invariant (fun _ _ => Step.told) hdistinct new_told

/-- Every connection callback has been called with a word of its grammar: the one of a listening
socket with the events of its clients between its own, the one of a connecting socket with its
own. A client that was reported and then erased under its listening socket was reported as closed,
and a pending socket was never reported. -/
structure Grammatical (m : Roster υ) : Prop where
  server : ∀ id, .socketInserted id .listen ∈ m.history → ServerGrammar id (m.word id)
  connect : ∀ id, .socketInserted id .connect ∈ m.history → ConnectGrammar id (m.word id)
  closed : ∀ id listener, .socketInserted listener .listen ∈ m.history → (.clientOpen, id) ∈ m.word listener →
    m.sockets listener ≠ none → m.sockets id = none →
    clientWord id (m.word listener) = [(.clientOpen, id), (.clientClosed, id)]
  pending : ∀ id listener, m.role id = some (.pending listener) →
    ∀ receiver event, .notified receiver event id ∉ m.history

theorem mem_word {receiver argument : SocketIdentifier} {event : SocketEvent} :
    (event, argument) ∈ m.word receiver ↔ .notified receiver event argument ∈ m.history := by
  unfold word wordOf
  rw [List.mem_filterMap]
  constructor
  · rintro ⟨e, he, hnotice⟩
    cases e with
    | notified r e' a =>
      rw [noticeTo] at hnotice
      split_ifs at hnotice with hr
      cases hnotice
      rwa [← hr]
    | _ => cases hnotice
  · intro h
    exact ⟨_, h, by simp [noticeTo]⟩

/-- What a listening socket is told of a client, in whatever order with the others. -/
theorem Told.clientGrammar (h : m.Told) {listener : SocketIdentifier} (hlistening : m.role listener = some .listening)
    (id : SocketIdentifier) : ClientGrammar id (clientWord id (m.word listener)) := by
  by_cases hrole : m.role id = some (.accepted listener)
  · have hreported := (h.accepted id listener hrole).2
    unfold Reported at hreported
    split_ifs at hreported
    · exact .inr (.inl hreported)
    · rcases hreported with hboth | ⟨-, hopen⟩
      · exact .inr (.inr hboth)
      · exact .inr (.inl hopen)
  · exact .inl (h.others id listener hlistening hrole)

theorem Told.server (h : m.Told) {id : SocketIdentifier} (hrole : m.role id = some .opening ∨
    m.role id = some .listening) : ServerGrammar id (m.word id) := by
  have hsaid := h.said id
  rcases hrole with hrole | hrole
  · rw [hrole] at hsaid
    cases hpresent : m.present id <;> rw [hpresent] at hsaid
    · exact .inr (.inl hsaid)
    · exact .inl hsaid
  · have hgrammar := h.clientGrammar hrole
    rw [hrole] at hsaid
    obtain ⟨clients, hclients, hword⟩ := hsaid
    refine .inr (.inr ⟨clients, ?_, hclients, fun client => ?_⟩)
    · cases hpresent : m.present id <;> rw [hpresent] at hword
      · exact .inr hword
      · exact .inl (hword.trans (List.append_nil _))
    · have hends : clientWord client (m.word id) = clientWord client clients := by
        rw [hword, List.cons_append, ← List.singleton_append, clientWord_append, clientWord_append]
        cases m.present id <;> simp [clientWord]
      rw [← hends]
      exact hgrammar client

theorem Told.connect (h : m.Told) {id : SocketIdentifier} (hrole : m.role id = some .connecting ∨
    m.role id = some .connected) : ConnectGrammar id (m.word id) := by
  have hsaid := h.said id
  rcases hrole with hrole | hrole
  · rw [hrole] at hsaid
    cases hpresent : m.present id <;> rw [hpresent] at hsaid
    · exact .inr (.inl hsaid)
    · exact .inl hsaid
  · rw [hrole] at hsaid
    obtain ⟨argument, -, hword⟩ := hsaid
    refine .inr (.inr ⟨argument, ?_⟩)
    cases hpresent : m.present id <;> rw [hpresent] at hword
    · exact .inr hword
    · exact .inl hword

/-- Whoever is told of an identifier, it is its own, the invalid one, or that of an accepted client. -/
theorem Told.argument (h : m.Told) {receiver id : SocketIdentifier} {event : SocketEvent}
    (hmem : (event, id) ∈ m.word receiver) :
    (id = receiver ∧ ∀ listener, m.role id ≠ some (.pending listener)) ∨ id = invalidSocketIdentifier ∨
      m.role id = some (.accepted receiver) := by
  have hsaid := h.said receiver
  cases hrole : m.role receiver with
  | none =>
    rw [hrole] at hsaid
    rw [show m.word receiver = [] from hsaid] at hmem
    cases hmem
  | some role =>
    rw [hrole] at hsaid
    cases role with
    | pending | accepted =>
      rw [show m.word receiver = [] from hsaid] at hmem
      cases hmem
    | opening | connecting =>
      have hword : m.word receiver = if m.present receiver then [] else [(.serverClosed, receiver)] := hsaid
      rw [hword] at hmem
      split_ifs at hmem
      · cases hmem
      · obtain ⟨-, rfl⟩ := Prod.mk.inj (List.mem_singleton.mp hmem)
        exact .inl ⟨rfl, by simp [hrole]⟩
    | connected =>
      obtain ⟨argument, hargument, hword⟩ := hsaid
      rw [hword] at hmem
      rcases List.mem_cons.mp hmem with hopen | hclosed
      · obtain ⟨-, rfl⟩ := Prod.mk.inj hopen
        rcases hargument with rfl | rfl
        · exact .inl ⟨rfl, by simp [hrole]⟩
        · exact .inr (.inl rfl)
      · split_ifs at hclosed
        · cases hclosed
        · obtain ⟨-, rfl⟩ := Prod.mk.inj (List.mem_singleton.mp hclosed)
          exact .inl ⟨rfl, by simp [hrole]⟩
    | listening =>
      by_cases hid : id = receiver
      · exact .inl ⟨hid, by simp [hid, hrole]⟩
      · refine .inr (.inr (by_contra fun hother => ?_))
        have hnothing := h.others id receiver hrole hother
        obtain ⟨clients, hclients, hword⟩ := hsaid
        have hclient : (event, id) ∈ clients := by
          rw [hword] at hmem
          rcases List.mem_append.mp hmem with hfront | hlast
          · rcases List.mem_cons.mp hfront with hfirst | hclient
            · exact absurd (Prod.mk.inj hfirst).2 hid
            · exact hclient
          · split_ifs at hlast
            · cases hlast
            · exact absurd (Prod.mk.inj (List.mem_singleton.mp hlast)).2 hid
        have hfiltered : (event, id) ∈ clientWord id (m.word receiver) := by
          refine List.mem_filter.mpr ⟨hmem, ?_⟩
          rcases hclients _ hclient with hevent | hevent
          · simp [show event = .clientOpen from hevent]
          · simp [show event = .clientClosed from hevent]
        rw [hnothing] at hfiltered
        cases hfiltered

theorem Told.grammatical (h : m.Told) (hdistinct : DistinctIdentifiers m.history) : m.Grammatical := by
  refine ⟨fun id hmem => ?_, fun id hmem => ?_, fun id listener hmem hopen hlistener hid => ?_,
    fun id listener hrole receiver event hmem => ?_⟩
  · obtain ⟨role, hrole, hallows⟩ := hdistinct.role hmem
    refine h.server ?_
    rw [Roster.role, hrole]
    cases role with
    | opening => exact .inl rfl
    | listening => exact .inr rfl
    | connecting | connected | pending | accepted => cases hallows
  · obtain ⟨role, hrole, hallows⟩ := hdistinct.role hmem
    refine h.connect ?_
    rw [Roster.role, hrole]
    cases role with
    | connecting => exact .inl rfl
    | connected => exact .inr rfl
    | opening | listening | pending | accepted => cases hallows
  · have hpresent : m.present listener = true := Option.isSome_iff_ne_none.mpr hlistener
    obtain ⟨role, hrole, hallows⟩ := hdistinct.role hmem
    have hrole' : m.role listener = some role := hrole
    have hgrammar : (.clientOpen, id) ∈ clientWord id (m.word listener) := List.mem_filter.mpr ⟨hopen, by simp⟩
    cases role with
    | opening =>
      have hsaid := h.said listener
      rw [hrole', hpresent] at hsaid
      rw [show m.word listener = [] from hsaid] at hopen
      cases hopen
    | listening =>
      have haccepted : m.role id = some (.accepted listener) := by
        by_contra hother
        rw [h.others id listener hrole' hother] at hgrammar
        cases hgrammar
      have hreported := (h.accepted id listener haccepted).2
      have habsent : m.present id = false := by simp [present, hid]
      simpa [Reported, habsent, hpresent] using hreported
    | connecting | connected | pending | accepted => cases hallows
  · rcases h.argument (mem_word.mpr hmem) with ⟨-, hnot⟩ | rfl | haccepted
    · exact hnot listener hrole
    · have hinserted : invalidSocketIdentifier ∈ insertedIdentifiers m.history := by
        by_contra hnone
        have := roleOf_eq_none hnone
        rw [Roster.role, this] at hrole
        cases hrole
      exact (List.nodup_cons.mp hdistinct).1 hinserted
    · rw [haccepted] at hrole
      cases hrole

end Roster

end Farseer
