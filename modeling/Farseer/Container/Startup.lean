import Farseer.Container.CallbackGrammar

/-! What the user who asked for a socket can learn of it. A call of `listen` or `connect` starts if a
socket is inserted under the identifier that it returned; from then on the socket is there, or its
callback has been told that it closed. A call that does not start leaves the roster as it was. -/

namespace Farseer

variable {υ : Type}

namespace Roster

variable {m m' : Roster υ} {id : SocketIdentifier}

/-- The socket is there, or its connection callback was told once that it is not. -/
def Answered (m : Roster υ) (id : SocketIdentifier) : Prop :=
  m.sockets id ≠ none ∨ (m.word id).count (.serverClosed, id) = 1

def Opened (m : Roster υ) (id : SocketIdentifier) : Prop :=
  .socketInserted id .listen ∈ m.history ∨ .socketInserted id .connect ∈ m.history

/-- An execution of `listen` or `connect` inserts a socket, or does nothing that its user can tell. -/
def Starts (id : SocketIdentifier) (succeeds : Prop) (m m' : Roster υ) : Prop :=
  succeeds ∧ m'.Opened id ∨ ¬ succeeds ∧ m' = m

theorem Opened.mono (h : m.Opened id) (hgrows : m.history <+: m'.history) : m'.Opened id :=
  h.imp (fun hmem => hgrows.subset hmem) fun hmem => hgrows.subset hmem

theorem count_clients {clients : List Notice}
    (h : ∀ notice ∈ clients, notice.1 = .clientOpen ∨ notice.1 = .clientClosed) :
    clients.count (.serverClosed, id) = 0 := by
  refine List.count_eq_zero.mpr fun hmem => ?_
  rcases h _ hmem with hevent | hevent <;> cases hevent

/-- Whatever becomes of a socket of its user, the user is told when it is gone. -/
theorem Told.answered (h : m.Told) (hdistinct : DistinctIdentifiers m.history) (hopened : m.Opened id) :
    m.Answered id := by
  by_cases hid : m.sockets id = none
  · have hsaid := h.said id
    rw [show m.present id = false by simp [present, hid]] at hsaid
    have hrole : ∃ role, m.role id = some role ∧
        (SocketOrigin.listen.Allows role ∨ SocketOrigin.connect.Allows role) := by
      rcases hopened with hmem | hmem
      · obtain ⟨role, hrole, hallows⟩ := hdistinct.role hmem
        exact ⟨role, hrole, .inl hallows⟩
      · obtain ⟨role, hrole, hallows⟩ := hdistinct.role hmem
        exact ⟨role, hrole, .inr hallows⟩
    obtain ⟨role, hrole, hallows⟩ := hrole
    rw [hrole] at hsaid
    right
    cases role with
    | opening | connecting =>
      rw [show m.word id = [(.serverClosed, id)] from hsaid]
      simp
    | listening =>
      obtain ⟨clients, hclients, hword⟩ := hsaid
      rw [hword, List.cons_append, List.count_cons, List.count_append, count_clients hclients]
      simp
    | connected =>
      obtain ⟨argument, -, hword⟩ := hsaid
      rw [hword]
      simp
    | pending | accepted => rcases hallows with hallows | hallows <;> cases hallows
  · exact .inl hid

theorem Told.unanswered (h : m.Told) (hunknown : id ∉ insertedIdentifiers m.history) : ¬ m.Answered id := by
  have hrole : m.role id = none := roleOf_eq_none hunknown
  rintro (hid | hcount)
  · exact h.known id (Option.isSome_iff_ne_none.mpr hid) hrole
  · have hsaid := h.said id
    rw [hrole] at hsaid
    rw [show m.word id = [] from hsaid] at hcount
    cases hcount

/-- What the user can ever learn is settled by the execution of the call; `After` are the states of
the container from then on. -/
theorem Starts.answered_iff {σ : Type} (view : σ → Roster υ) {After : σ → Prop} (s' : σ) {succeeds : Prop}
    (h : Starts id succeeds m (view s')) (htold : m.Told) (hdistinct : DistinctIdentifiers m.history)
    (hunknown : id ∉ insertedIdentifiers m.history) (hnow : After s')
    (hlater : ∀ s'', After s'' → DistinctIdentifiers (view s'').history →
      (view s').history <+: (view s'').history ∧ (view s'').Told) :
    (∀ s'', After s'' → DistinctIdentifiers (view s'').history → (view s'').Answered id) ↔ succeeds := by
  rcases h with ⟨hsucceeds, hopened⟩ | ⟨hfails, hsame⟩
  · refine iff_of_true (fun s'' hs hdistinct' => ?_) hsucceeds
    obtain ⟨hgrows, htold'⟩ := hlater s'' hs hdistinct'
    exact htold'.answered hdistinct' (hopened.mono hgrows)
  · refine iff_of_false (fun hanswered => ?_) hfails
    have hnot := htold.unanswered hunknown
    rw [← hsame] at hdistinct hnot
    exact hnot (hanswered s' hnow hdistinct)

end Roster

end Farseer
