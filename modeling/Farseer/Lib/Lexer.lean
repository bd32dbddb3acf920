import Mathlib

/-! Lexers. A lexer takes one lexeme after the other off the front of a text and notes where each of them stands; some
kinds of lexemes are discarded. Which lexeme stands in front is a parameter. `Lays` says that a text is made of lexemes
the lexer takes, and scanning a text is the same as laying it out. -/

namespace Lexer

variable {σ α : Type}

/-- Where a lexeme stands. -/
structure Span (σ : Type) where
  kind : σ
  first : ℕ
  last : ℕ

/-- A lexeme: its kind, none if it is discarded, and its characters. -/
abbrev Piece (σ α : Type) := Option σ × List α

/-- The characters in a span. -/
def Span.read (text : List α) (span : Span σ) : σ × List α :=
  (span.kind, (text.drop span.first).take (span.last - span.first))

variable (front : List α → Option (Option σ × ℕ))

/-- The loop over the text. A lexeme is never empty, so there are no more turns than characters. -/
def scan : ℕ → ℕ → List α → Option (List (Span σ))
  | _, _, [] => some []
  | 0, _, _ :: _ => none
  | fuel + 1, position, text => do
    let (kind, length) ← front text
    let spans ← scan fuel (position + length) (text.drop length)
    return match kind with
      | some kind => { kind, first := position, last := position + length } :: spans
      | none => spans

/-- The text consists of these lexemes, and the lexer takes each of them from in front of the next. -/
inductive Lays : List (Piece σ α) → List α → Prop
  | nil : Lays [] []
  | cons (kind : Option σ) (lexeme : List α) (pieces : List (Piece σ α)) (rest : List α)
      (hfront : front (lexeme ++ rest) = some (kind, lexeme.length)) (h : Lays pieces rest) :
    Lays ((kind, lexeme) :: pieces) (lexeme ++ rest)

/-- The pieces that are not discarded. -/
def kept : List (Piece σ α) → List (σ × List α)
  | [] => []
  | (some kind, lexeme) :: pieces => (kind, lexeme) :: kept pieces
  | (none, _) :: pieces => kept pieces

def spans : ℕ → List (Piece σ α) → List (Span σ)
  | _, [] => []
  | position, (some kind, lexeme) :: pieces =>
    { kind, first := position, last := position + lexeme.length } :: spans (position + lexeme.length) pieces
  | position, (none, lexeme) :: pieces => spans (position + lexeme.length) pieces

/-- A lexeme is at the front of the text, and not empty. -/
def Takes : Prop := ∀ text kind n, front text = some (kind, n) → 0 < n ∧ n ≤ text.length

variable {front} {text : List α}

theorem scan_cons (fuel position : ℕ) (c : α) (cs : List α) :
    scan front (fuel + 1) position (c :: cs) = (front (c :: cs)).bind fun taken =>
      (scan front fuel (position + taken.2) ((c :: cs).drop taken.2)).bind fun later =>
        match taken.1 with
        | some kind => some ({ kind, first := position, last := position + taken.2 } :: later)
        | none => some later := by
  rw [scan]
  · cases front (c :: cs) with
    | none => rfl
    | some taken =>
      obtain ⟨kind, n⟩ := taken
      cases kind <;> rfl
  · exact nofun

theorem read_spans {pieces : List (Piece σ α)} (h : Lays front pieces text) (before : List α) :
    (spans before.length pieces).map (Span.read (before ++ text)) = kept pieces := by
  induction h generalizing before with
  | nil => rfl
  | cons kind lexeme pieces rest hfront h ih =>
    have hrest := ih (before ++ lexeme)
    rw [List.length_append, List.append_assoc] at hrest
    cases kind with
    | none => exact hrest
    | some kind =>
      rw [spans, List.map_cons, hrest, kept, Span.read, List.drop_left, Nat.add_sub_cancel_left, List.take_left]

/-- What is laid out is scanned. -/
theorem Lays.scan (htakes : Takes front) {pieces : List (Piece σ α)} (h : Lays front pieces text) {fuel : ℕ}
    (hfuel : text.length ≤ fuel) (position : ℕ) :
    Lexer.scan front fuel position text = some (spans position pieces) := by
  induction h generalizing fuel position with
  | nil => cases fuel <;> rfl
  | cons kind lexeme pieces rest hfront h ih =>
    have hpositive := (htakes _ _ _ hfront).1
    rw [List.length_append] at hfuel
    obtain ⟨fuel, rfl⟩ := Nat.exists_eq_add_one.mpr (show 0 < fuel by omega)
    obtain ⟨c, cs, hcs⟩ := List.exists_cons_of_ne_nil (List.ne_nil_of_length_pos
      (show 0 < (lexeme ++ rest).length by rw [List.length_append]; omega))
    have hrest := ih (show rest.length ≤ fuel by omega) (position + lexeme.length)
    rw [hcs, scan_cons, ← hcs, hfront, Option.bind_some, List.drop_left, hrest]
    cases kind <;> rfl

/-- What is scanned is laid out. -/
theorem lays_of_scan (htakes : Takes front) (fuel : ℕ) (position : ℕ) {found : List (Span σ)}
    (h : scan front fuel position text = some found) : ∃ pieces, Lays front pieces text ∧ found = spans position pieces := by
  induction fuel generalizing text position found with
  | zero =>
    cases text with
    | nil => exact ⟨[], .nil, (Option.some_inj.mp h).symm⟩
    | cons => cases h
  | succ fuel ih =>
    cases text with
    | nil => exact ⟨[], .nil, (Option.some_inj.mp h).symm⟩
    | cons c cs =>
      rw [scan_cons] at h
      obtain ⟨⟨kind, n⟩, hfront, h⟩ := Option.bind_eq_some_iff.mp h
      obtain ⟨later, hlater, h⟩ := Option.bind_eq_some_iff.mp h
      obtain ⟨pieces, hlays, rfl⟩ := ih _ hlater
      have hlength : ((c :: cs).take n).length = n := List.length_take_of_le (htakes _ _ _ hfront).2
      have hwhole := Lays.cons kind ((c :: cs).take n) pieces ((c :: cs).drop n)
        (by rw [List.take_append_drop, hlength, hfront]) hlays
      rw [List.take_append_drop] at hwhole
      refine ⟨_, hwhole, ?_⟩
      cases kind with
      | none =>
        rw [spans, hlength]
        exact (Option.some_inj.mp h).symm
      | some kind =>
        rw [spans, hlength]
        exact (Option.some_inj.mp h).symm

/-- A text is scanned into spans of the given lexemes exactly if it can be laid out so. -/
theorem scan_iff (htakes : Takes front) {lexemes : List (σ × List α)} :
    (∃ found, scan front text.length 0 text = some found ∧ found.map (Span.read text) = lexemes) ↔
      ∃ pieces, Lays front pieces text ∧ kept pieces = lexemes := by
  constructor
  · rintro ⟨found, hscan, rfl⟩
    obtain ⟨pieces, hlays, rfl⟩ := lays_of_scan htakes _ _ hscan
    exact ⟨pieces, hlays, (read_spans hlays []).symm⟩
  · rintro ⟨pieces, hlays, rfl⟩
    exact ⟨_, hlays.scan htakes le_rfl 0, read_spans hlays []⟩

/-- Every lexeme that was kept was in front of some rest of the text. -/
theorem Lays.front_of_kept {pieces : List (Piece σ α)} (h : Lays front pieces text) {kind : σ} {lexeme : List α}
    (hmem : (kind, lexeme) ∈ kept pieces) : ∃ rest, front (lexeme ++ rest) = some (some kind, lexeme.length) := by
  induction h with
  | nil => cases hmem
  | cons kind' lexeme' pieces rest hfront h ih =>
    cases kind' with
    | none => exact ih hmem
    | some kind' =>
      rcases List.mem_cons.mp hmem with heq | hmem
      · cases heq
        exact ⟨rest, hfront⟩
      · exact ih hmem

end Lexer
