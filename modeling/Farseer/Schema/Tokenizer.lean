import Farseer.Lib.Lexer
import Farseer.Schema.Grammar

/-! The token patterns. Glyph's `RegexTokenizer` tries them in order at the front of what is left of the text, and a
pattern takes as much as it can. -/

namespace Farseer

def spaceCharacters : List Char := [' ', '\t', '\n', '\x0b', '\x0c', '\r']

/-- `\s` -/
def isSpaceCharacter (c : Char) : Bool := spaceCharacters.contains c

/-- `\w` -/
def isWordCharacter (c : Char) : Bool := c.isAlphanum || c == '_'

/-- The regular expressions of the tokenizer. A lexeme never ends inside a word, so that there always is a word boundary
before a word, and only those behind it are looked for. -/
inductive Pattern
  /-- `\s+` -/
  | spaces
  /-- a character, such as `\;` -/
  | character (c : Char)
  /-- a word, such as `\bmessage\b` -/
  | word (w : String)
  /-- `\b[a-zA-Z]\w*\b` -/
  | name
  /-- `(\b[a-zA-Z]\w*\b\.)+\b[a-zA-Z]\w*\b` -/
  | module

def matchName (text : List Char) : Option ℕ :=
  if text.head?.any Char.isAlpha then some (text.takeWhile isWordCharacter).length else none

def matchNames : ℕ → List Char → Option ℕ
  | 0, _ => none
  | fuel + 1, text => do
    let length ← matchName text
    if (text.drop length).head? = some '.' then
      return ((matchNames fuel (text.drop (length + 1))).map (length + 1 + ·)).getD length
    else return length

def matchModule (text : List Char) : Option ℕ := do
  let length ← matchName text
  if (text.drop length).head? = some '.' then
    (matchNames text.length (text.drop (length + 1))).map (length + 1 + ·)
  else none

namespace Pattern

/-- How many characters the pattern takes. -/
def take : Pattern → List Char → Option ℕ
  | spaces, text => if text.head?.any isSpaceCharacter then some (text.takeWhile isSpaceCharacter).length else none
  | character c, text => if text.head? = some c then some 1 else none
  | word w, text => if text.takeWhile isWordCharacter = w.toList then some w.length else none
  | name, text => matchName text
  | module, text => matchModule text

end Pattern

def punctuation : List (Symbol × Char) :=
  [(.semicolon, ';'), (.bracesBegin, '\x7b'), (.bracesEnd, '\x7d'), (.angleBracketBegin, '<'), (.angleBracketEnd, '>'),
    (.comma, ',')]

def keywords : List (Symbol × String) :=
  [(.namespace, "namespace"), (.message, "message"), (.request, "request"), (.response, "response"), (.i32, "i32"),
    (.i64, "i64"), (.u32, "u32"), (.u64, "u64"), (.string, "string"), (.bool, "bool"), (.list, "list"), (.map, "map")]

/-- The patterns in the order in which they are tried, with the symbols of their tokens; spaces are discarded. -/
def tokenPatterns : List (Option Symbol × Pattern) :=
  [(none, .spaces)] ++ punctuation.map (fun p => (some p.1, .character p.2)) ++ [(some .module, .module)] ++
    keywords.map (fun k => (some k.1, .word k.2)) ++ [(some .name, .name)]

/-- The first pattern that matches in front of the text, and how many characters it takes. -/
def frontPattern (text : List Char) : Option (Option Symbol × ℕ) :=
  tokenPatterns.findSome? fun p => (p.2.take text).map fun n => (p.1, n)

/-- The tokens of a text, if all of it is matched. -/
def tokenize (text : String) : Option (List Token) :=
  (Lexer.scan frontPattern text.toList.length 0 text.toList).map fun spans =>
    spans.map fun span => ⟨span.kind, span.first, span.last⟩

example : tokenize "namespace a.b; message Ping { list<u32> i; }" =
    some [⟨.namespace, 0, 9⟩, ⟨.module, 10, 13⟩, ⟨.semicolon, 13, 14⟩, ⟨.message, 15, 22⟩, ⟨.name, 23, 27⟩,
      ⟨.bracesBegin, 28, 29⟩, ⟨.list, 30, 34⟩, ⟨.angleBracketBegin, 34, 35⟩, ⟨.u32, 35, 38⟩,
      ⟨.angleBracketEnd, 38, 39⟩, ⟨.name, 40, 41⟩, ⟨.semicolon, 41, 42⟩, ⟨.bracesEnd, 43, 44⟩] := by
  decide +kernel

def IsName (t : List Char) : Prop := t.head?.any Char.isAlpha = true ∧ ∀ c ∈ t, isWordCharacter c = true

/-- Names with dots in between. -/
inductive IsDotted : List Char → Prop
  | name (t : List Char) (h : IsName t) : IsDotted t
  | dot (t u : List Char) (h : IsName t) (h' : IsDotted u) : IsDotted (t ++ '.' :: u)

def IsModule (t : List Char) : Prop := ∃ name rest, IsName name ∧ IsDotted rest ∧ t = name ++ '.' :: rest

/-- What follows does not go on with the word. -/
def WordEnds (rest : List Char) : Prop := ∀ c ∈ rest.head?, isWordCharacter c = false

/-- Nor with a dotted name. -/
def StartsApart (rest : List Char) : Prop := ∀ c ∈ rest.head?, isWordCharacter c = false ∧ c ≠ '.'

theorem StartsApart.wordEnds {rest : List Char} (h : StartsApart rest) : WordEnds rest := fun c hc => (h c hc).1

theorem startsApart_cons {c : Char} {rest : List Char} (h : isWordCharacter c = false) (hdot : c ≠ '.') :
    StartsApart (c :: rest) := by
  intro c' hc'
  obtain rfl : c = c' := by simpa using hc'
  exact ⟨h, hdot⟩

theorem isWordCharacter_alpha {c : Char} (h : c.isAlpha = true) : isWordCharacter c = true := by
  simp [isWordCharacter, Char.isAlphanum, h]

theorem takeWhile_word {t rest : List Char} (ht : ∀ c ∈ t, isWordCharacter c = true) (hrest : WordEnds rest) :
    (t ++ rest).takeWhile isWordCharacter = t := by
  rw [List.takeWhile_append_of_pos ht]
  cases rest with
  | nil => simp
  | cons c rest => simp [hrest c rfl]

theorem IsName.exists_cons {t : List Char} (h : IsName t) : ∃ c cs, t = c :: cs ∧ c.isAlpha = true := by
  cases t with
  | nil => cases h.1
  | cons c cs => exact ⟨c, cs, rfl, h.1⟩

theorem matchName_append {t rest : List Char} (h : IsName t) (hrest : WordEnds rest) :
    matchName (t ++ rest) = some t.length := by
  obtain ⟨c, cs, rfl, hc⟩ := h.exists_cons
  rw [matchName, takeWhile_word h.2 hrest, List.cons_append, List.head?_cons]
  exact if_pos hc

theorem matchName_some {text : List Char} {n : ℕ} (h : matchName text = some n) :
    ∃ t rest, text = t ++ rest ∧ IsName t ∧ t.length = n ∧ WordEnds rest := by
  unfold matchName at h
  split_ifs at h with hhead
  refine ⟨text.takeWhile isWordCharacter, text.dropWhile isWordCharacter, List.takeWhile_append_dropWhile.symm, ⟨?_, ?_⟩,
    Option.some_inj.mp h, fun c hc => ?_⟩
  · cases text with
    | nil => cases hhead
    | cons c cs =>
      have hc : c.isAlpha = true := hhead
      rw [List.takeWhile_cons_of_pos (isWordCharacter_alpha hc)]
      exact hc
  · exact fun c hc => (List.mem_takeWhile_imp hc)
  · have hdrop := List.head?_dropWhile_not isWordCharacter text
    rw [Option.mem_def.mp hc] at hdrop
    exact hdrop

theorem drop_dot (t rest : List Char) : ((t ++ '.' :: rest).drop t.length).head? = some '.' ∧
    (t ++ '.' :: rest).drop (t.length + 1) = rest := by
  simp [List.drop_append]

theorem wordEnds_dot (rest : List Char) : WordEnds ('.' :: rest) := fun c hc => by
  obtain rfl : '.' = c := by simpa using hc
  decide

theorem StartsApart.head {t rest : List Char} (h : StartsApart rest) : ¬ ((t ++ rest).drop t.length).head? = some '.' := by
  rw [List.drop_left]
  exact fun hdot => (h '.' hdot).2 rfl

theorem matchNames_append {t rest : List Char} (h : IsDotted t) (hrest : StartsApart rest) {fuel : ℕ}
    (hfuel : t.length ≤ fuel) : matchNames fuel (t ++ rest) = some t.length := by
  induction h generalizing fuel with
  | name t h =>
    obtain ⟨c, cs, rfl, hc⟩ := h.exists_cons
    obtain ⟨fuel, rfl⟩ := Nat.exists_eq_add_one.mpr (Nat.lt_of_lt_of_le (Nat.succ_pos _) hfuel)
    rw [matchNames, matchName_append h hrest.wordEnds]
    exact if_neg hrest.head
  | dot t u h h' ih =>
    rw [List.length_append, List.length_cons] at hfuel
    obtain ⟨fuel, rfl⟩ := Nat.exists_eq_add_one.mpr (show 0 < fuel by omega)
    obtain ⟨hdot, hdrop⟩ := drop_dot t (u ++ rest)
    rw [List.append_assoc, List.cons_append, matchNames, matchName_append h (wordEnds_dot _)]
    refine (if_pos hdot).trans ?_
    rw [hdrop, ih (by omega), List.length_append, List.length_cons, Nat.add_comm u.length, ← Nat.add_assoc]
    rfl

theorem matchNames_some {fuel : ℕ} {text : List Char} {n : ℕ} (h : matchNames fuel text = some n) :
    ∃ t rest, text = t ++ rest ∧ IsDotted t ∧ t.length = n := by
  induction fuel generalizing text n with
  | zero => cases h
  | succ fuel ih =>
    obtain ⟨length, hname, h⟩ := Option.bind_eq_some_iff.mp h
    obtain ⟨t, rest, rfl, ht, rfl, -⟩ := matchName_some hname
    split_ifs at h with hdot
    · rw [List.drop_left] at hdot
      obtain ⟨rest, rfl⟩ := List.head?_eq_some_iff.mp hdot
      rw [(drop_dot t rest).2] at h
      cases hm : matchNames fuel rest with
      | none =>
        rw [hm] at h
        exact ⟨t, _, rfl, .name t ht, Option.some_inj.mp h⟩
      | some m =>
        rw [hm] at h
        obtain ⟨u, rest, rfl, hu, rfl⟩ := ih hm
        refine ⟨t ++ '.' :: u, rest, (List.append_assoc t ('.' :: u) rest).symm, .dot t u ht hu, ?_⟩
        rw [← Option.some_inj.mp h, List.length_append, List.length_cons, Nat.add_comm u.length, ← Nat.add_assoc]
        rfl
    · exact ⟨t, _, rfl, .name t ht, Option.some_inj.mp h⟩

theorem matchModule_append {t rest : List Char} (h : IsModule t) (hrest : StartsApart rest) :
    matchModule (t ++ rest) = some t.length := by
  obtain ⟨name, u, hname, hu, rfl⟩ := h
  obtain ⟨hdot, hdrop⟩ := drop_dot name (u ++ rest)
  rw [List.append_assoc, List.cons_append, matchModule, matchName_append hname (wordEnds_dot _)]
  refine (if_pos hdot).trans ?_
  rw [hdrop, matchNames_append hu hrest (by simp; omega), List.length_append, List.length_cons, Nat.add_comm u.length,
    ← Nat.add_assoc]
  rfl

theorem matchModule_some {text : List Char} {n : ℕ} (h : matchModule text = some n) :
    ∃ t rest, text = t ++ rest ∧ IsModule t ∧ t.length = n := by
  obtain ⟨length, hname, h⟩ := Option.bind_eq_some_iff.mp h
  obtain ⟨t, rest, rfl, ht, rfl, -⟩ := matchName_some hname
  split_ifs at h with hdot
  rw [List.drop_left] at hdot
  obtain ⟨rest, rfl⟩ := List.head?_eq_some_iff.mp hdot
  rw [(drop_dot t rest).2] at h
  obtain ⟨m, hm, rfl⟩ := Option.map_eq_some_iff.mp h
  obtain ⟨u, rest, rfl, hu, rfl⟩ := matchNames_some hm
  refine ⟨t ++ '.' :: u, rest, (List.append_assoc t ('.' :: u) rest).symm, ⟨t, u, ht, hu, rfl⟩, ?_⟩
  rw [List.length_append, List.length_cons, Nat.add_comm u.length, ← Nat.add_assoc]

/-- A name in front of anything but a dot is no module. -/
theorem matchModule_name {t rest : List Char} (h : IsName t) (hrest : StartsApart rest) :
    matchModule (t ++ rest) = none := by
  rw [matchModule, matchName_append h hrest.wordEnds]
  exact if_neg hrest.head

def IsIdentifier (t : List Char) : Prop := IsName t ∧ ∀ k ∈ keywords, k.2.toList ≠ t

theorem frontPattern_eq (text : List Char) : frontPattern text =
    (((((Pattern.spaces.take text).map fun n => (none, n)).or
      (punctuation.findSome? fun p => ((Pattern.character p.2).take text).map fun n => (some p.1, n))).or
        ((matchModule text).map fun n => (some Symbol.module, n))).or
          (keywords.findSome? fun k => ((Pattern.word k.2).take text).map fun n => (some k.1, n))).or
            ((matchName text).map fun n => (some Symbol.name, n)) := by
  simp only [frontPattern, tokenPatterns, List.findSome?_append, List.findSome?_map, List.findSome?_singleton]
  rfl

theorem not_special_of_alpha {c : Char} (hc : c.isAlpha = true) :
    isSpaceCharacter c = false ∧ ∀ p ∈ punctuation, c ≠ p.2 := by
  constructor
  · cases hspace : isSpaceCharacter c with
    | false => rfl
    | true =>
      have hall : ∀ d ∈ spaceCharacters, d.isAlpha = false := by simp [spaceCharacters]
      rw [hall c (List.contains_iff_mem.mp hspace)] at hc
      cases hc
  · rintro p hp rfl
    have hall : ∀ p ∈ punctuation, p.2.isAlpha = false := by simp [punctuation]
    rw [hall p hp] at hc
    cases hc

theorem frontPattern_letter {c : Char} (hc : c.isAlpha = true) (cs : List Char) : frontPattern (c :: cs) =
    (((matchModule (c :: cs)).map fun n => (some Symbol.module, n)).or
      (keywords.findSome? fun k => ((Pattern.word k.2).take (c :: cs)).map fun n => (some k.1, n))).or
        ((matchName (c :: cs)).map fun n => (some Symbol.name, n)) := by
  obtain ⟨hspace, hpunctuation⟩ := not_special_of_alpha hc
  have hspaces : Pattern.spaces.take (c :: cs) = none := if_neg (by simp [hspace])
  have hcharacters : (punctuation.findSome? fun p =>
      ((Pattern.character p.2).take (c :: cs)).map fun n => (some p.1, n)) = none := by
    refine List.findSome?_eq_none_iff.mpr fun p hp => ?_
    rw [Pattern.take, if_neg (by simpa using hpunctuation p hp)]
    rfl
  rw [frontPattern_eq, hspaces, hcharacters]
  rfl

theorem take_word {t rest : List Char} (ht : IsName t) (hrest : WordEnds rest) (w : String) :
    (Pattern.word w).take (t ++ rest) = if t = w.toList then some t.length else none := by
  rw [Pattern.take, takeWhile_word ht.2 hrest]
  split_ifs with h
  · rw [h, String.length_toList]
  · rfl

/-- The lexeme in front of a text that starts with a name. -/
theorem frontPattern_name {t rest : List Char} (ht : IsName t) (hrest : StartsApart rest) : frontPattern (t ++ rest) =
    (keywords.findSome? fun k => if t = k.2.toList then some (some k.1, t.length) else none).or
      (some (some Symbol.name, t.length)) := by
  have hwords : (keywords.findSome? fun k => ((Pattern.word k.2).take (t ++ rest)).map fun n => (some k.1, n)) =
      keywords.findSome? fun k => if t = k.2.toList then some (some k.1, t.length) else none := by
    congr 1
    funext k
    rw [take_word ht hrest.wordEnds]
    split_ifs <;> rfl
  obtain ⟨c, cs, rfl, hc⟩ := ht.exists_cons
  have hletter := frontPattern_letter hc (cs ++ rest)
  rw [← List.cons_append, matchModule_name ht hrest, matchName_append ht hrest.wordEnds, hwords] at hletter
  exact hletter

theorem frontPattern_identifier {t rest : List Char} (ht : IsIdentifier t) (hrest : StartsApart rest) :
    frontPattern (t ++ rest) = some (some .name, t.length) := by
  have hnone : (keywords.findSome? fun k => if t = k.2.toList then some (some k.1, t.length) else none) = none :=
    List.findSome?_eq_none_iff.mpr fun k hk => if_neg fun heq => ht.2 k hk heq.symm
  rw [frontPattern_name ht.1 hrest, hnone]
  rfl

theorem frontPattern_module {t rest : List Char} (ht : IsModule t) (hrest : StartsApart rest) :
    frontPattern (t ++ rest) = some (some .module, t.length) := by
  have hmodule := matchModule_append ht hrest
  obtain ⟨name, u, hname, -, rfl⟩ := ht
  obtain ⟨c, cs, rfl, hc⟩ := hname.exists_cons
  have hletter := frontPattern_letter hc (cs ++ '.' :: u ++ rest)
  rw [show c :: (cs ++ '.' :: u ++ rest) = (c :: cs) ++ '.' :: u ++ rest from rfl, hmodule] at hletter
  exact hletter

theorem frontPattern_space {c : Char} (hc : isSpaceCharacter c = true) (cs : List Char) :
    frontPattern (c :: cs) = some (none, (cs.takeWhile isSpaceCharacter).length + 1) := by
  have hspaces : Pattern.spaces.take (c :: cs) = some ((cs.takeWhile isSpaceCharacter).length + 1) := by
    rw [Pattern.take, List.takeWhile_cons_of_pos hc]
    exact if_pos hc
  rw [frontPattern_eq, hspaces]
  rfl

/-- A lexeme comes from one of the patterns, and the names only if no keyword matches. -/
theorem frontPattern_some {text : List Char} {symbol : Option Symbol} {n : ℕ} (h : frontPattern text = some (symbol, n)) :
    (symbol = none ∧ Pattern.spaces.take text = some n) ∨
      (∃ p ∈ punctuation, symbol = some p.1 ∧ (Pattern.character p.2).take text = some n) ∨
      (symbol = some .module ∧ matchModule text = some n) ∨
      (∃ k ∈ keywords, symbol = some k.1 ∧ (Pattern.word k.2).take text = some n) ∨
      (symbol = some .name ∧ matchName text = some n ∧ ∀ k ∈ keywords, (Pattern.word k.2).take text = none) := by
  rw [frontPattern_eq] at h
  rcases Option.or_eq_some_iff.mp h with h | ⟨hbefore, h⟩
  · rcases Option.or_eq_some_iff.mp h with h | ⟨-, h⟩
    · rcases Option.or_eq_some_iff.mp h with h | ⟨-, h⟩
      · rcases Option.or_eq_some_iff.mp h with h | ⟨-, h⟩
        · obtain ⟨m, hm, heq⟩ := Option.map_eq_some_iff.mp h
          cases heq
          exact .inl ⟨rfl, hm⟩
        · obtain ⟨p, hp, h⟩ := List.exists_of_findSome?_eq_some h
          obtain ⟨m, hm, heq⟩ := Option.map_eq_some_iff.mp h
          cases heq
          exact .inr (.inl ⟨p, hp, rfl, hm⟩)
      · obtain ⟨m, hm, heq⟩ := Option.map_eq_some_iff.mp h
        cases heq
        exact .inr (.inr (.inl ⟨rfl, hm⟩))
    · obtain ⟨k, hk, h⟩ := List.exists_of_findSome?_eq_some h
      obtain ⟨m, hm, heq⟩ := Option.map_eq_some_iff.mp h
      cases heq
      exact .inr (.inr (.inr (.inl ⟨k, hk, rfl, hm⟩)))
  · obtain ⟨m, hm, heq⟩ := Option.map_eq_some_iff.mp h
    cases heq
    refine .inr (.inr (.inr (.inr ⟨rfl, hm, fun k hk => ?_⟩)))
    have hkeywords := List.findSome?_eq_none_iff.mp (Option.or_eq_none_iff.mp hbefore).2 k hk
    exact Option.map_eq_none_iff.mp hkeywords

theorem frontPattern_takes : Lexer.Takes frontPattern := by
  intro text symbol n hfront
  rcases frontPattern_some hfront with ⟨-, h⟩ | ⟨p, -, -, h⟩ | ⟨-, h⟩ | ⟨k, hk, -, h⟩ | ⟨-, h, -⟩
  · rw [Pattern.take] at h
    split_ifs at h with hhead
    cases text with
    | nil => cases hhead
    | cons c cs =>
      have hc : isSpaceCharacter c = true := hhead
      rw [List.takeWhile_cons_of_pos hc, Option.some_inj, List.length_cons] at h
      have hle := (List.takeWhile_prefix isSpaceCharacter (l := cs)).length_le
      rw [List.length_cons]
      omega
  · rw [Pattern.take] at h
    split_ifs at h with hhead
    obtain ⟨rest, rfl⟩ := List.head?_eq_some_iff.mp hhead
    cases h
    simp
  · obtain ⟨t, rest, rfl, ⟨name, u, -, -, rfl⟩, rfl⟩ := matchModule_some h
    simp
  · rw [Pattern.take] at h
    split_ifs at h with hword
    have hle := (List.takeWhile_prefix isWordCharacter (l := text)).length_le
    have hall : ∀ k ∈ keywords, 0 < k.2.length := by decide
    rw [hword, String.length_toList] at hle
    cases h
    exact ⟨hall k hk, hle⟩
  · obtain ⟨t, rest, rfl, ht, rfl, -⟩ := matchName_some h
    obtain ⟨c, cs, rfl, -⟩ := ht.exists_cons
    simp

/-- A token with its text; the text of a keyword or of punctuation is always the same. -/
inductive Lexeme
  | keyword (symbol : Symbol)
  | name (text : String)
  | module (text : String)
deriving DecidableEq

def Symbol.spelling : Symbol → String
  | .semicolon => ";"
  | .bracesBegin => "\x7b"
  | .bracesEnd => "\x7d"
  | .angleBracketBegin => "<"
  | .angleBracketEnd => ">"
  | .comma => ","
  | .namespace => "namespace"
  | .message => "message"
  | .request => "request"
  | .response => "response"
  | .i32 => "i32"
  | .i64 => "i64"
  | .u32 => "u32"
  | .u64 => "u64"
  | .string => "string"
  | .bool => "bool"
  | .list => "list"
  | .map => "map"
  | .module | .name => ""

def Symbol.isPunctuation (symbol : Symbol) : Bool := punctuation.any fun p => p.1 == symbol

namespace Lexeme

def of : Symbol → String → Lexeme
  | .name, text => name text
  | .module, text => module text
  | symbol, _ => keyword symbol

def symbol : Lexeme → Symbol
  | keyword symbol => symbol
  | name _ => .name
  | module _ => .module

def text : Lexeme → String
  | keyword symbol => symbol.spelling
  | name text | module text => text

/-- The tokenizer finds the lexeme in its text. -/
def Valid : Lexeme → Prop
  | keyword symbol => symbol ≠ .name ∧ symbol ≠ .module
  | name text => IsIdentifier text.toList
  | module text => IsModule text.toList

theorem Valid.of_eq {l : Lexeme} (h : l.Valid) : of l.symbol l.text = l := by
  cases l with
  | keyword symbol =>
    cases symbol with
    | name => exact absurd rfl h.1
    | module => exact absurd rfl h.2
    | _ => rfl
  | name | module => rfl

end Lexeme

theorem isName_keyword {t : String} (h : t.toList.head?.any Char.isAlpha = true ∧ t.toList.all isWordCharacter = true) :
    IsName t.toList := ⟨h.1, List.all_eq_true.mp h.2⟩

/-- A valid lexeme is found in front of anything that does not go on with it. -/
theorem Lexeme.Valid.front {l : Lexeme} (h : l.Valid) {rest : List Char}
    (hrest : l.symbol.isPunctuation = true ∨ StartsApart rest) :
    frontPattern (l.text.toList ++ rest) = some (some l.symbol, l.text.toList.length) := by
  cases l with
  | name text =>
    rcases hrest with hpunctuation | hrest
    · cases hpunctuation
    · exact frontPattern_identifier h hrest
  | module text =>
    rcases hrest with hpunctuation | hrest
    · cases hpunctuation
    · exact frontPattern_module h hrest
  | keyword symbol =>
    cases symbol with
    | name => exact absurd rfl h.1
    | module => exact absurd rfl h.2
    | semicolon | bracesBegin | bracesEnd | angleBracketBegin | angleBracketEnd | comma => rfl
    | _ =>
      rcases hrest with hpunctuation | hrest
      · cases hpunctuation
      · refine (frontPattern_name (isName_keyword ?_) hrest).trans rfl
        exact ⟨rfl, rfl⟩

/-- The names that are found are valid. -/
theorem valid_of_front {text rest : List Char} {symbol : Symbol}
    (h : frontPattern (text ++ rest) = some (some symbol, text.length)) : (Lexeme.of symbol (.ofList text)).Valid := by
  have hpunctuation : ∀ p ∈ punctuation, p.1 ≠ .name ∧ p.1 ≠ .module := by decide
  have hkeywords : ∀ k ∈ keywords, k.1 ≠ .name ∧ k.1 ≠ .module := by decide
  have hvalid : symbol ≠ .name ∧ symbol ≠ .module → (Lexeme.of symbol (.ofList text)).Valid := by
    rintro ⟨hname, hmodule⟩
    cases symbol with
    | name => exact absurd rfl hname
    | module => exact absurd rfl hmodule
    | _ => exact ⟨by decide, by decide⟩
  rcases frontPattern_some h with ⟨hnone, -⟩ | ⟨p, hp, heq, -⟩ | ⟨heq, hmodule⟩ | ⟨k, hk, heq, -⟩ | ⟨heq, hname, hnot⟩
  · cases hnone
  · cases heq
    exact hvalid (hpunctuation p hp)
  · cases heq
    obtain ⟨t, rest', hsplit, ht, hlength⟩ := matchModule_some hmodule
    obtain ⟨rfl, -⟩ := List.append_inj hsplit hlength.symm
    rw [Lexeme.of, Lexeme.Valid, String.toList_ofList]
    exact ht
  · cases heq
    exact hvalid (hkeywords k hk)
  · cases heq
    obtain ⟨t, rest', hsplit, ht, hlength, hends⟩ := matchName_some hname
    obtain ⟨rfl, rfl⟩ := List.append_inj hsplit hlength.symm
    rw [Lexeme.of, Lexeme.Valid, String.toList_ofList]
    refine ⟨ht, fun k hk heq => ?_⟩
    have hword := hnot k hk
    rw [take_word ht hends, if_pos heq.symm] at hword
    cases hword

/-- The text consists of the lexemes, with spaces in between. -/
def LexesTo (text : List Char) (lexemes : List Lexeme) : Prop :=
  ∃ pieces, Lexer.Lays frontPattern pieces text ∧
    Lexer.kept pieces = lexemes.map fun l => (l.symbol, l.text.toList)

theorem LexesTo.nil : LexesTo [] [] := ⟨[], .nil, rfl⟩

theorem LexesTo.lexeme {l : Lexeme} (hl : l.Valid) {rest : List Char} {lexemes : List Lexeme} (h : LexesTo rest lexemes)
    (hrest : l.symbol.isPunctuation = true ∨ StartsApart rest) : LexesTo (l.text.toList ++ rest) (l :: lexemes) := by
  obtain ⟨pieces, hlays, hkept⟩ := h
  exact ⟨_, .cons (some l.symbol) l.text.toList pieces rest (hl.front hrest) hlays, by rw [Lexer.kept, hkept, List.map_cons]⟩

/-- A space more is discarded with those behind it. -/
theorem LexesTo.space {c : Char} (hc : isSpaceCharacter c = true) {rest : List Char} {lexemes : List Lexeme}
    (h : LexesTo rest lexemes) : LexesTo (c :: rest) lexemes := by
  obtain ⟨pieces, hlays, hkept⟩ := h
  have hfront := frontPattern_space hc rest
  have hsingle (hword : rest.takeWhile isSpaceCharacter = []) : LexesTo (c :: rest) lexemes := by
    rw [hword] at hfront
    exact ⟨_, .cons none [c] pieces rest hfront hlays, hkept⟩
  cases hlays with
  | nil => exact hsingle rfl
  | cons kind lexeme pieces rest' hfirst hlays =>
    by_cases hword : (lexeme ++ rest').takeWhile isSpaceCharacter = []
    · exact hsingle hword
    · obtain ⟨d, ds, hcons, hd⟩ : ∃ d ds, lexeme ++ rest' = d :: ds ∧ isSpaceCharacter d = true := by
        cases hrest : lexeme ++ rest' with
        | nil => exact absurd (by rw [hrest]; rfl) hword
        | cons d ds => exact ⟨d, ds, rfl, by_contra fun hd => hword (by rw [hrest, List.takeWhile_cons_of_neg hd])⟩
      have hspace := frontPattern_space hd ds
      rw [← hcons, hfirst] at hspace
      obtain ⟨rfl, hlength⟩ : kind = none ∧ lexeme.length = (ds.takeWhile isSpaceCharacter).length + 1 := by
        simpa using hspace
      refine ⟨(none, c :: lexeme) :: pieces, .cons none (c :: lexeme) pieces rest' ?_ hlays, hkept⟩
      rw [List.cons_append, hfront, hcons, List.takeWhile_cons_of_pos hd, List.length_cons, List.length_cons, hlength]

theorem LexesTo.spaces {s : List Char} (hs : ∀ c ∈ s, isSpaceCharacter c = true) {rest : List Char}
    {lexemes : List Lexeme} (h : LexesTo rest lexemes) : LexesTo (s ++ rest) lexemes := by
  induction s with
  | nil => exact h
  | cons c s ih =>
    exact .space (hs c List.mem_cons_self) (ih fun d hd => hs d (List.mem_cons_of_mem _ hd))

def Token.lexeme (text : String) (token : Token) : Lexeme := .of token.symbol (getTokenText text token)

/-- A text of lexemes is tokenized into them. -/
theorem LexesTo.tokenize {text : String} {lexemes : List Lexeme} (h : LexesTo text.toList lexemes)
    (hvalid : ∀ l ∈ lexemes, l.Valid) :
    ∃ tokens, tokenize text = some tokens ∧ tokens.map (Token.lexeme text) = lexemes := by
  obtain ⟨spans, hscan, hread⟩ := (Lexer.scan_iff frontPattern_takes).mpr h
  refine ⟨_, Option.map_eq_some_iff.mpr ⟨spans, hscan, rfl⟩, ?_⟩
  have hof : (spans.map (Lexer.Span.read text.toList)).map (fun p => Lexeme.of p.1 (.ofList p.2)) = lexemes := by
    rw [hread, List.map_map]
    refine (List.map_congr_left fun l hl => ?_).trans (List.map_id lexemes)
    rw [Function.comp_apply, String.ofList_toList]
    exact (hvalid l hl).of_eq
  rw [← hof, List.map_map, List.map_map]
  rfl

theorem valid_of_tokenize {text : String} {tokens : List Token} (h : Farseer.tokenize text = some tokens) :
    ∀ token ∈ tokens, (token.lexeme text).Valid := by
  obtain ⟨spans, hscan, rfl⟩ := Option.map_eq_some_iff.mp h
  obtain ⟨pieces, hlays, rfl⟩ := Lexer.lays_of_scan frontPattern_takes _ _ hscan
  intro token htoken
  obtain ⟨span, hspan, rfl⟩ := List.mem_map.mp htoken
  have hkept : span.read text.toList ∈ Lexer.kept pieces := by
    rw [← Lexer.read_spans hlays []]
    exact List.mem_map_of_mem hspan
  obtain ⟨rest, hfront⟩ := hlays.front_of_kept hkept
  exact valid_of_front hfront

end Farseer
