import Mathlib

/-! Derivations in a context-free grammar, as a bottom-up parser reports them: a list of nodes, one for
each token that is shifted and one for each rule that is reduced, where the nodes of a subtree come in
the order of the text and its rule comes after them. -/

namespace BottomUp

variable {τ ν α β : Type} (rules : List (ContextFreeRule τ ν)) (terminal : α → τ) (shift : α → β) (reduce : ℕ → β)

mutual

/-- The nodes are those of a derivation from the symbol. -/
inductive Parses : Symbol τ ν → List β → Prop
  | shift (token : α) : Parses (.terminal (terminal token)) [shift token]
  | reduce (i : ℕ) (rule : ContextFreeRule τ ν) (nodes : List β) (hrule : rules[i]? = some rule)
      (h : ParsesAll rule.output nodes) : Parses (.nonterminal rule.input) (nodes ++ [reduce i])

/-- The nodes are those of derivations from the symbols, one after the other. -/
inductive ParsesAll : List (Symbol τ ν) → List β → Prop
  | nil : ParsesAll [] []
  | cons (symbol : Symbol τ ν) (symbols : List (Symbol τ ν)) (nodes nodes' : List β) (h : Parses symbol nodes)
      (h' : ParsesAll symbols nodes') : ParsesAll (symbol :: symbols) (nodes ++ nodes')

end

variable {rules terminal shift reduce} {nodes : List β}

theorem parses_terminal {t : τ} :
    Parses rules terminal shift reduce (.terminal t) nodes ↔ ∃ token, terminal token = t ∧ nodes = [shift token] := by
  constructor
  · rintro ⟨token⟩
    exact ⟨token, rfl, rfl⟩
  · rintro ⟨token, rfl, rfl⟩
    exact .shift token

/-- The last node of a derivation from a nonterminal is the rule that was applied first. -/
theorem parses_nonterminal {n : ν} :
    Parses rules terminal shift reduce (.nonterminal n) nodes ↔
      ∃ i rule nodes', rules[i]? = some rule ∧ rule.input = n ∧
        ParsesAll rules terminal shift reduce rule.output nodes' ∧ nodes = nodes' ++ [reduce i] := by
  constructor
  · intro h
    cases h with
    | reduce i rule nodes' hrule h => exact ⟨i, rule, nodes', hrule, rfl, h, rfl⟩
  · rintro ⟨i, rule, nodes', hrule, rfl, h, rfl⟩
    exact .reduce i rule nodes' hrule h

theorem parsesAll_nil : ParsesAll rules terminal shift reduce [] nodes ↔ nodes = [] := by
  constructor
  · rintro ⟨⟩
    rfl
  · rintro rfl
    exact .nil

theorem parsesAll_cons {symbol : Symbol τ ν} {symbols : List (Symbol τ ν)} :
    ParsesAll rules terminal shift reduce (symbol :: symbols) nodes ↔
      ∃ first rest, nodes = first ++ rest ∧ Parses rules terminal shift reduce symbol first ∧
        ParsesAll rules terminal shift reduce symbols rest := by
  constructor
  · intro h
    cases h with
    | cons _ _ first rest hfirst hrest => exact ⟨first, rest, rfl, hfirst, hrest⟩
  · rintro ⟨first, rest, rfl, hfirst, hrest⟩
    exact .cons symbol symbols first rest hfirst hrest

theorem parsesAll_terminal {t : τ} {symbols : List (Symbol τ ν)} :
    ParsesAll rules terminal shift reduce (.terminal t :: symbols) nodes ↔
      ∃ token rest, terminal token = t ∧ nodes = shift token :: rest ∧
        ParsesAll rules terminal shift reduce symbols rest := by
  simp only [parsesAll_cons, parses_terminal]
  constructor
  · rintro ⟨_, rest, rfl, ⟨token, rfl, rfl⟩, hrest⟩
    exact ⟨token, rest, rfl, rfl, hrest⟩
  · rintro ⟨token, rest, rfl, rfl, hrest⟩
    exact ⟨[shift token], rest, rfl, ⟨token, rfl, rfl⟩, hrest⟩

/-- A token is shifted before the rest. -/
theorem ParsesAll.token {t : τ} {symbols : List (Symbol τ ν)} {token : α} (h : terminal token = t)
    (h' : ParsesAll rules terminal shift reduce symbols nodes) :
    ParsesAll rules terminal shift reduce (.terminal t :: symbols) (shift token :: nodes) :=
  parsesAll_terminal.mpr ⟨token, nodes, h, rfl, h'⟩

end BottomUp
