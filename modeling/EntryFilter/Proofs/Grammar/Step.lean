import EntryFilter.Language.Parser
import EntryFilter.Proofs.Grammar.Derivation

/-! # Steps of the parser

What one token does to the state of the parser, as a relation. Each rule names the tokens that it
takes by the grammar and the limit that it keeps; a token to which no rule applies is an error. -/

namespace EntryFilter.ParserState

open Grammar

/-- The rules by which the parser goes from one state to the next. -/
inductive Advances (limits : Limits) : ParserState → PlacedToken → ParserState → Prop where
  | opening {groups chain n span} : groups.length < limits.depth →
      Advances limits ⟨groups, chain, n, .condition⟩ ⟨.opening, span⟩
        ⟨⟨span.start, chain⟩ :: groups, .empty, n, .condition⟩
  | field {groups chain n name span} : n < limits.conditions →
      Advances limits ⟨groups, chain, n, .condition⟩ ⟨.field name, span⟩
        ⟨groups, chain, n + 1, .operator name span⟩
  | operator {groups chain n name place sign operator span} : TakesOperand sign operator →
      Advances limits ⟨groups, chain, n, .operator name place⟩ ⟨sign, span⟩
        ⟨groups, chain, n, .value name operator⟩
  | is {groups chain n name place span} :
      Advances limits ⟨groups, chain, n, .operator name place⟩ ⟨.keyword .is, span⟩
        ⟨groups, chain, n, .check name⟩
  | value {groups chain n name operator word literal span} : Denotes word literal →
      Advances limits ⟨groups, chain, n, .value name operator⟩ ⟨word, span⟩
        ⟨groups, chain, n, .connective (.condition name operator (some literal))⟩
  | null {groups chain n name span} :
      Advances limits ⟨groups, chain, n, .check name⟩ ⟨.keyword .null, span⟩
        ⟨groups, chain, n, .connective (.condition name .isNull none)⟩
  | empty {groups chain n name span} :
      Advances limits ⟨groups, chain, n, .check name⟩ ⟨.keyword .empty, span⟩
        ⟨groups, chain, n, .connective (.condition name .isEmpty none)⟩
  | not {groups chain n name span} :
      Advances limits ⟨groups, chain, n, .check name⟩ ⟨.keyword .not, span⟩
        ⟨groups, chain, n, .negatedCheck name⟩
  | notNull {groups chain n name span} :
      Advances limits ⟨groups, chain, n, .negatedCheck name⟩ ⟨.keyword .null, span⟩
        ⟨groups, chain, n, .connective (.condition name .isNotNull none)⟩
  | notEmpty {groups chain n name span} :
      Advances limits ⟨groups, chain, n, .negatedCheck name⟩ ⟨.keyword .empty, span⟩
        ⟨groups, chain, n, .connective (.condition name .isNotEmpty none)⟩
  | and {groups chain n last span} :
      Advances limits ⟨groups, chain, n, .connective last⟩ ⟨.and, span⟩
        ⟨groups, chain.continueAnd last, n, .condition⟩
  | or {groups chain n last span} :
      Advances limits ⟨groups, chain, n, .connective last⟩ ⟨.or, span⟩
        ⟨groups, chain.continueOr last, n, .condition⟩
  | closing {group groups chain n last span} :
      Advances limits ⟨group :: groups, chain, n, .connective last⟩ ⟨.closing, span⟩
        ⟨groups, group.outer, n, .connective (chain.close last)⟩

variable {limits : Limits}

theorem mapError_eq_ok {α ε ε' : Type} {result : Except ε α} {f : ε → ε'} {a : α} :
    result.mapError f = .ok a ↔ result = .ok a := by
  cases result with
  | error e => exact ⟨nofun, nofun⟩
  | ok b => exact ⟨fun h => congrArg _ (Except.ok.inj h), fun h => congrArg _ (Except.ok.inj h)⟩

theorem Advances.execution {state next : ParserState} {token : PlacedToken}
    (h : Advances limits state token next) : state.step limits token = .ok next := by
  cases h with
  | @opening groups chain n span hd =>
      have hd : ¬ limits.depth < groups.length + 1 := by omega
      exact mapError_eq_ok.2 (by simp only [beginCondition, if_neg hd])
  | @field groups chain n name span hn =>
      have hn : ¬ limits.conditions < n + 1 := by omega
      exact mapError_eq_ok.2 (by simp only [beginCondition, if_neg hn])
  | operator hs => cases hs <;> rfl
  | value hw => cases hw <;> rfl
  | is => rfl
  | null => rfl
  | empty => rfl
  | not => rfl
  | notNull => rfl
  | notEmpty => rfl
  | and => rfl
  | or => rfl
  | closing => rfl

theorem beginCondition_advances {groups : List OpenGroup} {chain : Chain} {n : Nat}
    {next : ParserState} {word : Token} {span : Span}
    (h : beginCondition limits ⟨groups, chain, n, .condition⟩ span word = .ok next) :
    Advances limits ⟨groups, chain, n, .condition⟩ ⟨word, span⟩ next := by
  cases word with
  | opening =>
      simp only [beginCondition] at h
      split at h
      · cases h
      · cases h
        exact .opening (by omega)
  | field name =>
      simp only [beginCondition] at h
      split at h
      · cases h
      · cases h
        exact .field (by omega)
  | _ => cases h

theorem connect_advances {groups : List OpenGroup} {chain : Chain} {n : Nat} {last : Filter}
    {next : ParserState} {word : Token} {span : Span}
    (h : connect ⟨groups, chain, n, .connective last⟩ last word = .ok next) :
    Advances limits ⟨groups, chain, n, .connective last⟩ ⟨word, span⟩ next := by
  cases word with
  | and => cases h; exact .and
  | or => cases h; exact .or
  | closing =>
      cases groups with
      | nil => cases h
      | cons group groups => cases h; exact .closing
  | _ => cases groups <;> cases h

theorem step_advances {state next : ParserState} {token : PlacedToken}
    (h : state.step limits token = .ok next) : Advances limits state token next := by
  obtain ⟨groups, chain, n, expected⟩ := state
  obtain ⟨word, span⟩ := token
  cases expected with
  | condition =>
      simp only [step] at h
      exact beginCondition_advances (mapError_eq_ok.1 h)
  | operator name place =>
      cases word with
      | compare o => cases h; exact .operator (.sign o)
      | keyword k =>
          cases k with
          | contains => cases h; exact .operator .contains
          | startsWith => cases h; exact .operator .startsWith
          | endsWith => cases h; exact .operator .endsWith
          | is => cases h; exact .is
          | _ => cases h
      | _ => cases h
  | value name operator =>
      cases word with
      | text s => cases h; exact .value (.text s)
      | number x => cases h; exact .value (.number x)
      | bool b => cases h; exact .value (.bool b)
      | _ => cases h
  | check name =>
      cases word with
      | keyword k =>
          cases k with
          | null => cases h; exact .null
          | empty => cases h; exact .empty
          | not => cases h; exact .not
          | _ => cases h
      | _ => cases h
  | negatedCheck name =>
      cases word with
      | keyword k =>
          cases k with
          | null => cases h; exact .notNull
          | empty => cases h; exact .notEmpty
          | _ => cases h
      | _ => cases h
  | connective last =>
      simp only [step] at h
      exact connect_advances (mapError_eq_ok.1 h)

/-- The rules describe every step that does not fail. -/
theorem advances_iff {state next : ParserState} {token : PlacedToken} :
    Advances limits state token next ↔ state.step limits token = .ok next :=
  ⟨Advances.execution, step_advances⟩

/-! ## What a step does to the counts -/

theorem Advances.conditions_eq {state next : ParserState} {token : PlacedToken}
    (h : Advances limits state token next) :
    next.conditions = state.conditions + fieldCount [token.token] := by
  cases h with
  | operator hs => simp [hs.isField_eq]
  | value hw => simp [hw.isField_eq]
  | field => simp
  | _ => rfl

theorem Advances.groups_length {state next : ParserState} {token : PlacedToken}
    (h : Advances limits state token next) :
    next.groups.length = openAfter state.groups.length token.token := by
  cases h with
  | operator hs => exact (hs.openAfter_eq _).symm
  | value hw => exact (hw.openAfter_eq _).symm
  | _ => simp [openAfter]

theorem Advances.conditions_le {state next : ParserState} {token : PlacedToken}
    (h : Advances limits state token next) (hl : state.conditions ≤ limits.conditions) :
    next.conditions ≤ limits.conditions := by
  cases h with
  | field hn => exact hn
  | _ => exact hl

theorem Advances.groups_le {state next : ParserState} {token : PlacedToken}
    (h : Advances limits state token next) (hl : state.groups.length ≤ limits.depth) :
    next.groups.length ≤ limits.depth := by
  cases h with
  | opening hd => exact hd
  | closing => exact Nat.le_of_succ_le hl
  | _ => exact hl

end EntryFilter.ParserState
