import EntryFilter.Filter.Basic
import EntryFilter.Language.Settings
import EntryFilter.Language.Token

/-! # The grammar of filters

Rows of tokens and the filters that they spell. The rules never mention the parser: a conjunction
is a row of primaries and a disjunction a row of conjunctions, and both lean to the left. -/

namespace EntryFilter.Grammar

/-- What a row of tokens may spell, from the tightest to the loosest. -/
inductive Rank where
  | primary
  | conjunction
  | disjunction

/-- The operators that stand between a field and a literal. -/
inductive TakesOperand : Token → Operator → Prop where
  | sign (o) : TakesOperand (.compare o) o
  | contains : TakesOperand (.keyword .contains) .contains
  | startsWith : TakesOperand (.keyword .startsWith) .startsWith
  | endsWith : TakesOperand (.keyword .endsWith) .endsWith

/-- The tokens that stand for a literal. -/
inductive Denotes : Token → Literal → Prop where
  | text (s) : Denotes (.text s) (.text s)
  | number (x) : Denotes (.number x) (.number x)
  | bool (b) : Denotes (.bool b) (.bool b)

/-- The checks that follow a field without any literal. -/
inductive Checks : List Token → Operator → Prop where
  | isNull : Checks [.keyword .is, .keyword .null] .isNull
  | isEmpty : Checks [.keyword .is, .keyword .empty] .isEmpty
  | isNotNull : Checks [.keyword .is, .keyword .not, .keyword .null] .isNotNull
  | isNotEmpty : Checks [.keyword .is, .keyword .not, .keyword .empty] .isNotEmpty

/-- The row of tokens spells the filter, read as something of the given rank. -/
inductive Derives : Rank → List Token → Filter → Prop where
  | comparison (name) {sign word operator literal} : TakesOperand sign operator →
      Denotes word literal →
      Derives .primary [.field name, sign, word] (.condition name operator (some literal))
  | check (name) {tail operator} : Checks tail operator →
      Derives .primary (.field name :: tail) (.condition name operator none)
  | group {ts f} : Derives .disjunction ts f → Derives .primary (.opening :: ts ++ [.closing]) f
  | ofPrimary {ts f} : Derives .primary ts f → Derives .conjunction ts f
  | and {ts us f g} : Derives .conjunction ts f → Derives .primary us g →
      Derives .conjunction (ts ++ .and :: us) (.and f g)
  | ofConjunction {ts f} : Derives .conjunction ts f → Derives .disjunction ts f
  | or {ts us f g} : Derives .disjunction ts f → Derives .conjunction us g →
      Derives .disjunction (ts ++ .or :: us) (.or f g)

/-! ## What the limits count -/

def isField : Token → Bool
  | .field _ => true
  | _ => false

/-- The name of the field that a token stands for. -/
def fieldName? : Token → Option String
  | .field name => some name
  | _ => none

/-- The names of the fields in a row of tokens, with repetitions. -/
def fieldNames (ts : List Token) : List String := ts.filterMap fieldName?

/-- The number of conditions that a row of tokens begins. -/
def fieldCount (ts : List Token) : Nat := ts.countP isField

/-- The number of groups that are open behind a token, if there are `n` before it. -/
def openAfter (n : Nat) : Token → Nat
  | .opening => n + 1
  | .closing => n - 1
  | _ => n

/-- The number of groups that a row of tokens opens and leaves open. -/
def unclosed (ts : List Token) : Nat := ts.foldl openAfter 0

/-- Behind `n` open groups, no beginning of the row leaves more than `limit` groups open. -/
def NestsWithin (limit n : Nat) (ts : List Token) : Prop :=
  ∀ front, front <+: ts → front.foldl openAfter n ≤ limit

@[simp] theorem fieldCount_nil : fieldCount [] = 0 := rfl

@[simp] theorem fieldCount_append (ts us : List Token) :
    fieldCount (ts ++ us) = fieldCount ts + fieldCount us := List.countP_append

@[simp] theorem fieldCount_cons (t : Token) (ts : List Token) :
    fieldCount (t :: ts) = (if isField t then 1 else 0) + fieldCount ts := by
  rw [fieldCount, List.countP_cons, Nat.add_comm]
  rfl

@[simp] theorem isField_field (name : String) : isField (.field name) = true := rfl

@[simp] theorem isField_opening : isField .opening = false := rfl

@[simp] theorem isField_closing : isField .closing = false := rfl

@[simp] theorem isField_and : isField .and = false := rfl

@[simp] theorem isField_or : isField .or = false := rfl

@[simp] theorem fieldNames_nil : fieldNames [] = [] := rfl

@[simp] theorem fieldNames_append (ts us : List Token) :
    fieldNames (ts ++ us) = fieldNames ts ++ fieldNames us := List.filterMap_append

@[simp] theorem fieldNames_cons_field (name : String) (ts : List Token) :
    fieldNames (.field name :: ts) = name :: fieldNames ts := rfl

@[simp] theorem fieldNames_cons_opening (ts : List Token) :
    fieldNames (.opening :: ts) = fieldNames ts := rfl

@[simp] theorem fieldNames_cons_closing (ts : List Token) :
    fieldNames (.closing :: ts) = fieldNames ts := rfl

@[simp] theorem fieldNames_cons_and (ts : List Token) :
    fieldNames (.and :: ts) = fieldNames ts := rfl

@[simp] theorem fieldNames_cons_or (ts : List Token) :
    fieldNames (.or :: ts) = fieldNames ts := rfl

theorem fieldNames_cons_of_not_isField {t : Token} (h : isField t = false) (ts : List Token) :
    fieldNames (t :: ts) = fieldNames ts := by
  cases t with
  | field name => cases h
  | _ => rfl

theorem length_fieldNames (ts : List Token) : (fieldNames ts).length = fieldCount ts := by
  induction ts with
  | nil => rfl
  | cons t ts ih =>
      cases ht : isField t with
      | false => rw [fieldNames_cons_of_not_isField ht, ih, fieldCount_cons, ht]; simp
      | true =>
          cases t with
          | field name => simp [ih, Nat.add_comm]
          | _ => cases ht

@[simp] theorem openAfter_opening (n : Nat) : openAfter n .opening = n + 1 := rfl

@[simp] theorem openAfter_closing (n : Nat) : openAfter n .closing = n - 1 := rfl

@[simp] theorem openAfter_field (n : Nat) (name : String) : openAfter n (.field name) = n := rfl

theorem unclosed_concat (ts : List Token) (t : Token) :
    unclosed (ts ++ [t]) = openAfter (unclosed ts) t := by
  simp [unclosed]

theorem foldl_openAfter_le (ts : List Token) (n : Nat) : ts.foldl openAfter n ≤ n + ts.length := by
  induction ts generalizing n with
  | nil => simp
  | cons t ts ih =>
      have hone : openAfter n t ≤ n + 1 := by
        cases t <;> simp only [openAfter] <;> omega
      have htail := ih (openAfter n t)
      rw [List.foldl_cons, List.length_cons]
      omega

theorem foldl_openAfter_le_succ (ts : List Token) {m n : Nat} (h : m ≤ n + 1) :
    ts.foldl openAfter m ≤ ts.foldl openAfter n + 1 := by
  induction ts generalizing m n with
  | nil => exact h
  | cons t ts ih =>
      have hone : openAfter m t ≤ openAfter n t + 1 := by
        cases t <;> simp only [openAfter] <;> omega
      exact ih hone

theorem nestsWithin_nil {limit n : Nat} : NestsWithin limit n [] ↔ n ≤ limit := by
  simp [NestsWithin]

theorem nestsWithin_append {limit n : Nat} {ts us : List Token} :
    NestsWithin limit n (ts ++ us) ↔
      NestsWithin limit n ts ∧ NestsWithin limit (ts.foldl openAfter n) us := by
  constructor
  · intro h
    refine ⟨fun front hf => h front (hf.trans (List.prefix_append ts us)), fun front hf => ?_⟩
    simpa only [List.foldl_append] using h (ts ++ front) ((List.prefix_append_right_inj ts).2 hf)
  · rintro ⟨hts, hus⟩ front hf
    rcases List.prefix_or_prefix_of_prefix hf (List.prefix_append ts us) with hf' | ⟨rest, rfl⟩
    · exact hts front hf'
    · simpa only [List.foldl_append] using hus rest ((List.prefix_append_right_inj ts).1 hf)

theorem nestsWithin_cons {limit n : Nat} {t : Token} {ts : List Token} :
    NestsWithin limit n (t :: ts) ↔ n ≤ limit ∧ NestsWithin limit (openAfter n t) ts := by
  constructor
  · intro h
    refine ⟨h [] List.nil_prefix, fun front hf => h (t :: front) ?_⟩
    exact List.cons_prefix_cons.2 ⟨rfl, hf⟩
  · rintro ⟨hn, hts⟩ front hf
    cases front with
    | nil => exact hn
    | cons u front =>
        obtain ⟨hu, hf⟩ := List.cons_prefix_cons.1 hf
        rw [hu]
        exact hts front hf

/-! Neither limit counts the tokens behind a field. -/

theorem TakesOperand.isField_eq {t : Token} {o : Operator} (h : TakesOperand t o) :
    isField t = false := by
  cases h <;> rfl

theorem TakesOperand.openAfter_eq {t : Token} {o : Operator} (h : TakesOperand t o) (n : Nat) :
    openAfter n t = n := by
  cases h <;> rfl

theorem Denotes.isField_eq {t : Token} {l : Literal} (h : Denotes t l) : isField t = false := by
  cases h <;> rfl

theorem Denotes.openAfter_eq {t : Token} {l : Literal} (h : Denotes t l) (n : Nat) :
    openAfter n t = n := by
  cases h <;> rfl

theorem Derives.ne_nil {rank : Rank} {ts : List Token} {f : Filter}
    (h : Derives rank ts f) : ts ≠ [] := by
  induction h with
  | ofPrimary _ ih => exact ih
  | ofConjunction _ ih => exact ih
  | _ => simp

/-- The conditions of a filter are on the fields in its row of tokens, in the same order. -/
theorem Derives.conditionFields_eq {rank : Rank} {ts : List Token} {f : Filter}
    (h : Derives rank ts f) : f.conditionFields = fieldNames ts := by
  induction h with
  | comparison name hs hw =>
      rw [fieldNames_cons_field, fieldNames_cons_of_not_isField hs.isField_eq,
        fieldNames_cons_of_not_isField hw.isField_eq]
      rfl
  | check name hc => cases hc <;> rfl
  | group _ ih => simpa using ih
  | ofPrimary _ ih => exact ih
  | ofConjunction _ ih => exact ih
  | and _ _ ihl ihr => simp [Filter.conditionFields, ihl, ihr]
  | or _ _ ihl ihr => simp [Filter.conditionFields, ihl, ihr]

theorem Derives.size_eq {rank : Rank} {ts : List Token} {f : Filter} (h : Derives rank ts f) :
    f.size = fieldCount ts := by
  rw [Filter.size, h.conditionFields_eq, length_fieldNames]

/-- A filter closes every group that it opens. -/
theorem Derives.foldl_openAfter {rank : Rank} {ts : List Token} {f : Filter}
    (h : Derives rank ts f) (n : Nat) : ts.foldl openAfter n = n := by
  induction h generalizing n with
  | comparison name hs hw => simp [hs.openAfter_eq, hw.openAfter_eq]
  | check name hc => cases hc <;> rfl
  | group _ ih => simp [ih]
  | ofPrimary _ ih => exact ih n
  | and _ _ ihl ihr => simp [openAfter, ihl, ihr]
  | ofConjunction _ ih => exact ih n
  | or _ _ ihl ihr => simp [openAfter, ihl, ihr]

/-! ## The tokens of a filter -/

/-- The tokens in front of the first end token. -/
def body (tokens : List PlacedToken) : List Token :=
  (tokens.map PlacedToken.token).takeWhile (· ≠ .done)

/-- The filter that a row of tokens spells within the limits. The blank filter is spelled by no
token at all. -/
def Accepts (limits : Limits) (ts : List Token) (f : Filter) : Prop :=
  ts = [] ∧ f = .blank ∨
    Derives .disjunction ts f ∧ fieldCount ts ≤ limits.conditions ∧ NestsWithin limits.depth 0 ts

theorem body_nil : body [] = [] := rfl

theorem body_cons_done {token : PlacedToken} {tokens : List PlacedToken}
    (h : token.token = .done) : body (token :: tokens) = [] := by
  simp [body, h]

theorem body_cons {token : PlacedToken} {tokens : List PlacedToken} (h : token.token ≠ .done) :
    body (token :: tokens) = token.token :: body tokens := by
  simp [body, h]

/-- The tokens in front of the first end token are a beginning of all tokens. -/
theorem exists_body_append (tokens : List PlacedToken) :
    ∃ front rest, tokens = front ++ rest ∧ front.map PlacedToken.token = body tokens ∧
      body rest = [] := by
  induction tokens with
  | nil => exact ⟨[], [], rfl, rfl, rfl⟩
  | cons token tokens ih =>
      by_cases hdone : token.token = .done
      · exact ⟨[], token :: tokens, rfl, (body_cons_done hdone).symm, body_cons_done hdone⟩
      · obtain ⟨front, rest, rfl, hfront, hrest⟩ := ih
        refine ⟨token :: front, rest, rfl, ?_, hrest⟩
        rw [body_cons hdone, List.map_cons, hfront]

end EntryFilter.Grammar
