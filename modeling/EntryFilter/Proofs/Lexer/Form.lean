import EntryFilter.Language.Lexer

/-! # Lexeme forms

What a filter is made of, form by form, and the token or the error that each form prescribes.
Several forms may match at the same place; the longest match counts. -/

namespace EntryFilter

open EntryFilter.Text

/-- A character that opens a quoted text. -/
def IsQuote (c : Char) : Prop := c = '"' ∨ c = '\''

instance (c : Char) : Decidable (IsQuote c) := inferInstanceAs (Decidable (_ ∨ _))

/-- What stands between two quotes, as it is written and as it is meant: a backslash takes the
meaning off the next character. -/
inductive QuotedBody (quote : Char) : List Char → List Char → Prop where
  | nil : QuotedBody quote [] []
  | plain {c written meant} : c ≠ quote → c ≠ '\\' → QuotedBody quote written meant →
      QuotedBody quote (c :: written) (c :: meant)
  | escaped {c written meant} : QuotedBody quote written meant →
      QuotedBody quote ('\\' :: c :: written) (c :: meant)

/-- A point with digits behind it, both of which may be missing. -/
inductive Fraction : List Char → List Char → Prop where
  | none : Fraction [] []
  | some {digits} : (∀ d ∈ digits, isAsciiDigit d = true) → Fraction ('.' :: digits) digits

/-- The lexeme forms with what they prescribe. -/
inductive LexemeForm : List Char → Except SyntaxFault Token → Prop where
  | opening : LexemeForm ['('] (.ok .opening)
  | closing : LexemeForm [')'] (.ok .closing)
  | comparison (c : Comparison) : LexemeForm c.symbol.toList (.ok (.compare (.compare c)))
  | misspelled {sign} : sign = ['!'] ∨ sign = ['=', '='] →
      LexemeForm sign (.error (.unknownOperator (String.ofList sign)))
  | quoted {quote written meant} : IsQuote quote → QuotedBody quote written meant →
      LexemeForm (quote :: (written ++ [quote])) (.ok (.text (String.ofList meant)))
  /-- The last backslash of a source has no character behind it. -/
  | unclosed {quote written meant last} : IsQuote quote → QuotedBody quote written meant →
      (last = [] ∨ last = ['\\']) →
      LexemeForm (quote :: (written ++ last)) (.error (.unterminatedText quote))
  | number {sign negative whole point digits} :
      (sign = [] ∧ negative = false ∨ sign = ['-'] ∧ negative = true) →
      whole ≠ [] → (∀ d ∈ whole, isAsciiDigit d = true) → Fraction point digits →
      LexemeForm (sign ++ (whole ++ point))
        (.ok (.number ((Decimal.ofParts whole digits 0).toBinary64 negative)))
  | word {c part} : Lexeme.isWordStart c = true → (∀ d ∈ part, Lexeme.isWordPart d = true) →
      LexemeForm (c :: part) (.ok (Token.ofWord (c :: part)))

/-- The text is the longest at its place that has a lexeme form, and the outcome is what the form
prescribes. Where no form matches, a single character is at fault. -/
inductive Longest : List Char → List Char → Except SyntaxFault Token → Prop where
  | form {text after outcome} : LexemeForm text outcome →
      (∀ other result, LexemeForm other result → other <+: text ++ after →
        other.length ≤ text.length) →
      Longest text after outcome
  | stray {c after} : (∀ other result, LexemeForm other result → ¬ other <+: c :: after) →
      Longest [c] after (.error (.unexpectedCharacter c))

namespace Token

theorem ofWord_ne_done (word : List Char) : ofWord word ≠ done := by
  unfold ofWord
  split <;> (try split) <;> simp

theorem ofWord_ne_text (word : List Char) (value : String) : ofWord word ≠ text value := by
  unfold ofWord
  split <;> (try split) <;> simp

end Token

namespace LexemeForm

theorem ne_nil {text : List Char} {outcome : Except SyntaxFault Token}
    (h : LexemeForm text outcome) : text ≠ [] := by
  cases h with
  | comparison c => cases c <;> decide
  | misspelled hsign => rcases hsign with rfl | rfl <;> decide
  | number _ hne => simp [hne]
  | _ => exact List.cons_ne_nil _ _

end LexemeForm

namespace Longest

variable {text after : List Char} {outcome : Except SyntaxFault Token}

theorem text_ne_nil (h : Longest text after outcome) : text ≠ [] := by
  cases h with
  | form hform _ => exact hform.ne_nil
  | stray _ => exact List.cons_ne_nil _ _

/-- No form prescribes the end. -/
theorem ne_done (h : Longest text after outcome) : outcome ≠ .ok .done := by
  cases h with
  | form hform _ =>
      cases hform with
      | word => simpa using Token.ofWord_ne_done _
      | _ => simp
  | stray _ => simp

/-- Only quotes make a text. -/
theorem quoted {value : String} (h : Longest text after (.ok (.text value))) :
    ∃ quote written meant, IsQuote quote ∧ QuotedBody quote written meant ∧
      text = quote :: (written ++ [quote]) ∧ value = String.ofList meant := by
  generalize ho : (Except.ok (Token.text value) : Except SyntaxFault Token) = outcome at h
  cases h with
  | form hform _ =>
      cases hform with
      | quoted hq hbody =>
          cases ho
          exact ⟨_, _, _, hq, hbody, rfl, rfl⟩
      | word => exact absurd (Except.ok.inj ho).symm (Token.ofWord_ne_text _ _)
      | _ => cases ho
  | stray _ => cases ho

/-- No form prescribes that a number is invalid. -/
theorem ne_invalidNumber (h : Longest text after outcome) (numeral : String) :
    outcome ≠ .error (.invalidNumber numeral) := by
  cases h with
  | form hform _ => cases hform <;> simp
  | stray _ => simp

end Longest

end EntryFilter
