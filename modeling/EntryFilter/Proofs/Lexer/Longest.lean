import EntryFilter.Proofs.Lexer.Readers
import EntryFilter.Proofs.Text.Front

/-! # The longest lexeme is cut

The first character tells the forms apart up to the lengths that the reader chooses between. -/

namespace EntryFilter

open EntryFilter.Text

/-! ## The first character -/

/-- The signs with which lexemes other than numbers and words begin. -/
def signs : List Char := ['(', ')', '=', '!', '>', '<', '"', '\'', '-']

theorem not_mem_signs_of_digit {c : Char} (h : isAsciiDigit c = true) : c ∉ signs := by
  have hsigns : signs.all (fun s => !isAsciiDigit s) = true := by decide
  intro hc
  have := List.all_eq_true.1 hsigns c hc
  simp [h] at this

theorem not_mem_signs_of_word {c : Char} (h : Lexeme.isWordStart c = true) : c ∉ signs := by
  have hsigns : signs.all (fun s => !Lexeme.isWordStart s) = true := by decide +kernel
  intro hc
  have := List.all_eq_true.1 hsigns c hc
  simp [h] at this

theorem not_isAsciiDigit_of_word {c : Char} (h : Lexeme.isWordStart c = true) :
    ¬ isAsciiDigit c = true := by
  have hdigits : ['0', '1', '2', '3', '4', '5', '6', '7', '8', '9'].all
      (fun d => !Lexeme.isWordStart d) = true := by decide +kernel
  intro hc
  have := List.all_eq_true.1 hdigits c (mem_digits hc)
  simp [h] at this

/-- What may follow the first character of a lexeme. -/
def Follows (c : Char) (s : List Char) : Prop :=
  if c = '(' ∨ c = ')' then s = []
  else if c ∈ ['=', '!', '>', '<'] then s = [] ∨ s = ['=']
  else if IsQuote c then ∃ written meant last, QuotedBody c written meant ∧
    (last = [] ∨ last = ['\\'] ∨ last = [c]) ∧ s = written ++ last
  else if c = '-' then IsNumeral s
  else if isAsciiDigit c then IsNumeral (c :: s)
  else if Lexeme.isWordStart c then ∀ d ∈ s, Lexeme.isWordPart d = true
  else False

theorem follows_sign {c : Char} (hc : c ∈ ['=', '!', '>', '<']) {s : List Char} :
    Follows c s ↔ s = [] ∨ s = ['='] := by
  have hparenthesis : ¬ (c = '(' ∨ c = ')') := by
    rintro (rfl | rfl) <;> simp at hc
  simp only [Follows, if_neg hparenthesis, if_pos hc]

theorem follows_quote {quote : Char} (hq : IsQuote quote) {s : List Char} :
    Follows quote s ↔ ∃ written meant last, QuotedBody quote written meant ∧
      (last = [] ∨ last = ['\\'] ∨ last = [quote]) ∧ s = written ++ last := by
  have hsigns : ¬ (quote = '(' ∨ quote = ')') ∧ quote ∉ ['=', '!', '>', '<'] := by
    rcases hq with rfl | rfl <;> decide
  simp only [Follows, if_neg hsigns.1, if_neg hsigns.2, if_pos hq]

theorem follows_minus {s : List Char} : Follows '-' s ↔ IsNumeral s := by
  simp [Follows, IsQuote]

theorem follows_digit {c : Char} (hc : isAsciiDigit c = true) {s : List Char} :
    Follows c s ↔ IsNumeral (c :: s) := by
  have := not_mem_signs_of_digit hc
  simp_all [Follows, signs, IsQuote]

/-- The signs and the digits have their own forms, and words take what is left. -/
theorem follows_other {c : Char} (hsign : c ∉ signs) (hdigit : ¬ isAsciiDigit c = true)
    {s : List Char} :
    Follows c s ↔ Lexeme.isWordStart c = true ∧ ∀ d ∈ s, Lexeme.isWordPart d = true := by
  simp_all [Follows, signs, IsQuote]

theorem LexemeForm.follows {text : List Char} {outcome : Except SyntaxFault Token}
    (h : LexemeForm text outcome) : ∃ c s, text = c :: s ∧ Follows c s := by
  cases h with
  | opening => exact ⟨_, _, rfl, by simp [Follows]⟩
  | closing => exact ⟨_, _, rfl, by simp [Follows]⟩
  | comparison c =>
      cases c with
      | eq => exact ⟨'=', [], rfl, (follows_sign (by decide)).2 (.inl rfl)⟩
      | ne => exact ⟨'!', ['='], rfl, (follows_sign (by decide)).2 (.inr rfl)⟩
      | gt => exact ⟨'>', [], rfl, (follows_sign (by decide)).2 (.inl rfl)⟩
      | lt => exact ⟨'<', [], rfl, (follows_sign (by decide)).2 (.inl rfl)⟩
      | gte => exact ⟨'>', ['='], rfl, (follows_sign (by decide)).2 (.inr rfl)⟩
      | lte => exact ⟨'<', ['='], rfl, (follows_sign (by decide)).2 (.inr rfl)⟩
  | misspelled hsign =>
      rcases hsign with rfl | rfl
      · exact ⟨'!', [], rfl, (follows_sign (by decide)).2 (.inl rfl)⟩
      · exact ⟨'=', ['='], rfl, (follows_sign (by decide)).2 (.inr rfl)⟩
  | quoted hq hbody =>
      exact ⟨_, _, rfl, (follows_quote hq).2 ⟨_, _, _, hbody, .inr (.inr rfl), rfl⟩⟩
  | unclosed hq hbody hlast =>
      exact ⟨_, _, rfl, (follows_quote hq).2 ⟨_, _, _, hbody, hlast.imp_right Or.inl, rfl⟩⟩
  | @number sign negative whole point digits hsign hne hwhole hpoint =>
      have hnumeral : IsNumeral (whole ++ point) := ⟨whole, point, digits, rfl, hne, hwhole, hpoint⟩
      rcases hsign with ⟨rfl, -⟩ | ⟨rfl, -⟩
      · cases whole with
        | nil => exact absurd rfl hne
        | cons d whole =>
            have hd := hwhole d List.mem_cons_self
            exact ⟨_, _, rfl, (follows_digit hd).2 hnumeral⟩
      · exact ⟨_, _, rfl, follows_minus.2 hnumeral⟩
  | @word c part hc hpart =>
      have hdigit := not_isAsciiDigit_of_word hc
      exact ⟨_, _, rfl, (follows_other (not_mem_signs_of_word hc) hdigit).2 ⟨hc, hpart⟩⟩

/-! ## Every first character -/

theorem Longest.of_form {c : Char} {s after : List Char} {outcome : Except SyntaxFault Token}
    (h : LexemeForm (c :: s) outcome)
    (hmax : ∀ t, Follows c t → t <+: s ++ after → t.length ≤ s.length) :
    Longest (c :: s) after outcome := by
  refine .form h fun other result hother hfront => ?_
  obtain ⟨d, t, rfl, hfollows⟩ := hother.follows
  obtain ⟨rfl, ht⟩ := List.cons_prefix_cons.1 hfront
  exact Nat.succ_le_succ (hmax t hfollows ht)

theorem Longest.of_stray {c : Char} {after : List Char} (h : ∀ t, Follows c t → ¬ t <+: after) :
    Longest [c] after (.error (.unexpectedCharacter c)) := by
  refine .stray fun other result hother hfront => ?_
  obtain ⟨d, t, rfl, hfollows⟩ := hother.follows
  obtain ⟨rfl, ht⟩ := List.cons_prefix_cons.1 hfront
  exact h t hfollows ht

namespace Lexeme

/-- The lexeme is the longest one at its place. -/
def IsLongest (lexeme : Lexeme) : Prop := Longest lexeme.text lexeme.rest lexeme.token

theorem isLongest_ofSign (c : Char) (short long : LexemeKind) (hc : c ∈ ['=', '!', '>', '<'])
    (hshort : ∀ rest, LexemeForm [c] (token ⟨short, [c], rest⟩))
    (hlong : ∀ rest, LexemeForm [c, '='] (token ⟨long, [c, '='], rest⟩)) (rest : List Char) :
    (ofSign c short long rest).IsLongest := by
  unfold ofSign
  split
  · refine .of_form (hlong _) fun t ht _ => ?_
    rcases (follows_sign hc).1 ht with rfl | rfl <;> simp
  · rename_i rest hrest
    refine .of_form (hshort _) fun t ht hfront => ?_
    rcases (follows_sign hc).1 ht with rfl | rfl
    · exact Nat.le_refl _
    · obtain ⟨after, rfl⟩ := hfront
      exact absurd rfl (hrest after)

theorem isLongest_ofQuote {quote : Char} (hq : IsQuote quote) (rest : List Char) :
    (ofQuote quote rest).IsLongest := by
  have hmax : ∀ t, Follows quote t → t <+: rest →
      t.length ≤ (untilQuote quote rest).2.1.length := by
    intro t ht hfront
    obtain ⟨written, meant, last, hbody, hlast, rfl⟩ := (follows_quote hq).1 ht
    exact length_body_le hbody hlast hfront
  have happend := untilQuote_append quote rest
  rcases untilQuote_spec quote rest with ⟨written, meant, after, hbody, rfl, h⟩ |
    ⟨written, meant, last, hbody, hlast, rfl, h⟩
  · rw [h] at hmax happend
    have htoken : token ⟨.quoted, quote :: (written ++ [quote]), after⟩ =
        .ok (.text (String.ofList meant)) := by
      simp [token, unescape_body hbody]
    simp only [ofQuote, h, IsLongest, if_true, htoken]
    exact .of_form (.quoted hq hbody) fun t ht hfront => hmax t ht (happend ▸ hfront)
  · rw [h] at hmax happend
    simp only [ofQuote, h, IsLongest]
    exact .of_form (.unclosed hq hbody hlast) fun t ht hfront => hmax t ht (happend ▸ hfront)

theorem isLongest_ofMinus (rest : List Char) : (ofMinus rest).IsLongest := by
  unfold ofMinus
  split
  · rename_i hdigit
    cases rest with
    | nil => simp at hdigit
    | cons d rest =>
        have hnumeral := isNumeral_numeral (by simpa using hdigit) rest
        refine .of_form (form_number (.inr ⟨rfl, rfl⟩) hnumeral) fun t ht hfront => ?_
        rw [numeral_append] at hfront
        exact length_numeral_le (follows_minus.1 ht) hfront
  · rename_i hdigit
    refine .of_stray fun t ht hfront => hdigit ?_
    obtain ⟨whole, point, digits, rfl, hne, hwhole, -⟩ := follows_minus.1 ht
    obtain ⟨after, rfl⟩ := hfront
    cases whole with
    | nil => exact absurd rfl hne
    | cons d whole => simpa using hwhole d List.mem_cons_self

theorem isLongest_number {c : Char} (hc : isAsciiDigit c = true) (rest : List Char) :
    IsLongest ⟨.number, (numeral (c :: rest)).1, (numeral (c :: rest)).2⟩ := by
  refine .form (form_number (.inl ⟨rfl, rfl⟩) (isNumeral_numeral hc rest)) ?_
  intro other result hother hfront
  rw [numeral_append] at hfront
  obtain ⟨d, t, rfl, hfollows⟩ := hother.follows
  obtain ⟨rfl, -⟩ := List.cons_prefix_cons.1 hfront
  exact length_numeral_le ((follows_digit hc).1 hfollows) hfront

theorem isLongest_word {c : Char} (hsign : c ∉ signs) (hdigit : ¬ isAsciiDigit c = true)
    (hc : isWordStart c = true) (rest : List Char) :
    IsLongest ⟨.word, c :: rest.takeWhile isWordPart, rest.dropWhile isWordPart⟩ := by
  refine .of_form (.word hc fun d hd => List.mem_takeWhile_imp hd) fun t ht hfront => ?_
  obtain ⟨-, hpart⟩ := (follows_other hsign hdigit).1 ht
  rw [List.takeWhile_append_dropWhile] at hfront
  exact length_le_takeWhile hpart hfront

theorem isLongest_stray {c : Char} (hsign : c ∉ signs) (hdigit : ¬ isAsciiDigit c = true)
    (hc : ¬ isWordStart c = true) (rest : List Char) : IsLongest ⟨.stray, [c], rest⟩ := by
  exact .of_stray fun t ht _ => hc ((follows_other hsign hdigit).1 ht).1

/-- The lexer takes the longest lexeme that begins at its place. -/
theorem isLongest_cut (c : Char) (rest : List Char) : (cut c rest).IsLongest := by
  unfold cut
  split
  · refine .of_form .opening fun t ht _ => ?_
    simp_all [Follows]
  · refine .of_form .closing fun t ht _ => ?_
    simp_all [Follows]
  · exact isLongest_ofSign '=' (.compare .eq) .misspelled (by decide)
      (fun _ => .comparison .eq) (fun _ => .misspelled (.inr rfl)) rest
  · exact isLongest_ofSign '!' .misspelled (.compare .ne) (by decide)
      (fun _ => .misspelled (.inl rfl)) (fun _ => .comparison .ne) rest
  · exact isLongest_ofSign '>' (.compare .gt) (.compare .gte) (by decide)
      (fun _ => .comparison .gt) (fun _ => .comparison .gte) rest
  · exact isLongest_ofSign '<' (.compare .lt) (.compare .lte) (by decide)
      (fun _ => .comparison .lt) (fun _ => .comparison .lte) rest
  · exact isLongest_ofQuote (.inl rfl) rest
  · exact isLongest_ofQuote (.inr rfl) rest
  · exact isLongest_ofMinus rest
  · have hc : c ∉ signs := by simp_all [signs]
    split
    · exact isLongest_number ‹_› rest
    · split
      · exact isLongest_word hc ‹_› ‹_› rest
      · exact isLongest_stray hc ‹_› ‹_› rest

end Lexeme

end EntryFilter
