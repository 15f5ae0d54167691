import EntryFilter.Proofs.Lexer.Tile

/-! # Text that separates

A lexeme is as long as it can be, so text behind it may change it. A blank and a parenthesis do
not: behind them the lexer cuts what it would cut at the end of the source. Only a text without its
closing quote reaches over what follows, and it stays what it is as long as no quote follows. -/

namespace EntryFilter

open EntryFilter.Text

/-- No lexeme in front of the text becomes longer through it. -/
def Separates (text : List Char) : Prop :=
  ∀ d ∈ text.head?, d ≠ '=' ∧ Lexeme.isWordPart d = false

theorem isWordPart_of_digit {c : Char} (h : isAsciiDigit c = true) :
    Lexeme.isWordPart c = true := by
  have hrange : (0x30, 0x39) ∈ numberRanges := List.mem_cons_self
  have hnumber : isNumber c = true := List.any_eq_true.2 ⟨(0x30, 0x39), hrange, h⟩
  simp [Lexeme.isWordPart, hnumber]

theorem isWordPart_point : Lexeme.isWordPart '.' = true := by
  simp [Lexeme.isWordPart]

theorem Separates.not_digit {text : List Char} (h : Separates text) :
    ∀ d ∈ text.head?, isAsciiDigit d = false := by
  intro d hd
  refine Bool.eq_false_iff.2 fun hdigit => ?_
  have hpart := isWordPart_of_digit hdigit
  rw [(h d hd).2] at hpart
  cases hpart

theorem Separates.not_point {text : List Char} (h : Separates text) (rest : List Char) :
    text ≠ '.' :: rest := by
  rintro rfl
  have hpart := (h '.' rfl).2
  rw [isWordPart_point] at hpart
  cases hpart

theorem separates_closing (rest : List Char) : Separates (')' :: rest) := by
  intro d hd
  obtain rfl : ')' = d := Option.some.inj hd
  exact ⟨by decide, by decide +kernel⟩

/-- No code point lies in a range of each table. -/
def areApart (table table' : List (Nat × Nat)) : Bool :=
  table.all fun range => table'.all fun range' =>
    decide (range.2 < range'.1) || decide (range'.2 < range.1)

theorem not_inRanges_of_apart {table table' : List (Nat × Nat)} {c : Char}
    (hapart : areApart table table' = true) (h : inRanges table c = true) :
    inRanges table' c = false := by
  refine Bool.eq_false_iff.2 fun h' => ?_
  obtain ⟨range, hrange, hc⟩ := List.any_eq_true.1 h
  obtain ⟨range', hrange', hc'⟩ := List.any_eq_true.1 h'
  have hsides := List.all_eq_true.1 (List.all_eq_true.1 hapart range hrange) range' hrange'
  simp only [Bool.and_eq_true, Bool.or_eq_true, decide_eq_true_eq] at hc hc' hsides
  omega

/-- A blank is no quote either. -/
theorem separates_of_blank {b : Char} (h : isBlank b = true) :
    b ≠ '=' ∧ Lexeme.isWordPart b = false ∧ ¬ IsQuote b := by
  have hletter : isLetter b = false := not_inRanges_of_apart (by decide +kernel) h
  have hnumber : isNumber b = false := not_inRanges_of_apart (by decide +kernel) h
  have hother {c : Char} (hc : isBlank c = false) : b ≠ c := by
    rintro rfl
    rw [h] at hc
    cases hc
  refine ⟨hother rfl, ?_, ?_⟩
  · simp [Lexeme.isWordPart, hletter, hnumber, hother (c := '_') rfl, hother (c := '.') rfl,
      hother (c := '-') rfl]
  · rintro (hquote | hquote)
    · exact hother rfl hquote
    · exact hother rfl hquote

theorem separates_blanks {blanks : List Char} (h : ∀ b ∈ blanks, isBlank b = true) :
    Separates blanks := by
  intro d hd
  have hblank := separates_of_blank (h d (List.mem_of_mem_head? hd))
  exact ⟨hblank.1, hblank.2.1⟩

/-! ## The readers in front of a separator -/

namespace Lexeme

variable {after : List Char}

/-- The lexeme with more text behind it. -/
def before (lexeme : Lexeme) (after : List Char) : Lexeme :=
  ⟨lexeme.kind, lexeme.text, lexeme.rest ++ after⟩

@[simp] theorem before_rest (lexeme : Lexeme) (after : List Char) :
    (lexeme.before after).rest = lexeme.rest ++ after := rfl

@[simp] theorem before_token (lexeme : Lexeme) (after : List Char) :
    (lexeme.before after).token = lexeme.token := rfl

theorem numeral_append_of_separates (cs : List Char) (h : Separates after) :
    numeral (cs ++ after) = ((numeral cs).1, (numeral cs).2 ++ after) := by
  have hdigits (cs : List Char) := takeWhile_append_of_head cs h.not_digit
  unfold numeral
  simp only [hdigits cs]
  cases hrest : cs.dropWhile isAsciiDigit with
  | nil =>
      rw [List.nil_append]
      split
      · rename_i rest
        exact absurd rfl (h.not_point rest)
      · rfl
  | cons d rest =>
      by_cases hd : d = '.'
      · subst hd
        simp [hdigits rest]
      · split
        · simp_all
        · split
          · simp_all
          · rfl

theorem ofSign_append (c : Char) (short long : LexemeKind) (rest : List Char)
    (h : Separates after) :
    ofSign c short long (rest ++ after) = (ofSign c short long rest).before after := by
  cases rest with
  | nil =>
      cases after with
      | nil => rfl
      | cons d after =>
          have hd : d ≠ '=' := (h d rfl).1
          simp [ofSign, before, hd]
  | cons d rest =>
      by_cases hd : d = '='
      · subst hd
        rfl
      · simp [ofSign, before, hd]

theorem ofMinus_append (rest : List Char) (h : Separates after) :
    ofMinus (rest ++ after) = (ofMinus rest).before after := by
  have hhead : (rest ++ after).head?.any isAsciiDigit = rest.head?.any isAsciiDigit := by
    cases rest with
    | cons d rest => rfl
    | nil =>
        cases after with
        | nil => rfl
        | cons d after => simpa using h.not_digit d rfl
  unfold ofMinus
  rw [hhead, numeral_append_of_separates rest h]
  split <;> rfl

theorem ofQuote_append {quote : Char} (hq : IsQuote quote) (rest : List Char)
    (hkind : (ofQuote quote rest).kind ≠ .unclosed) (after : List Char) :
    ofQuote quote (rest ++ after) = (ofQuote quote rest).before after := by
  have hslash : quote ≠ '\\' := by
    rcases hq with rfl | rfl <;> decide
  rcases untilQuote_spec quote rest with ⟨written, meant, behind, hbody, rfl, h⟩ |
    ⟨_, _, _, _, _, _, h⟩
  · have happend := untilQuote_closed hbody hslash (behind ++ after)
    simp [ofQuote, before, h, happend]
  · simp [ofQuote, h] at hkind

theorem cut_of_not_mem_signs {c : Char} (h : c ∉ signs) (rest : List Char) :
    cut c rest =
      if isAsciiDigit c then ⟨.number, (numeral (c :: rest)).1, (numeral (c :: rest)).2⟩
      else if isWordStart c then
        ⟨.word, c :: rest.takeWhile isWordPart, rest.dropWhile isWordPart⟩
      else ⟨.stray, [c], rest⟩ := by
  unfold cut
  split
  all_goals first
    | exact absurd (by decide) h
    | rfl

/-- In front of a separator the lexer cuts the same lexeme as at the end of the source. -/
theorem cut_append_of_separates {c : Char} {rest : List Char}
    (hkind : (cut c rest).kind ≠ .unclosed) (h : Separates after) :
    cut c (rest ++ after) = (cut c rest).before after := by
  by_cases hsign : c ∈ signs
  · simp only [signs, List.mem_cons, List.not_mem_nil, or_false] at hsign
    rcases hsign with rfl | rfl | rfl | rfl | rfl | rfl | rfl | rfl | rfl
    · rfl
    · rfl
    · exact ofSign_append _ _ _ rest h
    · exact ofSign_append _ _ _ rest h
    · exact ofSign_append _ _ _ rest h
    · exact ofSign_append _ _ _ rest h
    · exact ofQuote_append (.inl rfl) rest hkind after
    · exact ofQuote_append (.inr rfl) rest hkind after
    · exact ofMinus_append rest h
  · have hnumeral := numeral_append_of_separates (c :: rest) h
    obtain ⟨htake, hdrop⟩ := takeWhile_append_of_head rest fun d hd => (h d hd).2
    rw [List.cons_append] at hnumeral
    rw [cut_of_not_mem_signs hsign, cut_of_not_mem_signs hsign, hnumeral, htake, hdrop]
    split
    · rfl
    · split <;> rfl

/-! ## Texts without their closing quote -/

theorem not_hasClosing_append {quote : Char} {rest : List Char} (hopen : ¬ HasClosing quote rest)
    (hafter : quote ∉ after) : ¬ HasClosing quote (rest ++ after) := by
  rintro ⟨written, meant, behind, hbody, heq⟩
  rcases List.append_eq_append_iff.1 heq with ⟨middle, rfl, hmiddle⟩ | ⟨middle, rfl, hmiddle⟩
  · exact hafter (by simp [hmiddle])
  · cases middle with
    | nil =>
        obtain rfl : quote :: behind = after := hmiddle
        exact hafter List.mem_cons_self
    | cons d middle =>
        obtain ⟨rfl, -⟩ := List.cons.inj hmiddle
        exact hopen ⟨written, meant, middle, hbody, rfl⟩

theorem token_of_unclosed {c : Char} {rest : List Char} (h : (cut c rest).kind = .unclosed) :
    ∃ quote, (cut c rest).token = .error (.unterminatedText quote) := by
  simp only [token, h]
  exact ⟨_, rfl⟩

/-- Blanks behind the source change no lexeme into another one. -/
theorem token_append_blanks (c : Char) (rest : List Char) {blanks : List Char}
    (h : ∀ b ∈ blanks, isBlank b = true) :
    (cut c (rest ++ blanks)).token = (cut c rest).token := by
  by_cases hkind : (cut c rest).kind = .unclosed
  · obtain ⟨quote, hquote⟩ := token_of_unclosed hkind
    obtain ⟨rfl, hq, hopen⟩ := (cut_unterminated c rest quote).1 hquote
    have hblanks : c ∉ blanks := fun hc => (separates_of_blank (h c hc)).2.2 hq
    rw [hquote]
    exact (cut_unterminated c _ c).2 ⟨rfl, hq, not_hasClosing_append hopen hblanks⟩
  · rw [cut_append_of_separates hkind (separates_blanks h), before_token]

end Lexeme

end EntryFilter
