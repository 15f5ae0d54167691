import EntryFilter.Proofs.Lexer.Longest

/-! # One step of the lexer

A step skips blanks and cuts the longest lexeme behind them, of which it gives the token or the
error with its place. -/

namespace EntryFilter

open EntryFilter.Text

/-- What a step of the lexer gives. -/
abbrev Finding := Except SyntaxError PlacedToken

namespace Finding

/-- The place of a token or of an error. -/
def span : Finding → Span
  | .ok token => token.span
  | .error e => e.span

/-- The token or what is wrong, without its place. -/
def outcome : Finding → Except SyntaxFault Token
  | .ok token => .ok token.token
  | .error e => .error e.fault

/-- The end of a source. -/
def ending (source : List Char) : Finding := .ok ⟨.done, .point (byteLength source)⟩

end Finding

/-- A quote that may be followed by the end of the text that it opens. -/
def HasClosing (quote : Char) (rest : List Char) : Prop :=
  ∃ written meant after, QuotedBody quote written meant ∧ rest = written ++ quote :: after

/-- What is found about a text between two others is the longest lexeme there. -/
structure IsTile (before text after : List Char) (finding : Finding) : Prop where
  span_eq : finding.span = ⟨byteLength before, byteLength before + byteLength text⟩
  nonempty : finding.span.start < finding.span.stop
  not_blank : ∀ c ∈ text.head?, isBlank c = false
  longest : Longest text after finding.outcome
  /-- A text is unterminated if and only if no quote closes it. -/
  unterminated : ∀ quote, finding.outcome = .error (.unterminatedText quote) ↔
    ∃ rest, text ++ after = quote :: rest ∧ IsQuote quote ∧ ¬ HasClosing quote rest
  /-- An unterminated text takes the rest of the source. -/
  reaches_end : ∀ quote, finding.outcome = .error (.unterminatedText quote) → after = []

theorem byteLength_pos {cs : List Char} (h : cs ≠ []) : 0 < byteLength cs := by
  cases cs with
  | nil => exact absurd rfl h
  | cons c cs => exact Nat.add_pos_left c.utf8Size_pos _

/-! ## One step -/

namespace Lexeme

theorem ofQuote_unterminated {quote : Char} (hq : IsQuote quote) (rest : List Char) :
    (ofQuote quote rest).token = .error (.unterminatedText quote) ↔ ¬ HasClosing quote rest := by
  have hslash : quote ≠ '\\' := by rcases hq with rfl | rfl <;> decide
  rcases untilQuote_spec quote rest with ⟨written, meant, after, hbody, hrest, h⟩ |
    ⟨_, _, _, _, _, _, h⟩
  · have hclosing : HasClosing quote rest := ⟨written, meant, after, hbody, hrest⟩
    simp [ofQuote, h, token, hclosing]
  · have hopen : ¬ HasClosing quote rest := by
      rintro ⟨written, meant, after, hbody, rfl⟩
      simp [untilQuote_closed hbody hslash] at h
    simp [ofQuote, h, token, hopen]

theorem ofQuote_unterminated_rest {quote : Char} {rest : List Char}
    (h : (ofQuote quote rest).token = .error (.unterminatedText quote)) :
    (ofQuote quote rest).rest = [] := by
  rcases untilQuote_spec quote rest with ⟨_, _, _, _, _, hread⟩ | ⟨_, _, _, _, _, _, hread⟩
  · simp [ofQuote, hread, token] at h
  · simp [ofQuote, hread]

theorem cut_quote {quote : Char} (hq : IsQuote quote) (rest : List Char) :
    cut quote rest = ofQuote quote rest := by
  rcases hq with rfl | rfl <;> rfl

/-- Only a lexeme that begins with a quote can be an unterminated text. -/
theorem quote_of_unterminated {c quote : Char} {rest : List Char}
    (h : (cut c rest).token = .error (.unterminatedText quote)) : c = quote ∧ IsQuote quote := by
  have hlongest := isLongest_cut c rest
  have happend := cut_append c rest
  rw [IsLongest, h] at hlongest
  generalize (cut c rest).text = text at hlongest happend
  cases hlongest with
  | form hform _ =>
      cases hform with
      | unclosed hq _ _ => exact ⟨(List.cons.inj happend).1.symm, hq⟩

theorem cut_unterminated (c : Char) (rest : List Char) (quote : Char) :
    (cut c rest).token = .error (.unterminatedText quote) ↔
      c = quote ∧ IsQuote quote ∧ ¬ HasClosing quote rest := by
  constructor
  · intro h
    obtain ⟨rfl, hq⟩ := quote_of_unterminated h
    rw [cut_quote hq] at h
    exact ⟨rfl, hq, (ofQuote_unterminated hq rest).1 h⟩
  · rintro ⟨rfl, hq, h⟩
    rw [cut_quote hq]
    exact (ofQuote_unterminated hq rest).2 h

theorem cut_unterminated_rest {c : Char} {rest : List Char} {quote : Char}
    (h : (cut c rest).token = .error (.unterminatedText quote)) : (cut c rest).rest = [] := by
  obtain ⟨rfl, hq⟩ := quote_of_unterminated h
  rw [cut_quote hq] at h ⊢
  exact ofQuote_unterminated_rest h

end Lexeme

namespace Cursor

theorem span_place (offset : Nat) (lexeme : Lexeme) :
    Finding.span (place offset lexeme) = ⟨offset, offset + byteLength lexeme.text⟩ := by
  unfold place
  split <;> rfl

theorem outcome_place (offset : Nat) (lexeme : Lexeme) :
    Finding.outcome (place offset lexeme) = lexeme.token := by
  unfold place
  split <;> rename_i h <;> rw [h] <;> rfl

/-- A lexeme that begins with no blank is a tile. -/
theorem isTile_place (before : List Char) {c : Char} (hc : isBlank c = false) (rest : List Char) :
    IsTile before (Lexeme.cut c rest).text (Lexeme.cut c rest).rest
      (place (byteLength before) (Lexeme.cut c rest)) where
  span_eq := span_place _ _
  nonempty := by
    rw [span_place]
    exact Nat.lt_add_of_pos_right (byteLength_pos (Lexeme.cut_text_ne_nil c rest))
  not_blank := by
    have happend := Lexeme.cut_append c rest
    cases htext : (Lexeme.cut c rest).text with
    | nil => simp
    | cons d text =>
        rw [htext] at happend
        obtain ⟨rfl, -⟩ := List.cons.inj happend
        simpa using hc
  longest := by
    rw [outcome_place]
    exact Lexeme.isLongest_cut c rest
  unterminated quote := by
    rw [outcome_place, Lexeme.cut_append, Lexeme.cut_unterminated]
    constructor
    · rintro ⟨rfl, h⟩
      exact ⟨rest, rfl, h⟩
    · rintro ⟨rest, heq, h⟩
      obtain ⟨rfl, rfl⟩ := List.cons.inj heq
      exact ⟨rfl, h⟩
  reaches_end quote h := by
    rw [outcome_place] at h
    exact Lexeme.cut_unterminated_rest h

/-- The cursor stands behind a part of the source. -/
def Behind (source before : List Char) (cursor : Cursor) : Prop :=
  source = before ++ cursor.rest ∧ cursor.offset = byteLength before

variable {source before : List Char} {cursor : Cursor}

theorem behind_ofSource (source : String) :
    (ofSource source).Behind source.toList [] := ⟨rfl, rfl⟩

theorem takeWhile_blank (cs : List Char) : ∀ c ∈ cs.takeWhile isBlank, isBlank c = true :=
  fun _ hc => List.mem_takeWhile_imp hc

/-- Where only blanks are left, every step finds the end. -/
theorem next_of_blank (h : cursor.Behind source before) (hrest : trimStart cursor.rest = []) :
    cursor.next = (Finding.ending source, ⟨byteLength source, []⟩) := by
  obtain ⟨hsource, hoffset⟩ := h
  have hall : cursor.rest.takeWhile isBlank = cursor.rest :=
    List.takeWhile_eq_self_iff.2 (List.dropWhile_eq_nil_iff.1 hrest)
  have hskip : cursor.skipBlanks = ⟨byteLength source, []⟩ := by
    simp [skipBlanks, hrest, hall, hoffset, hsource]
  simp only [next, hskip]
  rfl

/-- Everywhere else a step finds the lexeme behind the blanks and goes behind it. -/
theorem next_of_lexeme (h : cursor.Behind source before) {c : Char} {rest : List Char}
    (hrest : trimStart cursor.rest = c :: rest) :
    ∃ blanks text after, cursor.rest = blanks ++ (text ++ after) ∧
      (∀ b ∈ blanks, isBlank b = true) ∧ IsTile (before ++ blanks) text after cursor.next.1 ∧
      cursor.next.2.Behind source (before ++ (blanks ++ text)) ∧ cursor.next.2.rest = after := by
  obtain ⟨hsource, hoffset⟩ := h
  have hsplit : cursor.rest.takeWhile isBlank ++ (c :: rest) = cursor.rest := by
    rw [← hrest]
    exact List.takeWhile_append_dropWhile
  have happend := Lexeme.cut_append c rest
  have hc : isBlank c = false := by
    have := List.head?_dropWhile_not isBlank cursor.rest
    rw [show cursor.rest.dropWhile isBlank = c :: rest from hrest] at this
    simpa using this
  have hoffset' : cursor.skipBlanks.offset =
      byteLength (before ++ cursor.rest.takeWhile isBlank) := by
    simp [skipBlanks, hoffset]
  have hnext : cursor.next = (place (byteLength (before ++ cursor.rest.takeWhile isBlank))
      (Lexeme.cut c rest),
      ⟨byteLength (before ++ cursor.rest.takeWhile isBlank) + byteLength (Lexeme.cut c rest).text,
        (Lexeme.cut c rest).rest⟩) := by
    simp only [next, hoffset', show cursor.skipBlanks.rest = c :: rest from hrest]
  rw [hnext]
  refine ⟨cursor.rest.takeWhile isBlank, (Lexeme.cut c rest).text, (Lexeme.cut c rest).rest, ?_,
    takeWhile_blank _, isTile_place _ hc rest, ⟨?_, ?_⟩, rfl⟩
  · rw [happend, hsplit]
  · rw [List.append_assoc, List.append_assoc, happend, hsplit, hsource]
  · simp [Nat.add_assoc]

end Cursor

end EntryFilter
