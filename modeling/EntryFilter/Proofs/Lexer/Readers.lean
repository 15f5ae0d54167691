import EntryFilter.Proofs.Lexer.Form
import Mathlib.Data.List.TakeWhile

/-! # What the readers of the lexer take

Each reader takes as much as its form allows, and what it takes is read as the form prescribes. -/

namespace EntryFilter

open EntryFilter.Text

/-- Digits and perhaps a point with further digits, without a sign. -/
def IsNumeral (cs : List Char) : Prop :=
  ∃ whole point digits, cs = whole ++ point ∧ whole ≠ [] ∧ (∀ d ∈ whole, isAsciiDigit d = true) ∧
    Fraction point digits

namespace Lexeme

/-! ## Quoted texts -/

theorem untilQuote_closed {quote : Char} {written meant : List Char}
    (h : QuotedBody quote written meant) (hq : quote ≠ '\\') (after : List Char) :
    untilQuote quote (written ++ quote :: after) = (true, written ++ [quote], after) := by
  induction h with
  | nil => simp [untilQuote, hq]
  | @plain c written meant hc hb _ ih => simp [untilQuote, hc, hb, ih]
  | @escaped c written meant _ ih => simp [untilQuote, ih]

theorem unescape_body {quote : Char} {written meant : List Char}
    (h : QuotedBody quote written meant) : unescape written = meant := by
  induction h with
  | nil => rfl
  | plain _ hb _ ih => simp [unescape, hb, ih]
  | escaped _ ih => simp [unescape, ih]

/-- What the reader of a quoted text finds. -/
theorem untilQuote_spec (quote : Char) (cs : List Char) :
    (∃ written meant after, QuotedBody quote written meant ∧ cs = written ++ quote :: after ∧
      untilQuote quote cs = (true, written ++ [quote], after)) ∨
    ∃ written meant last, QuotedBody quote written meant ∧ (last = [] ∨ last = ['\\']) ∧
      cs = written ++ last ∧ untilQuote quote cs = (false, cs, []) := by
  fun_induction untilQuote quote cs with
  | case1 => exact .inr ⟨[], [], [], .nil, .inl rfl, rfl, rfl⟩
  | case2 c rest closed text after heq ih =>
      rcases ih with ⟨w, m, a, hbody, rfl, h⟩ | ⟨w, m, l, hbody, hlast, rfl, h⟩
      · rw [heq] at h
        obtain ⟨rfl, rfl, rfl⟩ := by simpa using h
        exact .inl ⟨_, _, _, hbody.escaped, rfl, rfl⟩
      · rw [heq] at h
        obtain ⟨rfl, rfl, rfl⟩ := by simpa using h
        exact .inr ⟨_, _, _, hbody.escaped, hlast, rfl, rfl⟩
  | case3 rest => exact .inl ⟨[], [], rest, .nil, rfl, rfl⟩
  | case4 c rest hpair hc closed text after heq ih =>
      by_cases hb : c = '\\'
      · cases rest with
        | nil =>
            obtain ⟨rfl, rfl, rfl⟩ : false = closed ∧ [] = text ∧ [] = after := by
              simpa [untilQuote] using heq
            exact .inr ⟨[], [], [c], .nil, .inr (by rw [hb]), rfl, rfl⟩
        | cons d rest => exact (hpair d rest hb rfl).elim
      rcases ih with ⟨w, m, a, hbody, rfl, h⟩ | ⟨w, m, l, hbody, hlast, rfl, h⟩
      · rw [heq] at h
        obtain ⟨rfl, rfl, rfl⟩ := by simpa using h
        exact .inl ⟨_, _, _, hbody.plain hc hb, rfl, rfl⟩
      · rw [heq] at h
        obtain ⟨rfl, rfl, rfl⟩ := by simpa using h
        exact .inr ⟨_, _, _, hbody.plain hc hb, hlast, rfl, rfl⟩

/-- No form with a quote in front reaches beyond what the reader takes. -/
theorem length_body_le {quote : Char} {written meant last cs : List Char}
    (h : QuotedBody quote written meant) (hlast : last = [] ∨ last = ['\\'] ∨ last = [quote])
    (hcs : written ++ last <+: cs) :
    (written ++ last).length ≤ (untilQuote quote cs).2.1.length := by
  induction h generalizing cs with
  | nil =>
      rcases hlast with rfl | rfl | rfl
      · exact Nat.zero_le _
      · obtain ⟨rest, rfl⟩ := hcs
        cases rest with
        | nil =>
            simp only [List.nil_append, List.append_nil, untilQuote]
            split <;> simp
        | cons c rest => simp [untilQuote]
      · obtain ⟨rest, rfl⟩ := hcs
        by_cases hq : quote = '\\'
        · cases rest <;> simp [untilQuote, hq]
        · simp [untilQuote, hq]
  | @plain c written meant hc hb _ ih =>
      obtain ⟨rest, rfl⟩ := hcs
      have := ih ⟨rest, rfl⟩
      simpa [untilQuote, hc, hb] using this
  | @escaped c written meant _ ih =>
      obtain ⟨rest, rfl⟩ := hcs
      have := ih ⟨rest, rfl⟩
      simpa [untilQuote] using this

/-! ## Rows of characters -/

theorem length_le_takeWhile {p : Char → Bool} {xs cs : List Char} (h : ∀ x ∈ xs, p x = true)
    (hcs : xs <+: cs) : xs.length ≤ (cs.takeWhile p).length := by
  obtain ⟨rest, rfl⟩ := hcs
  rw [List.takeWhile_append_of_pos h, List.length_append]
  exact Nat.le_add_right _ _

theorem isNumeral_numeral {c : Char} (hc : isAsciiDigit c = true) (cs : List Char) :
    IsNumeral (numeral (c :: cs)).1 := by
  have hne : (c :: cs).takeWhile isAsciiDigit ≠ [] := by simp [hc]
  have hwhole : ∀ d ∈ (c :: cs).takeWhile isAsciiDigit, isAsciiDigit d = true :=
    fun _ hd => List.mem_takeWhile_imp hd
  unfold numeral
  split
  · rename_i rest _
    exact ⟨_, _, _, rfl, hne, hwhole, .some fun _ hd => List.mem_takeWhile_imp hd⟩
  · exact ⟨_, [], [], (List.append_nil _).symm, hne, hwhole, .none⟩

/-- No numeral at the same place is longer than the one that is read. -/
theorem length_numeral_le {text cs : List Char} (h : IsNumeral text) (hcs : text <+: cs) :
    text.length ≤ (numeral cs).1.length := by
  obtain ⟨whole, point, digits, rfl, -, hwhole, hpoint⟩ := h
  obtain ⟨rest, rfl⟩ := hcs
  cases hpoint with
  | none =>
      rw [List.append_nil]
      have hlength := length_le_takeWhile hwhole (List.prefix_append whole rest)
      refine Nat.le_trans hlength ?_
      unfold numeral
      split <;> simp
  | some hdigits =>
      have hpoint : isAsciiDigit '.' = false := rfl
      simp [numeral, List.takeWhile_append_of_pos hwhole, List.dropWhile_append_of_pos hwhole,
        List.takeWhile_append_of_pos hdigits, hpoint]

/-- A numeral is read as the number that its digits write. -/
theorem readUnsigned_numeral {whole point digits : List Char} (hne : whole ≠ [])
    (hwhole : ∀ d ∈ whole, isAsciiDigit d = true) (hpoint : Fraction point digits) :
    Decimal.readUnsigned? (whole ++ point) = some (Decimal.ofParts whole digits 0) := by
  cases hpoint with
  | none =>
      rw [List.append_nil]
      simp [Decimal.readUnsigned?, List.takeWhile_eq_self_iff.2 hwhole,
        List.dropWhile_eq_nil_iff.2 hwhole, hne, Decimal.readPower?]
  | some hdigits =>
      have hpoint : isAsciiDigit '.' = false := rfl
      simp [Decimal.readUnsigned?, List.takeWhile_append_of_pos hwhole,
        List.dropWhile_append_of_pos hwhole, List.takeWhile_eq_self_iff.2 hdigits,
        List.dropWhile_eq_nil_iff.2 hdigits, hpoint, hne, Decimal.readPower?]

theorem read_numeral {sign whole point digits : List Char} {negative : Bool}
    (hsign : sign = [] ∧ negative = false ∨ sign = ['-'] ∧ negative = true) (hne : whole ≠ [])
    (hwhole : ∀ d ∈ whole, isAsciiDigit d = true) (hpoint : Fraction point digits) :
    Binary64.read? (sign ++ (whole ++ point)) =
      some ((Decimal.ofParts whole digits 0).toBinary64 negative) := by
  have hread := readUnsigned_numeral hne hwhole hpoint
  have htake : Decimal.takeSign (sign ++ (whole ++ point)) = (negative, whole ++ point) := by
    rcases hsign with ⟨rfl, rfl⟩ | ⟨rfl, rfl⟩
    · cases whole with
      | nil => exact absurd rfl hne
      | cons d whole =>
          have hd := hwhole d List.mem_cons_self
          unfold Decimal.takeSign
          split
          · simp_all [isAsciiDigit]
          · simp_all [isAsciiDigit]
          · rfl
    · rfl
  simp [Binary64.read?, htake, hread]

theorem form_number {sign text rest : List Char} {negative : Bool}
    (hsign : sign = [] ∧ negative = false ∨ sign = ['-'] ∧ negative = true)
    (h : IsNumeral text) :
    LexemeForm (sign ++ text) (token ⟨.number, sign ++ text, rest⟩) := by
  obtain ⟨whole, point, digits, rfl, hne, hwhole, hpoint⟩ := h
  simp only [token, read_numeral hsign hne hwhole hpoint]
  exact .number hsign hne hwhole hpoint

end Lexeme

end EntryFilter
