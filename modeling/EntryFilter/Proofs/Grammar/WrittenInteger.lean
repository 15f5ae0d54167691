import EntryFilter.Proofs.Grammar.Composition
import EntryFilter.Proofs.Number.Digits

/-! # Reading written integers

An integer is written in decimal digits, behind a minus sign if it is negative. The lexer cuts it
as one token, the number of the binary format that is nearest to it. -/

namespace EntryFilter

open EntryFilter.Text

namespace Decimal

/-- The digits of an integer that is not too long are rounded to the number nearest to it. -/
theorem toBinary64_natText {n : Int} (h : digitCount n.natAbs ≤ 310) :
    (ofParts (natText n.natAbs) [] 0).toBinary64 (n < 0) = .ofInt n := by
  have hsmall : ¬ 310 < (digitCount n.natAbs : Int) + 0 := by omega
  have hlarge : ¬ (digitCount n.natAbs : Int) + 0 < -330 := by omega
  simp only [ofParts, toBinary64, List.append_nil, ofDigits_natText, List.length_nil,
    Int.natCast_zero, Int.sub_zero, if_neg hsmall, if_neg hlarge]
  split
  · rename_i hzero
    simp [Binary64.ofInt, Binary64.ofRatio, hzero]
  · simp [Binary64.ofInt]

end Decimal

open Decimal

/-- The sign of a written integer. -/
theorem exists_sign_intText (n : Int) : ∃ sign, intText n = sign ++ (natText n.natAbs ++ []) ∧
    (sign = [] ∧ decide (n < 0) = false ∨ sign = ['-'] ∧ decide (n < 0) = true) := by
  unfold intText
  split
  · rename_i h
    exact ⟨['-'], by simp, .inr ⟨rfl, by simpa using h⟩⟩
  · rename_i h
    exact ⟨[], by simp, .inl ⟨rfl, by simpa using h⟩⟩

namespace Lexeme

theorem numeral_digits {digits : List Char} (h : ∀ d ∈ digits, isAsciiDigit d = true) :
    numeral digits = (digits, []) := by
  simp [numeral, List.takeWhile_eq_self_iff.2 h, List.dropWhile_eq_nil_iff.2 h]

theorem cut_digits {d : Char} {digits : List Char} (h : ∀ e ∈ d :: digits, isAsciiDigit e = true) :
    cut d digits = ⟨.number, d :: digits, []⟩ := by
  have hd := h d List.mem_cons_self
  rw [cut_of_not_mem_signs (not_mem_signs_of_digit hd), if_pos hd, numeral_digits h]

theorem cut_minus_digits {d : Char} {digits : List Char}
    (h : ∀ e ∈ d :: digits, isAsciiDigit e = true) :
    cut '-' (d :: digits) = ⟨.number, '-' :: d :: digits, []⟩ := by
  have hhead : (d :: digits).head?.any isAsciiDigit = true := by simpa using h d List.mem_cons_self
  show ofMinus (d :: digits) = _
  rw [ofMinus, if_pos hhead, numeral_digits h]

/-- A written integer is cut as a whole. -/
theorem cut_intText {n : Int} {c : Char} {rest : List Char} (h : intText n = c :: rest) :
    cut c rest = ⟨.number, c :: rest, []⟩ ∧ isBlank c = false ∧ c ≠ '=' := by
  have hdigits : ∀ d ∈ natText n.natAbs, isAsciiDigit d = true :=
    fun d hd => isAsciiDigit_of_mem_natText hd
  obtain ⟨d, digits, hnat⟩ := List.exists_cons_of_ne_nil (natText_ne_nil n.natAbs)
  rw [hnat] at hdigits
  obtain ⟨sign, htext, hsign⟩ := exists_sign_intText n
  rw [List.append_nil, hnat, h] at htext
  rcases hsign with ⟨rfl, -⟩ | ⟨rfl, -⟩
  · obtain ⟨rfl, rfl⟩ := List.cons.inj htext
    have hc := hdigits c List.mem_cons_self
    refine ⟨cut_digits hdigits, isBlank_of_isAsciiDigit hc, ?_⟩
    rintro rfl
    cases hc
  · obtain ⟨rfl, rfl⟩ := List.cons.inj htext
    exact ⟨cut_minus_digits hdigits, by decide +kernel, by decide⟩

end Lexeme

theorem head_intText (n : Int) : ∀ d ∈ (intText n).head?, d ≠ '=' := by
  intro d hd
  obtain ⟨rest, hcons⟩ := List.head?_eq_some_iff.1 (Option.mem_def.1 hd)
  exact (Lexeme.cut_intText hcons).2.2

/-- A written integer is one token, the number nearest to it. -/
theorem lexes_intText {n : Int} (h : digitCount n.natAbs ≤ 310) :
    Lexes (intText n) [.number (.ofInt n)] [] := by
  obtain ⟨sign, htext, hsign⟩ := exists_sign_intText n
  have hread := Lexeme.read_numeral hsign (natText_ne_nil n.natAbs)
    (fun d hd => isAsciiDigit_of_mem_natText hd) .none
  rw [← htext, toBinary64_natText h] at hread
  have hne : intText n ≠ [] := by simp [htext, natText_ne_nil]
  obtain ⟨c, rest, hcons⟩ := List.exists_cons_of_ne_nil hne
  obtain ⟨hcut, hblank, -⟩ := Lexeme.cut_intText hcons
  rw [hcons]
  refine .cons (trimStart_of_not_blank hblank rest) ?_ ?_
  · rw [hcons] at hread
    simp only [hcut, Lexeme.token, hread]
  · rw [hcut]
    exact .nil []

end EntryFilter
