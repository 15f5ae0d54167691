import EntryFilter.Text.Cut
import EntryFilter.Text.Letter
import Mathlib.Data.List.TakeWhile

/-! # The front of a text

Trimming stops at the first character that is not blank, such as a digit, and a piece of text is
taken off up to the first character that cannot belong to it. -/

namespace EntryFilter

open EntryFilter.Text

/-! ## Digits are no blanks -/

theorem mem_digits {c : Char} (h : isAsciiDigit c = true) :
    c ∈ ['0', '1', '2', '3', '4', '5', '6', '7', '8', '9'] := by
  simp only [isAsciiDigit, Bool.and_eq_true, decide_eq_true_eq, Char.le_def] at h
  obtain ⟨hlow, hhigh⟩ := h
  have hlow : 48 ≤ c.toNat := hlow
  have hhigh : c.toNat ≤ 57 := hhigh
  have hcode : ∀ n, n < 10 → Char.ofNat (48 + n) ∈
      ['0', '1', '2', '3', '4', '5', '6', '7', '8', '9'] := by decide
  have := hcode (c.toNat - 48) (by omega)
  rwa [Nat.add_sub_cancel' hlow, Char.ofNat_toNat] at this

theorem isBlank_of_isAsciiDigit {c : Char} (h : isAsciiDigit c = true) : isBlank c = false := by
  have hdigits : ['0', '1', '2', '3', '4', '5', '6', '7', '8', '9'].all (!isBlank ·) = true := by
    decide +kernel
  simpa only [Bool.not_eq_true'] using List.all_eq_true.1 hdigits c (mem_digits h)

/-! ## Trimming -/

theorem trimStart_of_not_blank {c : Char} (h : isBlank c = false) (cs : List Char) :
    trimStart (c :: cs) = c :: cs := by
  simp [trimStart, h]

theorem trimStart_append_of_cons {cs rest : List Char} {c : Char}
    (h : trimStart cs = c :: rest) (after : List Char) :
    trimStart (cs ++ after) = c :: (rest ++ after) := by
  induction cs with
  | nil => cases h
  | cons d cs ih =>
      simp only [trimStart, List.cons_append, List.dropWhile_cons] at h ih ⊢
      split
      · rename_i hblank
        rw [if_pos hblank] at h
        exact ih h
      · rename_i hblank
        rw [if_neg hblank] at h
        obtain ⟨rfl, rfl⟩ := List.cons.inj h
        rfl

theorem trimStart_blanks_append {blanks : List Char} (h : ∀ b ∈ blanks, isBlank b = true)
    (cs : List Char) : trimStart (blanks ++ cs) = trimStart cs :=
  List.dropWhile_append_of_pos h

theorem trimStart_append_of_nil {cs : List Char} (h : trimStart cs = []) (after : List Char) :
    trimStart (cs ++ after) = trimStart after :=
  trimStart_blanks_append (List.dropWhile_eq_nil_iff.1 h) after

/-! ## Taking off a piece -/

/-- The piece ends within the text if it cannot go on behind it. -/
theorem takeWhile_append_of_head {p : Char → Bool} (cs : List Char) {after : List Char}
    (h : ∀ d ∈ after.head?, p d = false) :
    (cs ++ after).takeWhile p = cs.takeWhile p ∧
      (cs ++ after).dropWhile p = cs.dropWhile p ++ after := by
  induction cs with
  | nil =>
      cases after with
      | nil => simp
      | cons d after =>
          have hd : p d = false := h d rfl
          simp [hd]
  | cons c cs ih =>
      by_cases hc : p c = true
      · simp [hc, ih]
      · simp [hc]

end EntryFilter
