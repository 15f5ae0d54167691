import EntryFilter.Proofs.Number.Digits
import EntryFilter.Proofs.Text.Front
import EntryFilter.Timestamp

/-! # Timestamps read back

A written timestamp is read part by part: each number has as many digits as the reader takes, and a
mark that is no digit stands behind it. -/

namespace EntryFilter.Timestamp

open EntryFilter.Decimal EntryFilter.Text

variable {width n : Nat} {rest : List Char}

/-! ## Numbers with zeros in front -/

theorem ofDigits_zeros_append (k : Nat) (digits : List Char) :
    ofDigits (List.replicate k '0' ++ digits) = ofDigits digits := by
  induction k with
  | zero => rfl
  | succ k ih => simpa [List.replicate_succ, ofDigits] using ih

theorem ofDigits_padded (width n : Nat) : ofDigits (padded width n) = n := by
  rw [padded, ofDigits_zeros_append, ofDigits_natText]

theorem isAsciiDigit_of_mem_padded {d : Char} (h : d ∈ padded width n) : isAsciiDigit d = true := by
  rcases List.mem_append.1 h with hzero | hdigit
  · exact isAsciiDigit_of_mem_zeros hzero
  · exact isAsciiDigit_of_mem_natText hdigit

theorem padded_ne_nil (width n : Nat) : padded width n ≠ [] := by
  simp [padded, natText_ne_nil]

theorem length_padded (hwidth : 0 < width) (h : n < 10 ^ width) :
    (padded width n).length = width := by
  have hdigits := (Nat.length_toDigits_le_iff (by decide) hwidth).2 h
  simp only [padded, List.length_append, List.length_replicate, natText]
  omega

theorem exists_cons_padded (width n : Nat) :
    ∃ d digits, padded width n = d :: digits ∧ isAsciiDigit d = true := by
  obtain ⟨d, digits, h⟩ := List.exists_cons_of_ne_nil (padded_ne_nil width n)
  exact ⟨d, digits, h, isAsciiDigit_of_mem_padded (h ▸ List.mem_cons_self)⟩

theorem trimStart_padded (width n : Nat) (rest : List Char) :
    trimStart (padded width n ++ rest) = padded width n ++ rest := by
  obtain ⟨d, digits, h, hd⟩ := exists_cons_padded width n
  rw [h]
  exact trimStart_of_not_blank (isBlank_of_isAsciiDigit hd) (digits ++ rest)

/-! ## Reading parts -/

/-- No digit stands at the front of the text. -/
def EndsDigits (rest : List Char) : Prop := ∀ c ∈ rest.head?, isAsciiDigit c = false

theorem endsDigits_cons {c : Char} (h : isAsciiDigit c = false) (rest : List Char) :
    EndsDigits (c :: rest) := by
  intro d hd
  rwa [← Option.some.inj hd]

theorem takeWhile_padded (hrest : EndsDigits rest) :
    (padded width n ++ rest).takeWhile isAsciiDigit = padded width n := by
  rw [(takeWhile_append_of_head _ hrest).1, List.takeWhile_eq_self_iff]
  exact fun d hd => isAsciiDigit_of_mem_padded hd

theorem digits?_padded (hrest : EndsDigits rest) :
    digits? none (padded width n ++ rest) = some (padded width n, rest) := by
  simp [digits?, takeWhile_padded hrest, padded_ne_nil]

theorem digits?_padded_of_lt (hwidth : 0 < width) (h : n < 10 ^ width) (hrest : EndsDigits rest) :
    digits? (some width) (padded width n ++ rest) = some (padded width n, rest) := by
  have hlength := length_padded hwidth h
  have htake : (padded width n).take width = padded width n := List.take_of_length_le hlength.le
  simp only [digits?, takeWhile_padded hrest, htake, List.drop_left, List.isEmpty_iff,
    padded_ne_nil, if_false]

theorem part?_padded (hwidth : 0 < width) (h : n < 10 ^ width) (hrest : EndsDigits rest) :
    part? width (padded width n ++ rest) = some (n, rest) := by
  rw [part?, trimStart_padded, digits?_padded_of_lt hwidth h hrest, Option.map_some]
  simp only [ofDigits_padded]

theorem mark?_cons {mark : Char} (h : isBlank mark = false) (rest : List Char) :
    mark? mark (mark :: rest) = some rest := by
  simp [mark?, trimStart_of_not_blank h]

theorem year?_of_digit {d : Char} (h : isAsciiDigit d = true) (cs : List Char) :
    year? (d :: cs) = (digits? (some 4) (d :: cs)).map
      fun (digits, after) => ((ofDigits digits : Int), after) := by
  rw [year?, trimStart_of_not_blank (isBlank_of_isAsciiDigit h)]
  split
  · rename_i heq
    obtain ⟨rfl, rfl⟩ := List.cons.inj heq
    cases h
  · rename_i heq
    obtain ⟨rfl, rfl⟩ := List.cons.inj heq
    cases h
  · rfl

theorem year?_yearText (year : Int) (hrest : EndsDigits rest) :
    year? (yearText year ++ rest) = some (year, rest) := by
  unfold yearText
  by_cases hfour : 0 ≤ year ∧ year ≤ 9999
  · have hread : digits? (some 4) (padded 4 year.natAbs ++ rest) = _ :=
      digits?_padded_of_lt (by decide) (by omega) hrest
    obtain ⟨d, digits, hcons, hd⟩ := exists_cons_padded 4 year.natAbs
    rw [if_pos hfour]
    rw [hcons] at hread ⊢
    rw [List.cons_append, year?_of_digit hd, ← List.cons_append, hread, Option.map_some, ← hcons]
    have hvalue : (year.natAbs : Int) = year := by omega
    simp only [ofDigits_padded, hvalue]
  · have hread : digits? none (padded 4 year.natAbs ++ rest) = _ := digits?_padded hrest
    rw [if_neg hfour]
    by_cases hsign : year < 0
    · have hvalue : -(year.natAbs : Int) = year := by omega
      rw [if_pos hsign, List.cons_append, year?,
        trimStart_of_not_blank (by decide : isBlank '-' = false)]
      simp only [hread, Option.map_some, ofDigits_padded, hvalue]
    · have hvalue : (year.natAbs : Int) = year := by omega
      rw [if_neg hsign, List.cons_append, year?,
        trimStart_of_not_blank (by decide : isBlank '+' = false)]
      simp only [hread, Option.map_some, ofDigits_padded, hvalue]

/-- A fraction of a second written in fewer digits than nine stands for more nanoseconds. -/
theorem fraction?_padded (hwidth : 0 < width) (hnine : width ≤ 9) (h : n < 10 ^ width)
    (hrest : EndsDigits rest) :
    fraction? ('.' :: (padded width n ++ rest)) = some (n * 10 ^ (9 - width), rest) := by
  have hlength := length_padded hwidth h
  have htake : (padded width n).take 9 = padded width n := List.take_of_length_le (by omega)
  simp only [fraction?, digits?_padded hrest, Option.map_some, htake, ofDigits_padded, hlength,
    Nat.pow_eq]

theorem fraction?_fractionText (h : n < 1000000000) :
    fraction? (fractionText n ++ ['Z']) = some (n, ['Z']) := by
  have hrest : EndsDigits ['Z'] := endsDigits_cons (by decide) []
  unfold fractionText
  split
  · rename_i hzero
    subst hzero
    rfl
  · split
    · have hvalue : n / 1000000 * 10 ^ (9 - 3) = n := by omega
      rw [List.cons_append, fraction?_padded (by decide) (by decide) (by omega) hrest, hvalue]
    · split
      · have hvalue : n / 1000 * 10 ^ (9 - 6) = n := by omega
        rw [List.cons_append, fraction?_padded (by decide) (by decide) (by omega) hrest, hvalue]
      · have hvalue : n * 10 ^ (9 - 9) = n := by omega
        rw [List.cons_append, fraction?_padded (by decide) (by decide) (by omega) hrest, hvalue]

/-! ## The calendar -/

theorem daysInMonth_le (year : Int) (month : Nat) : Calendar.daysInMonth year month ≤ 31 := by
  have hleap : (if Calendar.isLeapYear year then 29 else 28) ≤ 31 := by
    split <;> decide
  unfold Calendar.daysInMonth
  split
  all_goals first | decide | exact hleap

theorem month_le_of_daysInMonth {year : Int} {month : Nat}
    (h : 0 < Calendar.daysInMonth year month) : month ≤ 12 := by
  unfold Calendar.daysInMonth at h
  split at h
  all_goals omega

theorem month_day_le (t : Timestamp) : t.month ≤ 12 ∧ t.day ≤ 31 := by
  have hdate := t.isDate
  simp only [Calendar.isDate, Bool.and_eq_true, decide_eq_true_eq] at hdate
  have hdays := daysInMonth_le t.year t.month
  have hpositive : 0 < Calendar.daysInMonth t.year t.month := by omega
  exact ⟨month_le_of_daysInMonth hpositive, by omega⟩

/-! ## The whole timestamp -/

/-- A time without an offset is its own universal time. -/
theorem ofLocal?_self (t : Timestamp) :
    ofLocal? t.year t.month t.day t.hour t.minute t.second t.nanosecond 0 = some t := by
  obtain ⟨year, month, day, hour, minute, second, nanosecond, hdate, htime⟩ := t
  have hclock : hour < 24 ∧ minute < 60 := by
    simp only [Calendar.isTime, Bool.and_eq_true, decide_eq_true_eq] at htime
    exact ⟨htime.1.1.1, htime.1.1.2⟩
  have hlow : ¬ (hour * 60 + minute : Int) < 0 := by omega
  have hhigh : (hour * 60 + minute : Int) < 1440 := by omega
  have hminutes : ((hour * 60 + minute : Int) % 1440).toNat = hour * 60 + minute := by omega
  have hhour : (hour * 60 + minute) / 60 = hour := by omega
  have hminute : (hour * 60 + minute) % 60 = minute := by omega
  simp [ofLocal?, hdate, htime, hlow, hhigh, hminutes, hhour, hminute, ofParts?]

theorem endsDigits_fractionText (n : Nat) : EndsDigits (fractionText n ++ ['Z']) := by
  unfold fractionText
  split
  · exact endsDigits_cons (by decide) _
  · split
    · exact endsDigits_cons (by decide) _
    · split <;> exact endsDigits_cons (by decide) _

/-- A written timestamp is read back. -/
theorem read?_toChars (t : Timestamp) : read? t.toChars = some t := by
  have htime := t.isTime
  simp only [Calendar.isTime, Bool.and_eq_true, decide_eq_true_eq] at htime
  obtain ⟨⟨⟨hhour, hminute⟩, hsecond⟩, hnanosecond⟩ := htime
  obtain ⟨hmonth, hday⟩ := t.month_day_le
  have hdash (cs : List Char) : EndsDigits ('-' :: cs) := endsDigits_cons (by decide) cs
  have hcolon (cs : List Char) : EndsDigits (':' :: cs) := endsDigits_cons (by decide) cs
  have hsign (cs : List Char) : EndsDigits ('T' :: cs) := endsDigits_cons (by decide) cs
  have htwo {n : Nat} {rest : List Char} (hn : n < 100) (hrest : EndsDigits rest) :
      part? 2 (padded 2 n ++ rest) = some (n, rest) := part?_padded (by decide) hn hrest
  have hdashMark (cs : List Char) : mark? '-' ('-' :: cs) = some cs := mark?_cons (by decide) cs
  have hcolonMark (cs : List Char) : mark? ':' (':' :: cs) = some cs := mark?_cons (by decide) cs
  have hseparator (cs : List Char) : separator? ('T' :: cs) = some cs := rfl
  have hzone : zone? ['Z'] = some (0, []) := rfl
  simp only [toChars, List.append_assoc, List.cons_append, read?, Option.bind_eq_bind,
    year?_yearText t.year (hdash _), hdashMark, htwo (by omega : t.month < 100) (hdash _),
    htwo (by omega : t.day < 100) (hsign _), hseparator,
    htwo (by omega : t.hour < 100) (hcolon _), hcolonMark,
    htwo (by omega : t.minute < 100) (hcolon _),
    htwo (by omega : t.second < 100) (endsDigits_fractionText _),
    fraction?_fractionText hnanosecond, hzone, Option.bind_some]
  exact ofLocal?_self t

end EntryFilter.Timestamp
