import EntryFilter.Json.Printer
import EntryFilter.Json.Token
import EntryFilter.Proofs.Number.Shortest
import EntryFilter.Proofs.Text.Front

/-! # Written numbers in JSON

A numeral is the token in front of every text that does not make it longer. Integers and finite
numbers are both written as numerals. Those of integers have neither a point nor a power of ten,
and those of other numbers have one of them, so the two are never confused. -/

namespace EntryFilter.Json

open EntryFilter.Text EntryFilter.Decimal EntryFilter.Binary64

/-- The text does not make a number in front of it longer. -/
def EndsNumber (rest : List Char) : Prop :=
  ∀ c ∈ rest.head?, isAsciiDigit c = false ∧ c ≠ '.' ∧ c ≠ 'e' ∧ c ≠ 'E'

theorem endsNumber_nil : EndsNumber [] := by
  intro c hc
  cases hc

theorem endsNumber_cons {c : Char} (rest : List Char)
    (h : isAsciiDigit c = false ∧ c ≠ '.' ∧ c ≠ 'e' ∧ c ≠ 'E') : EndsNumber (c :: rest) := by
  intro d hd
  obtain rfl : c = d := Option.some.inj hd
  exact h

/-! ## Numerals -/

/-- One digit or more. -/
def IsDigits (digits : List Char) : Prop :=
  digits ≠ [] ∧ ∀ d ∈ digits, isAsciiDigit d = true

theorem isDigits_natText (n : Nat) : IsDigits (natText n) :=
  ⟨natText_ne_nil n, fun _ h => isAsciiDigit_of_mem_natText h⟩

theorem isDigits_zeros_append (count : Nat) {digits : List Char} (h : IsDigits digits) :
    IsDigits (List.replicate count '0' ++ digits) := by
  refine ⟨by simp [h.1], fun d hd => ?_⟩
  rcases List.mem_append.1 hd with hzero | hd
  · exact isAsciiDigit_of_mem_zeros hzero
  · exact h.2 d hd

namespace Numeral

/-- The point and the digits after it. -/
def fractionText : Option (List Char) → List Char
  | none => []
  | some digits => '.' :: digits

/-- The power of ten, with its sign. -/
def powerText : Option (Bool × List Char) → List Char
  | none => []
  | some (below, digits) => 'e' :: (if below then '-' else '+') :: digits

/-- How a numeral is written. -/
def text (n : Numeral) : List Char :=
  signText n.negative ++ (n.whole ++ (fractionText n.fraction ++ powerText n.power))

/-- All rows of digits have digits, and no zero stands in front of another digit. -/
structure IsWritten (n : Numeral) : Prop where
  whole : IsDigits n.whole
  noZeros : n.whole.head? = some '0' → n.whole = ['0']
  fraction : ∀ digits ∈ n.fraction, IsDigits digits
  power : ∀ p ∈ n.power, IsDigits p.2

end Numeral

theorem digits?_append {digits rest : List Char} (h : IsDigits digits)
    (hrest : ∀ c ∈ rest.head?, isAsciiDigit c = false) :
    digits? (digits ++ rest) = some (digits, rest) := by
  obtain ⟨htake, hdrop⟩ := takeWhile_append_of_head digits hrest
  rw [digits?, htake, hdrop, List.takeWhile_eq_self_iff.2 h.2, List.dropWhile_eq_nil_iff.2 h.2,
    List.nil_append]
  cases digits with
  | nil => exact absurd rfl h.1
  | cons d digits => rfl

theorem wholeDigits?_append {digits rest : List Char} (h : IsDigits digits)
    (hzeros : digits.head? = some '0' → digits = ['0'])
    (hrest : ∀ c ∈ rest.head?, isAsciiDigit c = false) :
    wholeDigits? (digits ++ rest) = some (digits, rest) := by
  rw [wholeDigits?, digits?_append h hrest]
  split
  · rename_i heq
    simp only [Option.some.injEq, Prod.mk.injEq] at heq
    rw [heq.1] at hzeros
    simp at hzeros
  · rfl

theorem power?_append {power : Option (Bool × List Char)} {rest : List Char}
    (h : ∀ p ∈ power, IsDigits p.2) (hrest : EndsNumber rest) :
    power? (Numeral.powerText power ++ rest) = some (power, rest) := by
  cases power with
  | none =>
      cases rest with
      | nil => rfl
      | cons c rest =>
          obtain ⟨-, -, he, hE⟩ := hrest c rfl
          simp [Numeral.powerText, power?, he, hE]
  | some p =>
      obtain ⟨below, digits⟩ := p
      have hread := digits?_append (h (below, digits) rfl) fun c hc => (hrest c hc).1
      cases below <;> simp [Numeral.powerText, power?, takeSign, hread]

theorem head?_powerText_append {power : Option (Bool × List Char)} {rest : List Char}
    (hrest : EndsNumber rest) :
    ∀ c ∈ (Numeral.powerText power ++ rest).head?, isAsciiDigit c = false ∧ c ≠ '.' := by
  intro c hc
  cases power with
  | none => exact ⟨(hrest c hc).1, (hrest c hc).2.1⟩
  | some p =>
      obtain rfl : 'e' = c := Option.some.inj hc
      decide

theorem fraction?_append {fraction : Option (List Char)} {rest : List Char}
    (h : ∀ digits ∈ fraction, IsDigits digits)
    (hrest : ∀ c ∈ rest.head?, isAsciiDigit c = false ∧ c ≠ '.') :
    fraction? (Numeral.fractionText fraction ++ rest) = some (fraction, rest) := by
  cases fraction with
  | none =>
      cases rest with
      | nil => rfl
      | cons c rest =>
          obtain ⟨-, hpoint⟩ := hrest c rfl
          simp [Numeral.fractionText, fraction?, hpoint]
  | some digits =>
      have hread := digits?_append (h digits rfl) fun c hc => (hrest c hc).1
      simp [Numeral.fractionText, fraction?, hread]

theorem numeral?_append {n : Numeral} (h : n.IsWritten) {rest : List Char}
    (hrest : EndsNumber rest) :
    numeral? n.negative
      (n.whole ++ (Numeral.fractionText n.fraction ++ Numeral.powerText n.power) ++ rest) =
      some (n, rest) := by
  have hpower := power?_append h.power hrest
  have hpowerHead : ∀ c ∈ (Numeral.powerText n.power ++ rest).head?,
      isAsciiDigit c = false ∧ c ≠ '.' := head?_powerText_append hrest
  have hfraction := fraction?_append h.fraction hpowerHead
  have hhead : ∀ c ∈ (Numeral.fractionText n.fraction ++
      (Numeral.powerText n.power ++ rest)).head?, isAsciiDigit c = false := by
    intro c hc
    cases hcase : n.fraction with
    | none =>
        rw [hcase] at hc
        exact (head?_powerText_append hrest c hc).1
    | some digits =>
        rw [hcase] at hc
        obtain rfl : '.' = c := Option.some.inj hc
        decide
  have hwhole := wholeDigits?_append h.whole h.noZeros hhead
  rw [List.append_assoc, List.append_assoc]
  simp [numeral?, hwhole, hfraction, hpower]

/-- A text that starts with a digit is a number, if it is a token at all. -/
theorem token?_of_numeral? {cs rest : List Char} {n : Numeral}
    (h : numeral? false cs = some (n, rest)) : token? cs = some (.number n, rest) := by
  have hdigit : ∀ c tail, cs = c :: tail → isAsciiDigit c = true := by
    rintro c tail rfl
    refine Decidable.byContradiction fun hc => ?_
    simp [numeral?, wholeDigits?, digits?, hc] at h
  unfold token?
  split
  case h_12 => simp [h]
  all_goals exact absurd (hdigit _ _ rfl) (by decide)

/-- A written numeral is the token in front of every text that does not make it longer. -/
theorem token?_numeral {n : Numeral} (h : n.IsWritten) {rest : List Char}
    (hrest : EndsNumber rest) : token? (n.text ++ rest) = some (.number n, rest) := by
  have hread := numeral?_append h hrest
  rw [Numeral.text, List.append_assoc]
  cases hsign : n.negative with
  | false =>
      rw [hsign] at hread
      exact token?_of_numeral? hread
  | true =>
      rw [hsign] at hread
      simp only [signText, if_true, List.singleton_append, token?, hread, Option.map_some]

/-! ## Integers -/

/-- The integers that are read as integers. -/
def IsWhole (n : Int) : Prop := isInt64 n = true ∨ 0 ≤ n ∧ n < UInt64.size

/-- The numeral of an integer. -/
def integerNumeral (n : Int) : Numeral := ⟨n < 0, natText n.natAbs, none, none⟩

theorem isWritten_integerNumeral (n : Int) : (integerNumeral n).IsWritten where
  whole := isDigits_natText n.natAbs
  noZeros := by
    intro hzero
    refine Decidable.byContradiction fun hne => head?_natText_ne ?_ hzero
    rintro hn
    exact hne (by rw [integerNumeral, hn]; rfl)
  fraction := by
    intro digits h
    cases h
  power := by
    intro p h
    cases h

theorem text_integerNumeral (n : Int) : (integerNumeral n).text = intText n := by
  rw [intText]
  split <;>
    simp [integerNumeral, Numeral.text, Numeral.fractionText, Numeral.powerText, signText, *]

/-- An integer is read as the integer that it was written for. -/
theorem toJson_integerNumeral {n : Int} (h : IsWhole n) :
    (integerNumeral n).toJson = .integer n := by
  simp only [IsWhole, isInt64, Bool.and_eq_true, decide_eq_true_eq, UInt64.size] at h
  simp only [Numeral.toJson, integerNumeral, ofDigits_natText, isInt64, Bool.and_eq_true,
    decide_eq_true_eq, UInt64.size]
  by_cases hn : n < 0
  · have habs : -(n.natAbs : Int) = n := by omega
    rw [if_pos hn, habs, if_pos (by omega)]
  · have habs : (n.natAbs : Int) = n := by omega
    rw [if_neg hn, if_pos (by omega), habs]

/-! ## Other numbers -/

/-- The numeral shows that its number is not an integer. -/
def Numeral.IsFractional (n : Numeral) : Prop := n.fraction.isSome = true ∨ n.power.isSome = true

theorem Numeral.IsFractional.toJson {n : Numeral} (h : n.IsFractional) :
    n.toJson = .decimal n.toBinary64 := by
  obtain ⟨negative, whole, fraction, power⟩ := n
  cases fraction with
  | some digits => rfl
  | none =>
      cases power with
      | some p => rfl
      | none => exact absurd h (by simp [IsFractional])

variable {d : Decimal}

theorem head?_natText_append {n : Nat} (h : n ≠ 0) (rest : List Char) :
    (natText n ++ rest).head? ≠ some '0' := by
  obtain ⟨c, digits, hcons⟩ := List.exists_cons_of_ne_nil (natText_ne_nil n)
  have hhead := head?_natText_ne h
  rw [hcons] at hhead ⊢
  exact hhead

theorem Numeral.isWritten_point (negative : Bool) {whole fraction : List Char}
    (hwhole : IsDigits whole) (hzeros : whole.head? = some '0' → whole = ['0'])
    (hfraction : IsDigits fraction) : IsWritten ⟨negative, whole, some fraction, none⟩ where
  whole := hwhole
  noZeros := hzeros
  fraction := by
    rintro _ ⟨⟩
    exact hfraction
  power := by
    rintro _ ⟨⟩

theorem Numeral.text_point (negative : Bool) (whole fraction : List Char) :
    text ⟨negative, whole, some fraction, none⟩ =
      signText negative ++ (whole ++ '.' :: fraction) := by
  simp [text, fractionText, powerText]

/-- A decimal in positional notation, with a point. -/
theorem exists_numeral_positional (negative : Bool) (h : d.digits = 0 → d.exponent = 0) :
    ∃ n : Numeral, n.IsWritten ∧ n.IsFractional ∧ n.text = signText negative ++
      if 0 ≤ d.exponent then d.positional ++ ['.', '0'] else d.positional := by
  have hdigits := isDigits_natText d.digits
  by_cases hexponent : 0 ≤ d.exponent
  · -- a whole number, with zeros behind its digits
    let whole := natText d.digits ++ List.replicate d.exponent.toNat '0'
    have hwhole : IsDigits whole := by
      refine ⟨by simp [whole, hdigits.1], fun c hc => ?_⟩
      rcases List.mem_append.1 hc with hc | hc
      · exact hdigits.2 c hc
      · exact isAsciiDigit_of_mem_zeros hc
    have hzeros : whole.head? = some '0' → whole = ['0'] := by
      intro hhead
      by_cases hne : d.digits = 0
      · simp [whole, hne, h hne, natText_zero]
      · exact absurd hhead (head?_natText_append hne _)
    refine ⟨_, Numeral.isWritten_point negative hwhole hzeros (isDigits_natText 0), .inl rfl, ?_⟩
    rw [Numeral.text_point]
    simp [whole, positional, hexponent, natText_zero]
  · have hne : d.digits ≠ 0 := fun hzero => hexponent (Int.le_of_eq (h hzero).symm)
    let places := (-d.exponent).toNat
    by_cases hshort : (natText d.digits).length ≤ places
    · -- all digits stand behind the point
      have hfraction := isDigits_zeros_append (places - (natText d.digits).length) hdigits
      refine ⟨_, Numeral.isWritten_point negative (isDigits_natText 0) (fun _ => rfl) hfraction,
        .inl rfl, ?_⟩
      rw [Numeral.text_point]
      simp [positional, hexponent, hshort, places, natText_zero]
    · -- the point stands among the digits
      let whole := (natText d.digits).length - places
      have hlength : whole < (natText d.digits).length := by omega
      have hwhole : IsDigits ((natText d.digits).take whole) :=
        ⟨List.ne_nil_of_length_pos (by rw [List.length_take]; omega),
          fun c hc => hdigits.2 c (List.mem_of_mem_take hc)⟩
      have hfraction : IsDigits ((natText d.digits).drop whole) :=
        ⟨List.ne_nil_of_length_pos (by rw [List.length_drop]; omega),
          fun c hc => hdigits.2 c (List.mem_of_mem_drop hc)⟩
      have hzeros : ((natText d.digits).take whole).head? ≠ some '0' := by
        intro hhead
        refine head?_natText_ne hne ?_
        rw [← List.take_append_drop whole (natText d.digits), List.head?_append, hhead]
        rfl
      refine ⟨_, Numeral.isWritten_point negative hwhole (absurd · hzeros) hfraction, .inl rfl, ?_⟩
      rw [Numeral.text_point]
      simp [positional, hexponent, hshort, places, whole]

/-- A decimal in scientific notation, with a power of ten. -/
theorem exists_numeral_scientific (negative : Bool) (d : Decimal) :
    ∃ n : Numeral, n.IsWritten ∧ n.IsFractional ∧ n.text = signText negative ++ d.scientific := by
  have hpower : IsDigits (natText d.leadingExponent.natAbs) := isDigits_natText _
  have hdigits := isDigits_natText d.digits
  let power := some (decide (d.leadingExponent < 0), natText d.leadingExponent.natAbs)
  have hsign : Numeral.powerText power =
      (if d.leadingExponent < 0 then ['e', '-'] else ['e', '+']) ++
        natText d.leadingExponent.natAbs := by
    by_cases hneg : d.leadingExponent < 0 <;> simp [power, Numeral.powerText, hneg]
  obtain ⟨c, more, hcons⟩ := List.exists_cons_of_ne_nil (natText_ne_nil d.digits)
  rw [hcons] at hdigits
  have hc : IsDigits [c] := ⟨by simp, by simpa using hdigits.2 c List.mem_cons_self⟩
  have hzeros : [c].head? = some '0' → [c] = ['0'] := by simp
  cases more with
  | nil =>
      refine ⟨⟨negative, [c], none, power⟩, ⟨hc, hzeros, ?_, ?_⟩, .inr rfl, ?_⟩
      · rintro _ ⟨⟩
      · rintro _ ⟨⟩
        exact hpower
      · simp [Numeral.text, Numeral.fractionText, hsign, scientific, hcons]
  | cons e more =>
      refine ⟨⟨negative, [c], some (e :: more), power⟩, ⟨hc, hzeros, ?_, ?_⟩, .inl rfl, ?_⟩
      · rintro _ ⟨⟩
        exact ⟨by simp, fun b hb => hdigits.2 b (List.mem_cons_of_mem c hb)⟩
      · rintro _ ⟨⟩
        exact hpower
      · simp [Numeral.text, Numeral.fractionText, hsign, scientific, hcons]

/-- A finite number is written as a numeral that shows that it is not an integer. -/
theorem exists_numeral_jsonText {x : Binary64} (h : x.isFinite = true) :
    ∃ n : Numeral, n.IsWritten ∧ n.IsFractional ∧ n.text = x.jsonText := by
  cases x with
  | nan => cases h
  | infinity negative => cases h
  | finite negative significand exponent canonical =>
      let d := shortest .toEven significand exponent
      have hzero : d.digits = 0 → d.exponent = 0 := by
        intro hd
        have hsignificand : significand = 0 :=
          Decidable.byContradiction fun hne => digits_shortest_ne_zero .toEven hne exponent hd
        simp [d, shortest, hsignificand]
      obtain ⟨n, hn, hfractional, htext⟩ := exists_numeral_positional negative hzero
      obtain ⟨n', hn', hfractional', htext'⟩ := exists_numeral_scientific negative d
      rw [jsonText, fractional]
      split
      · exact ⟨n, hn, hfractional, htext⟩
      · exact ⟨n', hn', hfractional', htext'⟩

end EntryFilter.Json
