import EntryFilter.Proofs.Number.Written
import EntryFilter.Proofs.Schema.IntegralFloat
import EntryFilter.Proofs.Schema.Settled

/-! # Coercion of numbers

A float becomes an integer only if it is that integer. Integers and written numbers pass through the
binary format on their way to another type, so what is not a number of the format is rounded before
anything is tested. -/

namespace EntryFilter

open Binary64 EntryFilter.Text

/-! ## Integers of the format -/

namespace Binary64

/-- Among the integers of 64 bits, the numbers of the format are those of 53 bits with zeros behind
them. -/
theorem inFormat_iff_isExact (n : Int64) : InFormat n.toInt ↔ IsExact n.toInt := by
  have hlow := n.le_toInt
  have hhigh := n.toInt_lt
  rw [← (isNearest_ofInt n.toInt).toRat?_eq_self_iff, ← toInt?_eq_some_iff,
    toInt?_ofInt (by omega), Option.some.injEq]
  constructor
  · intro h
    rw [← h]
    exact isExact_nearestInt n.toInt
  · exact nearestInt_of_isExact

end Binary64

/-! ## Coercion to integers -/

namespace Value

variable {x : Binary64} {s : String} {n : Int64}

theorem coerce_float_int_eq_ok_iff :
    (float x).coerce .int = .ok (some (.int n)) ↔ x.toRat? = some (n.toInt : ℚ) := by
  rw [coerce_float_int, ← Coercion.integral?_eq_some_iff]
  cases Coercion.integral? x <;> simp

theorem coerce_float_int_eq_error_iff : (float x).coerce .int = .error ⟨.float x, .int⟩ ↔
    ∀ n : Int64, x.toRat? ≠ some (n.toInt : ℚ) := by
  rw [coerce_float_int, ← Coercion.integral?_eq_none_iff]
  cases Coercion.integral? x <;> simp

/-- A float becomes an integer of 64 bits if and only if it is this integer, and every other float
is refused: NaN, the infinities, what is not whole and what is out of range. -/
theorem float_to_integer_spec (x : Binary64) :
    (∀ n : Int, (∃ m : Int64, m.toInt = n ∧ (float x).coerce .int = .ok (some (.int m))) ↔
      x.toRat? = some (n : ℚ) ∧ -2 ^ 63 ≤ n ∧ n < 2 ^ 63) ∧
    ((float x).coerce .int = .error ⟨.float x, .int⟩ ↔
      ∀ n : Int, x.toRat? = some (n : ℚ) → n < -2 ^ 63 ∨ 2 ^ 63 ≤ n) := by
  constructor
  · intro n
    constructor
    · rintro ⟨m, rfl, hm⟩
      exact ⟨coerce_float_int_eq_ok_iff.1 hm, m.le_toInt, m.toInt_lt⟩
    · rintro ⟨hn, hlow, hhigh⟩
      have hm : (Int64.ofInt n).toInt = n := Int64.toInt_ofInt_of_le hlow hhigh
      refine ⟨_, hm, coerce_float_int_eq_ok_iff.2 ?_⟩
      rwa [hm]
  · rw [coerce_float_int_eq_error_iff]
    constructor
    · intro h n hn
      by_contra hrange
      have hm : (Int64.ofInt n).toInt = n := Int64.toInt_ofInt_of_le (by omega) (by omega)
      exact h (.ofInt n) (by rwa [hm])
    · intro h m hm
      have hlow := m.le_toInt
      have hhigh := m.toInt_lt
      have := h m.toInt hm
      omega

/-- Text becomes the integer that the number read from it is. -/
theorem coerce_text_int (h : Binary64.read? (trim s.toList) = some x) : (text s).coerce .int =
    match Coercion.integral? x with
    | some n => .ok (some (.int n))
    | none => .error ⟨.text s, .int⟩ := by
  have hnone : Binary64.read? [] = none := by decide
  have htrim : trim s.toList ≠ [] := by
    intro hnil
    rw [hnil, hnone] at h
    cases h
  have hs : s ≠ "" := by
    rintro rfl
    exact htrim rfl
  cases hintegral : Coercion.integral? x <;>
    simp [coerce, isBlank, Coercion.outcome, Coercion.toInt, Coercion.ofTrimmed, htrim, h, hs,
      hintegral]

theorem coerce_text_int_eq_ok_iff (h : Binary64.read? (trim s.toList) = some x) :
    (text s).coerce .int = .ok (some (.int n)) ↔ x.toRat? = some (n.toInt : ℚ) := by
  rw [coerce_text_int h, ← Coercion.integral?_eq_some_iff]
  cases Coercion.integral? x <;> simp

theorem coerce_text_int_eq_error_iff (h : Binary64.read? (trim s.toList) = some x) :
    (text s).coerce .int = .error ⟨.text s, .int⟩ ↔ ∀ n : Int64, x.toRat? ≠ some (n.toInt : ℚ) := by
  rw [coerce_text_int h, ← Coercion.integral?_eq_none_iff]
  cases Coercion.integral? x <;> simp

/-! ## Rounding on the way -/

/-- Coercing an integer to a number and a written number to an integer goes by way of the nearest
number of the format. What is a number of the format is thus coerced without loss: it becomes the
same number or integer, and a written number that is no integer of 64 bits is refused. Anything else
becomes what its nearest number is. An integer that is made text and an integer again comes back if
and only if it has no more than 53 bits, apart from zeros at the end. -/
theorem numeric_coercion_spec (n : Int64) {s : String} {q : ℚ}
    (hs : WritesNumber (trim s.toList) q) :
    (∃ x : Binary64, (int n).coerce .dec = .ok (some (.float x)) ∧ x.IsNearest n.toInt ∧
      (x.toRat? = some (n.toInt : ℚ) ↔ IsExact n.toInt)) ∧
    (∃ x : Binary64, x.IsNearest q ∧
      (∀ m : Int64, (text s).coerce .int = .ok (some (.int m)) ↔ x.toRat? = some (m.toInt : ℚ)) ∧
      ((text s).coerce .int = .error ⟨.text s, .int⟩ ↔
        ∀ m : Int64, x.toRat? ≠ some (m.toInt : ℚ))) ∧
    (InFormat q →
      (∀ m : Int64, (text s).coerce .int = .ok (some (.int m)) ↔ q = m.toInt) ∧
      ((text s).coerce .int = .error ⟨.text s, .int⟩ ↔ ∀ m : Int64, q ≠ m.toInt)) ∧
    ∃ t, (int n).coerce .str = .ok (some (.text t)) ∧
      ((text t).coerce .int = .ok (some (.int n)) ↔ IsExact n.toInt) := by
  obtain ⟨x, hread, hnearest⟩ := hs.exists_read?
  refine ⟨?_, ⟨x, hnearest, ?_, coerce_text_int_eq_error_iff hread⟩, ?_, ?_⟩
  · have hn := isNearest_ofInt n.toInt
    refine ⟨.ofInt n.toInt, rfl, hn, ?_⟩
    rw [hn.toRat?_eq_self_iff, inFormat_iff_isExact]
  · exact fun m => coerce_text_int_eq_ok_iff hread
  · intro hq
    have hx := hnearest.toRat?_eq hq
    constructor
    · intro m
      rw [coerce_text_int_eq_ok_iff hread, hx, Option.some.injEq]
    · rw [coerce_text_int_eq_error_iff hread, hx]
      simp
  · obtain ⟨y, hy, hyn⟩ := (writesNumber_intText n.toInt).exists_read?
    refine ⟨String.ofList (Decimal.intText n.toInt), rfl, ?_⟩
    rw [← inFormat_iff_isExact, ← hyn.toRat?_eq_self_iff]
    apply coerce_text_int_eq_ok_iff
    rw [String.toList_ofList, (Csv.isNumeric_intText n.toInt).trim_eq, hy]

theorem numeric_coercion_of_twelve :
    (text " -12.0 ").coerce .int = .ok (some (.int (-12))) := by
  have hwrites : WritesNumber (['-'] ++ (['1', '2'] ++ '.' :: ['0']))
      (signed true (Nat.ofDigitChars 10 ['1', '2'] 0 + Nat.ofDigitChars 10 ['0'] 0 / 10 ^ 1)) :=
    .mk .minus (List.cons_ne_nil _ _) (List.all_eq_true.1 rfl) (.some (List.all_eq_true.1 rfl))
  have hvalue : signed true
      (Nat.ofDigitChars 10 ['1', '2'] 0 + Nat.ofDigitChars 10 ['0'] 0 / 10 ^ 1) =
        (-12 : Int64).toInt := by
    simp [signed, Nat.ofDigitChars]
  have htext : trim " -12.0 ".toList = ['-'] ++ (['1', '2'] ++ '.' :: ['0']) := by decide
  rw [hvalue, ← htext] at hwrites
  obtain ⟨-, -, hspec, -⟩ := numeric_coercion_spec (-12) hwrites
  obtain ⟨hok, -⟩ := hspec ((inFormat_iff_isExact (-12)).2 ⟨12, 0, by decide, by decide⟩)
  exact (hok (-12)).2 rfl

/-- The first integer behind `2 ^ 53` becomes another one, as a number and by way of its text. -/
theorem coerce_beyond_format :
    (int 9007199254740993).coerce .dec = .ok (some (.float (.ofInt 9007199254740992))) ∧
    (int 9007199254740993).coerce .str = .ok (some (.text "9007199254740993")) ∧
    WritesNumber (trim "9007199254740993".toList) (9007199254740993 : Int) ∧
    (text "9007199254740993").coerce .int = .ok (some (.int 9007199254740992)) := by
  have hread : Binary64.read? (trim "9007199254740993".toList) =
      some (.ofInt 9007199254740992) := by decide +kernel
  have hvalue : (Binary64.ofInt 9007199254740992).toInt? =
      some (9007199254740992 : Int64).toInt := by decide +kernel
  exact ⟨rfl, rfl, writesNumber_intText 9007199254740993,
    (coerce_text_int_eq_ok_iff hread).2 (toInt?_eq_some_iff.1 hvalue)⟩

end Value

end EntryFilter
