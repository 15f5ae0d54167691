import EntryFilter.Proofs.Number.Quotient

/-! # The order of numbers

Finite numbers of the format are ordered as the rational numbers that they are. A rational number
and the number nearest to it lie on the same side of all other numbers of the format. -/

namespace EntryFilter.Binary64

/-! ## Exact comparison -/

theorem compare_strictMono {α β : Type*} [LinearOrder α] [LinearOrder β] {f : α → β}
    (h : StrictMono f) (a b : α) : compare (f a) (f b) = compare a b := by
  rw [compare_iff, h.compares, ← compare_iff]

theorem cast_scaledValue (negative : Bool) (m : Nat) {e : Int} (he : -1074 ≤ e) :
    (scaledValue negative m e : ℚ) = signed negative (m * 2 ^ e) * 2 ^ (1074 : Int) := by
  have hscale : (scaleUp m (e + 1074) : ℚ) = m * 2 ^ e * 2 ^ (1074 : Int) := by
    obtain ⟨places, hplaces⟩ := Int.eq_ofNat_of_zero_le (show 0 ≤ e + 1074 by omega)
    rw [mul_assoc, ← zpow_add₀ two_ne_zero, scaleUp, hplaces, Int.toNat_natCast, zpow_natCast,
      Nat.pow_eq, Nat.cast_mul, Nat.cast_pow, Nat.cast_ofNat]
  rw [scaledValue]
  generalize (2 : ℚ) ^ (1074 : Int) = unit at *
  cases negative <;> simp [signed, hscale]

variable {x y : Binary64} {p q r : ℚ}

/-- Finite numbers are compared as the rational numbers that they are. -/
theorem compare?_of_toRat? (hx : x.toRat? = some p) (hy : y.toRat? = some q) :
    compare? x y = some (compare p q) := by
  cases x with
  | nan => cases hx
  | infinity negative => cases hx
  | finite negative m e canonical =>
      cases y with
      | nan => cases hy
      | infinity negative' => cases hy
      | finite negative' m' e' canonical' =>
          obtain rfl := Option.some.inj hx
          obtain rfl := Option.some.inj hy
          have hunit : StrictMono fun t : ℚ => t * 2 ^ (1074 : Int) :=
            strictMono_mul_right_of_pos (zpow_pos two_pos _)
          rw [compare?, ← compare_strictMono hunit, ← cast_scaledValue _ _ canonical.2.1,
            ← cast_scaledValue _ _ canonical'.2.1, compare_strictMono Int.cast_strictMono]

theorem same_iff_of_toRat? (hx : x.toRat? = some p) (hy : y.toRat? = some q) :
    x.same y = true ↔ p = q := by
  rw [same, compare?_of_toRat? hx hy, beq_iff_eq, Option.some.injEq, compare_eq_iff_eq]

/-- A finite number equals the numbers of its value. -/
theorem same_iff_toRat?_eq (hx : x.toRat? = some p) : x.same y = true ↔ y.toRat? = some p := by
  cases hy : y.toRat? with
  | some q => rw [same_iff_of_toRat? hx hy, Option.some.injEq, eq_comm]
  | none =>
      refine iff_of_false ?_ nofun
      cases x with
      | finite => cases y with
        | nan => exact Bool.false_ne_true
        | infinity negative => cases negative <;> exact Bool.false_ne_true
        | finite => cases hy
      | _ => cases hx

theorem same_comm (x y : Binary64) : x.same y = y.same x := by
  cases x with
  | nan => cases y <;> rfl
  | infinity negative =>
      cases y with
      | nan => rfl
      | infinity negative' => cases negative <;> cases negative' <;> rfl
      | finite => cases negative <;> rfl
  | finite negative m e canonical =>
      cases y with
      | nan => rfl
      | infinity negative' => cases negative' <;> rfl
      | finite negative' m' e' canonical' =>
          refine Bool.eq_iff_iff.2 ?_
          rw [same_iff_of_toRat? rfl rfl, same_iff_of_toRat? rfl rfl, eq_comm]

/-- What is not finite compares with all finite numbers in the same way. -/
theorem compare?_of_not_finite {z : Binary64} (hx : x.toRat? = none) (hy : y.toRat? = some p)
    (hz : z.toRat? = some q) : compare? x y = compare? x z := by
  cases x with
  | nan => rfl
  | infinity negative =>
      cases y with
      | finite => cases z with
        | finite => rfl
        | _ => cases hz
      | _ => cases hy
  | finite negative m e canonical => cases hx

/-- Whole numbers are compared as the integers that they are. -/
theorem compare?_of_toInt? {m n : Int} (hx : x.toInt? = some m) (hy : y.toInt? = some n) :
    compare? x y = some (compare m n) := by
  rw [toInt?_eq_some_iff] at hx hy
  rw [compare?_of_toRat? hx hy, compare_strictMono Int.cast_strictMono]

/-! ## Integers of 64 bits -/

theorem toInt?_ofInt64 (n : Int64) : (ofInt n.toInt).toInt? = some (nearestInt n.toInt) := by
  have hlow := n.le_toInt
  have hhigh := n.toInt_lt
  exact toInt?_ofInt (by omega)

theorem toRat?_ofInt64 (n : Int64) : (ofInt n.toInt).toRat? = some (nearestInt n.toInt : ℚ) :=
  toInt?_eq_some_iff.1 (toInt?_ofInt64 n)

/-! ## One form for each number -/

/-- Of two numbers in canonical form the one with the smaller exponent is smaller. -/
theorem value_lt_value {m m' : Nat} {e e' : Int} (h : CanonicalParts m e)
    (h' : CanonicalParts m' e') (he : e < e') : (m : ℚ) * 2 ^ e < m' * 2 ^ e' := by
  obtain ⟨hm, hleast, -, -⟩ := h
  obtain ⟨-, -, -, hm'⟩ := h'
  have hlarge : 2 ^ 52 ≤ m' := hm'.resolve_right (by omega)
  have hlarge : (2 ^ 52 : ℚ) ≤ m' := by exact_mod_cast hlarge
  exact (mul_zpow_lt hm he).trans_le (by gcongr)

theorem value_injective {m m' : Nat} {e e' : Int} (h : CanonicalParts m e)
    (h' : CanonicalParts m' e') (hvalue : (m : ℚ) * 2 ^ e = m' * 2 ^ e') : m = m' ∧ e = e' := by
  rcases lt_trichotomy e e' with hlt | rfl | hgt
  · exact absurd hvalue (value_lt_value h h' hlt).ne
  · have hm : (m : ℚ) = m' := mul_right_cancel₀ (zpow_pos two_pos _).ne' hvalue
    exact ⟨by exact_mod_cast hm, rfl⟩
  · exact absurd hvalue (value_lt_value h' h hgt).ne'

namespace IsNearest

/-- What is rounded to one zero is rounded to the other one, and else to one number only. -/
theorem of_toRat?_eq (hx : x.IsNearest q) (hp : x.toRat? = some p) (hy : y.toRat? = some p) :
    y.IsNearest q := by
  cases x with
  | nan => cases hp
  | infinity negative => cases hp
  | finite negative m e canonical =>
      cases y with
      | nan => cases hy
      | infinity negative' => cases hy
      | finite negative' m' e' canonical' =>
          have hvalue : signed negative (m * 2 ^ e) = signed negative' (m' * 2 ^ e') :=
            Option.some.inj (hp.trans hy.symm)
          -- only the magnitudes have the same parts: zero comes with either sign
          have habs := congrArg abs hvalue
          rw [abs_signed, abs_signed, abs_of_nonneg (by positivity), abs_of_nonneg (by positivity)]
            at habs
          obtain ⟨rfl, rfl⟩ := value_injective canonical canonical' habs
          rwa [IsNearest, ← hvalue]

/-- The nearest numbers are the numbers of one value. -/
theorem iff_toRat?_eq (hx : x.IsNearest q) (hp : x.toRat? = some p) :
    y.IsNearest q ↔ y.toRat? = some p := by
  constructor
  · intro h
    rw [h.unique hx, hp]
  · exact fun hy => hx.of_toRat?_eq hp hy

theorem abs_sub_le (hx : x.IsNearest q) (hp : x.toRat? = some p) (hy : y.toRat? = some r) :
    |q - p| ≤ |q - r| := by
  cases x with
  | nan => cases hp
  | infinity negative => cases hp
  | finite negative m e canonical =>
      cases y with
      | nan => cases hy
      | infinity negative' => cases hy
      | finite negative' m' e' canonical' =>
          obtain rfl := Option.some.inj hp
          obtain rfl := Option.some.inj hy
          exact (hx.2 negative' m' e' canonical').le

/-- No number of the format lies between a rational number and the nearest one. -/
theorem lt_of_lt (hx : x.IsNearest q) (hp : x.toRat? = some p) (hy : y.toRat? = some r)
    (h : p < r) : q < r := by
  have hle := hx.abs_sub_le hp hy
  by_contra hge
  rw [abs_of_nonneg (by linarith), abs_of_nonneg (by linarith)] at hle
  linarith

theorem gt_of_gt (hx : x.IsNearest q) (hp : x.toRat? = some p) (hy : y.toRat? = some r)
    (h : r < p) : r < q := by
  have hle := hx.abs_sub_le hp hy
  by_contra hge
  rw [abs_of_nonpos (by linarith), abs_of_nonpos (by linarith)] at hle
  linarith

/-- What is no smaller than the least number of the format above zero is not rounded to zero. -/
theorem ne_zero {negative : Bool} (hx : x.IsNearest (signed negative q))
    (hq : 2 ^ (-1074 : Int) ≤ q) : x.toRat? ≠ some 0 := by
  intro hzero
  have hleast (sign : Bool) : toRat? (.finite sign 1 (-1074) (by decide)) =
      some (signed sign (2 ^ (-1074 : Int))) := by
    rw [toRat?, Nat.cast_one, one_mul]
  have hpos : (0 : ℚ) < 2 ^ (-1074 : Int) := zpow_pos two_pos _
  cases negative with
  | false => exact absurd hq (not_le.2 (hx.lt_of_lt hzero (hleast false) hpos))
  | true =>
      have hlow := hx.gt_of_gt hzero (hleast true) (neg_neg_of_pos hpos)
      exact absurd hq (not_le.2 (neg_lt_neg_iff.1 hlow))

/-- Numbers of the format other than the nearest one compare with it as with the number itself. -/
theorem compare_eq (hx : x.IsNearest q) (hp : x.toRat? = some p) (hy : y.toRat? = some r)
    (h : p ≠ r) : compare p r = compare q r ∧ compare r p = compare r q := by
  rcases lt_or_gt_of_ne h with hlt | hgt
  · have hq := hx.lt_of_lt hp hy hlt
    rw [compare_lt_iff_lt.2 hlt, compare_lt_iff_lt.2 hq, compare_gt_iff_gt.2 hlt,
      compare_gt_iff_gt.2 hq]
    exact ⟨rfl, rfl⟩
  · have hq := hx.gt_of_gt hp hy hgt
    rw [compare_gt_iff_gt.2 hgt, compare_gt_iff_gt.2 hq, compare_lt_iff_lt.2 hgt,
      compare_lt_iff_lt.2 hq]
    exact ⟨rfl, rfl⟩

end IsNearest

end EntryFilter.Binary64
