import EntryFilter.Pattern.Meaning
import EntryFilter.Predicate.Evaluation
import EntryFilter.Proofs.Number.Order
import EntryFilter.Proofs.Value.Equality

/-! # Comparison by exact value

Two integers and two floats are compared as the rational numbers that they are. An integer and a
float are compared exactly as well, unless the float is the number that the integer is rounded to:
these two count as equal. Inside lists and dictionaries an integer and a float are never equal. -/

namespace EntryFilter

open Binary64

/-- How two rational numbers compare. -/
def Comparison.Compares (p q : ℚ) : Comparison → Prop
  | eq => p = q
  | ne => p ≠ q
  | gt => q < p
  | lt => p < q
  | gte => q ≤ p
  | lte => p ≤ q

namespace Value

/-- The rational number that a number is, if it is finite. -/
def toRat? : Value → Option ℚ
  | int n => some n.toInt
  | float x => x.toRat?
  | _ => none

/-- One value is an integer, and the other one is the float that it is rounded to. -/
inductive MeetsRounded : Value → Value → Prop where
  | intFloat {n x} : x.IsNearest n.toInt → MeetsRounded (int n) (float x)
  | floatInt {x n} : x.IsNearest n.toInt → MeetsRounded (float x) (int n)

variable {a b : Value} {p q : ℚ} {x y : Binary64} {m n : Int64}

theorem isOrderable_of_toRat? (h : a.toRat? = some p) : a.IsOrderable := by
  cases a with
  | int n => exact trivial
  | float x => exact trivial
  | _ => cases h

/-! ## Equal numbers -/

theorem equals_int_int : (int m).equals (int n) = true ↔ m = n := beq_iff_eq

theorem equals_float_float (hx : x.toRat? = some p) (hy : y.toRat? = some q) :
    (float x).equals (float y) = true ↔ p = q :=
  same_iff_of_toRat? hx hy

/-- An integer equals the float that it is rounded to. -/
theorem equals_int_float : (int n).equals (float x) = true ↔ x.IsNearest n.toInt :=
  (same_iff_toRat?_eq (toRat?_ofInt64 n)).trans
    ((isNearest_ofInt n.toInt).iff_toRat?_eq (toRat?_ofInt64 n)).symm

theorem equals_float_int : (float x).equals (int n) = true ↔ x.IsNearest n.toInt := by
  rw [← equals_int_float, equals, equals, same_comm]

/-! ## The order of numbers -/

theorem order?_int_int : (int m).order? (int n) = some (compare (m.toInt : ℚ) n.toInt) := by
  rw [order?, compare_strictMono Int.cast_strictMono]

theorem order?_float_float (hx : x.toRat? = some p) (hy : y.toRat? = some q) :
    (float x).order? (float y) = some (compare p q) := by
  rw [order?, compare?_of_toRat? hx hy]

theorem order?_int_float (hx : x.toRat? = some q) :
    (x.IsNearest n.toInt → (int n).order? (float x) = some .eq) ∧
      (¬ x.IsNearest n.toInt → (int n).order? (float x) = some (compare (n.toInt : ℚ) q)) := by
  have hn := isNearest_ofInt n.toInt
  rw [order?, compare?_of_toRat? (toRat?_ofInt64 n) hx, hn.iff_toRat?_eq (toRat?_ofInt64 n), hx,
    Option.some.injEq, Option.some.injEq, Option.some.injEq, compare_eq_iff_eq]
  exact ⟨Eq.symm, fun hne => (hn.compare_eq (toRat?_ofInt64 n) hx (Ne.symm hne)).1⟩

theorem order?_float_int (hx : x.toRat? = some p) :
    (x.IsNearest n.toInt → (float x).order? (int n) = some .eq) ∧
      (¬ x.IsNearest n.toInt → (float x).order? (int n) = some (compare p (n.toInt : ℚ))) := by
  have hn := isNearest_ofInt n.toInt
  rw [order?, compare?_of_toRat? hx (toRat?_ofInt64 n), hn.iff_toRat?_eq (toRat?_ofInt64 n), hx,
    Option.some.injEq, Option.some.injEq, Option.some.injEq, compare_eq_iff_eq]
  exact ⟨id, fun hne => (hn.compare_eq (toRat?_ofInt64 n) hx (Ne.symm hne)).2⟩

/-- Two finite numbers have the order of their exact values, unless one is rounded to the other. -/
theorem order?_eq (ha : a.toRat? = some p) (hb : b.toRat? = some q) :
    (a.MeetsRounded b → a.order? b = some .eq) ∧
      (¬ a.MeetsRounded b → a.order? b = some (compare p q)) := by
  cases a with
  | int m =>
      cases b with
      | int n =>
          obtain rfl := Option.some.inj ha
          obtain rfl := Option.some.inj hb
          exact ⟨nofun, fun _ => order?_int_int⟩
      | float y =>
          obtain rfl := Option.some.inj ha
          obtain ⟨hround, hexact⟩ := order?_int_float (n := m) hb
          exact ⟨fun h => by cases h with | intFloat h => exact hround h,
            fun h => hexact fun h' => h (.intFloat h')⟩
      | _ => cases hb
  | float x =>
      cases b with
      | int n =>
          obtain rfl := Option.some.inj hb
          obtain ⟨hround, hexact⟩ := order?_float_int (n := n) ha
          exact ⟨fun h => by cases h with | floatInt h => exact hround h,
            fun h => hexact fun h' => h (.floatInt h')⟩
      | float y => exact ⟨nofun, fun _ => order?_float_float ha hb⟩
      | _ => cases hb
  | _ => cases ha

/-- Equality is transitive but for a float between two integers that are both rounded to it. -/
theorem equals_trans_iff {c : Value} {r : ℚ} (ha : a.toRat? = some p) (hb : b.toRat? = some q)
    (hc : c.toRat? = some r) (hab : a.equals b = true) (hbc : b.equals c = true) :
    a.equals c = true ↔ ¬ ∃ m x n, a = int m ∧ b = float x ∧ c = int n ∧ m ≠ n := by
  cases a with
  | int m =>
      cases b with
      | int n =>
          obtain rfl := equals_int_int.1 hab
          exact iff_of_true hbc (by simp)
      | float x =>
          have hm := equals_int_float.1 hab
          cases c with
          -- the one case that can fail: both integers are rounded to the float between them
          | int n => simp [equals_int_int]
          | float y =>
              obtain rfl := (equals_float_float hb hc).1 hbc
              exact iff_of_true (equals_int_float.2 (hm.of_toRat?_eq hb hc)) (by simp)
          | _ => cases hc
      | _ => cases hb
  | float x =>
      refine iff_of_true ?_ (by simp)
      cases b with
      | int m =>
          have hx := equals_float_int.1 hab
          cases c with
          | int n =>
              obtain rfl := equals_int_int.1 hbc
              exact hab
          | float y =>
              have hxy := hx.unique (equals_int_float.1 hbc)
              exact (equals_float_float ha hc).2 (Option.some.inj (ha.symm.trans (hxy.trans hc)))
          | _ => cases hc
      | float y =>
          obtain rfl := (equals_float_float ha hb).1 hab
          cases c with
          | int n =>
              have hy := equals_float_int.1 hbc
              exact equals_float_int.2 (hy.of_toRat?_eq hb ha)
          | float z => exact (equals_float_float ha hc).2 ((equals_float_float hb hc).1 hbc)
          | _ => cases hc
      | _ => cases hb
  | _ => cases ha

/-- A float compares with a number by way of a float. -/
theorem exists_float_operand (hb : b.toRat? = some q) :
    ∃ y r, y.toRat? = some r ∧ ∀ x, (float x).equals b = x.same y ∧
      (float x).order? b = x.compare? y := by
  cases b with
  | int n => exact ⟨_, _, toRat?_ofInt64 n, fun x => ⟨rfl, rfl⟩⟩
  | float y => exact ⟨y, q, hb, fun x => ⟨rfl, rfl⟩⟩
  | _ => cases hb

theorem not_comparable (ha : a.isNumber = false) (hb : b.toRat? = some q) :
    a.equals b = false ∧ a.order? b = none := by
  cases b with
  | int n =>
      cases a with
      | int _ => cases ha
      | float _ => cases ha
      | _ => exact ⟨rfl, rfl⟩
  | float y =>
      cases a with
      | int _ => cases ha
      | float _ => cases ha
      | _ => exact ⟨rfl, rfl⟩
  | _ => cases hb

/-- What is not a finite number compares with all finite numbers in the same way. -/
theorem operand_congr {b' : Value} (ha : a.toRat? = none) (hb : b.toRat? = some p)
    (hb' : b'.toRat? = some q) : a.equals b = a.equals b' ∧ a.order? b = a.order? b' := by
  cases hnumber : a.isNumber with
  | false =>
      obtain ⟨hequals, horder⟩ := not_comparable hnumber hb
      obtain ⟨hequals', horder'⟩ := not_comparable hnumber hb'
      exact ⟨hequals.trans hequals'.symm, horder.trans horder'.symm⟩
  | true =>
      cases a with
      | int n => cases ha
      | float x =>
          obtain ⟨y, _, hy, hcompare⟩ := exists_float_operand hb
          obtain ⟨z, _, hz, hcompare'⟩ := exists_float_operand hb'
          rw [(hcompare x).1, (hcompare x).2, (hcompare' x).1, (hcompare' x).2, Binary64.same,
            Binary64.same, compare?_of_not_finite ha hy hz]
          exact ⟨rfl, rfl⟩
      | _ => cases hnumber

end Value

/-! ## From values to predicates -/

section Predicates

variable {c : Comparison} {a b b' : Value} {p q : ℚ}

theorem Comparison.holds_iff_of_order? (hequals : a.equals b = true ↔ a.order? b = some .eq)
    (horder : a.order? b = some (compare p q)) :
    c.holds (some a) b = true ↔ c.Compares p q := by
  rw [horder, Option.some.injEq, compare_eq_iff_eq] at hequals
  cases c with
  | eq => exact hequals
  | ne => simp [holds, Compares, ← hequals]
  | gt => simp [holds, Compares, horder, Ordering.isGT_iff_eq_gt, compare_gt_iff_gt]
  | lt => simp [holds, Compares, horder, Ordering.isLT_iff_eq_lt, compare_lt_iff_lt]
  | gte => simp [holds, Compares, horder, Ordering.isGE_iff_ne_lt, compare_lt_iff_lt]
  | lte => simp [holds, Compares, horder, Ordering.isLE_iff_ne_gt, compare_gt_iff_gt]

/-- A stored number that meets the operand by rounding is taken for it. -/
theorem Comparison.holds_iff_compares (ha : a.toRat? = some p) (hb : b.toRat? = some q) :
    (a.MeetsRounded b → (c.holds (some a) b = true ↔ c.Compares q q)) ∧
      (¬ a.MeetsRounded b → (c.holds (some a) b = true ↔ c.Compares p q)) := by
  have hequals := Value.equals_iff_order? (v := a) (Value.isOrderable_of_toRat? hb)
  obtain ⟨hround, hexact⟩ := Value.order?_eq ha hb
  refine ⟨fun h => holds_iff_of_order? hequals ?_, fun h => holds_iff_of_order? hequals (hexact h)⟩
  rw [hround h, compare_eq_iff_eq.2 rfl]

theorem Comparison.exists_ne_iff {f g : Comparison → Bool}
    (hf : ∀ c, f c = true ↔ c.Compares q q) (hg : ∀ c, g c = true ↔ c.Compares p q) :
    (∃ c, f c ≠ g c) ↔ p ≠ q := by
  constructor
  · rintro ⟨c, hc⟩ rfl
    exact hc (Bool.eq_iff_iff.2 ((hf c).trans (hg c).symm))
  · intro hne
    refine ⟨.eq, fun h => hne ((hg .eq).1 ?_)⟩
    rw [← h]
    exact (hf .eq).2 rfl

/-- Operands of one value find the same, unless the stored number meets only one of them by
rounding. -/
theorem Comparison.exists_holds_ne_iff (hb : b.toRat? = some q) (hb' : b'.toRat? = some q)
    (stored : Option Value) :
    (∃ c, Comparison.holds c stored b ≠ Comparison.holds c stored b') ↔
      ∃ a p, stored = some a ∧ a.toRat? = some p ∧ p ≠ q ∧
        ¬ (a.MeetsRounded b ↔ a.MeetsRounded b') := by
  cases stored with
  | none =>
      refine iff_of_false ?_ (by simp)
      rintro ⟨c, hc⟩
      cases c <;> exact hc rfl
  | some a =>
      cases ha : a.toRat? with
      | none =>
          obtain ⟨hequals, horder⟩ := Value.operand_congr ha hb hb'
          refine iff_of_false ?_ (by simp [ha])
          rintro ⟨c, hc⟩
          cases c <;> simp [holds, hequals, horder] at hc
      | some p =>
          have hleft c := holds_iff_compares (c := c) ha hb
          have hright c := holds_iff_compares (c := c) ha hb'
          simp only [Option.some.injEq, exists_and_left, exists_eq_left', ha]
          -- where the number meets one operand only, the other one still tells `p` and `q` apart
          by_cases hm : a.MeetsRounded b <;> by_cases hm' : a.MeetsRounded b'
          · have hsame c := ((hleft c).1 hm).trans ((hright c).1 hm').symm
            simp [hm, hm', Bool.eq_iff_iff.2 (hsame _)]
          · rw [exists_ne_iff (fun c => (hleft c).1 hm) fun c => (hright c).2 hm']
            simp [hm, hm']
          · simp only [ne_comm (a := Comparison.holds _ (some a) b)]
            rw [exists_ne_iff (fun c => (hright c).1 hm') fun c => (hleft c).2 hm]
            simp [hm, hm']
          · have hsame c := ((hleft c).2 hm).trans ((hright c).2 hm').symm
            simp [hm, hm', Bool.eq_iff_iff.2 (hsame _)]

end Predicates

/-- Stored numbers are compared by their exact values, except that an integer and the float that it
is rounded to count as equal. So equality is transitive but for a float between two integers that
are both rounded to it, and two operands of one value find the same entries but for those whose
number meets only one of them by rounding. Equality of anything else is equality of shape, with
numbers of the same kinds at every depth. -/
theorem number_comparison_spec [PatternEngine] (entry : Entry) (key : String) :
    (∀ (c : Comparison) a b p q,
      entry.lookup? key = some a → a.toRat? = some p → b.toRat? = some q →
      ∃ result, (Predicate.compare c key b).evaluate entry = .ok result ∧
        (a.MeetsRounded b → (result = true ↔ c.Compares q q)) ∧
        (¬ a.MeetsRounded b → (result = true ↔ c.Compares p q))) ∧
    (∀ b b' q, b.toRat? = some q → b'.toRat? = some q →
      ((∃ c, (Predicate.compare c key b).evaluate entry ≠
          (Predicate.compare c key b').evaluate entry) ↔
        ∃ a p, entry.lookup? key = some a ∧ a.toRat? = some p ∧ p ≠ q ∧
          ¬ (a.MeetsRounded b ↔ a.MeetsRounded b'))) ∧
    (∀ (a b c : Value) p q r, a.toRat? = some p → b.toRat? = some q → c.toRat? = some r →
      a.equals b = true → b.equals c = true →
      (a.equals c = true ↔ ¬ ∃ m x n, a = .int m ∧ b = .float x ∧ c = .int n ∧ m ≠ n)) ∧
    (∀ a b, entry.lookup? key = some a → a.isNumber = false →
      ∃ result, (Predicate.compare .eq key b).evaluate entry = .ok result ∧
        (result = true ↔ a.Alike Value.SameNumber b)) := by
  refine ⟨?_, ?_, ?_, ?_⟩
  · intro c a b p q hstored ha hb
    refine ⟨c.holds (some a) b, ?_, Comparison.holds_iff_compares ha hb⟩
    rw [Predicate.evaluate, hstored]
  · intro b b' q hb hb'
    rw [← Comparison.exists_holds_ne_iff hb hb']
    simp only [Predicate.evaluate, ne_eq, Except.ok.injEq]
  · intro a b c p q r ha hb hc
    exact Value.equals_trans_iff ha hb hc
  · intro a b hstored ha
    refine ⟨a.equals b, ?_, Value.equals_iff_alike ha⟩
    rw [Predicate.evaluate, hstored]
    rfl

/-- A small integer is compared exactly, and a list of integers equals itself. -/
theorem number_comparison_of_small :
    (Predicate.compare .lt "values.k" (.float (.ofInt 3))).evaluate
        ⟨"a", .ofList [("k", .int 2)], .epoch, .epoch⟩ = .ok true ∧
      (¬ ∃ c, (Predicate.compare c "values.k" (.int 3)).evaluate
          ⟨"a", .ofList [("k", .int 2)], .epoch, .epoch⟩ ≠
        (Predicate.compare c "values.k" (.float (.ofInt 3))).evaluate
          ⟨"a", .ofList [("k", .int 2)], .epoch, .epoch⟩) ∧
      (Value.int 2).equals (.int 2) = true ∧
      (Predicate.compare .eq "values.k" (.list [.int 1])).evaluate
        ⟨"a", .ofList [("k", .list [.int 1])], .epoch, .epoch⟩ = .ok true := by
  have hthree : (ofInt 3).toRat? = some ((3 : Int) : ℚ) :=
    toInt?_eq_some_iff.1 (by decide +kernel)
  have htwo : (ofInt 2).toRat? = some ((2 : Int) : ℚ) := toInt?_eq_some_iff.1 (by decide +kernel)
  have htwothree : (2 : Int64).toInt < 3 := by decide
  have happart : ¬ (Value.int 2).MeetsRounded (.float (.ofInt 3)) := by
    intro h
    cases h with
    | intFloat h =>
        have heq := h.unique (isNearest_ofInt 2)
        rw [htwo] at heq
        exact absurd (hthree.symm.trans heq) (by simp)
  obtain ⟨hcompare, hreplace, htrans, -⟩ :=
    number_comparison_spec ⟨"a", .ofList [("k", .int 2)], .epoch, .epoch⟩ "values.k"
  obtain ⟨-, -, -, hshape⟩ :=
    number_comparison_spec ⟨"a", .ofList [("k", .list [.int 1])], .epoch, .epoch⟩ "values.k"
  refine ⟨?_, ?_, ?_, ?_⟩
  · obtain ⟨result, hresult, -, hexact⟩ :=
      hcompare .lt (.int 2) (.float (.ofInt 3)) _ _ rfl rfl hthree
    rw [hresult, (hexact happart).2 (Int.cast_lt.2 htwothree)]
  · rw [hreplace (.int 3) (.float (.ofInt 3)) _ rfl hthree]
    rintro ⟨a, p, ha, -, -, hmeets⟩
    obtain rfl := Option.some.inj ha
    exact hmeets (iff_of_false nofun happart)
  · rw [htrans (.int 2) (.int 2) (.int 2) _ _ _ rfl rfl rfl rfl rfl]
    simp
  · obtain ⟨result, hresult, hiff⟩ := hshape (.list [.int 1]) (.list [.int 1]) rfl rfl
    rw [hresult, hiff.2 (.cons (.number rfl rfl ⟨rfl, rfl⟩) .nil)]

/-- The first integer behind `2 ^ 53` equals the float below it but not the integer of the same
value, and inside a list not even small numbers of different kinds are equal. -/
theorem comparison_beyond_format :
    (Predicate.compare .eq "values.k" (.float (.ofInt 9007199254740992))).evaluate
        ⟨"a", .ofList [("k", .int 9007199254740993)], .epoch, .epoch⟩ = .ok true ∧
      (ofInt 9007199254740992).toRat? = some ((9007199254740992 : Int) : ℚ) ∧
      (Predicate.compare .eq "values.k" (.int 9007199254740992)).evaluate
        ⟨"a", .ofList [("k", .int 9007199254740993)], .epoch, .epoch⟩ = .ok false ∧
      (Predicate.compare .eq "values.l" (.list [.float (.ofInt 1)])).evaluate
        ⟨"b", .ofList [("l", .list [.int 1])], .epoch, .epoch⟩ = .ok false ∧
      (Predicate.compare .eq "values.l" (.float (.ofInt 1))).evaluate
        ⟨"b", .ofList [("l", .int 1)], .epoch, .epoch⟩ = .ok true :=
  ⟨by decide +kernel, toInt?_eq_some_iff.1 (by decide +kernel), by decide +kernel,
    by decide +kernel, by decide +kernel⟩

end EntryFilter
