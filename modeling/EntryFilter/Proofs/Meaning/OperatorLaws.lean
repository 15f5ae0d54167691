import EntryFilter.Proofs.Compilation.Coercion
import EntryFilter.Proofs.Meaning.Preservation
import EntryFilter.Proofs.Predicate.Selection
import EntryFilter.Proofs.Value.Equality

/-! # The laws of the operators

Equality and order of values are two functions. They agree if one of the values comes from a
literal, and from this follow the laws that tie the comparisons of a field to each other. The
checks of a field come in opposite pairs, and an opposite pair splits any list of entries. -/

namespace EntryFilter

/-! ## Operands of literals -/

theorem Literal.isOrderable_toValue (literal : Literal) : literal.toValue.IsOrderable := by
  cases literal <;> exact trivial

/-- What coercion to a number or truth value yields has an order. -/
theorem Value.isOrderable_coerce {v w : Value} {target : FieldType}
    (htarget : target ∈ [FieldType.int, .dec, .bool]) (h : v.coerce target = .ok (some w)) :
    w.IsOrderable := by
  have houtcome := outcome_of_coerce h
  cases target with
  | int =>
      obtain ⟨n, rfl⟩ := Coercion.exists_int_of_toInt houtcome
      exact trivial
  | dec =>
      obtain ⟨x, rfl⟩ := Coercion.exists_float_of_toDec houtcome
      exact trivial
  | bool =>
      obtain ⟨b, rfl⟩ := Coercion.exists_bool_of_toBool houtcome
      exact trivial
  | _ => simp at htarget

/-- A literal stands for a value that has an order, coerced or not. -/
theorem Filter.isOrderable_meantOperand (schema : Schema) (field : String) (literal : Literal) :
    (meantOperand schema field (some literal)).IsOrderable := by
  rw [meantOperand]
  split
  · rename_i hdeclared
    split
    · rename_i value hvalue
      exact Value.isOrderable_coerce hdeclared hvalue
    · exact literal.isOrderable_toValue
  · exact literal.isOrderable_toValue

/-! ## Comparisons of a field with an operand -/

namespace Comparison

/-- A field, which may be missing, stands to an operand in the given order. -/
def Ordered (stored : Option Value) (operand : Value) (o : Ordering) : Prop :=
  ∃ v, stored = some v ∧ v.order? operand = some o

variable {stored : Option Value} {operand : Value}

theorem Ordered.unique {o o' : Ordering} (h : Ordered stored operand o)
    (h' : Ordered stored operand o') : o = o' := by
  obtain ⟨v, hv, ho⟩ := h
  obtain ⟨v', hv', ho'⟩ := h'
  obtain rfl := Option.some.inj (hv.symm.trans hv')
  exact Option.some.inj (ho.symm.trans ho')

theorem relates_eq_iff (h : operand.IsOrderable) :
    eq.Relates stored operand ↔ Ordered stored operand .eq := by
  simp only [Relates, Ordered, Value.equals_iff_order? h]

/-- Not to stand in one order is to stand in the opposite one or to be equal. -/
theorem exists_order_ne_iff {o o' : Ordering} (h : ∀ x, x ≠ o ↔ x = o' ∨ x = .eq) :
    (∃ v x, stored = some v ∧ v.order? operand = some x ∧ x ≠ o) ↔
      Ordered stored operand o' ∨ Ordered stored operand .eq := by
  constructor
  · rintro ⟨v, x, hv, hx, hne⟩
    rcases (h x).1 hne with rfl | rfl
    · exact .inl ⟨v, hv, hx⟩
    · exact .inr ⟨v, hv, hx⟩
  · rintro (⟨v, hv, hx⟩ | ⟨v, hv, hx⟩)
    · exact ⟨v, o', hv, hx, (h o').2 (.inl rfl)⟩
    · exact ⟨v, .eq, hv, hx, (h .eq).2 (.inr rfl)⟩

theorem relates_gte_iff (h : operand.IsOrderable) :
    gte.Relates stored operand ↔ gt.Relates stored operand ∨ eq.Relates stored operand := by
  rw [relates_eq_iff h]
  exact exists_order_ne_iff fun x => by cases x <;> decide

theorem relates_lte_iff (h : operand.IsOrderable) :
    lte.Relates stored operand ↔ lt.Relates stored operand ∨ eq.Relates stored operand := by
  rw [relates_eq_iff h]
  exact exists_order_ne_iff fun x => by cases x <;> decide

end Comparison

/-! ## Opposite operators -/

namespace Operator

/-- The second operator says what the first one denies. -/
inductive Opposite : Operator → Operator → Prop where
  | eq_ne : Opposite (.compare .eq) (.compare .ne)
  | null_notNull : Opposite .isNull .isNotNull
  | empty_notEmpty : Opposite .isEmpty .isNotEmpty

variable {o o' : Operator}

theorem Opposite.holds_iff (h : o.Opposite o') {stored : Option Value} {operand : Value} :
    o'.Holds stored operand ↔ ¬ o.Holds stored operand := by
  cases h <;> exact Iff.rfl

theorem Opposite.isCheck_eq (h : o.Opposite o') : o'.isCheck = o.isCheck := by
  cases h <;> rfl

theorem Opposite.ends (h : o.Opposite o') : o.ends? = none ∧ o'.ends? = none := by
  cases h <;> exact ⟨rfl, rfl⟩

/-- A check has no pattern. -/
theorem ends_of_isCheck (h : o.isCheck = true) : o.ends? = none := by
  cases o with
  | contains => cases h
  | startsWith => cases h
  | endsWith => cases h
  | _ => rfl

end Operator

/-! ## Results of conditions -/

namespace Filter

/-- The condition on a field with an operator and, unless the operator is a check, a literal. -/
def ofOperator (field : String) (literal : Literal) (operator : Operator) : Filter :=
  .condition field operator (if operator.isCheck then none else some literal)

variable [PatternEngine]

/-- The filter compiles, and its predicate has the given truth value for an entry. -/
def Gives (schema : Schema) (strict : Bool) (entry : Entry) (f : Filter) (b : Bool) : Prop :=
  ∃ p, f.compile schema strict = .ok p ∧ p.evaluate entry = .ok b

variable {schema : Schema} {strict b : Bool} {field : String} {literal : Literal} {entry : Entry}

/-- A condition without a pattern always has a truth value, which is what the condition means. -/
theorem exists_evaluate {operator : Operator} {operand : Option Literal} {p : Predicate}
    (hends : operator.ends? = none)
    (h : (condition field operator operand).compile schema strict = .ok p) (entry : Entry) :
    ∃ b, p.evaluate entry = .ok b ∧
      (b = true ↔ operator.Holds (entry.value? field) (meantOperand schema field operand)) := by
  have hlenient : (condition field operator operand).compile schema false = .ok p := by
    cases strict with
    | false => exact h
    | true => exact compile_lenient_of_strict h
  obtain ⟨value, hvalue, hmeant⟩ := operandValue_lenient schema field operator operand
  obtain rfl := Except.ok.inj (hlenient.symm.trans (compile_condition hvalue))
  exact (decides_plain schema entry field hends operand hmeant).finished fun _ => not_false

theorem gives_iff {operator : Operator} (hends : operator.ends? = none)
    (operand : Option Literal) :
    (condition field operator operand).Gives schema strict entry b ↔
      (∃ value, operandValue schema strict field operator operand = .ok value) ∧
      (b = true ↔ operator.Holds (entry.value? field) (meantOperand schema field operand)) := by
  constructor
  · rintro ⟨p, hp, hb⟩
    obtain ⟨b', hb', hiff⟩ := exists_evaluate hends hp entry
    obtain rfl := Except.ok.inj (hb.symm.trans hb')
    refine ⟨?_, hiff⟩
    cases hvalue : operandValue schema strict field operator operand with
    | ok value => exact ⟨value, rfl⟩
    | error e =>
        rw [compile_condition_error hvalue] at hp
        cases hp
  · rintro ⟨⟨value, hvalue⟩, hiff⟩
    have hp := compile_condition hvalue
    obtain ⟨b', hb', hiff'⟩ := exists_evaluate hends hp entry
    obtain rfl : b' = b := Bool.eq_iff_iff.2 (hiff'.trans hiff.symm)
    exact ⟨_, hp, hb'⟩

theorem gives_compare (c : Comparison) :
    (ofOperator field literal (.compare c)).Gives schema strict entry b ↔
      (∃ value, operandOf schema strict field literal = .ok value) ∧
      (b = true ↔
        c.Relates (entry.value? field) (meantOperand schema field (some literal))) :=
  gives_iff rfl (some literal)

theorem relates_of_gives {c : Comparison}
    (h : (ofOperator field literal (.compare c)).Gives schema strict entry true) :
    c.Relates (entry.value? field) (meantOperand schema field (some literal)) :=
  ((gives_compare c).1 h).2.1 rfl

theorem gives_check {operator : Operator} (hcheck : operator.isCheck = true) :
    (ofOperator field literal operator).Gives schema strict entry b ↔
      (b = true ↔ operator.Holds (entry.value? field) .null) := by
  rw [ofOperator, if_pos hcheck, gives_iff (Operator.ends_of_isCheck hcheck) none]
  exact and_iff_right ⟨.null, rfl⟩

/-- Opposite operators have opposite results, or both have none. -/
theorem gives_opposite {o o' : Operator} (h : o.Opposite o') (b : Bool) :
    (ofOperator field literal o').Gives schema strict entry b ↔
      (ofOperator field literal o).Gives schema strict entry (!b) := by
  have hvalue (operand : Option Literal) : operandValue schema strict field o' operand =
      operandValue schema strict field o operand := by
    cases operand with
    | none => rfl
    | some literal => rw [operandValue, operandValue, h.isCheck_eq]
  rw [ofOperator, ofOperator, h.isCheck_eq, gives_iff h.ends.2, gives_iff h.ends.1, hvalue,
    h.holds_iff]
  cases b <;> simp

end Filter

/-! ## The laws -/

/-- The laws that tie the results of the operators to each other. Here `gives o b` says that the
operator `o` has the result `b`. -/
structure OperatorLaws (gives : Operator → Bool → Prop) : Prop where
  ne_iff : ∀ b, gives (.compare .ne) b ↔ gives (.compare .eq) (!b)
  gte_iff : gives (.compare .gte) true ↔ gives (.compare .gt) true ∨ gives (.compare .eq) true
  lte_iff : gives (.compare .lte) true ↔ gives (.compare .lt) true ∨ gives (.compare .eq) true
  not_lt_and_eq : ¬ (gives (.compare .lt) true ∧ gives (.compare .eq) true)
  not_gt_and_eq : ¬ (gives (.compare .gt) true ∧ gives (.compare .eq) true)
  not_lt_and_gt : ¬ (gives (.compare .lt) true ∧ gives (.compare .gt) true)
  isNotNull_iff : ∀ b, gives .isNotNull b ↔ gives .isNull (!b)
  isNotEmpty_iff : ∀ b, gives .isNotEmpty b ↔ gives .isEmpty (!b)
  isEmpty_of_isNull : gives .isNull true → gives .isEmpty true

namespace Filter

variable [PatternEngine] (schema : Schema) (strict : Bool) (field : String) (literal : Literal)
variable (entry : Entry)

theorem operatorLaws : OperatorLaws fun operator b =>
    (ofOperator field literal operator).Gives schema strict entry b := by
  have horder := isOrderable_meantOperand schema field literal
  constructor
  case ne_iff => exact gives_opposite .eq_ne
  case isNotNull_iff => exact gives_opposite .null_notNull
  case isNotEmpty_iff => exact gives_opposite .empty_notEmpty
  case gte_iff =>
    simp only [gives_compare, true_iff, Comparison.relates_gte_iff horder, and_or_left]
  case lte_iff =>
    simp only [gives_compare, true_iff, Comparison.relates_lte_iff horder, and_or_left]
  case not_lt_and_eq =>
    rintro ⟨hlt, heq⟩
    have hordered := (Comparison.relates_eq_iff horder).1 (relates_of_gives heq)
    cases Comparison.Ordered.unique (relates_of_gives hlt) hordered
  case not_gt_and_eq =>
    rintro ⟨hgt, heq⟩
    have hordered := (Comparison.relates_eq_iff horder).1 (relates_of_gives heq)
    cases Comparison.Ordered.unique (relates_of_gives hgt) hordered
  case not_lt_and_gt =>
    rintro ⟨hlt, hgt⟩
    cases Comparison.Ordered.unique (relates_of_gives hlt) (relates_of_gives hgt)
  case isEmpty_of_isNull =>
    intro h
    have hnull := ((gives_check rfl).1 h).1 rfl
    exact (gives_check rfl).2 (iff_of_true rfl (.inr (.inl hnull)))

end Filter

/-! ## Splitting lists -/

namespace Predicate

/-- Opposite predicates split a list of entries into two parts without a common entry. -/
theorem exists_split [PatternEngine] {p q : Predicate} (hp : ∀ entry, ∃ b, p.evaluate entry = .ok b)
    (hq : ∀ entry b, p.evaluate entry = .ok b → q.evaluate entry = .ok (!b))
    (entries : List Entry) : ∃ kept rest, p.select entries = .ok kept ∧
      q.select entries = .ok rest ∧ (kept ++ rest).Perm entries ∧ ∀ entry ∈ kept, entry ∉ rest := by
  obtain ⟨passes, hpasses⟩ := Classical.skolem.1 hp
  refine ⟨_, _, select_eq_filter fun entry _ => hpasses entry,
    select_eq_filter fun entry _ => hq entry _ (hpasses entry),
    List.filter_append_perm passes entries, ?_⟩
  intro entry hkept hrest
  have hyes := (List.mem_filter.1 hkept).2
  have hno := (List.mem_filter.1 hrest).2
  simp [hyes] at hno

end Predicate

/-- The operators obey their laws for every field, literal, schema and entry, in both kinds of
compilation. Lenient compilation accepts every condition, and a condition that is compiled and has
no pattern has a truth value for every entry. Opposite conditions split every list of entries into
two parts that have no entry in common and together have all of them. -/
theorem operators_obey_laws [PatternEngine] (schema : Schema) (field : String) (literal : Literal) :
    (∀ strict entry, OperatorLaws fun operator b =>
      (Filter.ofOperator field literal operator).Gives schema strict entry b) ∧
    (∀ operator : Operator, operator.ends? = none →
      (∃ p, (Filter.ofOperator field literal operator).compile schema false = .ok p) ∧
      ∀ strict p, (Filter.ofOperator field literal operator).compile schema strict = .ok p →
        ∀ entry, ∃ b, p.evaluate entry = .ok b) ∧
    ∀ (strict : Bool) (o o' : Operator) (p q : Predicate), o.Opposite o' →
      (Filter.ofOperator field literal o).compile schema strict = .ok p →
      (Filter.ofOperator field literal o').compile schema strict = .ok q →
      ∀ entries, ∃ kept rest, p.select entries = .ok kept ∧ q.select entries = .ok rest ∧
        (kept ++ rest).Perm entries ∧ ∀ entry ∈ kept, entry ∉ rest := by
  have htotal {operator : Operator} (hends : operator.ends? = none) {strict : Bool} {p : Predicate}
      (h : (Filter.ofOperator field literal operator).compile schema strict = .ok p)
      (entry : Entry) : ∃ b, p.evaluate entry = .ok b := by
    obtain ⟨b, hb, -⟩ := Filter.exists_evaluate hends h entry
    exact ⟨b, hb⟩
  refine ⟨fun strict entry => Filter.operatorLaws schema strict field literal entry,
    fun operator hends => ⟨Filter.exists_compile_lenient schema _, fun _ _ h => htotal hends h⟩, ?_⟩
  intro strict o o' p q hopposite hp hq entries
  refine Predicate.exists_split (htotal hopposite.ends.1 hp) (fun entry b hb => ?_) entries
  obtain ⟨q', hq', hresult⟩ :=
    (Filter.gives_opposite hopposite (!b)).2 ⟨p, hp, by rw [Bool.not_not, hb]⟩
  obtain rfl : q = q' := Except.ok.inj (hq.symm.trans hq')
  exact hresult

end EntryFilter
