import EntryFilter.Proofs.Document.Reading

/-! # Documents determine predicates

A document can be read back, so no two predicates have the same one. This is also true if numbers
are not all told apart: a document with other numbers is that of the predicate with other numbers.
What the compiler produces from literals that are finite numbers is among these predicates. -/

namespace EntryFilter

/-! ## Documents with other numbers -/

mutual

/-- The tree with another number in the place of every one that is no integer. -/
def Json.mapNumbers (f : Binary64 → Binary64) : Json → Json
  | .decimal x => .decimal (f x)
  | .array items => .array (Json.mapItems f items)
  | .object members => .object (Json.mapMembers f members)
  | json => json

def Json.mapItems (f : Binary64 → Binary64) : List Json → List Json
  | [] => []
  | item :: rest => item.mapNumbers f :: Json.mapItems f rest

def Json.mapMembers (f : Binary64 → Binary64) : List (String × Json) → List (String × Json)
  | [] => []
  | (name, value) :: rest => (name, value.mapNumbers f) :: Json.mapMembers f rest

end

/-- Another float in the place of a float. -/
def Value.mapNumber (f : Binary64 → Binary64) : Value → Value
  | float x => float (f x)
  | v => v

namespace Predicate

mutual

/-- The predicate with another operand in the place of every float. -/
def mapNumbers (f : Binary64 → Binary64) : Predicate → Predicate
  | compare c key operand => compare c key (operand.mapNumber f)
  | and operands => and (mapOperands f operands)
  | or operands => or (mapOperands f operands)
  | p => p

def mapOperands (f : Binary64 → Binary64) : List Predicate → List Predicate
  | [] => []
  | p :: rest => p.mapNumbers f :: mapOperands f rest

end

end Predicate

/-- A change of numbers that makes no finite one infinite or NaN. -/
def KeepsFinite (f : Binary64 → Binary64) : Prop := ∀ x, x.isFinite = true → (f x).isFinite = true

variable {f : Binary64 → Binary64}

namespace Value

theorem IsExpressible.mapNumber {v : Value} (hf : KeepsFinite f) (h : v.IsExpressible) :
    (v.mapNumber f).IsExpressible := by
  cases v with
  | float x => exact hf x h
  | _ => exact h

theorem toJson_mapNumber {v : Value} (hf : KeepsFinite f) (h : v.IsExpressible) :
    (v.mapNumber f).toJson = v.toJson.mapNumbers f := by
  cases v with
  | list items => exact h.elim
  | dict members => exact h.elim
  | float x =>
      have hx : x.isFinite = true := h
      simp [mapNumber, toJson, floatToJson, hx, hf x hx, Json.mapNumbers]
  | _ => simp [mapNumber, toJson, Json.mapNumbers]

end Value

namespace Predicate

theorem mapOperands_eq_map (operands : List Predicate) :
    mapOperands f operands = operands.map (mapNumbers f) := by
  induction operands with
  | nil => rfl
  | cons p operands ih => rw [mapOperands, ih, List.map_cons]

theorem forall_mapOperands {operands : List Predicate}
    (h : ∀ p ∈ operands, (p.mapNumbers f).IsExpressible) :
    ∀ q ∈ mapOperands f operands, q.IsExpressible := by
  intro q hq
  rw [mapOperands_eq_map] at hq
  obtain ⟨p, hp, rfl⟩ := List.mem_map.1 hq
  exact h p hp

theorem IsExpressible.mapNumbers {p : Predicate} (hf : KeepsFinite f) (h : p.IsExpressible) :
    (p.mapNumbers f).IsExpressible := by
  induction h with
  | all => exact .all
  | compare c field hoperand => exact .compare c field (hoperand.mapNumber hf)
  | matching field pattern ignoreCase => exact .matching field pattern ignoreCase
  | present field expected => exact .present field expected
  | and _ ih => exact .and (forall_mapOperands ih)
  | or _ ih => exact .or (forall_mapOperands ih)

theorem documents_mapOperands {operands : List Predicate}
    (h : ∀ p ∈ operands, (p.mapNumbers f).document = p.document.mapNumbers f) :
    documents (mapOperands f operands) = Json.mapItems f (documents operands) := by
  induction operands with
  | nil => rfl
  | cons p operands ih =>
      have hp := h p List.mem_cons_self
      have hrest := ih fun q hq => h q (List.mem_cons_of_mem p hq)
      simp only [mapOperands, documents, Json.mapItems, hp, hrest]

/-- Numbers are changed in the document as in the predicate. -/
theorem document_mapNumbers {p : Predicate} (hf : KeepsFinite f) (h : p.IsExpressible) :
    (p.mapNumbers f).document = p.document.mapNumbers f := by
  induction h with
  | all => rfl
  | compare c field hoperand =>
      have hjson := Value.toJson_mapNumber hf hoperand
      rw [mapNumbers, document, document, hjson]
      cases c <;> rfl
  | matching field pattern ignoreCase => cases ignoreCase <;> rfl
  | present field expected => rfl
  | and _ ih =>
      rw [mapNumbers, document, document, documents_mapOperands ih]
      rfl
  | or _ ih =>
      rw [mapNumbers, document, document, documents_mapOperands ih]
      rfl

/-- Documents are told apart by other numbers no better than their predicates are. -/
theorem mapNumbers_injective {p q : Predicate} (hf : KeepsFinite f) (hp : p.IsExpressible)
    (hq : q.IsExpressible) (h : p.document.mapNumbers f = q.document.mapNumbers f) :
    p.mapNumbers f = q.mapNumbers f := by
  rw [← document_mapNumbers hf hp, ← document_mapNumbers hf hq] at h
  exact document_injective (hp.mapNumbers hf) (hq.mapNumbers hf) h

end Predicate

/-! ## Compiled filters -/

theorem Value.isExpressible_of_isOrderable {v : Value} (h : v.IsOrderable)
    (hfinite : ¬ v.IsNonFinite) : v.IsExpressible := by
  cases v with
  | float x => exact eq_true_of_ne_false hfinite
  | list items => exact h.elim
  | dict members => exact h.elim
  | _ => exact trivial

namespace Filter

variable {schema : Schema} {f : Filter} {p : Predicate}

theorem isExpressible_conditionPredicate (field : String) (operator : Operator) {operand : Value}
    (h : ∀ c, operator = .compare c → operand.IsExpressible) :
    (conditionPredicate (fieldKey field) operator operand).IsExpressible := by
  cases operator with
  | compare c => exact .compare c field (h c rfl)
  | contains => exact .matching ..
  | startsWith => exact .matching ..
  | endsWith => exact .matching ..
  | isNull => exact .compare .eq field trivial
  | isNotNull => exact .compare .ne field trivial
  | isEmpty =>
      refine .or fun p hp => ?_
      simp only [List.mem_cons, List.not_mem_nil, or_false] at hp
      rcases hp with rfl | rfl | rfl
      · exact .compare .eq field trivial
      · exact .compare .eq field trivial
      · exact .present field false
  | isNotEmpty =>
      refine .and fun p hp => ?_
      simp only [List.mem_cons, List.not_mem_nil, or_false] at hp
      rcases hp with rfl | rfl | rfl
      · exact .compare .ne field trivial
      · exact .compare .ne field trivial
      · exact .present field true

/-- The operand of a comparison is null if it is missing, and else what its literal stands for. -/
theorem isExpressible_meantOperand {c : Condition} (h : ¬ c.ComparesNonFinite schema)
    {comparison : Comparison} (hoperator : c.operator = .compare comparison) :
    (meantOperand schema c.field c.operand).IsExpressible := by
  cases hoperand : c.operand with
  | none => exact trivial
  | some literal =>
      refine Value.isExpressible_of_isOrderable (isOrderable_meantOperand schema c.field literal) ?_
      rw [isNonFinite_meantOperand]
      exact fun hliteral => h ⟨comparison, literal, hoperator, hoperand, hliteral⟩

/-- JSON can express what a filter compiles to, if no condition compares with an infinity or NaN. -/
theorem isExpressible_of_compile (hcompile : f.compile schema false = .ok p)
    (h : ∀ c ∈ f.conditions, ¬ c.ComparesNonFinite schema) : p.IsExpressible := by
  induction f generalizing p with
  | blank =>
      obtain rfl := Except.ok.inj hcompile
      exact .all
  | condition field operator operand =>
      obtain ⟨value, hvalue, hmeant⟩ := operandValue_lenient schema field operator operand
      obtain rfl := Except.ok.inj ((compile_condition hvalue).symm.trans hcompile)
      refine isExpressible_conditionPredicate field operator fun c hc => ?_
      rw [hmeant (by rw [hc]; rfl)]
      exact isExpressible_meantOperand (h _ (List.mem_singleton_self _)) hc
  | and left right ihl ihr =>
      obtain ⟨p₁, h₁⟩ := exists_compile_lenient schema left
      obtain ⟨p₂, h₂⟩ := exists_compile_lenient schema right
      obtain rfl := Except.ok.inj ((compile_and h₁ h₂).symm.trans hcompile)
      have hleft := ihl h₁ fun c hc => h c (List.mem_append_left _ hc)
      have hright := ihr h₂ fun c hc => h c (List.mem_append_right _ hc)
      exact .and (by simp [hleft, hright])
  | or left right ihl ihr =>
      obtain ⟨p₁, h₁⟩ := exists_compile_lenient schema left
      obtain ⟨p₂, h₂⟩ := exists_compile_lenient schema right
      obtain rfl := Except.ok.inj ((compile_or h₁ h₂).symm.trans hcompile)
      have hleft := ihl h₁ fun c hc => h c (List.mem_append_left _ hc)
      have hright := ihr h₂ fun c hc => h c (List.mem_append_right _ hc)
      exact .or (by simp [hleft, hright])

end Filter

/-- Zero without a minus sign in the place of zero. -/
def Binary64.unsignZero (x : Binary64) : Binary64 := if x.isZero then zero false else x

theorem keepsFinite_unsignZero : KeepsFinite Binary64.unsignZero := by
  intro x hx
  rw [Binary64.unsignZero]
  split
  · rfl
  · exact hx

/-- The document of a predicate determines it, whatever the names of its fields, if JSON can express
its operands. Documents that differ in the signs of zeros alone come from predicates that do so.
Every filter compiles to such a predicate unless it compares with an infinity or NaN, so filters
with the same document have the same predicate. -/
theorem document_determines_predicate :
    (∀ p q : Predicate, p.IsExpressible → q.IsExpressible →
      (p.document = q.document → p = q) ∧
      (p.document.mapNumbers Binary64.unsignZero = q.document.mapNumbers Binary64.unsignZero →
        p.mapNumbers Binary64.unsignZero = q.mapNumbers Binary64.unsignZero)) ∧
    ∀ (schema : Schema) (strict : Bool) (f : Filter) (p : Predicate),
      f.compile schema strict = .ok p → (∀ c ∈ f.conditions, ¬ c.ComparesNonFinite schema) →
        p.IsExpressible := by
  refine ⟨fun p q hp hq => ⟨Predicate.document_injective hp hq,
    Predicate.mapNumbers_injective keepsFinite_unsignZero hp hq⟩, ?_⟩
  intro schema strict f p hcompile
  cases strict with
  | false => exact Filter.isExpressible_of_compile hcompile
  | true => exact Filter.isExpressible_of_compile (Filter.compile_lenient_of_strict hcompile)

/-- An integer and the float that equals it have different documents, and a field may be called
like an operator. -/
theorem documents_of_one_differ :
    (Predicate.compare .eq (fieldKey "$and") (.int 1)).document ≠
      (Predicate.compare .eq (fieldKey "$and") (.float (.ofInt 1))).document ∧
    ∃ p, (Filter.condition "$and" (.compare .gt) (some (.number (.ofInt 1)))).compile .empty true =
      .ok p ∧ p.IsExpressible := by
  obtain ⟨hdetermines, hcompiled⟩ := document_determines_predicate
  have hone : (Binary64.ofInt 1).isFinite = true := by decide +kernel
  constructor
  · intro h
    have hint : (Predicate.compare .eq (fieldKey "$and") (.int 1)).IsExpressible :=
      .compare .eq "$and" trivial
    have hfloat : (Predicate.compare .eq (fieldKey "$and") (.float (.ofInt 1))).IsExpressible :=
      .compare .eq "$and" hone
    have hsame := (hdetermines _ _ hint hfloat).1 h
    exact Value.noConfusion (Predicate.compare.inj hsame).2.2
  · have hcompile : (Filter.condition "$and" (.compare .gt) (some (.number (.ofInt 1)))).compile
        .empty true = .ok (.compare .gt (fieldKey "$and") (.float (.ofInt 1))) := rfl
    refine ⟨_, hcompile, hcompiled .empty true _ _ hcompile fun c hc => ?_⟩
    obtain rfl := List.mem_singleton.1 hc
    rintro ⟨_, literal, -, hliteral, hinfinite⟩
    obtain rfl := Option.some.inj hliteral
    exact Bool.false_ne_true (hinfinite.1.symm.trans hone)

end EntryFilter
