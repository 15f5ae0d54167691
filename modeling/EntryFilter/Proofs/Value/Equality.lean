import EntryFilter.Value.Order

/-! # Equality of values

Equality and order of values are two functions, which agree wherever there is an order. Lists and
dictionaries have none; they are equal if they have the same shape and the same numbers, where an
integer and a float are never the same. -/

namespace EntryFilter.Value

/-! ## Equality and order -/

/-- The kinds of value that have an order, which are those that a literal may stand for. -/
def IsOrderable : Value → Prop
  | bool _ => True
  | int _ => True
  | float _ => True
  | text _ => True
  | _ => False

theorem equals_iff_order? {v operand : Value} (h : operand.IsOrderable) :
    v.equals operand = true ↔ v.order? operand = some .eq := by
  cases operand with
  | null => exact h.elim
  | list items => exact h.elim
  | dict members => exact h.elim
  | bool b => cases v <;> simp [equals, same, order?]
  | int n => cases v <;> simp [equals, same, order?, Binary64.same, Int64.toInt_inj]
  | float x => cases v <;> simp [equals, same, order?, Binary64.same]
  | text s => cases v <;> simp [equals, same, order?]

/-! ## Equality inside lists and dictionaries -/

/-- The values have the same shape and related numbers in the same places. -/
inductive Alike (R : Value → Value → Prop) : Value → Value → Prop where
  | number {a b} : a.isNumber = true → b.isNumber = true → R a b → Alike R a b
  | null : Alike R null null
  | bool (b) : Alike R (bool b) (bool b)
  | text (s) : Alike R (text s) (text s)
  | nil : Alike R (list []) (list [])
  | cons {a b as bs} : Alike R a b → Alike R (list as) (list bs) →
      Alike R (list (a :: as)) (list (b :: bs))
  | noMembers : Alike R (dict []) (dict [])
  | member (name) {a b as bs} : Alike R a b → Alike R (dict as) (dict bs) →
      Alike R (dict ((name, a) :: as)) (dict ((name, b) :: bs))

/-- Two numbers are of one kind and equal. -/
def SameNumber (a b : Value) : Prop := a.kind = b.kind ∧ a.equals b = true

variable {a b : Value}

theorem same_of_alike (h : a.Alike SameNumber b) : a.same b = true := by
  induction h with
  | @number a b ha hb h =>
      obtain ⟨hkind, hequal⟩ := h
      cases a <;> cases b <;> simp_all [isNumber, kind, equals]
  | null => rfl
  | bool b => simp [same]
  | text s => simp [same]
  | nil => rfl
  | cons _ _ ih ihs => simp_all [same, sameItems]
  | noMembers => rfl
  | member name _ _ ih ihs => simp_all [same, sameMembers]

mutual

theorem alike_of_same : ∀ a b : Value, a.same b = true → a.Alike SameNumber b
  | null, b, h => by
      cases b with
      | null => exact .null
      | _ => simp [same] at h
  | bool c, b, h => by
      cases b with
      | bool d =>
          obtain rfl := beq_iff_eq.1 h
          exact .bool c
      | _ => simp [same] at h
  | int n, b, h => by
      cases b with
      | int m => exact .number rfl rfl ⟨rfl, h⟩
      | _ => simp [same] at h
  | float x, b, h => by
      cases b with
      | float y => exact .number rfl rfl ⟨rfl, h⟩
      | _ => simp [same] at h
  | text s, b, h => by
      cases b with
      | text t =>
          obtain rfl := beq_iff_eq.1 h
          exact .text s
      | _ => simp [same] at h
  | list as, b, h => by
      cases b with
      | list bs => exact alike_of_sameItems as bs h
      | _ => simp [same] at h
  | dict as, b, h => by
      cases b with
      | dict bs => exact alike_of_sameMembers as bs h
      | _ => simp [same] at h

theorem alike_of_sameItems : ∀ as bs : List Value,
    sameItems as bs = true → (list as).Alike SameNumber (list bs)
  | [], bs, h => by
      cases bs with
      | nil => exact .nil
      | cons b bs => simp [sameItems] at h
  | a :: as, bs, h => by
      cases bs with
      | nil => simp [sameItems] at h
      | cons b bs =>
          obtain ⟨hfirst, hrest⟩ := Bool.and_eq_true_iff.1 h
          exact .cons (alike_of_same a b hfirst) (alike_of_sameItems as bs hrest)

theorem alike_of_sameMembers : ∀ as bs : List (String × Value),
    sameMembers as bs = true → (dict as).Alike SameNumber (dict bs)
  | [], bs, h => by
      cases bs with
      | nil => exact .noMembers
      | cons b bs => simp [sameMembers] at h
  | (name, a) :: as, bs, h => by
      cases bs with
      | nil => simp [sameMembers] at h
      | cons member bs =>
          obtain ⟨other, b⟩ := member
          obtain ⟨hfirst, hrest⟩ := Bool.and_eq_true_iff.1 h
          obtain ⟨hname, hvalue⟩ := Bool.and_eq_true_iff.1 hfirst
          obtain rfl := beq_iff_eq.1 hname
          exact .member name (alike_of_same a b hvalue) (alike_of_sameMembers as bs hrest)

end

theorem same_iff_alike : a.same b = true ↔ a.Alike SameNumber b :=
  ⟨alike_of_same a b, same_of_alike⟩

/-- A value that is no number equals what has its shape, with numbers of the same kinds. -/
theorem equals_iff_alike (ha : a.isNumber = false) :
    a.equals b = true ↔ a.Alike SameNumber b := by
  rw [← same_iff_alike]
  cases a with
  | int n => cases ha
  | float x => cases ha
  | _ => rfl

end EntryFilter.Value
