import EntryFilter.Proofs.Dictionary.Lookup
import EntryFilter.Proofs.Schema.Settled

/-! # The report and the migration

When the type of a field is changed, the value of each entry is coerced, and what coercion refuses
or takes for no value is removed. The report counts what coercion does not refuse. It is right about
the values that are left, except for text of blanks: types that are read from trimmed text accept
it, but nothing is left of it. -/

namespace EntryFilter

open EntryFilter.Text

/-! ## Migrated entries -/

/-- What is left of a value. -/
def Value.coerced? (value : Value) (target : FieldType) : Option Value :=
  match value.coerce target with
  | .ok result => result
  | .error _ => none

namespace Entry

variable {entry : Entry} {field : String} {target : FieldType}

/-- The entry with what is left of the field's value, or without a value if nothing is. -/
def migrated (field : String) (target : FieldType) (entry : Entry) : Entry :=
  match (entry.value? field).bind (·.coerced? target) with
  | some result => { entry with values := entry.values.insert field result }
  | none => { entry with values := entry.values.erase field }

/-- The field has text that is not empty but has nothing but blanks, and the type is read from
trimmed text. -/
def IsEmptied (field : String) (target : FieldType) (entry : Entry) : Prop :=
  target ∈ [.int, .dec, .date, .email, .url] ∧
    ∃ s, entry.value? field = some (.text s) ∧ s ≠ "" ∧ ∀ c ∈ s.toList, isBlank c = true

/-- A migration changes no other field. -/
theorem value?_migrated (name : String) : (entry.migrated field target).value? name =
    if name = field then (entry.value? field).bind (·.coerced? target) else entry.value? name := by
  rw [migrated]
  split
  · rename_i result hresult
    rw [hresult, value?, Dictionary.get?_insert]
    rfl
  · rename_i hresult
    rw [hresult, value?, Dictionary.get?_erase]
    rfl

theorem hasValue_migrated_iff : (entry.migrated field target).HasValue field ↔
    ∃ value, entry.Holds field value ∧ ∃ result, value.coerce target = .ok (some result) := by
  simp only [HasValue, Holds, value?_migrated, if_true, Option.bind_eq_some_iff]
  constructor
  · rintro ⟨result, ⟨value, hvalue, hresult⟩, -⟩
    have hcoerce : value.coerce target = .ok (some result) := by
      rw [Value.coerced?] at hresult
      split at hresult
      · rename_i kept hkept
        rw [hkept, hresult]
      · cases hresult
    refine ⟨value, ⟨hvalue, ?_, ?_⟩, result, hcoerce⟩
    · rintro rfl
      cases hcoerce
    · rintro rfl
      cases hcoerce
  · rintro ⟨value, ⟨hvalue, -⟩, result, hresult⟩
    obtain ⟨-, hnull, hempty, -⟩ := Value.settled_of_coerce hresult
    refine ⟨result, ⟨value, hvalue, ?_⟩, hnull, hempty⟩
    rw [Value.coerced?, hresult]

theorem isEmptied_iff : entry.IsEmptied field target ↔
    ∃ value, entry.Holds field value ∧ value.coerce target = .ok none := by
  constructor
  · rintro ⟨htarget, s, hvalue, hne, hblank⟩
    refine ⟨.text s, ⟨hvalue, nofun, fun hempty => hne (Value.text.inj hempty)⟩, ?_⟩
    exact Value.coerce_eq_none_iff.2 (.inr (.inr ⟨htarget, s, rfl, hblank⟩))
  · rintro ⟨value, ⟨hvalue, hnull, hempty⟩, hnone⟩
    obtain rfl | rfl | ⟨htarget, s, rfl, hblank⟩ := Value.coerce_eq_none_iff.1 hnone
    · exact absurd rfl hnull
    · exact absurd rfl hempty
    · exact ⟨htarget, s, hvalue, fun hs => hempty (congrArg _ hs), hblank⟩

theorem IsEmptied.not_hasValue_migrated (h : entry.IsEmptied field target) :
    ¬ (entry.migrated field target).HasValue field := by
  intro hkept
  obtain ⟨value, hvalue, hnone⟩ := isEmptied_iff.1 h
  obtain ⟨value', hvalue', result, hresult⟩ := hasValue_migrated_iff.1 hkept
  rw [hvalue.unique hvalue', hresult] at hnone
  cases hnone

theorem survives_iff_migrated : entry.Survives field target ↔
    (entry.migrated field target).HasValue field ∨ entry.IsEmptied field target := by
  rw [hasValue_migrated_iff, isEmptied_iff]
  constructor
  · rintro ⟨value, hvalue, result, hresult⟩
    cases result with
    | some result => exact .inl ⟨value, hvalue, result, hresult⟩
    | none => exact .inr ⟨value, hvalue, hresult⟩
  · rintro (⟨value, hvalue, result, hresult⟩ | ⟨value, hvalue, hnone⟩)
    · exact ⟨value, hvalue, some result, hresult⟩
    · exact ⟨value, hvalue, none, hnone⟩

theorem isEmptied_iff_survives : entry.IsEmptied field target ↔
    entry.Survives field target ∧ ¬ (entry.migrated field target).HasValue field := by
  rw [survives_iff_migrated]
  constructor
  · intro h
    exact ⟨.inr h, h.not_hasValue_migrated⟩
  · rintro ⟨hsurvives, hgone⟩
    exact hsurvives.resolve_left hgone

instance (field : String) (target : FieldType) (entry : Entry) :
    Decidable (entry.IsEmptied field target) := decidable_of_iff _ isEmptied_iff_survives.symm

/-- The migration takes the entry's value away. -/
def LosesValue (field : String) (target : FieldType) (entry : Entry) : Prop :=
  entry.HasValue field ∧ ¬ (entry.migrated field target).HasValue field

instance (field : String) (target : FieldType) (entry : Entry) :
    Decidable (entry.LosesValue field target) := inferInstanceAs (Decidable (_ ∧ _))

theorem losesValue_iff : entry.LosesValue field target ↔
    entry.IsLost field target ∨ entry.IsEmptied field target := by
  rw [isLost_iff, isEmptied_iff_survives, LosesValue]
  constructor
  · rintro ⟨hvalue, hgone⟩
    by_cases hsurvives : entry.Survives field target
    · exact .inr ⟨hsurvives, hgone⟩
    · exact .inl ⟨hvalue, hsurvives⟩
  · rintro (⟨hvalue, hrefused⟩ | ⟨hsurvives, hgone⟩)
    · exact ⟨hvalue, fun hkept => hrefused (survives_iff_migrated.2 (.inl hkept))⟩
    · exact ⟨hsurvives.hasValue, hgone⟩

end Entry

/-! ## What the report predicts -/

namespace TypeChange

theorem countP_migrated (entries : List Entry) (field : String) (target : FieldType) :
    (entries.map (·.migrated field target)).countP (·.HasValue field) +
        entries.countP (·.IsEmptied field target) =
      (report entries field target).convertible := by
  rw [(isReport_report entries field target).convertible, List.countP_map]
  refine countP_add_of_disjoint (fun entry => Entry.survives_iff_migrated) ?_ entries
  intro entry hkept hemptied
  exact hemptied.not_hasValue_migrated hkept

theorem countP_losesValue (entries : List Entry) (field : String) (target : FieldType) :
    entries.countP (·.LosesValue field target) =
      (report entries field target).losing + entries.countP (·.IsEmptied field target) := by
  rw [(isReport_report entries field target).losing]
  refine (countP_add_of_disjoint (fun entry => Entry.losesValue_iff) ?_ entries).symm
  intro entry hlost hemptied
  exact (Entry.isEmptied_iff_survives.1 hemptied).1.not_isLost hlost

/-- The report predicts how many values are left after the migration and how many are taken away,
but for text of blanks that is to become an integer, a number, a date or an address: it is counted
as convertible, and taken away. Without such text the prediction is right, and only then. -/
theorem report_predicts_migration (entries : List Entry) (field : String) (target : FieldType) :
    (entries.map (·.migrated field target)).countP (·.HasValue field) +
        entries.countP (·.IsEmptied field target) =
      (report entries field target).convertible ∧
    entries.countP (·.LosesValue field target) =
      (report entries field target).losing + entries.countP (·.IsEmptied field target) ∧
    ((entries.map (·.migrated field target)).countP (·.HasValue field) =
          (report entries field target).convertible ∧
        entries.countP (·.LosesValue field target) = (report entries field target).losing ↔
      ∀ entry ∈ entries, ¬ entry.IsEmptied field target) := by
  have hkept := countP_migrated entries field target
  have hlost := countP_losesValue entries field target
  have hnone : entries.countP (·.IsEmptied field target) = 0 ↔
      ∀ entry ∈ entries, ¬ entry.IsEmptied field target := by
    rw [List.countP_eq_zero]
    simp only [decide_eq_true_eq]
  refine ⟨hkept, hlost, ?_⟩
  rw [← hnone]
  omega

/-- A blank is counted as convertible to an integer, and the migration takes it away. -/
theorem migration_of_blank :
    let entries : List Entry := [⟨"a", .ofList [("f", .text " ")], .epoch, .epoch⟩]
    counts (report entries "f" .int) = (1, 1, 1, 0) ∧
      (entries.map (·.migrated "f" .int)).countP (·.HasValue "f") = 0 ∧
      entries.countP (·.LosesValue "f" .int) = 1 := by
  decide +kernel

end TypeChange

end EntryFilter
