import EntryFilter.Schema.TypeChange
import Mathlib.Algebra.Group.Prod
import Mathlib.Data.List.Forall2
import Mathlib.Data.List.Induction

/-! # What a report on a change of type says

A report counts the entries that have a value in the field, those whose value the type can take over
and those whose value would be lost, and it lists the first of the latter. One pass over the entries
keeps this true from entry to entry. -/

namespace EntryFilter

/-! ## Entries with a value -/

theorem Value.isBlank_iff {v : Value} : v.isBlank = true ↔ v = .null ∨ v = .text "" := by
  cases v <;> simp [isBlank]

namespace Entry

variable {entry : Entry} {field : String} {target : FieldType} {value : Value}

/-- The field of the entry has the value, which is neither null nor the empty text. -/
def Holds (entry : Entry) (field : String) (value : Value) : Prop :=
  entry.value? field = some value ∧ value ≠ .null ∧ value ≠ .text ""

/-- The entry has a value in the field. -/
def HasValue (field : String) (entry : Entry) : Prop := ∃ value, entry.Holds field value

/-- The entry has a value that the type can take over. -/
def Survives (field : String) (target : FieldType) (entry : Entry) : Prop :=
  ∃ value, entry.Holds field value ∧ ∃ result, value.coerce target = .ok result

/-- The entry has a value that the type refuses. -/
def IsLost (field : String) (target : FieldType) (entry : Entry) : Prop :=
  ∃ value, entry.Holds field value ∧ ∃ e, value.coerce target = .error e

theorem holds_iff :
    entry.Holds field value ↔ TypeChange.presentValue? field entry = some value := by
  rw [Holds, TypeChange.presentValue?]
  cases entry.value? field with
  | none => simp
  | some v =>
      by_cases hv : v.isBlank
      · have hv' := Value.isBlank_iff.1 hv
        simp only [hv, if_true, reduceCtorEq, iff_false]
        rintro ⟨hvalue, hnull, hempty⟩
        obtain rfl := Option.some.inj hvalue
        exact hv'.elim hnull hempty
      · have hv' := not_or.1 (mt Value.isBlank_iff.2 hv)
        simp only [hv, Bool.false_eq_true, if_false, Option.some.injEq, and_iff_left_iff_imp]
        rintro rfl
        exact hv'

theorem Holds.unique {value' : Value} (h : entry.Holds field value)
    (h' : entry.Holds field value') : value = value' := Option.some.inj (h.1.symm.trans h'.1)

theorem Survives.hasValue (h : entry.Survives field target) : entry.HasValue field := by
  obtain ⟨value, hvalue, -⟩ := h
  exact ⟨value, hvalue⟩

theorem IsLost.hasValue (h : entry.IsLost field target) : entry.HasValue field := by
  obtain ⟨value, hvalue, -⟩ := h
  exact ⟨value, hvalue⟩

theorem Survives.not_isLost (h : entry.Survives field target) : ¬ entry.IsLost field target := by
  rintro ⟨value', hvalue', e, he⟩
  obtain ⟨value, hvalue, result, hresult⟩ := h
  rw [hvalue.unique hvalue', he] at hresult
  cases hresult

theorem HasValue.survives_or_isLost (h : entry.HasValue field) (target : FieldType) :
    entry.Survives field target ∨ entry.IsLost field target := by
  obtain ⟨value, hvalue⟩ := h
  cases hresult : value.coerce target with
  | ok result => exact .inl ⟨value, hvalue, result, hresult⟩
  | error e => exact .inr ⟨value, hvalue, e, hresult⟩

theorem hasValue_iff :
    entry.HasValue field ↔ (TypeChange.presentValue? field entry).isSome = true := by
  simp only [HasValue, holds_iff, Option.isSome_iff_exists]

theorem canConvert_iff :
    value.canConvert target = true ↔ ∃ result, value.coerce target = .ok result := by
  rw [Value.canConvert]
  cases value.coerce target <;> simp

theorem survives_iff : entry.Survives field target ↔
    (TypeChange.presentValue? field entry).any (·.canConvert target) = true := by
  simp only [Survives, holds_iff, ← canConvert_iff, Option.any_eq_true]

instance (field : String) (entry : Entry) : Decidable (entry.HasValue field) :=
  decidable_of_iff _ hasValue_iff.symm

instance (field : String) (target : FieldType) (entry : Entry) :
    Decidable (entry.Survives field target) := decidable_of_iff _ survives_iff.symm

theorem isLost_iff :
    entry.IsLost field target ↔ entry.HasValue field ∧ ¬ entry.Survives field target := by
  constructor
  · intro h
    exact ⟨h.hasValue, fun hsurvives => hsurvives.not_isLost h⟩
  · rintro ⟨hvalue, hsurvives⟩
    exact (hvalue.survives_or_isLost target).resolve_left hsurvives

instance (field : String) (target : FieldType) (entry : Entry) :
    Decidable (entry.IsLost field target) := decidable_of_iff _ isLost_iff.symm

end Entry

/-! ## One entry -/

namespace TypeChange

variable {r : TypeChangeReport} {entry : Entry} {field : String} {target : FieldType}
variable {value : Value}

theorem examine_of_no_value (h : ¬ entry.HasValue r.field) :
    examine r entry = { r with total := r.total + 1 } := by
  have hnone : presentValue? r.field entry = none := by
    rwa [Entry.hasValue_iff, Option.not_isSome_iff_eq_none] at h
  simp only [examine, hnone]

theorem examine_of_survives (h : entry.Survives r.field r.target) :
    examine r entry =
      { r with
        total := r.total + 1
        withValue := r.withValue + 1
        convertible := r.convertible + 1 } := by
  obtain ⟨value, hvalue, hresult⟩ := h
  have hconvert := Entry.canConvert_iff.2 hresult
  simp only [examine, Entry.holds_iff.1 hvalue, hconvert, if_true]

theorem examine_of_lost (hvalue : entry.Holds r.field value)
    (h : ∃ e, value.coerce r.target = .error e) :
    examine r entry =
      { r with
        total := r.total + 1
        withValue := r.withValue + 1
        losing := r.losing + 1
        affected := list r.affected entry value } := by
  have hconvert : value.canConvert r.target = false := by
    obtain ⟨e, he⟩ := h
    rw [Value.canConvert, he]
  simp only [examine, Entry.holds_iff.1 hvalue, hconvert, Bool.false_eq_true, if_false]

/-! ## What a report says -/

/-- An affected entry is named by its identifier and shown with the longest beginning of its value's
text that has at most 100 characters. -/
def Shows (field : String) (entry : Entry) (affected : AffectedEntry) : Prop :=
  affected.id = entry.id ∧ ∃ value, entry.Holds field value ∧
    affected.preview.toList <+: value.toText.toList ∧ affected.preview.length ≤ 100 ∧
    ∀ longer, longer <+: value.toText.toList → longer.length ≤ 100 →
      longer.length ≤ affected.preview.length

/-- Each part of the report is what it stands for: the counts count entries, and the list has the
first ten of those whose value would be lost. -/
structure IsReport (entries : List Entry) (field : String) (target : FieldType)
    (r : TypeChangeReport) : Prop where
  field_eq : r.field = field
  target_eq : r.target = target
  total : r.total = entries.length
  withValue : r.withValue = entries.countP (·.HasValue field)
  convertible : r.convertible = entries.countP (·.Survives field target)
  losing : r.losing = entries.countP (·.IsLost field target)
  /-- The first entries whose value would be lost, in their order and without gaps. -/
  affected : List.Forall₂ (Shows field) ((entries.filter (·.IsLost field target)).take 10)
    r.affected

theorem shows_preview (h : entry.Holds field value) :
    Shows field entry ⟨entry.id, String.ofList (value.toText.toList.take maxPreview)⟩ := by
  refine ⟨rfl, value, h, ?_, ?_, ?_⟩
  · rw [String.toList_ofList]
    exact List.take_prefix maxPreview _
  · rw [String.length_ofList, List.length_take]
    exact Nat.min_le_left 100 _
  · intro longer hlonger hlength
    rw [String.length_ofList, List.length_take]
    exact Nat.le_min.2 ⟨hlength, hlonger.length_le⟩

/-- The list of affected entries grows up to its limit. -/
theorem shows_list {lost : List Entry} {affected : List AffectedEntry}
    (h : List.Forall₂ (Shows field) (lost.take 10) affected) (hvalue : entry.Holds field value) :
    List.Forall₂ (Shows field) ((lost ++ [entry]).take 10) (list affected entry value) := by
  have hlength := h.length_eq
  rw [List.length_take] at hlength
  by_cases hfull : lost.length < 10
  · have hroom : affected.length < maxAffected := by
      simp only [maxAffected]
      omega
    have hshort : (lost ++ [entry]).length ≤ 10 := by
      simp only [List.length_append, List.length_singleton]
      omega
    rw [List.take_of_length_le (Nat.le_of_lt hfull)] at h
    rw [list, if_pos hroom, List.take_of_length_le hshort]
    exact List.rel_append h (.cons (shows_preview hvalue) .nil)
  · have hroom : ¬ affected.length < maxAffected := by
      simp only [maxAffected]
      omega
    rw [list, if_neg hroom, List.take_append_of_le_length (Nat.le_of_not_lt hfull)]
    exact h

variable {entries : List Entry}

theorem isReport_start (field : String) (target : FieldType) :
    IsReport [] field target (start field target) :=
  ⟨rfl, rfl, rfl, rfl, rfl, rfl, .nil⟩

/-- One more entry keeps a report right. -/
theorem IsReport.examine (h : IsReport entries field target r) (entry : Entry) :
    IsReport (entries ++ [entry]) field target (examine r entry) := by
  obtain ⟨rfl, rfl, htotal, hwith, hconvertible, hlosing, haffected⟩ := h
  by_cases hvalue : entry.HasValue r.field
  · rcases hvalue.survives_or_isLost r.target with hsurvives | hlost
    · have hkept := hsurvives.not_isLost
      rw [examine_of_survives hsurvives]
      constructor <;> simp [List.countP_append, *]
    · have hkept : ¬ entry.Survives r.field r.target := fun hs => hs.not_isLost hlost
      obtain ⟨value, hholds, hrefused⟩ := id hlost
      rw [examine_of_lost hholds hrefused]
      constructor
      case affected => simpa [hlost] using shows_list haffected hholds
      all_goals simp [List.countP_append, *]
  · have hkept : ¬ entry.Survives r.field r.target := mt Entry.Survives.hasValue hvalue
    have hlost : ¬ entry.IsLost r.field r.target := mt Entry.IsLost.hasValue hvalue
    rw [examine_of_no_value hvalue]
    constructor <;> simp [List.countP_append, *]

theorem isReport_report (entries : List Entry) (field : String) (target : FieldType) :
    IsReport entries field target (report entries field target) := by
  induction entries using List.reverseRecOn with
  | nil => exact isReport_start field target
  | append_singleton entries entry ih =>
      rw [report, List.foldl_concat]
      exact ih.examine entry

/-! ## Nothing is left open -/

theorem Shows.unique {a b : AffectedEntry} (ha : Shows field entry a) (hb : Shows field entry b) :
    a = b := by
  obtain ⟨hid, value, hvalue, hbegins, hlength, hlongest⟩ := ha
  obtain ⟨hid', value', hvalue', hbegins', hlength', hlongest'⟩ := hb
  obtain rfl := hvalue.unique hvalue'
  have hle := hlongest' _ hbegins hlength
  have hge := hlongest _ hbegins' hlength'
  have hpreview : a.preview.toList = b.preview.toList :=
    (List.prefix_of_prefix_length_le hbegins hbegins' hle).eq_of_length (Nat.le_antisymm hle hge)
  obtain ⟨id, preview⟩ := a
  obtain ⟨id', preview'⟩ := b
  exact congrArg₂ AffectedEntry.mk (hid.trans hid'.symm) (String.toList_inj.1 hpreview)

theorem forall₂_shows_unique {lost : List Entry} {as bs : List AffectedEntry}
    (ha : List.Forall₂ (Shows field) lost as) (hb : List.Forall₂ (Shows field) lost bs) :
    as = bs := by
  induction ha generalizing bs with
  | nil =>
      cases hb
      rfl
  | cons hshows _ ih =>
      cases hb with
      | cons hshows' hb => rw [hshows.unique hshows', ih hb]

theorem IsReport.unique {r r' : TypeChangeReport} (h : IsReport entries field target r)
    (h' : IsReport entries field target r') : r = r' := by
  have haffected := forall₂_shows_unique h.affected h'.affected
  obtain ⟨rfl, rfl, htotal, hwith, hconvertible, hlosing, -⟩ := h
  obtain ⟨hfield, htarget, htotal', hwith', hconvertible', hlosing', -⟩ := h'
  cases r
  cases r'
  dsimp only at *
  rw [hfield, htarget, htotal, htotal', hwith, hwith', hconvertible, hconvertible', hlosing,
    hlosing', haffected]

/-! ## Counts -/

/-- All entries, those with a value, those whose value survives and those whose value is lost. -/
def counts (r : TypeChangeReport) : Nat × Nat × Nat × Nat :=
  (r.total, r.withValue, r.convertible, r.losing)

theorem IsReport.counts_eq (h : IsReport entries field target r) :
    counts r = (entries.length, entries.countP (·.HasValue field),
      entries.countP (·.Survives field target), entries.countP (·.IsLost field target)) := by
  rw [counts, h.total, h.withValue, h.convertible, h.losing]

/-- What is either of one kind or of another one is counted kind by kind. -/
theorem countP_add_of_disjoint {α : Type} {p q r : α → Prop} [DecidablePred p] [DecidablePred q]
    [DecidablePred r] (h : ∀ a, r a ↔ p a ∨ q a) (hdisjoint : ∀ a, p a → ¬ q a) (l : List α) :
    l.countP p + l.countP q = l.countP r := by
  induction l with
  | nil => rfl
  | cons a l ih =>
      simp only [List.countP_cons, decide_eq_true_eq, h a]
      by_cases hp : p a
      · simp only [hp, hdisjoint a hp, true_or, if_true, if_false]
        omega
      · simp only [hp, false_or, if_false]
        omega

/-- A value survives or is lost. -/
theorem countP_survives_add_lost (entries : List Entry) (field : String) (target : FieldType) :
    entries.countP (·.Survives field target) + entries.countP (·.IsLost field target) =
      entries.countP (·.HasValue field) := by
  refine countP_add_of_disjoint (fun entry => ⟨fun h => h.survives_or_isLost target, ?_⟩)
    (fun entry h => h.not_isLost) entries
  rintro (hsurvives | hlost)
  · exact hsurvives.hasValue
  · exact hlost.hasValue

/-- The report on a change of type is the only one whose parts are what they stand for. Every value
survives or is lost, and the list has all affected entries up to its limit. The counts do not depend
on the order of the entries, and they are added when two lists are joined. -/
theorem report_spec (entries : List Entry) (field : String) (target : FieldType) :
    (∀ r, IsReport entries field target r ↔ r = report entries field target) ∧
    (report entries field target).convertible + (report entries field target).losing =
      (report entries field target).withValue ∧
    (report entries field target).affected.length =
      min 10 (report entries field target).losing ∧
    (∀ entries', entries'.Perm entries →
      counts (report entries' field target) = counts (report entries field target)) ∧
    ∀ more, counts (report (entries ++ more) field target) =
      counts (report entries field target) + counts (report more field target) := by
  have hreport := isReport_report entries field target
  refine ⟨?_, ?_, ?_, ?_, ?_⟩
  · intro r
    constructor
    · intro h
      exact h.unique hreport
    · rintro rfl
      exact hreport
  · rw [hreport.convertible, hreport.losing, hreport.withValue]
    exact countP_survives_add_lost entries field target
  · rw [← hreport.affected.length_eq, List.length_take, ← List.countP_eq_length_filter,
      hreport.losing]
  · intro entries' hperm
    rw [(isReport_report entries' field target).counts_eq, hreport.counts_eq, hperm.length_eq,
      hperm.countP_eq, hperm.countP_eq, hperm.countP_eq]
  · intro more
    rw [(isReport_report (entries ++ more) field target).counts_eq, hreport.counts_eq,
      (isReport_report more field target).counts_eq, List.length_append, List.countP_append,
      List.countP_append, List.countP_append]
    rfl

theorem report_spec_of_two :
    counts (report [⟨"b", .ofList [("age", .text "forty")], .epoch, .epoch⟩,
      ⟨"a", .ofList [("age", .int 18)], .epoch, .epoch⟩] "age" .int) = (2, 2, 1, 1) := by
  obtain ⟨-, -, -, hperm, -⟩ := report_spec [⟨"a", .ofList [("age", .int 18)], .epoch, .epoch⟩,
    ⟨"b", .ofList [("age", .text "forty")], .epoch, .epoch⟩] "age" .int
  rw [hperm _ (.swap _ _ [])]
  decide +kernel

end TypeChange

end EntryFilter
