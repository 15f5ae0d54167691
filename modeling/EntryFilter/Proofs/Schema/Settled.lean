import EntryFilter.Proofs.Compilation.Coercion
import EntryFilter.Proofs.Csv.Entries
import EntryFilter.Proofs.Schema.TypeChange
import EntryFilter.Proofs.Text.Trimming

/-! # Coerced values are settled

A coerced value has the form of the type it was coerced to, and coercing it again changes nothing.
Only null and blank text count as no value. -/

namespace EntryFilter

open EntryFilter.Text

/-! ## The text of a value -/

namespace Decimal

theorem positional_ne_nil (d : Decimal) : d.positional ≠ [] := by
  simp only [positional]
  split
  · simp [natText_ne_nil]
  · split <;> simp

end Decimal

theorem Csv.IsNumeric.trim_eq {cs : List Char} (h : IsNumeric cs) : trim cs = cs := by
  have hsigns : (numberSigns.all fun c => !isBlank c) = true := by decide +kernel
  refine trim_of_not_blank fun c hc => ?_
  rcases h c hc with hdigit | hsign
  · exact isBlank_of_isAsciiDigit hdigit
  · simpa using List.all_eq_true.1 hsigns c hsign

theorem Binary64.plainText_ne_nil (x : Binary64) : x.plainText ≠ [] := by
  cases x <;> simp [plainText, Decimal.positional_ne_nil]

theorem Decimal.intText_ne_nil (n : Int) : intText n ≠ [] := by
  unfold intText
  split <;> simp [natText_ne_nil]

/-! ## Blank values -/

namespace Value

/-- What is not text shows a character that is not blank. -/
theorem trim_toText_ne_nil {v : Value} (h : ∀ s, v ≠ .text s) : trim v.toText.toList ≠ [] := by
  have hfront {c : Char} {rest : List Char} (hc : Text.isBlank c = false) :
      trim (c :: rest) ≠ [] := by
    rw [trim_of_cons hc]
    exact List.cons_ne_nil _ _
  rw [toText.eq_2 v h]
  cases v with
  | text s => exact absurd rfl (h s)
  | null => decide +kernel
  | bool b => cases b <;> decide +kernel
  | int n =>
      rw [display, String.toList_ofList, (Csv.isNumeric_intText n.toInt).trim_eq]
      exact Decimal.intText_ne_nil n.toInt
  | float x =>
      rw [display, String.toList_ofList, (Csv.isNumeric_plainText x).trim_eq]
      exact x.plainText_ne_nil
  | list items =>
      rw [display, Json.compact, String.toList_ofList]
      exact hfront (by decide +kernel)
  | dict members =>
      rw [display, Json.compact, String.toList_ofList]
      exact hfront (by decide +kernel)

theorem trim_toText_eq_nil_iff {v : Value} :
    trim v.toText.toList = [] ↔ ∃ s, v = .text s ∧ ∀ c ∈ s.toList, Text.isBlank c = true := by
  constructor
  · intro htrim
    cases v with
    | text s => exact ⟨s, rfl, trim_eq_nil_iff.1 htrim⟩
    | _ => exact absurd htrim (trim_toText_ne_nil nofun)
  · rintro ⟨s, rfl, hblank⟩
    exact trim_eq_nil_iff.2 hblank

theorem toText_ne_empty {v : Value} (h : v ≠ .text "") : v.toText ≠ "" := by
  intro hempty
  have hblank : trim v.toText.toList = [] := by
    rw [hempty]
    rfl
  obtain ⟨s, rfl, -⟩ := trim_toText_eq_nil_iff.1 hblank
  exact h (congrArg text hempty)

end Value

/-! ## Outcomes of coercion -/

namespace Coercion

variable {v w : Value}

theorem ofTrimmed_eq_noValue_iff {text : String} {read? : List Char → Option Value} :
    ofTrimmed text read? = .noValue ↔ trim text.toList = [] := by
  simp only [ofTrimmed, List.isEmpty_iff]
  split
  · simp [*]
  · rename_i hne
    split <;> simp [hne]

theorem ofTrimmed_eq_coerced_iff {text : String} {read? : List Char → Option Value} :
    ofTrimmed text read? = .coerced w ↔
      trim text.toList ≠ [] ∧ read? (trim text.toList) = some w := by
  simp only [ofTrimmed, List.isEmpty_iff]
  split
  · simp [*]
  · rename_i hne
    split <;> simp [*]

/-- The types whose values are read from trimmed text, in which blank text is no value. -/
def readsTrimmed : List FieldType := [.int, .dec, .date, .email, .url]

theorem ofOption_ne_noValue (result : Option Value) : Outcome.ofOption result ≠ .noValue := by
  cases result <;> exact Outcome.noConfusion

theorem toInt_eq_noValue_iff : toInt v = .noValue ↔ trim v.toText.toList = [] := by
  rw [Value.trim_toText_eq_nil_iff]
  cases v with
  | text s => simp [toInt, ofTrimmed_eq_noValue_iff, trim_eq_nil_iff]
  | _ => simp [toInt, ofOption_ne_noValue]

theorem toDec_eq_noValue_iff : toDec v = .noValue ↔ trim v.toText.toList = [] := by
  rw [Value.trim_toText_eq_nil_iff]
  cases v with
  | text s => simp [toDec, ofTrimmed_eq_noValue_iff, trim_eq_nil_iff]
  | _ => simp [toDec]

theorem toBool_ne_noValue : toBool v ≠ .noValue := by
  unfold toBool
  split
  · simp
  · simp
  · simp
  · exact ofOption_ne_noValue _

/-- Coercion finds no value in blank text only, and only for types that are read from trimmed
text. -/
theorem outcome_eq_noValue_iff {target : FieldType} : outcome v target = .noValue ↔
    target ∈ readsTrimmed ∧ ∃ s, v = .text s ∧ ∀ c ∈ s.toList, Text.isBlank c = true := by
  rw [← Value.trim_toText_eq_nil_iff]
  cases target with
  | int => simp [outcome, readsTrimmed, toInt_eq_noValue_iff]
  | dec => simp [outcome, readsTrimmed, toDec_eq_noValue_iff]
  | bool => simp [outcome, readsTrimmed, toBool_ne_noValue]
  | str => simp [outcome, readsTrimmed]
  | date => simp [outcome, readsTrimmed, toCheckedText, ofTrimmed_eq_noValue_iff]
  | email => simp [outcome, readsTrimmed, toCheckedText, ofTrimmed_eq_noValue_iff]
  | url => simp [outcome, readsTrimmed, toCheckedText, ofTrimmed_eq_noValue_iff]
  | dict => cases v <;> simp [outcome, readsTrimmed]
  | list => cases v <;> simp [outcome, readsTrimmed]

/-! ## Settled outcomes -/

theorem toCheckedText_eq_coerced_iff {test : List Char → Bool} :
    toCheckedText test v = .coerced w ↔ trim v.toText.toList ≠ [] ∧
      test (trim v.toText.toList) = true ∧ w = .text (String.ofList (trim v.toText.toList)) := by
  rw [toCheckedText, ofTrimmed_eq_coerced_iff, Option.ite_none_right_eq_some, Option.some_inj,
    @eq_comm _ w]

end Coercion

/-- The value has the form of the type. -/
def Value.HasForm : FieldType → Value → Prop
  | .bool, bool _ | .int, int _ | .dec, float _ | .dict, dict _ | .list, list _ => True
  | .str, text _ | .date, text _ | .email, text _ | .url, text _ => True
  | _, _ => False

namespace Coercion

variable {v w : Value} {target : FieldType}

/-- Coercion to a type that is read from trimmed text. -/
theorem settled_of_checked {test : List Char → Bool} (h : toCheckedText test v = .coerced w) :
    (∃ s, w = .text s) ∧ w ≠ .text "" ∧ toCheckedText test w = .coerced w := by
  obtain ⟨hne, htest, rfl⟩ := toCheckedText_eq_coerced_iff.1 h
  refine ⟨⟨_, rfl⟩, ?_, ?_⟩
  · intro hempty
    have := congrArg String.toList (Value.text.inj hempty)
    rw [String.toList_ofList] at this
    exact hne this
  · rw [toCheckedText_eq_coerced_iff, Value.toText.eq_1, String.toList_ofList, trim_trim]
    exact ⟨hne, htest, rfl⟩

theorem outcome_dict_eq_coerced_iff :
    outcome v .dict = .coerced w ↔ (∃ members, v = .dict members) ∧ w = v := by
  cases v with
  | dict members => simp [outcome, @eq_comm _ w]
  | _ => simp [outcome]

theorem outcome_list_eq_coerced_iff :
    outcome v .list = .coerced w ↔ (∃ items, v = .list items) ∧ w = v := by
  cases v with
  | list items => simp [outcome, @eq_comm _ w]
  | _ => simp [outcome]

theorem settled_of_outcome (hv : v ≠ .text "") (h : outcome v target = .coerced w) :
    w.HasForm target ∧ w ≠ .null ∧ w ≠ .text "" ∧ outcome w target = .coerced w := by
  cases target with
  | int =>
      obtain ⟨n, rfl⟩ := exists_int_of_toInt h
      exact ⟨trivial, nofun, nofun, rfl⟩
  | dec =>
      obtain ⟨x, rfl⟩ := exists_float_of_toDec h
      exact ⟨trivial, nofun, nofun, rfl⟩
  | bool =>
      obtain ⟨b, rfl⟩ := exists_bool_of_toBool h
      exact ⟨trivial, nofun, nofun, rfl⟩
  | str =>
      obtain rfl := Outcome.coerced.inj h
      exact ⟨trivial, nofun, fun hempty => Value.toText_ne_empty hv (Value.text.inj hempty), rfl⟩
  | date =>
      obtain ⟨⟨s, rfl⟩, hne, hagain⟩ := settled_of_checked h
      exact ⟨trivial, nofun, hne, hagain⟩
  | email =>
      obtain ⟨⟨s, rfl⟩, hne, hagain⟩ := settled_of_checked h
      exact ⟨trivial, nofun, hne, hagain⟩
  | url =>
      obtain ⟨⟨s, rfl⟩, hne, hagain⟩ := settled_of_checked h
      exact ⟨trivial, nofun, hne, hagain⟩
  | dict =>
      obtain ⟨⟨members, rfl⟩, rfl⟩ := outcome_dict_eq_coerced_iff.1 h
      exact ⟨trivial, nofun, nofun, rfl⟩
  | list =>
      obtain ⟨⟨items, rfl⟩, rfl⟩ := outcome_list_eq_coerced_iff.1 h
      exact ⟨trivial, nofun, nofun, rfl⟩

end Coercion

namespace Value

variable {v w : Value} {target : FieldType}

theorem coerce_of_blank (h : v.isBlank = true) (target : FieldType) :
    v.coerce target = .ok none := by
  rw [coerce, if_pos h]

theorem coerce_eq_some_iff : v.coerce target = .ok (some w) ↔
    v.isBlank = false ∧ Coercion.outcome v target = .coerced w := by
  rw [coerce]
  cases v.isBlank
  · cases Coercion.outcome v target <;> simp
  · simp

theorem coerce_eq_none_iff_outcome : v.coerce target = .ok none ↔
    v.isBlank = true ∨ Coercion.outcome v target = .noValue := by
  rw [coerce]
  cases v.isBlank
  · cases Coercion.outcome v target <;> simp
  · simp

/-- What coercion yields is settled. -/
theorem settled_of_coerce (h : v.coerce target = .ok (some w)) : w.HasForm target ∧ w ≠ .null ∧
    w ≠ .text "" ∧ w.coerce target = .ok (some w) := by
  obtain ⟨hblank, houtcome⟩ := coerce_eq_some_iff.1 h
  have hv : v ≠ .text "" := by
    rintro rfl
    cases hblank
  obtain ⟨hform, hnull, hempty, hagain⟩ := Coercion.settled_of_outcome hv houtcome
  refine ⟨hform, hnull, hempty, coerce_eq_some_iff.2 ⟨?_, hagain⟩⟩
  rw [← Bool.not_eq_true, isBlank_iff]
  exact not_or.2 ⟨hnull, hempty⟩

/-- Null and empty text are no value, and text of blanks is none for the types that are read from
trimmed text. -/
theorem coerce_eq_none_iff : v.coerce target = .ok none ↔ v = .null ∨ v = .text "" ∨
    target ∈ Coercion.readsTrimmed ∧
      ∃ s, v = .text s ∧ ∀ c ∈ s.toList, Text.isBlank c = true := by
  rw [coerce_eq_none_iff_outcome, isBlank_iff, Coercion.outcome_eq_noValue_iff, or_assoc]

/-- What coercion yields has the form of the type, is not blank and is not changed by coercing it
again. No value is what null and blank text yield, where text of blanks only counts as blank for the
types that are read from trimmed text. Any value becomes text, and only containers become
containers, as they are. -/
theorem coercion_settles (v : Value) (target : FieldType) :
    (∀ w, v.coerce target = .ok (some w) → w.HasForm target ∧ w ≠ .null ∧ w ≠ .text "" ∧
      w.coerce target = .ok (some w)) ∧
    (v.coerce target = .ok none ↔ v = .null ∨ v = .text "" ∨
      target ∈ [.int, .dec, .date, .email, .url] ∧
        ∃ s, v = .text s ∧ ∀ c ∈ s.toList, Text.isBlank c = true) ∧
    (∃ result, v.coerce .str = .ok result) ∧
    (∀ w, v.coerce .dict = .ok (some w) ↔ (∃ members, v = .dict members) ∧ w = v) ∧
    ∀ w, v.coerce .list = .ok (some w) ↔ (∃ items, v = .list items) ∧ w = v := by
  refine ⟨fun w h => settled_of_coerce h, coerce_eq_none_iff, ?_, fun w => ?_, fun w => ?_⟩
  · cases hblank : v.isBlank
    · exact ⟨_, coerce_eq_some_iff.2 ⟨hblank, rfl⟩⟩
    · exact ⟨none, coerce_of_blank hblank .str⟩
  · rw [coerce_eq_some_iff, Coercion.outcome_dict_eq_coerced_iff]
    exact and_iff_right_of_imp fun ⟨⟨_, hv⟩, _⟩ => hv ▸ rfl
  · rw [coerce_eq_some_iff, Coercion.outcome_list_eq_coerced_iff]
    exact and_iff_right_of_imp fun ⟨⟨_, hv⟩, _⟩ => hv ▸ rfl

end Value

end EntryFilter
