import EntryFilter.Schema.Coercion

/-! # What coercion yields

Coercion to an integer, a number or a truth value yields a value of that kind, and which one it is
can be told from the literal. -/

namespace EntryFilter

open EntryFilter.Text

namespace Coercion

variable {α : Type} {make : α → Value} {v w : Value}

theorem exists_of_ofOption {result : Option α}
    (h : Outcome.ofOption (result.map make) = .coerced w) : ∃ a, w = make a := by
  cases result with
  | none => cases h
  | some a => exact ⟨a, (Outcome.coerced.inj h).symm⟩

theorem exists_of_ofTrimmed {text : String} {read? : List Char → Option α}
    (h : ofTrimmed text (fun cs => (read? cs).map make) = .coerced w) : ∃ a, w = make a := by
  simp only [ofTrimmed] at h
  split at h
  · cases h
  · split at h
    · rename_i value hread
      obtain ⟨a, -, rfl⟩ := Option.map_eq_some_iff.1 hread
      exact ⟨a, (Outcome.coerced.inj h).symm⟩
    · cases h

theorem exists_int_of_toInt (h : toInt v = .coerced w) : ∃ n, w = .int n := by
  cases v with
  | bool b => exact ⟨_, (Outcome.coerced.inj h).symm⟩
  | int n => exact ⟨n, (Outcome.coerced.inj h).symm⟩
  | float x =>
      rw [toInt] at h
      exact exists_of_ofOption h
  | text s =>
      rw [toInt] at h
      exact exists_of_ofTrimmed h
  | _ => cases h

theorem exists_float_of_toDec (h : toDec v = .coerced w) : ∃ x, w = .float x := by
  cases v with
  | bool b => exact ⟨_, (Outcome.coerced.inj h).symm⟩
  | int n => exact ⟨_, (Outcome.coerced.inj h).symm⟩
  | float x => exact ⟨x, (Outcome.coerced.inj h).symm⟩
  | text s =>
      rw [toDec] at h
      exact exists_of_ofTrimmed h
  | _ => cases h

theorem exists_bool_of_toBool (h : toBool v = .coerced w) : ∃ b, w = .bool b := by
  unfold toBool at h
  split at h
  · exact ⟨_, (Outcome.coerced.inj h).symm⟩
  · exact ⟨_, (Outcome.coerced.inj h).symm⟩
  · exact ⟨_, (Outcome.coerced.inj h).symm⟩
  · generalize truthOfWord? _ = result at h
    exact exists_of_ofOption h

theorem integral?_eq_none {x : Binary64} (h : x.isFinite = false) : integral? x = none := by
  cases x with
  | finite => cases h
  | _ => rfl

end Coercion

namespace Value

theorem outcome_of_coerce {v w : Value} {target : FieldType} (h : v.coerce target = .ok (some w)) :
    Coercion.outcome v target = .coerced w := by
  simp only [coerce] at h
  split at h
  · cases h
  · split at h
    · cases h
    · cases h
    · rename_i result hresult
      rw [hresult, Option.some.inj (Except.ok.inj h)]

/-- A float becomes the integer that it equals. -/
theorem coerce_float_int (x : Binary64) : (float x).coerce .int =
    match Coercion.integral? x with
    | some n => .ok (some (.int n))
    | none => .error ⟨.float x, .int⟩ := by
  cases hintegral : Coercion.integral? x <;>
    simp [coerce, isBlank, Coercion.outcome, Coercion.toInt, Coercion.Outcome.ofOption, hintegral]

/-- Text becomes the number that it reads as without the blanks around it. -/
theorem coerce_text_dec (s : String) : (text s).coerce .dec =
    match Binary64.read? (trim s.toList) with
    | some x => .ok (some (.float x))
    | none => if trim s.toList = [] then .ok none else .error ⟨.text s, .dec⟩ := by
  by_cases htrim : trim s.toList = []
  · have hread : Binary64.read? [] = none := by decide
    simp only [htrim, hread, coerce, Coercion.outcome, Coercion.toDec, Coercion.ofTrimmed]
    split <;> rfl
  · have hs : s ≠ "" := by
      rintro rfl
      exact htrim rfl
    cases hread : Binary64.read? (trim s.toList) <;>
      simp [coerce, isBlank, Coercion.outcome, Coercion.toDec, Coercion.ofTrimmed, htrim, hread, hs]

end Value

end EntryFilter
