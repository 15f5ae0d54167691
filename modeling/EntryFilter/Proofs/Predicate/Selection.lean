import EntryFilter.Predicate.Evaluation

/-! # Selecting entries

Selection keeps the entries for which a predicate holds, in order, or it stops at the first entry
for which the predicate has no result. A joined list is selected piece by piece. -/

namespace EntryFilter.Predicate

variable [PatternEngine] {p : Predicate} {entry : Entry} {front rest entries kept : List Entry}
variable {e : EvaluationError}

/-- Evaluation comes to a result for the entry. -/
def HasResult (p : Predicate) (entry : Entry) : Prop := ∃ b, p.evaluate entry = .ok b

/-- The predicate has a result for the entry, and it holds. -/
def holdsFor (p : Predicate) (entry : Entry) : Bool :=
  match p.evaluate entry with
  | .ok b => b
  | .error _ => false

theorem holdsFor_of_ok {b : Bool} (h : p.evaluate entry = .ok b) : p.holdsFor entry = b := by
  rw [holdsFor, h]

theorem HasResult.evaluate_eq (h : p.HasResult entry) :
    p.evaluate entry = .ok (p.holdsFor entry) := by
  obtain ⟨b, hb⟩ := h
  rw [hb, holdsFor_of_ok hb]

/-! ## Pieces of a list -/

theorem select_append (p : Predicate) (front rest : List Entry) :
    p.select (front ++ rest) = do
      let first ← p.select front
      let second ← p.select rest
      return first ++ second := by
  induction front with
  | nil =>
      rw [List.nil_append, select]
      cases p.select rest <;> rfl
  | cons entry front ih =>
      rw [List.cons_append, select, select, ih]
      cases p.evaluate entry with
      | error e => rfl
      | ok holds =>
          cases p.select front with
          | error e => rfl
          | ok first =>
              cases p.select rest with
              | error e => rfl
              | ok second => cases holds <;> rfl

theorem select_append_eq_ok_iff : p.select (front ++ rest) = .ok kept ↔
    ∃ first second, p.select front = .ok first ∧ p.select rest = .ok second ∧
      kept = first ++ second := by
  rw [select_append]
  cases p.select front with
  | error e => simp [bind, Except.bind]
  | ok first =>
      cases p.select rest with
      | error e => simp [bind, Except.bind]
      | ok second => simp [bind, Except.bind, pure, Except.pure, eq_comm]

/-! ## All or nothing -/

theorem select_eq_filter {passes : Entry → Bool}
    (h : ∀ entry ∈ entries, p.evaluate entry = .ok (passes entry)) :
    p.select entries = .ok (entries.filter passes) := by
  induction entries with
  | nil => rfl
  | cons entry rest ih =>
      obtain ⟨hentry, hrest⟩ := List.forall_mem_cons.1 h
      rw [select, hentry, ih hrest, List.filter_cons]
      cases passes entry <;> rfl

theorem select_of_hasResult (h : ∀ entry ∈ entries, p.HasResult entry) :
    p.select entries = .ok (entries.filter p.holdsFor) :=
  select_eq_filter fun entry hentry => (h entry hentry).evaluate_eq

theorem select_of_error (hfront : ∀ other ∈ front, p.HasResult other)
    (h : p.evaluate entry = .error e) (rest : List Entry) :
    p.select (front ++ entry :: rest) = .error e := by
  rw [select_append, select_of_hasResult hfront, select, h]
  rfl

/-- Either all entries have a result, or there is a first one that has none. -/
theorem hasResult_or_error (p : Predicate) (entries : List Entry) :
    (∀ entry ∈ entries, p.HasResult entry) ∨
      ∃ front entry rest e, entries = front ++ entry :: rest ∧
        (∀ other ∈ front, p.HasResult other) ∧ p.evaluate entry = .error e := by
  induction entries with
  | nil => exact .inl (List.forall_mem_nil _)
  | cons entry entries ih =>
      cases hentry : p.evaluate entry with
      | error e => exact .inr ⟨[], entry, entries, e, rfl, List.forall_mem_nil _, hentry⟩
      | ok b =>
          have hresult : p.HasResult entry := ⟨b, hentry⟩
          rcases ih with hall | ⟨front, other, rest, e, rfl, hfront, hother⟩
          · exact .inl (List.forall_mem_cons.2 ⟨hresult, hall⟩)
          · exact .inr ⟨entry :: front, other, rest, e, rfl,
              List.forall_mem_cons.2 ⟨hresult, hfront⟩, hother⟩

theorem select_eq_ok_iff : p.select entries = .ok kept ↔
    (∀ entry ∈ entries, p.HasResult entry) ∧ kept = entries.filter p.holdsFor := by
  constructor
  · intro h
    rcases p.hasResult_or_error entries with hall | ⟨front, entry, rest, e, rfl, hfront, hentry⟩
    · rw [select_of_hasResult hall] at h
      exact ⟨hall, (Except.ok.inj h).symm⟩
    · rw [select_of_error hfront hentry] at h
      cases h
  · rintro ⟨hall, rfl⟩
    exact select_of_hasResult hall

theorem select_eq_error_iff : p.select entries = .error e ↔
    ∃ front entry rest, entries = front ++ entry :: rest ∧
      (∀ other ∈ front, p.HasResult other) ∧ p.evaluate entry = .error e := by
  constructor
  · intro h
    rcases p.hasResult_or_error entries with hall | ⟨front, entry, rest, e', rfl, hfront, hentry⟩
    · rw [select_of_hasResult hall] at h
      cases h
    · rw [select_of_error hfront hentry] at h
      obtain rfl := Except.error.inj h
      exact ⟨front, entry, rest, rfl, hfront, hentry⟩
  · rintro ⟨front, entry, rest, rfl, hfront, hentry⟩
    exact select_of_error hfront hentry rest

/-- The selected entries are some of the entries, and the predicate holds for each. -/
theorem select_spec (h : p.select entries = .ok kept) :
    kept.Sublist entries ∧ ∀ entry ∈ kept, p.evaluate entry = .ok true := by
  obtain ⟨hresults, rfl⟩ := select_eq_ok_iff.1 h
  refine ⟨List.filter_sublist, fun entry hentry => ?_⟩
  obtain ⟨hmem, hholds⟩ := List.mem_filter.1 hentry
  rw [(hresults entry hmem).evaluate_eq, hholds]

theorem select_eq_self (h : ∀ entry ∈ entries, p.evaluate entry = .ok true) :
    p.select entries = .ok entries := by
  have hall : p.select entries = .ok (entries.filter fun _ => true) := select_eq_filter h
  rw [hall, List.filter_eq_self.2 fun _ _ => rfl]

end EntryFilter.Predicate
