import EntryFilter.Predicate.Evaluation
import EntryFilter.Proofs.Meaning.Direct

/-! # Evaluating predicates of stored fields

What the evaluation of a predicate tells, put together from its parts: it stops at a pattern that
the engine refuses, or it finds out whether something holds. -/

namespace EntryFilter

open EntryFilter.Pattern

/-! ## Keys -/

theorem after_append (beginning cs : List Char) :
    Text.after? beginning (beginning ++ cs) = some cs := by
  induction beginning with
  | nil => rfl
  | cons b beginning ih => simp [Text.after?, ih]

/-- Under the key of a field its value is found, whatever the name of the field. -/
theorem Entry.lookup_fieldKey (entry : Entry) (field : String) :
    entry.lookup? (fieldKey field) = entry.value? field := by
  have hkey : (fieldKey field).toList = "values.".toList ++ field.toList :=
    String.toList_append
  have hid : fieldKey field ≠ "id" := by
    intro h
    have hlength := congrArg List.length hkey
    rw [h, List.length_append] at hlength
    have hvalues : "values.".toList.length = 7 := rfl
    have hid : "id".toList.length = 2 := rfl
    omega
  simp only [lookup?, if_neg hid, hkey, after_append]
  rw [String.ofList_toList]

/-! ## Evaluation -/

namespace Predicate

variable [engine : PatternEngine]

/-- Evaluation stops for a reason or else tells whether something holds. -/
structure Decides (p : Predicate) (entry : Entry) (stops : PatternError → Prop) (holds : Prop) :
    Prop where
  stopped : ∀ reason, stops reason → p.evaluate entry = .error (.invalidPattern reason)
  finished : (∀ reason, ¬ stops reason) → ∃ b, p.evaluate entry = .ok b ∧ (b = true ↔ holds)

variable {p q : Predicate} {entry : Entry} {stops stops' : PatternError → Prop}
variable {holds holds' : Prop}

theorem Decides.of_ok {b : Bool} (h : p.evaluate entry = .ok b) (hb : b = true ↔ holds) :
    p.Decides entry (fun _ => False) holds :=
  ⟨fun _ hstop => hstop.elim, fun _ => ⟨b, h, hb⟩⟩

theorem Decides.congr (h : p.Decides entry stops holds)
    (hstops : ∀ reason, stops reason ↔ stops' reason) (hholds : holds ↔ holds') :
    p.Decides entry stops' holds' := by
  obtain rfl : stops = stops' := funext fun reason => propext (hstops reason)
  obtain rfl : holds = holds' := propext hholds
  exact h

theorem Decides.evaluate_eq_ok_iff (h : p.Decides entry stops holds) {b : Bool} :
    p.evaluate entry = .ok b ↔ (∀ reason, ¬ stops reason) ∧ (b = true ↔ holds) := by
  constructor
  · intro hb
    have hnone : ∀ reason, ¬ stops reason := fun reason hstop => by
      rw [h.stopped reason hstop] at hb
      cases hb
    obtain ⟨b', hb', hiff⟩ := h.finished hnone
    obtain rfl := Except.ok.inj (hb.symm.trans hb')
    exact ⟨hnone, hiff⟩
  · rintro ⟨hnone, hiff⟩
    obtain ⟨b', hb', hiff'⟩ := h.finished hnone
    rw [hb', Bool.eq_iff_iff.2 (hiff'.trans hiff.symm)]

theorem Decides.evaluate_eq_error_iff (h : p.Decides entry stops holds) {reason : PatternError} :
    p.evaluate entry = .error (.invalidPattern reason) ↔ stops reason := by
  refine ⟨fun he => ?_, h.stopped reason⟩
  by_cases hstop : ∃ other, stops other
  · obtain ⟨other, hother⟩ := hstop
    have hsame := (h.stopped other hother).symm.trans he
    rwa [EvaluationError.invalidPattern.inj (Except.error.inj hsame)] at hother
  · obtain ⟨b, hb, -⟩ := h.finished fun other hother => hstop ⟨other, hother⟩
    rw [hb] at he
    cases he

theorem evaluate_and_stop {e : EvaluationError} (h : p.evaluate entry = .error e) :
    (and [p, q]).evaluate entry = .error e := by
  simp only [evaluate, evaluateAll, h]

theorem evaluate_and_false (h : p.evaluate entry = .ok false) :
    (and [p, q]).evaluate entry = .ok false := by
  simp only [evaluate, evaluateAll, h]

theorem evaluate_and_true (h : p.evaluate entry = .ok true) :
    (and [p, q]).evaluate entry = q.evaluate entry := by
  simp only [evaluate, evaluateAll, h]
  split <;> simp_all

theorem evaluate_or_stop {e : EvaluationError} (h : p.evaluate entry = .error e) :
    (or [p, q]).evaluate entry = .error e := by
  simp only [evaluate, evaluateAny, h]

theorem evaluate_or_true (h : p.evaluate entry = .ok true) :
    (or [p, q]).evaluate entry = .ok true := by
  simp only [evaluate, evaluateAny, h]

theorem evaluate_or_false (h : p.evaluate entry = .ok false) :
    (or [p, q]).evaluate entry = q.evaluate entry := by
  simp only [evaluate, evaluateAny, h]
  split <;> simp_all

/-- A conjunction goes on to its right side only if the left one holds. -/
theorem Decides.and (hp : p.Decides entry stops holds) (hq : q.Decides entry stops' holds') :
    (Predicate.and [p, q]).Decides entry
      (fun reason => stops reason ∨ (∀ other, ¬ stops other) ∧ holds ∧ stops' reason)
      (holds ∧ holds') where
  stopped := by
    rintro reason (hstop | ⟨hnone, hholds, hstop⟩)
    · exact evaluate_and_stop (hp.stopped reason hstop)
    · obtain ⟨b, hb, hiff⟩ := hp.finished hnone
      obtain rfl := hiff.2 hholds
      rw [evaluate_and_true hb]
      exact hq.stopped reason hstop
  finished hnone := by
    have hleft : ∀ other, ¬ stops other := fun other h => hnone other (.inl h)
    obtain ⟨b, hb, hiff⟩ := hp.finished hleft
    cases b with
    | false =>
        have hfalse : ¬ holds := fun h => Bool.false_ne_true (hiff.2 h)
        exact ⟨false, evaluate_and_false hb, by simp [hfalse]⟩
    | true =>
        have hholds := hiff.1 rfl
        obtain ⟨b, hb', hiff'⟩ := hq.finished fun other h => hnone other (.inr ⟨hleft, hholds, h⟩)
        exact ⟨b, (evaluate_and_true hb).trans hb', by simp [hiff', hholds]⟩

/-- A disjunction goes on to its right side only if the left one does not hold. -/
theorem Decides.or (hp : p.Decides entry stops holds) (hq : q.Decides entry stops' holds') :
    (Predicate.or [p, q]).Decides entry
      (fun reason => stops reason ∨ (∀ other, ¬ stops other) ∧ ¬ holds ∧ stops' reason)
      (holds ∨ holds') where
  stopped := by
    rintro reason (hstop | ⟨hnone, hholds, hstop⟩)
    · exact evaluate_or_stop (hp.stopped reason hstop)
    · obtain ⟨b, hb, hiff⟩ := hp.finished hnone
      obtain rfl : b = false := Bool.eq_false_iff.2 fun h => hholds (hiff.1 h)
      rw [evaluate_or_false hb]
      exact hq.stopped reason hstop
  finished hnone := by
    have hleft : ∀ other, ¬ stops other := fun other h => hnone other (.inl h)
    obtain ⟨b, hb, hiff⟩ := hp.finished hleft
    cases b with
    | true => exact ⟨true, evaluate_or_true hb, by simp [hiff.1 rfl]⟩
    | false =>
        have hfalse : ¬ holds := fun h => Bool.false_ne_true (hiff.2 h)
        obtain ⟨b, hb', hiff'⟩ := hq.finished fun other h => hnone other (.inr ⟨hleft, hfalse, h⟩)
        exact ⟨b, (evaluate_or_false hb).trans hb', by simp [hiff', hfalse]⟩

theorem Decides.compare (c : Comparison) (field : String) (operand : Value) (entry : Entry) :
    (Predicate.compare c (fieldKey field) operand).Decides entry (fun _ => False)
      (c.Relates (entry.value? field) operand) := by
  refine .of_ok rfl ?_
  rw [entry.lookup_fieldKey, Comparison.holds_iff]

/-- The pattern of a text operator stops at stored text if the engine refuses it, and otherwise
tells whether the text has a piece that agrees with the operand up to case. -/
theorem Decides.matching (hengine : engine.FindsPieces) (atStart atEnd : Bool) (field : String)
    (cs : List Char) (entry : Entry) :
    (Filter.matchOperator (fieldKey field) (piecePattern atStart atEnd cs)).Decides entry
      (fun reason => ∃ s, entry.value? field = some (.text s) ∧
        engine.compile true (String.ofList (piecePattern atStart atEnd cs)) = .error reason)
      (∃ s piece, entry.value? field = some (.text s) ∧ IsPiece atStart atEnd piece s.toList ∧
        SameUpToCase piece cs) := by
  have heval : (Filter.matchOperator (fieldKey field) (piecePattern atStart atEnd cs)).evaluate
      entry = matchStored (String.ofList (piecePattern atStart atEnd cs)) true
        (entry.value? field) := by
    rw [← entry.lookup_fieldKey]
    rfl
  constructor
  · rintro reason ⟨s, hs, hrefused⟩
    rw [heval, hs]
    simp [matchStored, hrefused]
  · intro hnone
    rw [heval]
    by_cases htext : ∃ s, entry.value? field = some (.text s)
    · obtain ⟨s, hs⟩ := htext
      cases hcompile : engine.compile true (String.ofList (piecePattern atStart atEnd cs)) with
      | error reason => exact absurd ⟨s, hs, hcompile⟩ (hnone reason)
      | ok isMatch =>
          refine ⟨isMatch s, by simp [hs, matchStored, hcompile], ?_⟩
          rw [hengine.finds hcompile]
          simp [hs]
    · refine ⟨false, ?_, ?_⟩
      · unfold matchStored
        split
        · rename_i s hs
          exact absurd ⟨s, hs⟩ htext
        · rfl
      · simp only [Bool.false_eq_true, false_iff]
        rintro ⟨s, _, hs, _⟩
        exact htext ⟨s, hs⟩

end Predicate

end EntryFilter
