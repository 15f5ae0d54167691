import EntryFilter.Pattern.Meaning
import EntryFilter.Proofs.Predicate.Selection

/-! # Short-circuit evaluation

The operands of a connective are taken from left to right: a conjunction ends at the first that does
not hold, a disjunction at the first that does. The rules say how far this goes without mentioning
the evaluator. Evaluation fails exactly if it comes to text that has to be matched with a bad
pattern, and otherwise its result is the truth value of the whole tree. Which patterns are bad is
left to the engine. -/

namespace EntryFilter.Predicate

section

variable [PatternEngine]

/-! ## Truth values -/

mutual

/-- The truth value of the whole tree. A pattern that is refused matches all text or none, as
`unread` says. -/
def truth (unread : Bool) : Predicate → Entry → Bool
  | all, _ => true
  | compare c key operand, entry => c.holds (entry.lookup? key) operand
  | matching key pattern ignoreCase, entry =>
    match entry.lookup? key with
    | some (.text s) =>
      match PatternEngine.compile ignoreCase pattern with
      | .ok isMatch => isMatch s
      | .error _ => unread
    | _ => false
  | present key expected, entry => (entry.lookup? key).isSome == expected
  | and operands, entry => truthOfAll unread operands entry
  | or operands, entry => truthOfAny unread operands entry

def truthOfAll (unread : Bool) : List Predicate → Entry → Bool
  | [], _ => true
  | operand :: rest, entry => truth unread operand entry && truthOfAll unread rest entry

def truthOfAny (unread : Bool) : List Predicate → Entry → Bool
  | [], _ => false
  | operand :: rest, entry => truth unread operand entry || truthOfAny unread rest entry

end

theorem truthOfAll_eq_all (unread : Bool) (operands : List Predicate) (entry : Entry) :
    truthOfAll unread operands entry = operands.all (·.truth unread entry) := by
  induction operands with
  | nil => rfl
  | cons operand rest ih => rw [truthOfAll, ih, List.all_cons]

theorem truthOfAny_eq_any (unread : Bool) (operands : List Predicate) (entry : Entry) :
    truthOfAny unread operands entry = operands.any (·.truth unread entry) := by
  induction operands with
  | nil => rfl
  | cons operand rest ih => rw [truthOfAny, ih, List.any_cons]

/-! ## The rules -/

/-- Evaluation from left to right finishes with a truth value. -/
inductive Finishes (entry : Entry) : Predicate → Bool → Prop where
  | all : Finishes entry .all true
  | compare (c key operand) :
      Finishes entry (.compare c key operand) (c.holds (entry.lookup? key) operand)
  | text {key pattern ignoreCase s isMatch} : entry.lookup? key = some (.text s) →
      PatternEngine.compile ignoreCase pattern = .ok isMatch →
      Finishes entry (.matching key pattern ignoreCase) (isMatch s)
  | noText {key} (pattern ignoreCase) : (∀ s, entry.lookup? key ≠ some (.text s)) →
      Finishes entry (.matching key pattern ignoreCase) false
  | present (key expected) :
      Finishes entry (.present key expected) ((entry.lookup? key).isSome == expected)
  | and {operands} : (∀ p ∈ operands, Finishes entry p true) → Finishes entry (.and operands) true
  | andEnd {front p} (rest) : (∀ q ∈ front, Finishes entry q true) → Finishes entry p false →
      Finishes entry (.and (front ++ p :: rest)) false
  | or {operands} : (∀ p ∈ operands, Finishes entry p false) → Finishes entry (.or operands) false
  | orEnd {front p} (rest) : (∀ q ∈ front, Finishes entry q false) → Finishes entry p true →
      Finishes entry (.or (front ++ p :: rest)) true

/-- Evaluation of the first predicate from left to right comes to the second one inside it. -/
inductive Reaches (entry : Entry) : Predicate → Predicate → Prop where
  | refl (p) : Reaches entry p p
  | and {front p q} (rest) : (∀ other ∈ front, Finishes entry other true) → Reaches entry p q →
      Reaches entry (.and (front ++ p :: rest)) q
  | or {front p q} (rest) : (∀ other ∈ front, Finishes entry other false) → Reaches entry p q →
      Reaches entry (.or (front ++ p :: rest)) q

/-- Evaluation comes to a condition that finds text to match, but whose pattern the engine refuses
for the given reason. -/
def MeetsBadPattern (p : Predicate) (entry : Entry) (reason : PatternError) : Prop :=
  ∃ key pattern ignoreCase s, p.Reaches entry (.matching key pattern ignoreCase) ∧
    entry.lookup? key = some (.text s) ∧
    PatternEngine.compile ignoreCase pattern = .error reason

variable {p q : Predicate} {entry : Entry} {front : List Predicate} {reason : PatternError}
variable {b : Bool}

/-! ## What follows the rules is evaluated -/

theorem evaluateAll_append (h : ∀ q ∈ front, q.evaluate entry = .ok true)
    (rest : List Predicate) : evaluateAll (front ++ rest) entry = evaluateAll rest entry := by
  induction front with
  | nil => rfl
  | cons operand front ih =>
      obtain ⟨hoperand, hfront⟩ := List.forall_mem_cons.1 h
      rw [List.cons_append, evaluateAll, hoperand]
      exact ih hfront

theorem evaluateAny_append (h : ∀ q ∈ front, q.evaluate entry = .ok false)
    (rest : List Predicate) : evaluateAny (front ++ rest) entry = evaluateAny rest entry := by
  induction front with
  | nil => rfl
  | cons operand front ih =>
      obtain ⟨hoperand, hfront⟩ := List.forall_mem_cons.1 h
      rw [List.cons_append, evaluateAny, hoperand]
      exact ih hfront

theorem Finishes.evaluate_eq (h : p.Finishes entry b) : p.evaluate entry = .ok b := by
  induction h with
  | all => rfl
  | compare => rfl
  | text hs hmatch => simp only [evaluate, matchStored, hs, hmatch]
  | @noText key pattern ignoreCase hs =>
      rw [evaluate]
      unfold matchStored
      split
      · rename_i s htext
        exact absurd htext (hs s)
      · rfl
  | present => rfl
  | @and operands _ ih =>
      have hall := evaluateAll_append ih []
      rwa [List.append_nil] at hall
  | andEnd rest _ _ ihs ih => rw [evaluate, evaluateAll_append ihs, evaluateAll, ih]
  | @or operands _ ih =>
      have hany := evaluateAny_append ih []
      rwa [List.append_nil] at hany
  | orEnd rest _ _ ihs ih => rw [evaluate, evaluateAny_append ihs, evaluateAny, ih]

/-- The error of a predicate that is reached is the error of the whole. -/
theorem Reaches.evaluate_eq_error {e : EvaluationError} (h : p.Reaches entry q)
    (hq : q.evaluate entry = .error e) : p.evaluate entry = .error e := by
  induction h with
  | refl => exact hq
  | and rest hfront _ ih =>
      have hevaluate := fun other hother => (hfront other hother).evaluate_eq
      rw [evaluate, evaluateAll_append hevaluate, evaluateAll, ih hq]
  | or rest hfront _ ih =>
      have hevaluate := fun other hother => (hfront other hother).evaluate_eq
      rw [evaluate, evaluateAny_append hevaluate, evaluateAny, ih hq]

theorem MeetsBadPattern.evaluate_eq_error (h : p.MeetsBadPattern entry reason) :
    p.evaluate entry = .error (.invalidPattern reason) := by
  obtain ⟨key, pattern, ignoreCase, s, hreaches, hs, hrefused⟩ := h
  refine hreaches.evaluate_eq_error ?_
  simp only [evaluate, matchStored, hs, hrefused]

/-- What evaluation leaves out does not matter for the truth value, nor do bad patterns there. -/
theorem Finishes.truth_eq (h : p.Finishes entry b) (unread : Bool) :
    p.truth unread entry = b := by
  induction h with
  | all => rfl
  | compare => rfl
  | text hs hmatch => simp only [truth, hs, hmatch]
  | @noText key pattern ignoreCase hs =>
      unfold truth
      split
      · rename_i s htext
        exact absurd htext (hs s)
      · rfl
  | present => rfl
  | and _ ih =>
      rw [truth, truthOfAll_eq_all]
      exact List.all_eq_true.2 ih
  | andEnd rest _ _ _ ih =>
      rw [truth, truthOfAll_eq_all]
      simp [ih]
  | or _ ih =>
      rw [truth, truthOfAny_eq_any]
      exact List.any_eq_false.2 fun p hp => by simp [ih p hp]
  | orEnd rest _ _ _ ih =>
      rw [truth, truthOfAny_eq_any]
      simp [ih]

/-! ## Evaluation follows the rules -/

mutual

/-- Evaluation finishes or comes to a bad pattern. -/
theorem finishes_or_meets (entry : Entry) : ∀ p : Predicate,
    (∃ b, p.Finishes entry b) ∨ ∃ reason, p.MeetsBadPattern entry reason
  | all => .inl ⟨true, .all⟩
  | compare c key operand => .inl ⟨_, .compare c key operand⟩
  | matching key pattern ignoreCase => by
      by_cases htext : ∃ s, entry.lookup? key = some (.text s)
      · obtain ⟨s, hs⟩ := htext
        cases hcompile : PatternEngine.compile ignoreCase pattern with
        | error reason =>
            exact .inr ⟨reason, key, pattern, ignoreCase, s, .refl _, hs, hcompile⟩
        | ok isMatch => exact .inl ⟨_, .text hs hcompile⟩
      · exact .inl ⟨false, .noText pattern ignoreCase (not_exists.1 htext)⟩
  | present key expected => .inl ⟨_, .present key expected⟩
  | and operands => by
      rcases operands_split entry true operands with hall | ⟨front, p, rest, rfl, hfront, hp⟩
      · exact .inl ⟨true, .and hall⟩
      · rcases hp with hp | ⟨reason, key, pattern, ignoreCase, s, hreaches, hbad⟩
        · exact .inl ⟨false, .andEnd rest hfront hp⟩
        · exact .inr ⟨reason, key, pattern, ignoreCase, s, .and rest hfront hreaches, hbad⟩
  | or operands => by
      rcases operands_split entry false operands with hall | ⟨front, p, rest, rfl, hfront, hp⟩
      · exact .inl ⟨false, .or hall⟩
      · rcases hp with hp | ⟨reason, key, pattern, ignoreCase, s, hreaches, hbad⟩
        · exact .inl ⟨true, .orEnd rest hfront hp⟩
        · exact .inr ⟨reason, key, pattern, ignoreCase, s, .or rest hfront hreaches, hbad⟩

/-- All operands finish with the same truth value, or there is a first one that does not. -/
theorem operands_split (entry : Entry) (b : Bool) : ∀ operands : List Predicate,
    (∀ p ∈ operands, p.Finishes entry b) ∨
      ∃ front p rest, operands = front ++ p :: rest ∧ (∀ q ∈ front, q.Finishes entry b) ∧
        (p.Finishes entry (!b) ∨ ∃ reason, p.MeetsBadPattern entry reason)
  | [] => .inl (List.forall_mem_nil _)
  | operand :: operands => by
      have hnone : ∀ q ∈ ([] : List Predicate), q.Finishes entry b := List.forall_mem_nil _
      rcases finishes_or_meets entry operand with ⟨b', hfirst⟩ | hmeets
      · by_cases hb : b' = b
        -- only an operand that does not end the connective leads on to the rest
        · subst hb
          rcases operands_split entry b' operands with hall | ⟨front, p, rest, rfl, hfront, hp⟩
          · exact .inl (List.forall_mem_cons.2 ⟨hfirst, hall⟩)
          · exact .inr ⟨operand :: front, p, rest, rfl,
              List.forall_mem_cons.2 ⟨hfirst, hfront⟩, hp⟩
        · obtain rfl := Bool.eq_not.2 hb
          exact .inr ⟨[], operand, operands, rfl, hnone, .inl hfirst⟩
      · exact .inr ⟨[], operand, operands, rfl, hnone, .inr hmeets⟩

end

theorem evaluate_eq_error_iff :
    p.evaluate entry = .error (.invalidPattern reason) ↔ p.MeetsBadPattern entry reason := by
  constructor
  · intro h
    rcases finishes_or_meets entry p with ⟨b, hfinishes⟩ | ⟨reason', hmeets⟩
    · rw [hfinishes.evaluate_eq] at h
      cases h
    · rw [hmeets.evaluate_eq_error] at h
      cases h
      exact hmeets
  · exact MeetsBadPattern.evaluate_eq_error

theorem hasResult_iff :
    p.HasResult entry ↔ ∀ reason, ¬ p.MeetsBadPattern entry reason := by
  constructor
  · rintro ⟨b, hb⟩ reason hmeets
    rw [hmeets.evaluate_eq_error] at hb
    cases hb
  · intro hnone
    rcases finishes_or_meets entry p with ⟨b, hfinishes⟩ | ⟨reason, hmeets⟩
    · exact ⟨b, hfinishes.evaluate_eq⟩
    · exact absurd hmeets (hnone reason)

/-- The result of evaluation is the truth value of the whole tree. -/
theorem HasResult.evaluate_eq_truth (h : p.HasResult entry) (unread : Bool) :
    p.evaluate entry = .ok (p.truth unread entry) := by
  rcases finishes_or_meets entry p with ⟨b, hfinishes⟩ | ⟨reason, hmeets⟩
  · rw [hfinishes.evaluate_eq, hfinishes.truth_eq]
  · exact absurd hmeets (hasResult_iff.1 h reason)

end

/-! ## Evaluation and selection -/

/-- Whatever patterns the engine compiles, evaluation fails if and only if, from left to right and
no further than it takes to know the result, it comes to text that has to be matched with a pattern
that the engine refuses, and its error is that refusal; otherwise it gives the truth value of the
tree. Selection gives all entries for which the predicate holds, in order, or the error of the first
entry that has one. So it gets through a joined list exactly if it gets through both pieces, and
joins what it selects from them. -/
theorem short_circuit_spec [PatternEngine] (p : Predicate) :
    (∀ entry reason, p.evaluate entry = .error (.invalidPattern reason) ↔
      p.MeetsBadPattern entry reason) ∧
    (∀ entry b, p.evaluate entry = .ok b ↔
      (∀ reason, ¬ p.MeetsBadPattern entry reason) ∧ ∀ unread, p.truth unread entry = b) ∧
    (∀ entries kept, p.select entries = .ok kept ↔
      (∀ entry ∈ entries, ∀ reason, ¬ p.MeetsBadPattern entry reason) ∧
        ∀ unread, entries.filter (p.truth unread) = kept) ∧
    (∀ entries reason, p.select entries = .error (.invalidPattern reason) ↔
      ∃ front entry rest, entries = front ++ entry :: rest ∧
        (∀ other ∈ front, ∀ earlier, ¬ p.MeetsBadPattern other earlier) ∧
        p.MeetsBadPattern entry reason) ∧
    ∀ front rest kept, p.select (front ++ rest) = .ok kept ↔
      ∃ first second, p.select front = .ok first ∧ p.select rest = .ok second ∧
        kept = first ++ second := by
  simp only [← hasResult_iff]
  refine ⟨fun _ _ => evaluate_eq_error_iff, ?_, ?_, ?_, fun _ _ _ => select_append_eq_ok_iff⟩
  · intro entry b
    constructor
    · intro h
      have hresult : p.HasResult entry := ⟨b, h⟩
      exact ⟨hresult, fun unread => Except.ok.inj ((hresult.evaluate_eq_truth unread).symm.trans h)⟩
    · rintro ⟨hresult, htruth⟩
      rw [hresult.evaluate_eq_truth true, htruth]
  · intro entries kept
    constructor
    · intro h
      obtain ⟨hresults, rfl⟩ := select_eq_ok_iff.1 h
      refine ⟨hresults, fun unread => List.filter_congr fun entry hentry => ?_⟩
      exact (holdsFor_of_ok ((hresults entry hentry).evaluate_eq_truth unread)).symm
    · rintro ⟨hresults, htruth⟩
      rw [← htruth true]
      exact select_eq_filter fun entry hentry => (hresults entry hentry).evaluate_eq_truth true
  · intro entries reason
    simp only [← evaluate_eq_error_iff]
    exact select_eq_error_iff

/-! The order of the operands decides whether a bad pattern is met. -/

example : (and [.present "id" false, .matching "id" "(" true]).evaluate
    ⟨"a", .empty, .epoch, .epoch⟩ = .ok false := rfl

example : (and [.matching "id" "(" true, .present "id" false]).evaluate
    ⟨"a", .empty, .epoch, .epoch⟩ = .error (.invalidPattern Pattern.unreadable) := rfl

end EntryFilter.Predicate
