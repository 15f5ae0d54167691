import EntryFilter.Text.Cut

/-! # Pieces of a text

Taking off a beginning succeeds if the text begins with it. Pieces without a separator are joined
by separators, and splitting gives the pieces back. The last separator of a text is the one behind
which no other one stands. -/

namespace EntryFilter

open EntryFilter.Text

variable {separator : Char} {cs before after : List Char}

/-! ## Beginnings -/

theorem after?_isSome_iff (beginning cs : List Char) :
    (after? beginning cs).isSome = true ↔ beginning <+: cs := by
  induction beginning generalizing cs with
  | nil => simp [after?]
  | cons b beginning ih =>
      cases cs with
      | nil => simp [after?]
      | cons c cs =>
          by_cases hbc : b = c
          · simp [after?, hbc, ih]
          · simp [after?, hbc]

/-! ## All separators -/

theorem splitAll_of_not_mem (h : separator ∉ cs) : splitAll separator cs = [cs] := by
  induction cs with
  | nil => rfl
  | cons c cs ih =>
      obtain ⟨hc, hcs⟩ := not_or.1 (mt List.mem_cons.2 h)
      rw [splitAll, if_neg (Ne.symm hc), ih hcs]

theorem splitAll_append (h : separator ∉ cs) (rest : List Char) :
    splitAll separator (cs ++ separator :: rest) = cs :: splitAll separator rest := by
  induction cs with
  | nil => simp [splitAll]
  | cons c cs ih =>
      obtain ⟨hc, hcs⟩ := not_or.1 (mt List.mem_cons.2 h)
      rw [List.cons_append, splitAll, if_neg (Ne.symm hc), ih hcs]

theorem splitAll_intercalate {pieces : List (List Char)} (hne : pieces ≠ [])
    (h : ∀ piece ∈ pieces, separator ∉ piece) :
    splitAll separator ([separator].intercalate pieces) = pieces := by
  induction pieces with
  | nil => exact absurd rfl hne
  | cons piece pieces ih =>
      have hpiece : separator ∉ piece := h piece List.mem_cons_self
      cases pieces with
      | nil => rw [List.intercalate_singleton, splitAll_of_not_mem hpiece]
      | cons next pieces =>
          have hrest := ih (List.cons_ne_nil next pieces) fun other hother =>
            h other (List.mem_cons_of_mem piece hother)
          rw [List.intercalate_cons_cons, List.append_assoc, List.singleton_append,
            splitAll_append hpiece, hrest]

/-! ## The last separator -/

theorem cutLast?_of_not_mem (h : separator ∉ cs) : cutLast? separator cs = none := by
  induction cs with
  | nil => rfl
  | cons c cs ih =>
      obtain ⟨hc, hcs⟩ := not_or.1 (mt List.mem_cons.2 h)
      rw [cutLast?, ih hcs]
      exact if_neg (Ne.symm hc)

theorem cutLast?_append (h : separator ∉ after) (before : List Char) :
    cutLast? separator (before ++ separator :: after) = some (before, after) := by
  induction before with
  | nil =>
      rw [List.nil_append, cutLast?, cutLast?_of_not_mem h]
      exact if_pos rfl
  | cons c before ih => rw [List.cons_append, cutLast?, ih]

/-- A text has no character of a kind, or it has a last one. -/
theorem exists_last (p : Char → Bool) (cs : List Char) : (∀ d ∈ cs, p d = false) ∨
    ∃ front c back, cs = front ++ c :: back ∧ p c = true ∧ ∀ d ∈ back, p d = false := by
  induction cs with
  | nil => exact .inl (List.forall_mem_nil _)
  | cons d cs ih =>
      rcases ih with hnone | ⟨front, c, back, rfl, hc, hback⟩
      · by_cases hd : p d = true
        · exact .inr ⟨[], d, cs, rfl, hd, hnone⟩
        · exact .inl (List.forall_mem_cons.2 ⟨Bool.eq_false_iff.2 hd, hnone⟩)
      · exact .inr ⟨d :: front, c, back, rfl, hc, hback⟩

theorem exists_last_separator (h : separator ∈ cs) :
    ∃ before after, cs = before ++ separator :: after ∧ separator ∉ after := by
  rcases exists_last (· == separator) cs with hnone | ⟨before, c, after, hcs, hc, hafter⟩
  · have hself := hnone separator h
    simp at hself
  · obtain rfl : c = separator := beq_iff_eq.1 hc
    refine ⟨before, after, hcs, fun hmem => ?_⟩
    have hself := hafter c hmem
    simp at hself

/-- A text is cut at the separator behind which no other one stands. -/
theorem cutLast?_eq_some_iff : cutLast? separator cs = some (before, after) ↔
    cs = before ++ separator :: after ∧ separator ∉ after := by
  constructor
  · intro h
    by_cases hmem : separator ∈ cs
    · obtain ⟨front, back, rfl, hback⟩ := exists_last_separator hmem
      rw [cutLast?_append hback] at h
      obtain ⟨rfl, rfl⟩ := Prod.mk.inj (Option.some.inj h)
      exact ⟨rfl, hback⟩
    · rw [cutLast?_of_not_mem hmem] at h
      cases h
  · rintro ⟨rfl, hafter⟩
    exact cutLast?_append hafter before

end EntryFilter
