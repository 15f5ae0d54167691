import EntryFilter.Proofs.Compilation.Strictness
import EntryFilter.Proofs.Grammar.Composition

/-! # Operands of parsed conditions

The lexer makes no other signs than those of comparisons. A parsed condition therefore has a literal
exactly if its operator is no check. -/

namespace EntryFilter

open Grammar EntryFilter.Text

theorem Token.ofWord_ne_compare (word : List Char) (operator : Operator) :
    ofWord word ≠ compare operator := by
  unfold ofWord
  split <;> (try split) <;> simp

/-- A sign stands for a comparison. -/
theorem Longest.exists_comparison {text after : List Char} {operator : Operator}
    (h : Longest text after (.ok (.compare operator))) : ∃ c, operator = .compare c := by
  generalize ho : (Except.ok (Token.compare operator) : Except SyntaxFault Token) = outcome at h
  cases h with
  | form hform _ =>
      cases hform with
      | comparison c =>
          cases ho
          exact ⟨c, rfl⟩
      | word => exact absurd (Except.ok.inj ho).symm (Token.ofWord_ne_compare _ _)
      | _ => cases ho
  | stray _ => cases ho

theorem Lexes.exists_comparison {cs left : List Char} {ts : List Token} (h : Lexes cs ts left)
    {operator : Operator} (hmem : .compare operator ∈ ts) : ∃ c, operator = .compare c := by
  induction h with
  | nil => exact absurd hmem List.not_mem_nil
  | @cons _ c rest t _ _ _ htoken _ ih =>
      rcases List.mem_cons.1 hmem with rfl | hmem
      · have hlongest := Lexeme.isLongest_cut c rest
        rw [Lexeme.IsLongest, htoken] at hlongest
        exact hlongest.exists_comparison
      · exact ih hmem

/-- Where all signs stand for comparisons, a derived filter has a literal behind every operator
that is no check. -/
theorem Grammar.Derives.operand_isSome {rank : Rank} {ts : List Token} {f : Filter}
    (h : Derives rank ts f) (hsigns : ∀ operator, .compare operator ∈ ts →
      ∃ c, operator = .compare c) :
    ∀ c ∈ f.conditions, c.operand.isSome = !c.operator.isCheck := by
  induction h with
  | @comparison name sign word operator literal hs hw =>
      intro c hc
      obtain rfl := List.mem_singleton.1 hc
      cases hs with
      | sign =>
          obtain ⟨comparison, rfl⟩ := hsigns operator (by simp)
          rfl
      | _ => rfl
  | check name hcheck =>
      intro c hc
      obtain rfl := List.mem_singleton.1 hc
      cases hcheck <;> rfl
  | group _ ih => exact ih fun operator h => hsigns operator (by simp [h])
  | ofPrimary _ ih => exact ih hsigns
  | ofConjunction _ ih => exact ih hsigns
  | and _ _ ihl ihr =>
      have hleft := ihl fun operator h => hsigns operator (by simp [h])
      have hright := ihr fun operator h => hsigns operator (by simp [h])
      exact fun c hc => (List.mem_append.1 hc).elim (hleft c) (hright c)
  | or _ _ ihl ihr =>
      have hleft := ihl fun operator h => hsigns operator (by simp [h])
      have hright := ihr fun operator h => hsigns operator (by simp [h])
      exact fun c hc => (List.mem_append.1 hc).elim (hleft c) (hright c)

theorem Filter.operand_isSome_of_parse {limits : Limits} {source : String} {f : Filter}
    (h : Filter.parse limits source = .ok f) :
    ∀ c ∈ f.conditions, c.operand.isSome = !c.operator.isCheck := by
  obtain ⟨ts, left, hlexes, -, haccepts⟩ := exists_lexes_of_parse h
  rcases haccepts with ⟨-, rfl⟩ | ⟨hderives, -⟩
  · exact fun c hc => absurd hc List.not_mem_nil
  · exact hderives.operand_isSome fun operator hmem => hlexes.exists_comparison hmem

end EntryFilter
