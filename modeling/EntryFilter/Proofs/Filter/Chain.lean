import EntryFilter.Proofs.Grammar.Composition

/-! # Chains of conditions

A chain with `and` between its conditions leans to the left, so it nests as deep as it is long. The
limits count its conditions, but not how deep the filter nests. -/

namespace EntryFilter

open Grammar EntryFilter.Text

/-- The condition of which chains are made. -/
def checkText : List Char := "a is null".toList

def checkTokens : List Token := [.field "a", .keyword .is, .keyword .null]

/-- The text of a chain with `n` connectives. -/
def chainText : Nat → List Char
  | 0 => checkText
  | n + 1 => chainText n ++ ' ' :: 'a' :: 'n' :: 'd' :: ' ' :: checkText

/-- The tokens of a chain with `n` connectives. -/
def chainTokens : Nat → List Token
  | 0 => checkTokens
  | n + 1 => chainTokens n ++ .and :: checkTokens

/-- The filter of a chain with `n` connectives. -/
def Filter.chain : Nat → Filter
  | 0 => .condition "a" .isNull none
  | n + 1 => .and (chain n) (.condition "a" .isNull none)

theorem Filter.size_chain (n : Nat) : (chain n).size = n + 1 := by
  induction n with
  | zero => rfl
  | succ n ih => simpa [chain, size, conditionFields] using ih

theorem lexes_check (after : List Char) :
    Lexes (checkText ++ ' ' :: after) checkTokens (' ' :: after) := by
  have hnull : Lexes ('n' :: (['u', 'l', 'l'] ++ ' ' :: after)) [.keyword .null] (' ' :: after) :=
    lexes_word (by decide) (by decide +kernel) (by decide +kernel) after
  have his : Lexes ('i' :: (['s'] ++ ' ' :: 'n' :: (['u', 'l', 'l'] ++ ' ' :: after)))
      [.keyword .is] (' ' :: 'n' :: (['u', 'l', 'l'] ++ ' ' :: after)) :=
    lexes_word (by decide) (by decide +kernel) (by decide +kernel) _
  have hfield : Lexes ('a' :: ([] ++ ' ' :: 'i' :: (['s'] ++ ' ' :: 'n' ::
      (['u', 'l', 'l'] ++ ' ' :: after)))) [.field "a"] _ :=
    lexes_word (by decide) (by decide +kernel) (by decide +kernel) _
  exact hfield.append ((his.append hnull.skip_blank).skip_blank)

theorem lexes_lowercaseAnd (after : List Char) :
    Lexes ('a' :: (['n', 'd'] ++ ' ' :: after)) [.and] (' ' :: after) :=
  lexes_word (by decide) (by decide +kernel) (by decide +kernel) after

theorem lexes_chain (n : Nat) (after : List Char) :
    Lexes (chainText n ++ ' ' :: after) (chainTokens n) (' ' :: after) := by
  induction n generalizing after with
  | zero => exact lexes_check after
  | succ n ih =>
      have hand := lexes_lowercaseAnd (checkText ++ ' ' :: after)
      have hmore := (hand.append (lexes_check after).skip_blank).skip_blank
      have htext : chainText (n + 1) ++ ' ' :: after =
          chainText n ++ ' ' :: 'a' :: (['n', 'd'] ++ ' ' :: (checkText ++ ' ' :: after)) := by
        simp [chainText]
      rw [htext]
      exact (ih _).append hmore

theorem derives_chain (n : Nat) : Derives .conjunction (chainTokens n) (Filter.chain n) := by
  have hcheck : Derives .primary checkTokens (.condition "a" .isNull none) := .check "a" .isNull
  induction n with
  | zero => exact .ofPrimary hcheck
  | succ n ih => exact .and ih hcheck

theorem nestsWithin_chainTokens (limit n : Nat) : NestsWithin limit 0 (chainTokens n) := by
  have hcheck : NestsWithin limit 0 checkTokens := by
    simp [checkTokens, nestsWithin_cons, nestsWithin_nil, openAfter]
  induction n with
  | zero => exact hcheck
  | succ n ih =>
      refine nestsWithin_append.2 ⟨ih, ?_⟩
      rw [(derives_chain n).foldl_openAfter]
      exact nestsWithin_cons.2 ⟨Nat.zero_le _, hcheck⟩

/-- A chain is parsed if the limits allow as many conditions. -/
theorem parse_chain {limits : Limits} {n : Nat} (h : n < limits.conditions) :
    Filter.parse limits (String.ofList (chainText n ++ [' '])) = .ok (.chain n) := by
  have hlexes := lexes_chain n []
  rw [← String.toList_ofList (l := chainText n ++ [' '])] at hlexes
  refine (parse_eq_ok_iff_of_lexes hlexes rfl).2 (.inr ⟨.ofConjunction (derives_chain n), ?_, ?_⟩)
  · rw [← (derives_chain n).size_eq, Filter.size_chain]
    exact h
  · exact nestsWithin_chainTokens limits.depth n

end EntryFilter
