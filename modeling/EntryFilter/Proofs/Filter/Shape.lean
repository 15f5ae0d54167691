import EntryFilter.Proofs.Filter.Fields
import EntryFilter.Proofs.Filter.RoundTrip
import EntryFilter.Proofs.Grammar.Operands
import EntryFilter.Proofs.Lexer.TokenRow

/-! # The shape of parsed filters

A parsed filter has one condition for each field of its source, in the order of the source. It has
the blank filter nowhere inside, and it is less high than it has conditions, so that the limit on
conditions bounds every recursion over it. -/

namespace EntryFilter

open Grammar

theorem Operator.isCheck_iff_mem (o : Operator) :
    o.isCheck = true ↔ o ∈ [isNull, isNotNull, isEmpty, isNotEmpty] := by
  cases o <;> simp [isCheck]

namespace Filter

/-- The filter and all filters inside it. -/
def parts : Filter → List Filter
  | blank => [blank]
  | condition field operator operand => [condition field operator operand]
  | and left right => and left right :: (left.parts ++ right.parts)
  | or left right => or left right :: (left.parts ++ right.parts)

/-- The number of connectives on the longest way down to a condition. The blank filter is the empty
tree, which is one lower than a single condition. -/
def treeHeight : Filter → Int
  | blank => -1
  | condition _ _ _ => 0
  | and left right => max left.treeHeight right.treeHeight + 1
  | or left right => max left.treeHeight right.treeHeight + 1

variable {f : Filter}

theorem mem_parts_self (f : Filter) : f ∈ f.parts := by
  cases f <;> simp [parts]

theorem treeHeight_lt_height (f : Filter) : f.treeHeight < f.height := by
  induction f with
  | blank => decide
  | condition field operator operand => exact Int.zero_lt_one
  | and left right ihl ihr =>
      simp only [treeHeight, height]
      omega
  | or left right ihl ihr =>
      simp only [treeHeight, height]
      omega

end Filter

/-! ## From the row of tokens -/

theorem Grammar.Derives.blank_not_mem_parts {rank : Rank} {ts : List Token} {f : Filter}
    (h : Derives rank ts f) : Filter.blank ∉ f.parts := by
  induction h with
  | comparison name _ _ => simp [Filter.parts]
  | check name _ => simp [Filter.parts]
  | group _ ih => exact ih
  | ofPrimary _ ih => exact ih
  | ofConjunction _ ih => exact ih
  | and _ _ ihl ihr => simp [Filter.parts, ihl, ihr]
  | or _ _ ihl ihr => simp [Filter.parts, ihl, ihr]

/-- The filter keeps every condition of the row of tokens and nothing else. -/
structure Filter.KeepsRow (limits : Limits) (ts : List Token) (f : Filter) : Prop where
  blank_mem_parts_iff : .blank ∈ f.parts ↔ f = .blank
  eq_blank_iff : f = .blank ↔ ts = []
  fields_in_order : f.conditions.map Condition.field = fieldNames ts
  fields_eq : f.fields = (fieldNames ts).eraseDups
  length_le : f.conditions.length ≤ limits.conditions
  treeHeight_lt : f.treeHeight < f.conditions.length
  height_le : f.height ≤ max limits.conditions 1

theorem Grammar.Accepts.keepsRow {limits : Limits} {ts : List Token} {f : Filter}
    (h : Accepts limits ts f) : f.KeepsRow limits ts := by
  rcases h with ⟨rfl, rfl⟩ | ⟨hderives, hcount, -⟩
  · exact ⟨by simp [Filter.parts], by simp, rfl, rfl, Nat.zero_le _, by decide,
      Nat.le_max_right _ _⟩
  · have hnone := hderives.blank_not_mem_parts
    have hblank : f ≠ .blank := by
      rintro rfl
      exact hnone (Filter.mem_parts_self _)
    have hlength : f.conditions.length = f.size := f.length_conditions
    have hsize : f.size ≤ limits.conditions := hderives.size_eq.trans_le hcount
    have hlevels := hderives.height_le_size
    refine ⟨iff_of_false hnone hblank, iff_of_false hblank hderives.ne_nil, ?_, ?_, ?_, ?_, ?_⟩
    · rw [f.map_field_conditions, hderives.conditionFields_eq]
    · rw [Filter.fields, Filter.firstUses_eq_eraseDups, hderives.conditionFields_eq]
    · exact hlength.trans_le hsize
    · have hheight := f.treeHeight_lt_height
      omega
    · omega

/-- A parsed filter keeps the row of tokens of its source: the blank filter stands for a source
without tokens and never inside another filter, and the conditions stand on the fields of the source
in their order. A condition has no literal exactly if its operator is a check. -/
theorem parsed_filter_shape {limits : Limits} {source : String} {f : Filter}
    (h : Filter.parse limits source = .ok f) :
    ∃ row done, tokenize source = .ok (row ++ [done]) ∧ done.token = .done ∧
      (∀ token ∈ row, token.token ≠ .done) ∧
      (row.Pairwise fun x y => x.span.stop ≤ y.span.start) ∧
      f.KeepsRow limits (row.map PlacedToken.token) ∧
      ∀ c ∈ f.conditions, c.operand = none ↔
        c.operator ∈ [Operator.isNull, .isNotNull, .isEmpty, .isNotEmpty] := by
  obtain ⟨ts, left, hlexes, hstop, haccepts⟩ := exists_lexes_of_parse h
  obtain ⟨tokens, htokens, hwords⟩ := exists_row_of_lexes hlexes hstop
  obtain ⟨row, last, rfl, rfl, hlast⟩ := List.map_eq_append_iff.1 hwords
  obtain ⟨done, rfl, hdone⟩ := List.map_eq_singleton_iff.1 hlast
  refine ⟨row, done, htokens, hdone, ?_, ?_, haccepts.keepsRow, fun c hc => ?_⟩
  · intro token htoken hend
    have hmem := List.mem_map_of_mem (f := PlacedToken.token) htoken
    rw [hend] at hmem
    exact hlexes.done_not_mem hmem
  · exact (List.pairwise_append.1 (apart_of_tokenize htokens)).1
  · have hoperand := Filter.operand_isSome_of_parse h c hc
    rw [← Operator.isCheck_iff_mem, ← Option.not_isSome_iff_eq_none, hoperand,
      Bool.not_eq_true', Bool.not_eq_false]

/-- A source with a group, a check and a field that is used twice. -/
theorem parsed_filter_shape_of_group :
    ∃ (f : Filter) (row : List PlacedToken) (done : PlacedToken),
      tokenize "a > 1 and (b is null or a = 2)" = .ok (row ++ [done]) ∧
      f.KeepsRow .standard (row.map PlacedToken.token) ∧ f.fields = ["a", "b"] ∧
      f.treeHeight = 2 ∧ f.conditions.length = 3 := by
  have hparse : Filter.parse .standard "a > 1 and (b is null or a = 2)" =
      .ok (.and (.condition "a" (.compare .gt) (some (.number (.ofInt 1))))
        (.or (.condition "b" .isNull none)
          (.condition "a" (.compare .eq) (some (.number (.ofInt 2)))))) := by
    decide +kernel
  obtain ⟨row, done, hrow, -, -, -, hshape, -⟩ := parsed_filter_shape hparse
  exact ⟨_, row, done, hrow, hshape, by decide, by decide, rfl⟩

end EntryFilter
