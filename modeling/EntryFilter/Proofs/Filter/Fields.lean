import EntryFilter.Proofs.Compilation.Strictness

/-! # The fields of a filter

A filter names its fields in the order of its conditions, each where it comes first. -/

namespace EntryFilter.Filter

/-- The names that are seen stay in front, and each other name is added once. -/
theorem reverse_foldl_seen (names seen : List String) :
    (names.foldl (fun seen name => if seen.contains name then seen else name :: seen)
        seen).reverse =
      seen.reverse ++ (names.filter fun name => !seen.contains name).eraseDups := by
  induction names generalizing seen with
  | nil => simp
  | cons name names ih =>
      rw [List.foldl_cons, ih]
      cases hseen : seen.contains name with
      | true =>
          rw [if_pos rfl, List.filter_cons_of_neg (by rw [hseen]; decide)]
      | false =>
          have hother : (names.filter fun other => !(name :: seen).contains other) =
              (names.filter fun other => !seen.contains other).filter (! · == name) := by
            rw [List.filter_filter]
            refine List.filter_congr fun other _ => ?_
            rw [List.contains_cons, Bool.not_or]
          rw [if_neg Bool.false_ne_true, List.filter_cons_of_pos (by rw [hseen]; rfl),
            List.eraseDups_cons, ← hother, List.reverse_cons, List.append_assoc,
            List.singleton_append]

theorem firstUses_eq_eraseDups (names : List String) : firstUses names = names.eraseDups := by
  have hall : (names.filter fun name => !([] : List String).contains name) = names :=
    List.filter_eq_self.2 fun _ _ => rfl
  rw [firstUses, reverse_foldl_seen, hall, List.reverse_nil, List.nil_append]

@[simp] theorem mem_fields {f : Filter} {field : String} :
    field ∈ f.fields ↔ field ∈ f.conditionFields := by
  rw [fields, firstUses_eq_eraseDups, List.mem_eraseDups]

theorem map_field_conditions (f : Filter) :
    f.conditions.map Condition.field = f.conditionFields := by
  induction f with
  | blank => rfl
  | condition field operator operand => rfl
  | and left right ihl ihr => rw [conditions, List.map_append, ihl, ihr, conditionFields]
  | or left right ihl ihr => rw [conditions, List.map_append, ihl, ihr, conditionFields]

theorem length_conditions (f : Filter) : f.conditions.length = f.size := by
  rw [size, ← map_field_conditions, List.length_map]

end EntryFilter.Filter
