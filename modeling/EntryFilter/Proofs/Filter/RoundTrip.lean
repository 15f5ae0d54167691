import EntryFilter.Filter.Json
import EntryFilter.Proofs.Compilation.Strictness
import EntryFilter.Proofs.Filter.Chain
import EntryFilter.Proofs.Json.RoundTrip

/-! # Filters read back from JSON

A filter is read back from its JSON text if all its numbers are finite and the text nests no deeper
than the reader allows. The parser has no such bound: a chain within its limits may be too long. -/

namespace EntryFilter

open Grammar

theorem Operator.ofName?_name (o : Operator) : ofName? o.name = some o := by
  cases o with
  | compare c => cases c <;> rfl
  | _ => rfl

namespace Filter

/-- How many filters stand inside each other. -/
def height : Filter → Nat
  | blank => 1
  | condition _ _ _ => 1
  | and left right => max left.height right.height + 1
  | or left right => max left.height right.height + 1

/-- The number stands behind the operator of a condition. -/
def HasNumber (f : Filter) (x : Binary64) : Prop :=
  ∃ c ∈ f.conditions, c.operand = some (.number x)

variable {f left right : Filter} {x : Binary64}

theorem height_pos (f : Filter) : 0 < f.height := by
  cases f <;> simp [height]

theorem HasNumber.and_left (h : left.HasNumber x) : (and left right).HasNumber x := by
  obtain ⟨c, hc, hx⟩ := h
  exact ⟨c, List.mem_append_left _ hc, hx⟩

theorem HasNumber.and_right (h : right.HasNumber x) : (and left right).HasNumber x := by
  obtain ⟨c, hc, hx⟩ := h
  exact ⟨c, List.mem_append_right _ hc, hx⟩

theorem HasNumber.or_left (h : left.HasNumber x) : (or left right).HasNumber x := h.and_left

theorem HasNumber.or_right (h : right.HasNumber x) : (or left right).HasNumber x := h.and_right

theorem hasNumber_condition (field : String) (operator : Operator) (x : Binary64) :
    (condition field operator (some (.number x))).HasNumber x :=
  ⟨_, List.mem_singleton_self _, rfl⟩

/-! ## The tree of a filter -/

theorem nesting_operand (operand : Option Literal) :
    ((operand.map Literal.toJson).getD .null).nesting = 0 := by
  cases operand with
  | none => rfl
  | some literal =>
      cases literal with
      | number x =>
          simp only [Option.map_some, Option.getD_some, Literal.toJson, Literal.toValue,
            Value.toJson, Value.floatToJson]
          split <;> rfl
      | _ => rfl

theorem nesting_toJson (f : Filter) : f.toJson.nesting = f.height := by
  induction f with
  | blank => rfl
  | condition field operator operand =>
      simp [toJson, Json.nesting, Json.membersNesting, nesting_operand, height]
  | and left right ihl ihr => simp [toJson, Json.nesting, Json.membersNesting, height, ihl, ihr]
  | or left right ihl ihr => simp [toJson, Json.nesting, Json.membersNesting, height, ihl, ihr]

theorem allNumbers_operand {P : Binary64 → Prop} {operand : Option Literal}
    (h : ∀ x, operand = some (.number x) → x.isFinite = true → P x) :
    ((operand.map Literal.toJson).getD .null).AllNumbers P := by
  cases operand with
  | none => exact .null
  | some literal =>
      cases literal with
      | text s => exact .string s
      | bool b => exact .bool b
      | number x =>
          simp only [Option.map_some, Option.getD_some, Literal.toJson, Literal.toValue,
            Value.toJson, Value.floatToJson]
          split
          · rename_i hx
            exact .decimal (h x rfl hx)
          · exact .null

/-- The numbers of the tree are the finite numbers of the filter. -/
theorem allNumbers_toJson {P : Binary64 → Prop}
    (h : ∀ x, f.HasNumber x → x.isFinite = true → P x) : f.toJson.AllNumbers P := by
  induction f with
  | blank => exact .object (by simpa using .string "empty")
  | condition field operator operand =>
      have hnumber : ∀ x, operand = some (.number x) → x.isFinite = true → P x := by
        intro x hx
        subst hx
        exact h x (hasNumber_condition field operator x)
      have hoperand := allNumbers_operand hnumber
      refine .object ?_
      simp only [List.forall_mem_cons]
      exact ⟨.string _, .string field, .string _, hoperand, List.forall_mem_nil _⟩
  | and left right ihl ihr =>
      refine .object ?_
      simp only [List.forall_mem_cons]
      exact ⟨.string _, ihl fun x hx => h x hx.and_left, ihr fun x hx => h x hx.and_right,
        List.forall_mem_nil _⟩
  | or left right ihl ihr =>
      refine .object ?_
      simp only [List.forall_mem_cons]
      exact ⟨.string _, ihl fun x hx => h x hx.or_left, ihr fun x hx => h x hx.or_right,
        List.forall_mem_nil _⟩

/-! ## Reading the tree -/

theorem operandOfJson?_operand {operand : Option Literal}
    (h : ∀ x, operand = some (.number x) → x.isFinite = true) :
    operandOfJson? ((operand.map Literal.toJson).getD .null) = some operand := by
  cases operand with
  | none => rfl
  | some literal =>
      cases literal with
      | text s => rfl
      | bool b => rfl
      | number x =>
          simp [Literal.toJson, Literal.toValue, Value.toJson, Value.floatToJson, h x rfl,
            operandOfJson?, Literal.ofJson?]

theorem parts?_condition (nested : Bool) (field : String) (operator : Operator)
    (operand : Option Literal) : parts? nested (condition field operator operand).toJson =
      some (.condition, [.string field, .string operator.name,
        (operand.map Literal.toJson).getD .null]) := by
  simp [toJson, parts?, Json.member?, Kind.ofJson?, Kind.ofName?]

theorem parts?_and (nested : Bool) (left right : Filter) :
    parts? nested (and left right).toJson = some (.and, [left.toJson, right.toJson]) := by
  simp [toJson, parts?, parts?.sides?, Json.member?, Kind.ofJson?, Kind.ofName?]

theorem parts?_or (nested : Bool) (left right : Filter) :
    parts? nested (or left right).toJson = some (.or, [left.toJson, right.toJson]) := by
  simp [toJson, parts?, parts?.sides?, Json.member?, Kind.ofJson?, Kind.ofName?]

/-- Where a filter with two sides has room, each side has room one level below. -/
theorem exists_room_of_sides {room : Nat} (h : max left.height right.height + 1 ≤ room) :
    ∃ inner, room = inner + 1 ∧ left.height ≤ inner ∧ right.height ≤ inner :=
  ⟨room - 1, by omega, by omega, by omega⟩

/-- The tree of a filter is read as the filter where there is room for its height. -/
theorem ofJson?_toJson (h : ∀ x, f.HasNumber x → x.isFinite = true) {room : Nat}
    (hroom : f.height ≤ room) (nested : Bool) : ofJson? room nested f.toJson = some f := by
  induction f generalizing room nested with
  | blank =>
      obtain ⟨inner, rfl⟩ := Nat.exists_eq_succ_of_ne_zero (Nat.ne_of_gt hroom)
      simp [ofJson?, toJson, parts?, Json.member?, Kind.ofJson?, Kind.ofName?]
  | condition field operator operand =>
      obtain ⟨inner, rfl⟩ := Nat.exists_eq_succ_of_ne_zero (Nat.ne_of_gt hroom)
      have hnumber : ∀ x, operand = some (.number x) → x.isFinite = true := by
        intro x hx
        subst hx
        exact h x (hasNumber_condition field operator x)
      have hoperand := operandOfJson?_operand hnumber
      simp [ofJson?, parts?_condition, conditionOfJson?, Json.text?, operatorOfJson?,
        Operator.ofName?_name, hoperand]
  | and left right ihl ihr =>
      obtain ⟨inner, rfl, hleft, hright⟩ := exists_room_of_sides hroom
      have hl := ihl (fun x hx => h x hx.and_left) hleft true
      have hr := ihr (fun x hx => h x hx.and_right) hright true
      simp [ofJson?, parts?_and, hl, hr]
  | or left right ihl ihr =>
      obtain ⟨inner, rfl, hleft, hright⟩ := exists_room_of_sides hroom
      have hl := ihl (fun x hx => h x hx.or_left) hleft true
      have hr := ihr (fun x hx => h x hx.or_right) hright true
      simp [ofJson?, parts?_or, hl, hr]

/-- The JSON text of a filter is read as the filter, or refused if the filter nests too deep. -/
theorem ofJsonText?_toJson (hfinite : ∀ x, f.HasNumber x → x.isFinite = true)
    (hreads : ∀ x, f.HasNumber x → x.isFinite = true → x.ReadsBack) :
    ofJsonText? f.toJson.compact = if f.height ≤ Json.maxNesting then some f else none := by
  have hreadable : f.toJson.IsReadable :=
    allNumbers_toJson fun x hx hxfinite => ⟨hxfinite, hreads x hx hxfinite⟩
  have hnumbers : f.toJson.AllNumbers fun x => x.isFinite = true :=
    allNumbers_toJson fun _ _ hx => hx
  have hfits := Json.fits_iff_nesting_le hnumbers Json.maxNesting
  rw [nesting_toJson] at hfits
  simp only [ofJsonText?, Json.ofText?_compact hreadable, hfits]
  split
  · rename_i hroom
    exact ofJson?_toJson hfinite hroom false
  · rfl

/-! ## Chains -/

theorem height_chain (n : Nat) : (chain n).height = n + 1 := by
  induction n with
  | zero => rfl
  | succ n ih => simp [chain, height, ih]

theorem not_hasNumber_chain (n : Nat) (x : Binary64) : ¬ (chain n).HasNumber x := by
  have hnone : ∀ c ∈ (chain n).conditions, c.operand = none := by
    induction n with
    | zero => simp [chain, conditions]
    | succ n ih => simpa [chain, conditions, or_imp, forall_and] using ih
  intro h
  obtain ⟨c, hc, hx⟩ := h
  rw [hnone c hc] at hx
  cases hx

/-- Chains are refused from a length on that is within the limits of the parser. -/
theorem ofJsonText?_chain {n : Nat} (h : Json.maxNesting ≤ n) :
    ofJsonText? (chain n).toJson.compact = none := by
  rw [ofJsonText?_toJson (fun x hx => absurd hx (not_hasNumber_chain n x))
      (fun x hx => absurd hx (not_hasNumber_chain n x)),
    height_chain, if_neg (Nat.not_le.2 (Nat.lt_succ_of_le h))]

/-! ## Parsed filters -/

theorem size_and (left right : Filter) : (and left right).size = left.size + right.size :=
  List.length_append

theorem size_or (left right : Filter) : (or left right).size = left.size + right.size :=
  List.length_append

end Filter

/-- A derived filter is no higher than it has conditions. -/
theorem Grammar.Derives.height_le_size {rank : Rank} {ts : List Token} {f : Filter}
    (h : Derives rank ts f) : f.height ≤ f.size := by
  induction h with
  | comparison name _ _ => exact Nat.le_refl 1
  | check name _ => exact Nat.le_refl 1
  | group _ ih => exact ih
  | ofPrimary _ ih => exact ih
  | ofConjunction _ ih => exact ih
  | @and _ _ f g _ _ ihl ihr =>
      have hl := f.height_pos
      have hr := g.height_pos
      rw [Filter.height, Filter.size_and]
      omega
  | @or _ _ f g _ _ ihl ihr =>
      have hl := f.height_pos
      have hr := g.height_pos
      rw [Filter.height, Filter.size_or]
      omega

/-- The blank filter is the only parsed filter that is higher than it has conditions. -/
theorem Filter.height_le_of_parse {limits : Limits} {source : String} {f : Filter}
    (h : Filter.parse limits source = .ok f) : f.height ≤ max f.size 1 := by
  obtain ⟨ts, left, -, -, haccepts⟩ := exists_lexes_of_parse h
  rcases haccepts with ⟨-, rfl⟩ | ⟨hderives, -⟩
  · exact Nat.le_refl 1
  · exact hderives.height_le_size.trans (Nat.le_max_left _ _)

/-- A parsed filter whose numbers are finite and read back is read back from its JSON text, if it
nests no deeper than the reader allows. That is so if the text has no more conditions than that, and
it is refused otherwise. -/
theorem parsed_filter_reads_back {limits : Limits} {source : String} {f : Filter}
    (h : Filter.parse limits source = .ok f)
    (hfinite : ∀ x, f.HasNumber x → x.isFinite = true)
    (hreads : ∀ x, f.HasNumber x → x.isFinite = true → x.ReadsBack) :
    (f.height ≤ Json.maxNesting → Filter.ofJsonText? f.toJson.compact = some f) ∧
      (f.size ≤ Json.maxNesting → f.height ≤ Json.maxNesting) ∧
      (Json.maxNesting < f.height → Filter.ofJsonText? f.toJson.compact = none) := by
  have hread := Filter.ofJsonText?_toJson hfinite hreads
  refine ⟨fun hroom => ?_, fun hsize => ?_, fun hdeep => ?_⟩
  · rw [hread, if_pos hroom]
  · have hheight := Filter.height_le_of_parse h
    have hone : 1 ≤ Json.maxNesting := by decide
    omega
  · rw [hread, if_neg (Nat.not_le.2 hdeep)]

/-- A filter with a number and a check is read back. -/
theorem parsed_filter_reads_back_of_conjunction :
    ∃ f, Filter.parse .standard "age >= 18 and note is null" = .ok f ∧
      Filter.ofJsonText? f.toJson.compact = some f := by
  have hparse : Filter.parse .standard "age >= 18 and note is null" =
      .ok (.and (.condition "age" (.compare .gte) (some (.number (.ofInt 18))))
        (.condition "note" .isNull none)) := by
    decide +kernel
  have hnumber : ∀ x, (Filter.and (.condition "age" (.compare .gte) (some (.number (.ofInt 18))))
      (.condition "note" .isNull none)).HasNumber x → x = .ofInt 18 := by
    intro x hx
    simpa [Filter.HasNumber, Filter.conditions, eq_comm] using hx
  refine ⟨_, hparse, (parsed_filter_reads_back hparse ?_ ?_).1 (by decide)⟩
  · intro x hx
    rw [hnumber x hx]
    decide +kernel
  · intro x hx _
    rw [hnumber x hx]
    exact Json.readsBack_eighteen

/-- A chain of 128 conditions is parsed, and its JSON text is not read. -/
theorem long_chain_not_read_back :
    ∃ f, Filter.parse .standard (String.ofList (chainText 127 ++ [' '])) = .ok f ∧
      Filter.ofJsonText? f.toJson.compact = none :=
  ⟨.chain 127, parse_chain (by decide), Filter.ofJsonText?_chain (by decide)⟩

end EntryFilter
