import EntryFilter.Predicate.Json
import EntryFilter.Proofs.Value.RoundTrip

/-! # Predicates read back from JSON

The kind of a predicate is the name of its only member, so no operand is ever taken for a predicate,
and each operand is read as a value whatever it is. -/

namespace EntryFilter

namespace Predicate

/-- All operands of comparisons have the property. -/
inductive AllOperands (P : Value → Prop) : Predicate → Prop where
  | all : AllOperands P .all
  | compare (c : Comparison) (key : String) {operand : Value} : P operand →
      AllOperands P (.compare c key operand)
  | matching (key pattern : String) (ignoreCase : Bool) :
      AllOperands P (.matching key pattern ignoreCase)
  | present (key : String) (expected : Bool) : AllOperands P (.present key expected)
  | and {operands : List Predicate} : (∀ p ∈ operands, AllOperands P p) →
      AllOperands P (.and operands)
  | or {operands : List Predicate} : (∀ p ∈ operands, AllOperands P p) →
      AllOperands P (.or operands)

variable {p : Predicate} {operands : List Predicate} {room : Nat}

theorem operandsToJson_eq_map (operands : List Predicate) :
    operandsToJson operands = operands.map toJson := by
  induction operands with
  | nil => rfl
  | cons p operands ih => rw [operandsToJson, ih, List.map_cons]

/-! ## The tree of a predicate -/

/-- The tree of a condition: an object in an object. -/
theorem isReadable_condition {kind : String} {parts : List (String × Json)}
    (h : ∀ part ∈ parts, part.2.IsReadable) :
    (Json.object [(kind, .object parts)]).IsReadable :=
  .object (List.forall_mem_singleton.2 (.object h))

theorem isReadable_toJson (h : p.AllOperands Value.IsReadable) : p.toJson.IsReadable := by
  induction h with
  | all => exact .string "all"
  | compare c key hoperand =>
      refine isReadable_condition ?_
      simp only [List.forall_mem_cons]
      exact ⟨.string key, hoperand.toJson, List.forall_mem_nil _⟩
  | matching key pattern ignoreCase =>
      refine isReadable_condition ?_
      simp only [List.forall_mem_cons]
      exact ⟨.string key, .string pattern, .bool ignoreCase, List.forall_mem_nil _⟩
  | present key expected =>
      refine isReadable_condition ?_
      simp only [List.forall_mem_cons]
      exact ⟨.string key, .bool expected, List.forall_mem_nil _⟩
  | and _ ih =>
      rw [toJson, operandsToJson_eq_map]
      exact .object (List.forall_mem_singleton.2 (.array (List.forall_mem_map.2 ih)))
  | or _ ih =>
      rw [toJson, operandsToJson_eq_map]
      exact .object (List.forall_mem_singleton.2 (.array (List.forall_mem_map.2 ih)))

/-! ## Reading the tree -/

theorem operandsOfJson?_toJson (h : ∀ p ∈ operands, ofJson? room p.toJson = some p) :
    operandsOfJson? room (operandsToJson operands) = some operands := by
  induction operands with
  | nil => simp [operandsToJson, operandsOfJson?]
  | cons p operands ih =>
      have hp := h p List.mem_cons_self
      have hrest := ih fun q hq => h q (List.mem_cons_of_mem p hq)
      simp only [operandsToJson, operandsOfJson?, hp, hrest]

theorem nesting_named (kind : String) (parts : Json) :
    (Json.object [(kind, parts)]).nesting = parts.nesting + 1 := by
  simp [Json.nesting, Json.membersNesting]

/-- An object that is named for a condition is read as the condition of its parts. -/
theorem ofJson?_condition {kind : String} {parts : List (String × Json)} (hall : kind ≠ "all")
    (hand : kind ≠ "and") (hor : kind ≠ "or")
    (hroom : (Json.object [(kind, .object parts)]).nesting ≤ room)
    (h : ∀ inner, Json.membersNesting parts ≤ inner →
      condition? inner kind (.object parts) = some p) :
    ofJson? room (.object [(kind, .object parts)]) = some p := by
  rw [nesting_named, Json.nesting] at hroom
  obtain ⟨inner, rfl⟩ : ∃ inner, room = inner + 2 := ⟨room - 2, by omega⟩
  rw [ofJson?, h inner (by omega)]
  · exact fun h => absurd h hall
  · exact fun _ h => absurd h hand
  · exact fun _ h => absurd h hor

/-- An object that is named for a connective is read as the connection of its operands. -/
theorem ofJson?_connective {kind : String} {connect : List Predicate → Predicate}
    (hread : ∀ inner items, ofJson? (inner + 2) (.object [(kind, .array items)]) =
      (operandsOfJson? inner items).map connect)
    (hroom : (Json.object [(kind, .array (operandsToJson operands))]).nesting ≤ room)
    (h : ∀ p ∈ operands, ∀ inner, p.toJson.nesting ≤ inner → ofJson? inner p.toJson = some p) :
    ofJson? room (.object [(kind, .array (operandsToJson operands))]) =
      some (connect operands) := by
  rw [nesting_named, Json.nesting] at hroom
  obtain ⟨inner, rfl⟩ : ∃ inner, room = inner + 2 := ⟨room - 2, by omega⟩
  have hoperands : ∀ p ∈ operands, ofJson? inner p.toJson = some p := by
    have hitems : Json.itemsNesting (operandsToJson operands) ≤ inner := by omega
    rw [operandsToJson_eq_map, Json.itemsNesting_le_iff, List.forall_mem_map] at hitems
    exact fun p hp => h p hp inner (hitems p hp)
  rw [hread, operandsOfJson?_toJson hoperands, Option.map_some]

theorem condition?_comparison (room : Nat) (c : Comparison) (parts : Json) :
    condition? room c.name parts = comparison? room c parts := by
  cases c <;> rfl

theorem comparison?_toJson {operand : Value} (h : operand.IsReadable)
    (hroom : operand.toJson.nesting ≤ room) (c : Comparison) (key : String) :
    comparison? room c (.object [("key", .string key), ("value", operand.toJson)]) =
      some (.compare c key operand) := by
  have hnumbers : operand.toJson.AllNumbers fun x => x.isFinite = true :=
    h.ordered.allNumbers_toJson fun _ _ hx => hx
  have hfits := (Json.fits_iff_nesting_le hnumbers room).2 hroom
  simp [comparison?, Json.fields?, Json.member?, hfits, Value.decode?_eq, h.ofJson_toJson]

theorem patternCondition?_toJson (key pattern : String) (ignoreCase : Bool) :
    patternCondition? (.object [("key", .string key), ("pattern", .string pattern),
      ("case_insensitive", .bool ignoreCase)]) = some (.matching key pattern ignoreCase) := by
  simp [patternCondition?, Json.fields?, Json.member?]

theorem presence?_toJson (key : String) (expected : Bool) :
    presence? (.object [("key", .string key), ("exists", .bool expected)]) =
      some (.present key expected) := by
  simp [presence?, Json.fields?, Json.member?]

/-- The tree of a predicate is read as the predicate where there is room for its nesting. -/
theorem ofJson?_toJson (h : p.AllOperands Value.IsReadable) (hroom : p.toJson.nesting ≤ room) :
    ofJson? room p.toJson = some p := by
  induction h generalizing room with
  | all => simp [toJson, ofJson?]
  | compare c key hoperand =>
      have hname : c.name ≠ "all" ∧ c.name ≠ "and" ∧ c.name ≠ "or" := by
        cases c <;> decide
      refine ofJson?_condition hname.1 hname.2.1 hname.2.2 hroom fun inner hinner => ?_
      rw [condition?_comparison, comparison?_toJson hoperand]
      simpa [Json.membersNesting, Json.nesting] using hinner
  | matching key pattern ignoreCase =>
      exact ofJson?_condition (by decide) (by decide) (by decide) hroom fun _ _ =>
        patternCondition?_toJson key pattern ignoreCase
  | present key expected =>
      exact ofJson?_condition (by decide) (by decide) (by decide) hroom fun _ _ =>
        presence?_toJson key expected
  | and _ ih => exact ofJson?_connective (fun _ _ => rfl) hroom fun p hp _ => ih p hp
  | or _ ih => exact ofJson?_connective (fun _ _ => rfl) hroom fun p hp _ => ih p hp

end Predicate

/-- A predicate whose operands read back is read back from its JSON text, if the text nests no
deeper than the reader allows. -/
theorem predicate_reads_back {p : Predicate} (h : p.AllOperands Value.IsReadable)
    (hroom : p.toJson.nesting ≤ Json.maxNesting) :
    Predicate.ofJsonText? p.toJson.compact = some p := by
  have htext := Json.ofText?_compact (Predicate.isReadable_toJson h)
  rw [Predicate.ofJsonText?, htext, Option.bind_some, Predicate.ofJson?_toJson h hroom]

/-- An integer stays an integer, and a float with the same value stays a float. -/
theorem predicate_reads_back_of_nested :
    ∃ p : Predicate, p = .and [.or [], .compare .eq "values.n" (.int 18),
        .compare .ne "values.x" (.list [.float (.ofInt 18), .dict [("all", .text "18")]])] ∧
      Predicate.ofJsonText? p.toJson.compact = some p := by
  have hfinite : (Binary64.ofInt 18).isFinite = true := by decide +kernel
  refine ⟨_, rfl, predicate_reads_back (.and ?_) (by decide +kernel)⟩
  have hinteger : (Value.int 18).IsReadable := ⟨.int 18, by simp, by simp⟩
  have hlist : (Value.list [.float (.ofInt 18), .dict [("all", .text "18")]]).IsReadable := by
    have hfloat : ∀ x, (Value.list [.float (.ofInt 18), .dict [("all", .text "18")]]).HasFloat x →
        x = .ofInt 18 := by
      simp
    refine ⟨.list ?_, fun x hx => ?_, fun x hx => ?_⟩
    · simp only [List.forall_mem_cons]
      refine ⟨.float _, .dict (List.pairwise_singleton _ _) ?_, List.forall_mem_nil _⟩
      exact List.forall_mem_singleton.2 (.text "18")
    · rw [hfloat x hx]
      exact hfinite
    · rw [hfloat x hx]
      exact Json.readsBack_eighteen
  simp only [List.forall_mem_cons]
  exact ⟨.or (List.forall_mem_nil _), .compare _ _ hinteger, .compare _ _ hlist,
    List.forall_mem_nil _⟩

end EntryFilter
