import EntryFilter.Proofs.Value.Reading

/-! # The two JSON forms of a value

A value is written directly or by way of its tree, and read directly or by way of a tree that keeps
each name of an object once. The two texts are the same text, and the two readings the same value.
Since both go through all lists and dictionaries, each agreement is a mutual induction over values
or trees with their items and members. -/

namespace EntryFilter

open EntryFilter.Decimal

namespace Value

/-! ## Writing -/

theorem jsonText_of_not_finite {x : Binary64} (h : x.isFinite = false) :
    x.jsonText = "null".toList := by
  cases x with
  | finite => cases h
  | nan => rfl
  | infinity => rfl

mutual

/-- The compact text of the tree is the text that is written directly. -/
theorem compactOnto_toJson : ∀ (v : Value) (rest : List Char),
    v.toJson.compactOnto rest = v.encode ++ rest
  | null, rest => rfl
  | bool b, rest => rfl
  | int n, rest => rfl
  | float x, rest => by
      rw [toJson, floatToJson, encode]
      by_cases hx : x.isFinite = true
      · rw [if_pos hx]
        rfl
      · rw [if_neg hx, jsonText_of_not_finite (Bool.eq_false_iff.2 hx)]
        rfl
  | text s, rest => rfl
  | list items, rest => by
      rw [toJson, Json.compactOnto, compactItems_toJson items, encode]
      simp
  | dict members, rest => by
      rw [toJson, Json.compactOnto, compactMembers_toJson members, encode]
      simp

theorem compactItems_toJson : ∀ (items : List Value) (rest : List Char),
    Json.compactItems (itemsToJson items) rest = encodeItems items ++ rest
  | [], rest => rfl
  | [item], rest => compactOnto_toJson item rest
  | item :: next :: more, rest => by
      change item.toJson.compactOnto (',' :: Json.compactItems (itemsToJson (next :: more)) rest) =
        item.encode ++ ',' :: encodeItems (next :: more) ++ rest
      rw [compactOnto_toJson item, compactItems_toJson (next :: more)]
      simp

theorem compactMembers_toJson : ∀ (members : List (String × Value)) (rest : List Char),
    Json.compactMembers (membersToJson members) rest = encodeMembers members ++ rest
  | [], rest => rfl
  | [(name, value)], rest => by
      change Json.stringText name ++ ':' :: value.toJson.compactOnto rest =
        Json.stringText name ++ ':' :: value.encode ++ rest
      rw [compactOnto_toJson value]
      simp
  | (name, value) :: next :: more, rest => by
      change Json.stringText name ++ ':' :: value.toJson.compactOnto
          (',' :: Json.compactMembers (membersToJson (next :: more)) rest) =
        Json.stringText name ++ ':' :: value.encode ++ ',' :: encodeMembers (next :: more) ++ rest
      rw [compactOnto_toJson value, compactMembers_toJson (next :: more)]
      simp

end

/-! ## Reading -/

mutual

/-- Keeping the last one of repeated names early makes no difference. -/
theorem ofJson_settle : ∀ json : Json, ofJson json.settle = ofJson json
  | .null => rfl
  | .bool b => rfl
  | .integer n => rfl
  | .decimal x => rfl
  | .string s => rfl
  | .array items => by rw [Json.settle, ofJson, itemsOfJson_settleItems items, ofJson]
  | .object members => by
      rw [Json.settle, ofJson, membersOfJson_eq_map, map_orderPairs, orderPairs_orderPairs,
        ← membersOfJson_eq_map, membersOfJson_settleMembers members, ofJson]

theorem itemsOfJson_settleItems : ∀ items : List Json,
    itemsOfJson (Json.settleItems items) = itemsOfJson items
  | [] => rfl
  | item :: rest => by
      rw [Json.settleItems, itemsOfJson, ofJson_settle item, itemsOfJson_settleItems rest,
        itemsOfJson]

theorem membersOfJson_settleMembers : ∀ members : List (String × Json),
    membersOfJson (Json.settleMembers members) = membersOfJson members
  | [] => rfl
  | (name, value) :: rest => by
      rw [Json.settleMembers, membersOfJson, ofJson_settle value,
        membersOfJson_settleMembers rest, membersOfJson]

end

/-- Decoding a text by the forms of a value, and making the value from the settled tree. -/
theorem ofJsonText?_eq_settled (source : String) :
    ofJsonText? source = (Json.settledOfText? source).map ofJson := by
  rw [ofJsonText?, Json.settledOfText?]
  cases Json.ofText? source with
  | none => rfl
  | some json =>
      by_cases hfits : json.fits Json.maxNesting = true
      · simp [hfits, decode?_eq, ofJson_settle]
      · simp [hfits]

/-- The two JSON forms of a value are one form. The text of its tree is the text written directly,
with null for infinities and NaN. A text is decoded directly and by way of a generic tree to the
same value, which is the one that its tokens denote: numerals that are integers become integers, and
all others floats. A value with ordered dictionaries and finite floats is what its tree
describes. -/
theorem json_forms_agree :
    (∀ v : Value, v.toJson.compact = String.ofList v.encode) ∧
    (∀ x : Binary64, x.isFinite = false →
      (float x).toJson = .null ∧ (float x).encode = "null".toList) ∧
    (∀ source, ofJsonText? source = (Json.settledOfText? source).map ofJson) ∧
    (∀ source v, ofJsonText? source = some v ↔
      ∃ row json, Json.tokens? source.toList = some row ∧ Json.ofTokens? row = some json ∧
        json.fits Json.maxNesting = true ∧ Json.Denotes row v) ∧
    ∀ v : Value, v.IsOrdered → (∀ x, v.HasFloat x → x.isFinite = true) → ofJson v.toJson = v := by
  refine ⟨?_, ?_, ofJsonText?_eq_settled, fun _ _ => ofJsonText?_eq_some_iff, ?_⟩
  · intro v
    rw [Json.compact, Json.compactChars, compactOnto_toJson, List.append_nil]
  · intro x hx
    exact ⟨if_neg (Bool.eq_false_iff.1 hx), jsonText_of_not_finite hx⟩
  · intro v hordered hfinite
    exact hordered.ofJson_toJson hfinite

theorem json_forms_agree_of_nested :
    (dict [("age", int 18), ("tags", list [text "a", float (.ofInt 2)])]).IsOrdered ∧
      ofJson (dict [("age", int 18), ("tags", list [text "a", float (.ofInt 2)])]).toJson =
        dict [("age", int 18), ("tags", list [text "a", float (.ofInt 2)])] := by
  have hordered :
      (dict [("age", int 18), ("tags", list [text "a", float (.ofInt 2)])]).IsOrdered := by
    refine .dict ?_ ?_
    · exact List.pairwise_pair.2 (by decide)
    · refine List.forall_mem_cons.2 ⟨.int 18, List.forall_mem_singleton.2 (.list ?_)⟩
      exact List.forall_mem_cons.2 ⟨.text "a", List.forall_mem_singleton.2 (.float _)⟩
  refine ⟨hordered, json_forms_agree.2.2.2.2 _ hordered ?_⟩
  intro x hx
  obtain rfl : x = .ofInt 2 := by simpa using hx
  decide +kernel

end Value

end EntryFilter
