import EntryFilter.Value.Json

/-! # Two readings of a tree

A value is decoded by trying its forms on the content, or it is made from the tree with one case for
each kind of node. Both give the same value. Numbers are where they differ in what they do: one
looks whether 64 bits hold a whole number without a sign and then with one, the other asks for an
integer and else for a float. -/

namespace EntryFilter

namespace Value

theorem ofNumber_integer (n : Int) : ofNumber (.integer n) =
    if isInt64 n then int (.ofInt n) else float (.ofInt n) := by
  by_cases h : isInt64 n = true <;> simp [ofNumber, Json.asInt64?, Json.asBinary64?, h]

theorem ofNumber_decimal (x : Binary64) : ofNumber (.decimal x) = float x := rfl

end Value

namespace Content

/-- A number without a sign is an integer of 64 bits up to the greatest one, and a float behind
it. -/
theorem value?_unsigned (n : UInt64) :
    (unsigned n).value? = some (Value.ofNumber (.integer n.toNat)) := by
  have hofInt : Binary64.ofInt n.toNat = Binary64.ofNat n.toNat := by
    rw [Binary64.ofInt, Binary64.ofNat, Int.natAbs_natCast]
    congr 1
  rw [Value.ofNumber_integer]
  by_cases h : isInt64 n.toNat = true
  · rw [if_pos h]
    simp [value?, null?, bool?, int?, h, Int64.ofInt, Int64.ofNat]
  · rw [if_neg h]
    simp [value?, null?, bool?, int?, float?, h, hofInt]

theorem value?_signed {n : Int} (h : isInt64 n = true) :
    (signed (.ofInt n)).value? = some (Value.ofNumber (.integer n)) := by
  rw [Value.ofNumber_integer, if_pos h]
  rfl

theorem value?_float_ofInt {n : Int} (h : isInt64 n = false) :
    (float (.ofInt n)).value? = some (Value.ofNumber (.integer n)) := by
  rw [Value.ofNumber_integer, h]
  rfl

/-- The content of a whole number is decoded to the value that the number is in a tree. -/
theorem value?_ofInt (n : Int) : (ofInt n).value? = some (Value.ofNumber (.integer n)) := by
  unfold ofInt
  split
  · rename_i hnonneg
    obtain ⟨k, rfl⟩ := Int.eq_ofNat_of_zero_le hnonneg
    split
    · rename_i hsmall
      have hvalue := value?_unsigned (.ofNat k)
      rwa [UInt64.toNat_ofNat_of_lt' (Int.ofNat_lt.1 hsmall)] at hvalue
    · rename_i hlarge
      refine value?_float_ofInt ?_
      simp only [isInt64, UInt64.size] at *
      grind
  · split
    · rename_i hfits
      exact value?_signed hfits
    · rename_i hfits
      exact value?_float_ofInt (Bool.eq_false_iff.2 hfits)

mutual

theorem value?_ofJson : ∀ json : Json, (ofJson json).value? = some (Value.ofJson json)
  | .null => rfl
  | .bool b => rfl
  | .integer n => value?_ofInt n
  | .decimal x => rfl
  | .string s => rfl
  | .array items => by
      rw [ofJson, value?]
      simp [items?_ofJson items, Value.ofJson, null?, bool?, int?, float?, text?]
  | .object members => by
      rw [ofJson, value?]
      simp [members?_ofJson members, Value.ofJson, null?, bool?, int?, float?, text?]

theorem items?_ofJson : ∀ items : List Json,
    items? (itemsOfJson items) = some (Value.itemsOfJson items)
  | [] => rfl
  | item :: rest => by
      simp [itemsOfJson, items?, value?_ofJson item, items?_ofJson rest, Value.itemsOfJson]

theorem members?_ofJson : ∀ members : List (String × Json),
    members? (membersOfJson members) = some (Value.membersOfJson members)
  | [] => rfl
  | (name, value) :: rest => by
      simp [membersOfJson, members?, value?_ofJson value, members?_ofJson rest, Value.membersOfJson]

end

end Content

namespace Value

theorem decode?_eq (json : Json) : decode? json = some (ofJson json) := Content.value?_ofJson json

theorem decodeMembers?_eq (members : List (String × Json)) :
    decodeMembers? members = some (membersOfJson members) := Content.members?_ofJson members

end Value

end EntryFilter
