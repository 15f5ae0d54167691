import EntryFilter.Proofs.Dictionary.Order
import EntryFilter.Proofs.Json.RoundTrip
import EntryFilter.Proofs.Number.Rounding
import EntryFilter.Proofs.Value.Decoding

/-! # Values read back from their trees

A value is what its tree describes, if the members of its dictionaries are in order and its floats
are finite. Every value that was read is of this kind. -/

namespace EntryFilter

namespace Value

/-- The float stands somewhere in the value. -/
inductive HasFloat (x : Binary64) : Value → Prop where
  | float : HasFloat x (.float x)
  | item {items : List Value} {item : Value} : item ∈ items → HasFloat x item →
      HasFloat x (.list items)
  | member {members : List (String × Value)} {member : String × Value} : member ∈ members →
      HasFloat x member.2 → HasFloat x (.dict members)

@[simp] theorem hasFloat_float (x y : Binary64) : (float y).HasFloat x ↔ x = y := by
  constructor
  · rintro ⟨⟩
    rfl
  · rintro rfl
    exact .float

@[simp] theorem hasFloat_int (x : Binary64) (n : Int64) : ¬ (int n).HasFloat x := nofun

@[simp] theorem hasFloat_text (x : Binary64) (s : String) : ¬ (text s).HasFloat x := nofun

@[simp] theorem hasFloat_list (x : Binary64) (items : List Value) :
    (list items).HasFloat x ↔ ∃ item ∈ items, item.HasFloat x := by
  constructor
  · rintro (_ | ⟨hitem, hx⟩)
    exact ⟨_, hitem, hx⟩
  · rintro ⟨item, hitem, hx⟩
    exact .item hitem hx

@[simp] theorem hasFloat_dict (x : Binary64) (members : List (String × Value)) :
    (dict members).HasFloat x ↔ ∃ member ∈ members, member.2.HasFloat x := by
  constructor
  · rintro (_ | _ | ⟨hmember, hx⟩)
    exact ⟨_, hmember, hx⟩
  · rintro ⟨member, hmember, hx⟩
    exact .member hmember hx

/-- All dictionaries in the value are in increasing order of their names. -/
inductive IsOrdered : Value → Prop where
  | null : IsOrdered .null
  | bool (b : Bool) : IsOrdered (.bool b)
  | int (n : Int64) : IsOrdered (.int n)
  | float (x : Binary64) : IsOrdered (.float x)
  | text (s : String) : IsOrdered (.text s)
  | list {items : List Value} : (∀ item ∈ items, IsOrdered item) → IsOrdered (.list items)
  | dict {members : List (String × Value)} : NamesIncrease members →
      (∀ member ∈ members, IsOrdered member.2) → IsOrdered (.dict members)

theorem itemsToJson_eq_map (items : List Value) : itemsToJson items = items.map toJson := by
  induction items with
  | nil => rfl
  | cons item items ih => rw [itemsToJson, ih, List.map_cons]

theorem membersToJson_eq_map (members : List (String × Value)) :
    membersToJson members = members.map fun member => (member.1, member.2.toJson) := by
  induction members with
  | nil => rfl
  | cons member members ih => rw [membersToJson, ih, List.map_cons]

theorem itemsOfJson_eq_map (items : List Json) : itemsOfJson items = items.map ofJson := by
  induction items with
  | nil => rfl
  | cons item items ih => rw [itemsOfJson, ih, List.map_cons]

theorem membersOfJson_eq_map (members : List (String × Json)) :
    membersOfJson members = members.map fun member => (member.1, ofJson member.2) := by
  induction members with
  | nil => rfl
  | cons member members ih => rw [membersOfJson, ih, List.map_cons]

/-! ## From values to trees and back -/

variable {v : Value} {P : Binary64 → Prop}

theorem ofJson_toJson_int (n : Int64) : ofJson (int n).toJson = int n := by
  simp [toJson, ofJson, ofNumber_integer, isInt64_toInt]

theorem ofJson_toJson_float {x : Binary64} (h : x.isFinite = true) :
    ofJson (float x).toJson = float x := by
  simp [toJson, floatToJson, h, ofJson, ofNumber_decimal]

theorem itemsOfJson_itemsToJson {items : List Value}
    (h : ∀ item ∈ items, ofJson item.toJson = item) : itemsOfJson (itemsToJson items) = items := by
  rw [itemsToJson_eq_map, itemsOfJson_eq_map, List.map_map]
  exact (List.map_congr_left h).trans (List.map_id items)

theorem membersOfJson_membersToJson {members : List (String × Value)}
    (h : ∀ member ∈ members, ofJson member.2.toJson = member.2) :
    membersOfJson (membersToJson members) = members := by
  rw [membersToJson_eq_map, membersOfJson_eq_map, List.map_map]
  refine (List.map_congr_left fun member hmember => ?_).trans (List.map_id members)
  exact Prod.ext rfl (h member hmember)

/-- A value is what its tree describes. -/
theorem IsOrdered.ofJson_toJson (h : v.IsOrdered)
    (hfinite : ∀ x, v.HasFloat x → x.isFinite = true) : ofJson v.toJson = v := by
  induction h with
  | null => rfl
  | bool b => rfl
  | int n => exact ofJson_toJson_int n
  | float x => exact ofJson_toJson_float (hfinite x .float)
  | text s => rfl
  | @list items _ ih =>
      have hitems : ∀ item ∈ items, ofJson item.toJson = item := fun item hitem =>
        ih item hitem fun x hx => hfinite x (.item hitem hx)
      rw [toJson, ofJson, itemsOfJson_itemsToJson hitems]
  | @dict members hincrease _ ih =>
      have hmembers : ∀ member ∈ members, ofJson member.2.toJson = member.2 :=
        fun member hmember => ih member hmember fun x hx => hfinite x (.member hmember hx)
      rw [toJson, ofJson, membersOfJson_membersToJson hmembers, orderPairs_of_increase hincrease]

/-- The tree of a value has the finite floats of the value, and no other numbers but integers of 64
bits. -/
theorem IsOrdered.allNumbers_toJson (h : v.IsOrdered)
    (hP : ∀ x, v.HasFloat x → x.isFinite = true → P x) : v.toJson.AllNumbers P := by
  induction h with
  | null => exact .null
  | bool b => exact .bool b
  | int n => exact .integer (.inl (isInt64_toInt n))
  | float x =>
      rw [toJson, floatToJson]
      split
      · rename_i hx
        exact .decimal (hP x .float hx)
      · exact .null
  | text s => exact .string s
  | list _ ih =>
      rw [toJson, itemsToJson_eq_map]
      refine .array (List.forall_mem_map.2 fun item hitem => ?_)
      exact ih item hitem fun x hx => hP x (.item hitem hx)
  | dict _ _ ih =>
      rw [toJson, membersToJson_eq_map]
      refine .object (List.forall_mem_map.2 fun member hmember => ?_)
      exact ih member hmember fun x hx => hP x (.member hmember hx)

/-- The members of all dictionaries are in order, and the floats are finite and read back. -/
structure IsReadable (v : Value) : Prop where
  ordered : v.IsOrdered
  finite : ∀ x, v.HasFloat x → x.isFinite = true
  readsBack : ∀ x, v.HasFloat x → x.ReadsBack

theorem IsReadable.toJson (h : v.IsReadable) : v.toJson.IsReadable :=
  h.ordered.allNumbers_toJson fun x hx _ => ⟨h.finite x hx, h.readsBack x hx⟩

theorem IsReadable.ofJson_toJson (h : v.IsReadable) : ofJson v.toJson = v :=
  h.ordered.ofJson_toJson h.finite

/-! ## Values that were read -/

variable {json : Json}

theorem isOrdered_ofJson (h : json.AllNumbers P) : (ofJson json).IsOrdered := by
  induction h with
  | null => exact .null
  | bool b => exact .bool b
  | @integer n hn =>
      rw [ofJson, ofNumber_integer]
      split
      · exact .int _
      · exact .float _
  | decimal hx => exact .float _
  | string text => exact .text text
  | array _ ih =>
      rw [ofJson, itemsOfJson_eq_map]
      exact .list (List.forall_mem_map.2 ih)
  | object _ ih =>
      rw [ofJson, membersOfJson_eq_map]
      refine .dict (namesIncrease_orderPairs _) fun member hmember => ?_
      obtain ⟨other, hother, rfl⟩ := List.mem_map.1 (mem_of_mem_orderPairs hmember)
      exact ih other hother

/-- An integer that needs more than 63 bits is read as a finite float. -/
theorem isFinite_ofInt {n : Int} (h : Json.IsWhole n) : (Binary64.ofInt n).isFinite = true := by
  have hsize : n.natAbs < 2 ^ 64 := by
    simp only [Json.IsWhole, isInt64, Bool.and_eq_true, decide_eq_true_eq, UInt64.size] at h
    omega
  have hint := Binary64.toInt?_ofInt hsize
  cases hn : Binary64.ofInt n with
  | finite negative significand exponent canonical => rfl
  | nan =>
      rw [hn] at hint
      cases hint
  | infinity negative =>
      rw [hn] at hint
      cases hint

theorem isFinite_of_hasFloat (h : json.AllNumbers fun x => x.isFinite = true) {x : Binary64}
    (hx : (ofJson json).HasFloat x) : x.isFinite = true := by
  induction h with
  | null => cases hx
  | bool b => cases hx
  | integer hn =>
      rw [ofJson, ofNumber_integer] at hx
      split at hx
      · cases hx
      · cases hx
        exact isFinite_ofInt hn
  | decimal hfinite =>
      cases hx
      exact hfinite
  | string text => cases hx
  | array _ ih =>
      rw [ofJson, itemsOfJson_eq_map, hasFloat_list] at hx
      obtain ⟨_, hitem, hx⟩ := hx
      obtain ⟨other, hother, rfl⟩ := List.mem_map.1 hitem
      exact ih other hother hx
  | object _ ih =>
      rw [ofJson, membersOfJson_eq_map, hasFloat_dict] at hx
      obtain ⟨_, hmember, hx⟩ := hx
      obtain ⟨other, hother, rfl⟩ := List.mem_map.1 (mem_of_mem_orderPairs hmember)
      exact ih other hother hx

/-- A value nests no deeper than the tree that it was read from. -/
theorem nesting_toJson_ofJson (h : json.AllNumbers P) :
    (ofJson json).toJson.nesting ≤ json.nesting := by
  induction h with
  | null => exact Nat.le_refl _
  | bool b => exact Nat.le_refl _
  | integer hn =>
      rw [ofJson, ofNumber_integer]
      split
      · exact Nat.le_refl _
      · rw [toJson, floatToJson]
        split <;> exact Nat.le_refl _
  | decimal hx =>
      rw [ofJson, ofNumber_decimal, toJson, floatToJson]
      split <;> exact Nat.le_refl _
  | string text => exact Nat.le_refl _
  | array _ ih =>
      rw [ofJson, toJson, itemsOfJson_eq_map, itemsToJson_eq_map, Json.nesting, Json.nesting]
      refine Nat.succ_le_succ (Json.itemsNesting_le_iff.2 ?_)
      rw [List.map_map]
      refine List.forall_mem_map.2 fun item hitem => (ih item hitem).trans ?_
      exact Json.itemsNesting_le_iff.1 (Nat.le_refl _) item hitem
  | object _ ih =>
      rw [ofJson, toJson, membersOfJson_eq_map, membersToJson_eq_map, Json.nesting, Json.nesting]
      refine Nat.succ_le_succ (Json.membersNesting_le_iff.2 ?_)
      refine List.forall_mem_map.2 fun member hmember => ?_
      obtain ⟨other, hother, rfl⟩ := List.mem_map.1 (mem_of_mem_orderPairs hmember)
      exact (ih other hother).trans (Json.membersNesting_le_iff.1 (Nat.le_refl _) other hother)

/-- A value that was read within bounds is read back and stays within them. -/
theorem isReadable_ofJson (h : json.AllNumbers P) {room : Nat} (hfits : json.fits room = true)
    (hreads : ∀ x, (ofJson json).HasFloat x → x.isFinite = true → x.ReadsBack) :
    (ofJson json).IsReadable ∧ (ofJson json).toJson.nesting ≤ room := by
  have hnumbers := h.finite_of_fits hfits
  have hfinite : ∀ x, (ofJson json).HasFloat x → x.isFinite = true :=
    fun _ hx => isFinite_of_hasFloat hnumbers hx
  refine ⟨⟨isOrdered_ofJson h, hfinite, fun x hx => hreads x hx (hfinite x hx)⟩, ?_⟩
  exact (nesting_toJson_ofJson h).trans ((Json.fits_iff_nesting_le hnumbers room).1 hfits)

end Value

end EntryFilter
