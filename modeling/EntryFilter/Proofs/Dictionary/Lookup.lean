import EntryFilter.Proofs.Dictionary.Order
import Mathlib.Data.List.Nodup

/-! # Looking up names

Putting a pair changes what is found under its name and under no other one. Since the pairs of a
dictionary are in order, what is found under all names determines the dictionary. -/

namespace EntryFilter

variable {α : Type}

theorem lookup_cons_pair (name : String) (value : α) (pairs : List (String × α)) (n : String) :
    ((name, value) :: pairs).lookup n = if n = name then some value else pairs.lookup n := by
  rw [List.lookup_cons]
  by_cases h : n = name
  · simp [h]
  · rw [beq_eq_false_iff_ne.2 h, if_neg h]

theorem lookup_putPair (name : String) (value : α) (pairs : List (String × α)) (n : String) :
    (putPair name value pairs).lookup n = if n = name then some value else pairs.lookup n := by
  induction pairs with
  | nil => exact lookup_cons_pair name value [] n
  | cons first pairs ih =>
      obtain ⟨other, old⟩ := first
      unfold putPair
      split
      · exact lookup_cons_pair name value _ n
      · split
        · rename_i hother
          simp only [lookup_cons_pair, ih]
          by_cases h : n = other
          · subst h
            have hne : n ≠ name := by
              rintro rfl
              exact String.lt_irrefl _ hother
            simp [hne]
          · simp [h]
        · rename_i hle hge
          obtain rfl : name = other := String.le_antisymm hge hle
          simp only [lookup_cons_pair]
          by_cases h : n = name <;> simp [h]

/-- In a list that is in order a pair is found under its name. -/
theorem NamesIncrease.mem_iff {pairs : List (String × α)} (h : NamesIncrease pairs) {name : String}
    {value : α} : (name, value) ∈ pairs ↔ pairs.lookup name = some value := by
  induction pairs with
  | nil => simp
  | cons first pairs ih =>
      obtain ⟨other, old⟩ := first
      obtain ⟨hfirst, hrest⟩ := List.pairwise_cons.1 h
      rw [List.mem_cons, ih hrest, lookup_cons_pair]
      by_cases hname : name = other
      · subst hname
        have hlater : pairs.lookup name ≠ some value := by
          intro hfound
          exact String.lt_irrefl name (hfirst (name, value) ((ih hrest).2 hfound))
        simp [hlater, eq_comm]
      · simp [hname]

theorem NamesIncrease.nodup {pairs : List (String × α)} (h : NamesIncrease pairs) :
    pairs.Nodup := by
  refine h.imp ?_
  rintro a b hlt rfl
  exact String.lt_irrefl _ hlt

theorem lookup_filter_ne (name : String) (pairs : List (String × α)) (n : String) :
    (pairs.filter fun pair => pair.1 != name).lookup n =
      if n = name then none else pairs.lookup n := by
  induction pairs with
  | nil => simp
  | cons first pairs ih =>
      obtain ⟨other, old⟩ := first
      by_cases hother : other = name
      · subst hother
        rw [List.filter_cons_of_neg (by simp), ih, lookup_cons_pair]
        by_cases h : n = other <;> simp [h]
      · rw [List.filter_cons_of_pos (by simpa using hother), lookup_cons_pair, ih, lookup_cons_pair]
        by_cases h : n = other <;> simp [h, hother]

namespace Dictionary

/-- The dictionary without the value under a name. -/
def erase (d : Dictionary α) (name : String) : Dictionary α :=
  ⟨d.entries.filter fun pair => pair.1 != name, d.ordered.filter _⟩

theorem get?_erase (d : Dictionary α) (name n : String) :
    (d.erase name).get? n = if n = name then none else d.get? n :=
  lookup_filter_ne name d.entries n

theorem get?_insert (d : Dictionary α) (name : String) (value : α) (n : String) :
    (d.insert name value).get? n = if n = name then some value else d.get? n :=
  lookup_putPair name value d.entries n

theorem get?_insertAll (d : Dictionary α) (pairs : List (String × α)) (n : String) :
    (d.insertAll pairs).get? n = (pairs.reverse.lookup n).or (d.get? n) := by
  induction pairs generalizing d with
  | nil => rfl
  | cons pair pairs ih =>
      obtain ⟨name, value⟩ := pair
      change ((d.insert name value).insertAll pairs).get? n = _
      rw [ih, get?_insert, List.reverse_cons, List.lookup_append, Option.or_assoc,
        lookup_cons_pair]
      by_cases h : n = name
      · rw [if_pos h, if_pos h, Option.some_or]
      · rw [if_neg h, if_neg h, List.lookup_nil, Option.none_or]

/-- Of several pairs with one name the last one is found. -/
theorem get?_ofList (pairs : List (String × α)) (n : String) :
    (ofList pairs).get? n = pairs.reverse.lookup n := by
  have hnone : (empty : Dictionary α).get? n = none := rfl
  rw [ofList, get?_insertAll, hnone, Option.or_none]

/-- A dictionary is determined by what it holds under each name. -/
theorem ext_get? {d e : Dictionary α} (h : ∀ name, d.get? name = e.get? name) : d = e := by
  have hmem : ∀ pair, pair ∈ d.entries ↔ pair ∈ e.entries := by
    rintro ⟨name, value⟩
    have hname : d.entries.lookup name = e.entries.lookup name := h name
    rw [d.ordered.mem_iff, e.ordered.mem_iff, hname]
  have hperm := (List.perm_ext_iff_of_nodup d.ordered.nodup e.ordered.nodup).2 hmem
  have hentries : d.entries = e.entries := by
    refine List.Perm.eq_of_pairwise ?_ d.ordered e.ordered hperm
    intro a b _ _ hab hba
    exact absurd hba (String.lt_asymm hab)
  obtain ⟨entries, ordered⟩ := d
  obtain ⟨entries', ordered'⟩ := e
  obtain rfl : entries = entries' := hentries
  rfl

end Dictionary

end EntryFilter
