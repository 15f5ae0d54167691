/-! # Dictionaries

A dictionary maps names to values and lists its pairs in increasing order of the names. Adding a
pair under a name that is already present replaces the value. -/

namespace EntryFilter

/-- Adds a pair to a list that is ordered by name, or replaces the value under its name. -/
def putPair {α : Type} (name : String) (value : α) : List (String × α) → List (String × α)
  | [] => [(name, value)]
  | (other, old) :: rest =>
    if name < other then (name, value) :: (other, old) :: rest
    else if other < name then (other, old) :: putPair name value rest
    else (name, value) :: rest

/-- The ordered list of the pairs; of several pairs with one name the last one counts. -/
def orderPairs {α : Type} (pairs : List (String × α)) : List (String × α) :=
  pairs.foldl (fun done pair => putPair pair.1 pair.2 done) []

/-- The distinct names of a list in increasing order. -/
def orderNames (names : List String) : List String :=
  (orderPairs (names.map fun name => (name, ()))).map Prod.fst

/-- Names strictly increase along the list. -/
def NamesIncrease {α : Type} (pairs : List (String × α)) : Prop :=
  pairs.Pairwise fun a b => a.1 < b.1

theorem mem_putPair {α : Type} {name : String} {value : α} {pairs : List (String × α)}
    {pair : String × α} (h : pair ∈ putPair name value pairs) :
    pair = (name, value) ∨ pair ∈ pairs := by
  induction pairs with
  | nil => simpa [putPair] using h
  | cons first rest ih =>
      obtain ⟨other, old⟩ := first
      unfold putPair at h
      grind

theorem NamesIncrease.putPair {α : Type} {pairs : List (String × α)} (name : String) (value : α)
    (h : NamesIncrease pairs) : NamesIncrease (putPair name value pairs) := by
  induction pairs with
  | nil => simp [NamesIncrease, EntryFilter.putPair]
  | cons first rest ih =>
      obtain ⟨other, old⟩ := first
      obtain ⟨hfirst, hrest⟩ := List.pairwise_cons.1 h
      unfold EntryFilter.putPair
      split
      · rename_i hlt
        refine List.pairwise_cons.2 ⟨fun pair hp => ?_, h⟩
        rcases List.mem_cons.1 hp with rfl | hp
        · exact hlt
        · exact String.lt_trans hlt (hfirst pair hp)
      · split
        · rename_i hgt
          refine List.pairwise_cons.2 ⟨fun pair hp => ?_, ih hrest⟩
          rcases mem_putPair hp with rfl | hp
          · exact hgt
          · exact hfirst pair hp
        · rename_i hle hge
          have heq : name = other := String.le_antisymm hge hle
          subst heq
          exact List.pairwise_cons.2 ⟨hfirst, hrest⟩

/-- A finite map from names to values, ordered by name. -/
structure Dictionary (α : Type) where
  entries : List (String × α)
  ordered : NamesIncrease entries

namespace Dictionary

variable {α : Type}

/-- The dictionary without pairs. -/
def empty : Dictionary α := ⟨[], List.Pairwise.nil⟩

/-- The value under a name. -/
def get? (d : Dictionary α) (name : String) : Option α := d.entries.lookup name

/-- The dictionary with a value put under a name. -/
def insert (d : Dictionary α) (name : String) (value : α) : Dictionary α :=
  ⟨putPair name value d.entries, d.ordered.putPair name value⟩

/-- The pairs put into a dictionary one after the other. -/
def insertAll (d : Dictionary α) (pairs : List (String × α)) : Dictionary α :=
  pairs.foldl (fun done pair => done.insert pair.1 pair.2) d

/-- The dictionary of the pairs; the last pair of each name counts. -/
def ofList (pairs : List (String × α)) : Dictionary α := empty.insertAll pairs

/-- The names in increasing order. -/
def names (d : Dictionary α) : List String := d.entries.map Prod.fst

/-- The number of pairs. -/
def size (d : Dictionary α) : Nat := d.entries.length

end Dictionary

end EntryFilter
