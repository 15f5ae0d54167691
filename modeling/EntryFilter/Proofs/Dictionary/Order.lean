import EntryFilter.Dictionary

/-! # The order of dictionaries

Names come in increasing order, each once, whatever the order in which pairs are put. Pairs that
are in order stay as they are. -/

namespace EntryFilter

variable {α : Type}

/-! ## Names -/

theorem mem_names_putPair (name : String) (value : α) (pairs : List (String × α))
    (n : String) :
    n ∈ (putPair name value pairs).map Prod.fst ↔ n = name ∨ n ∈ pairs.map Prod.fst := by
  induction pairs with
  | nil => simp [putPair]
  | cons first rest ih =>
      obtain ⟨other, old⟩ := first
      simp only [putPair]
      split
      · simp
      · split
        · simp only [List.map_cons, List.mem_cons, ih, or_left_comm]
        · rename_i hge hle
          have heq : name = other := String.le_antisymm hle hge
          simp [heq]

theorem mem_names_foldl (pairs done : List (String × α)) (n : String) :
    n ∈ (pairs.foldl (fun done pair => putPair pair.1 pair.2 done) done).map Prod.fst ↔
      n ∈ pairs.map Prod.fst ∨ n ∈ done.map Prod.fst := by
  induction pairs generalizing done with
  | nil => simp
  | cons pair pairs ih =>
      rw [List.foldl_cons, ih, mem_names_putPair, List.map_cons, List.mem_cons, or_assoc,
        or_left_comm]

@[simp] theorem mem_orderNames {names : List String} {n : String} :
    n ∈ orderNames names ↔ n ∈ names := by
  rw [orderNames, orderPairs, mem_names_foldl]
  simp

theorem namesIncrease_foldl {pairs done : List (String × α)} (h : NamesIncrease done) :
    NamesIncrease (pairs.foldl (fun done pair => putPair pair.1 pair.2 done) done) := by
  induction pairs generalizing done with
  | nil => exact h
  | cons pair pairs ih => exact ih (h.putPair pair.1 pair.2)

theorem namesIncrease_orderPairs (pairs : List (String × α)) : NamesIncrease (orderPairs pairs) :=
  namesIncrease_foldl List.Pairwise.nil

theorem orderNames_increase (names : List String) : (orderNames names).Pairwise (· < ·) :=
  List.pairwise_map.2 (namesIncrease_orderPairs _)

theorem orderNames_nodup (names : List String) : (orderNames names).Nodup := by
  refine (orderNames_increase names).imp ?_
  intro a b hlt heq
  rw [heq] at hlt
  exact String.lt_irrefl _ hlt

/-! ## Pairs in order -/

theorem mem_of_mem_foldl {pairs done : List (String × α)} {pair : String × α}
    (h : pair ∈ pairs.foldl (fun done pair => putPair pair.1 pair.2 done) done) :
    pair ∈ pairs ∨ pair ∈ done := by
  induction pairs generalizing done with
  | nil => exact .inr h
  | cons first pairs ih =>
      rw [List.foldl_cons] at h
      rcases ih h with hrest | hput
      · exact .inl (List.mem_cons_of_mem first hrest)
      · rcases mem_putPair hput with rfl | hdone
        · exact .inl List.mem_cons_self
        · exact .inr hdone

theorem mem_of_mem_orderPairs {pairs : List (String × α)} {pair : String × α}
    (h : pair ∈ orderPairs pairs) : pair ∈ pairs :=
  (mem_of_mem_foldl h).resolve_right List.not_mem_nil

/-- A pair behind all others is put at the end. -/
theorem putPair_of_last {name : String} {value : α} {pairs : List (String × α)}
    (h : ∀ pair ∈ pairs, pair.1 < name) : putPair name value pairs = pairs ++ [(name, value)] := by
  induction pairs with
  | nil => rfl
  | cons first pairs ih =>
      obtain ⟨other, old⟩ := first
      have hother : other < name := h (other, old) List.mem_cons_self
      rw [putPair, if_neg (String.lt_asymm hother), if_pos hother,
        ih fun pair hp => h pair (List.mem_cons_of_mem _ hp), List.cons_append]

theorem orderPairs_of_increase {pairs : List (String × α)} (h : NamesIncrease pairs) :
    orderPairs pairs = pairs := by
  suffices hfold : ∀ done : List (String × α), NamesIncrease (done ++ pairs) →
      pairs.foldl (fun done pair => putPair pair.1 pair.2 done) done = done ++ pairs from
    hfold [] h
  intro done hdone
  induction pairs generalizing done with
  | nil => simp
  | cons pair pairs ih =>
      have hlast : ∀ other ∈ done, other.1 < pair.1 := fun other hother =>
        (List.pairwise_append.1 hdone).2.2 other hother pair List.mem_cons_self
      have hrest : NamesIncrease ((done ++ [pair]) ++ pairs) := by simpa using hdone
      have hput : putPair pair.1 pair.2 done = done ++ [pair] := putPair_of_last hlast
      rw [List.foldl_cons, hput, ih (List.pairwise_cons.1 h).2 (done ++ [pair]) hrest]
      simp

theorem map_putPair {β : Type} (f : α → β) (name : String) (value : α)
    (pairs : List (String × α)) : (putPair name value pairs).map (fun pair => (pair.1, f pair.2)) =
      putPair name (f value) (pairs.map fun pair => (pair.1, f pair.2)) := by
  induction pairs with
  | nil => rfl
  | cons first rest ih =>
      obtain ⟨other, old⟩ := first
      simp only [putPair, List.map_cons]
      split
      · rfl
      · split
        · rw [List.map_cons, ih]
        · rfl

/-- The order of the pairs has nothing to do with the values. -/
theorem map_orderPairs {β : Type} (f : α → β) (pairs : List (String × α)) :
    (orderPairs pairs).map (fun pair => (pair.1, f pair.2)) =
      orderPairs (pairs.map fun pair => (pair.1, f pair.2)) := by
  rw [orderPairs, orderPairs, List.foldl_map]
  refine (List.foldl_hom _ fun done pair => ?_).symm
  exact (map_putPair f pair.1 pair.2 done).symm

@[simp] theorem orderPairs_orderPairs (pairs : List (String × α)) :
    orderPairs (orderPairs pairs) = orderPairs pairs :=
  orderPairs_of_increase (namesIncrease_orderPairs pairs)

namespace Dictionary

theorem entries_insertAll (d : Dictionary α) (pairs : List (String × α)) :
    (d.insertAll pairs).entries =
      pairs.foldl (fun done pair => putPair pair.1 pair.2 done) d.entries := by
  induction pairs generalizing d with
  | nil => rfl
  | cons pair pairs ih => exact ih (d.insert pair.1 pair.2)

theorem entries_ofList (pairs : List (String × α)) : (ofList pairs).entries = orderPairs pairs :=
  entries_insertAll empty pairs

/-- A dictionary is made up of its pairs. -/
theorem ofList_entries (d : Dictionary α) : ofList d.entries = d := by
  have hentries := entries_ofList d.entries
  rw [orderPairs_of_increase d.ordered] at hentries
  obtain ⟨entries, ordered⟩ := d
  cases hd : ofList entries with
  | mk entries' ordered' =>
      rw [hd] at hentries
      subst hentries
      rfl

/-- The names of a dictionary are those under which it holds a value. -/
theorem mem_names_iff {d : Dictionary α} {name : String} :
    name ∈ d.names ↔ (d.get? name).isSome = true := by
  rw [names, get?]
  induction d.entries with
  | nil => simp
  | cons pair pairs ih =>
      obtain ⟨other, value⟩ := pair
      by_cases h : name = other
      · simp [h]
      · have hother : (name == other) = false := beq_eq_false_iff_ne.2 h
        rw [List.map_cons, List.mem_cons, ih, List.lookup_cons, hother]
        simp [h]

end Dictionary

end EntryFilter
