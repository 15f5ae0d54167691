import EntryFilter.Proofs.Json.Transition
import EntryFilter.Proofs.Json.WrittenNumber

/-! # The numbers of a tree

A tree that was read has no integers beyond 64 bits. Whether a tree fits depends on nothing but how
deep it nests and whether its numbers are finite. -/

namespace EntryFilter.Json

/-- The integers of the tree are such as are read, and all its other numbers have the property. -/
inductive AllNumbers (P : Binary64 → Prop) : Json → Prop where
  | null : AllNumbers P .null
  | bool (b : Bool) : AllNumbers P (.bool b)
  | integer {n : Int} : IsWhole n → AllNumbers P (.integer n)
  | decimal {x : Binary64} : P x → AllNumbers P (.decimal x)
  | string (text : String) : AllNumbers P (.string text)
  | array {items : List Json} : (∀ item ∈ items, AllNumbers P item) → AllNumbers P (.array items)
  | object {members : List (String × Json)} : (∀ member ∈ members, AllNumbers P member.2) →
      AllNumbers P (.object members)

variable {P Q : Binary64 → Prop} {json : Json}

/-! ## Nesting -/

mutual

/-- How many arrays and objects stand inside each other. -/
def nesting : Json → Nat
  | array items => itemsNesting items + 1
  | object members => membersNesting members + 1
  | _ => 0

def itemsNesting : List Json → Nat
  | [] => 0
  | item :: rest => max item.nesting (itemsNesting rest)

def membersNesting : List (String × Json) → Nat
  | [] => 0
  | (_, value) :: rest => max value.nesting (membersNesting rest)

end

theorem itemsNesting_le_iff {items : List Json} {n : Nat} :
    itemsNesting items ≤ n ↔ ∀ item ∈ items, item.nesting ≤ n := by
  induction items with
  | nil => simp [itemsNesting]
  | cons item rest ih => simp only [itemsNesting, Nat.max_le, ih, List.forall_mem_cons]

theorem membersNesting_le_iff {members : List (String × Json)} {n : Nat} :
    membersNesting members ≤ n ↔ ∀ member ∈ members, member.2.nesting ≤ n := by
  induction members with
  | nil => simp [membersNesting]
  | cons member rest ih => simp only [membersNesting, Nat.max_le, ih, List.forall_mem_cons]

theorem itemsFit_iff {items : List Json} {room : Nat}
    (h : ∀ item ∈ items, item.fits room = true ↔ item.nesting ≤ room) :
    itemsFit room items = true ↔ itemsNesting items ≤ room := by
  induction items with
  | nil => simp [itemsFit, itemsNesting]
  | cons item rest ih =>
      have hitem := h item List.mem_cons_self
      have hrest := ih fun j hj => h j (List.mem_cons_of_mem item hj)
      simp only [itemsFit, itemsNesting, Bool.and_eq_true, hitem, hrest, Nat.max_le]

theorem membersFit_iff {members : List (String × Json)} {room : Nat}
    (h : ∀ member ∈ members, member.2.fits room = true ↔ member.2.nesting ≤ room) :
    membersFit room members = true ↔ membersNesting members ≤ room := by
  induction members with
  | nil => simp [membersFit, membersNesting]
  | cons member rest ih =>
      have hmember := h member List.mem_cons_self
      have hrest := ih fun j hj => h j (List.mem_cons_of_mem member hj)
      simp only [membersFit, membersNesting, Bool.and_eq_true, hmember, hrest, Nat.max_le]

/-- A tree of finite numbers fits where there is room for its nesting. -/
theorem fits_iff_nesting_le (h : json.AllNumbers fun x => x.isFinite = true) (room : Nat) :
    json.fits room = true ↔ json.nesting ≤ room := by
  induction h generalizing room with
  | null => simp [fits, nesting]
  | bool b => simp [fits, nesting]
  | integer hn => simp [fits, nesting]
  | decimal hx => simp [fits, nesting, hx]
  | string text => simp [fits, nesting]
  | array _ ih =>
      cases room with
      | zero => simp [fits, nesting]
      | succ room => simp [fits, nesting, itemsFit_iff fun item hitem => ih item hitem room]
  | object _ ih =>
      cases room with
      | zero => simp [fits, nesting]
      | succ room =>
          simp [fits, nesting, membersFit_iff fun member hmember => ih member hmember room]

theorem fits_of_itemsFit {items : List Json} {room : Nat} (h : itemsFit room items = true) :
    ∀ item ∈ items, item.fits room = true := by
  induction items with
  | nil => simp
  | cons item rest ih =>
      simp only [itemsFit, Bool.and_eq_true] at h
      exact List.forall_mem_cons.2 ⟨h.1, ih h.2⟩

theorem fits_of_membersFit {members : List (String × Json)} {room : Nat}
    (h : membersFit room members = true) : ∀ member ∈ members, member.2.fits room = true := by
  induction members with
  | nil => simp
  | cons member rest ih =>
      simp only [membersFit, Bool.and_eq_true] at h
      exact List.forall_mem_cons.2 ⟨h.1, ih h.2⟩

/-- No number of a tree that fits is infinite or NaN. -/
theorem AllNumbers.finite_of_fits (h : json.AllNumbers P) {room : Nat}
    (hfits : json.fits room = true) : json.AllNumbers fun x => x.isFinite = true := by
  induction h generalizing room with
  | null => exact .null
  | bool b => exact .bool b
  | integer hn => exact .integer hn
  | decimal _ => exact .decimal (by simpa [fits] using hfits)
  | string text => exact .string text
  | array _ ih =>
      cases room with
      | zero => cases hfits
      | succ room =>
          exact .array fun item hitem => ih item hitem (fits_of_itemsFit hfits item hitem)
  | object _ ih =>
      cases room with
      | zero => cases hfits
      | succ room =>
          exact .object fun member hmember =>
            ih member hmember (fits_of_membersFit hfits member hmember)

/-! ## Trees that are read -/

theorem Numeral.allNumbers_toJson (n : Numeral) : n.toJson.AllNumbers fun _ => True := by
  unfold Numeral.toJson
  split
  · by_cases hsign : n.negative = true
    · simp only [if_pos hsign]
      split
      · rename_i h
        exact .integer (.inl h.2)
      · exact .decimal trivial
    · simp only [if_neg hsign]
      split
      · rename_i h
        exact .integer (.inr ⟨Int.natCast_nonneg _, Int.ofNat_lt.2 h⟩)
      · exact .decimal trivial
  · exact .decimal trivial

/-- The property holds of all finished parts of an open array or object. -/
def Frame.AllNumbers (P : Binary64 → Prop) : Frame → Prop
  | items done => ∀ item ∈ done, item.AllNumbers P
  | members done _ => ∀ member ∈ done, member.2.AllNumbers P

/-- The property holds of all trees that the reader has finished. -/
def ReaderState.AllNumbers (P : Binary64 → Prop) : ReaderState → Prop
  | value frames => ∀ frame ∈ frames, frame.AllNumbers P
  | firstItem frames => ∀ frame ∈ frames, frame.AllNumbers P
  | firstName frames => ∀ frame ∈ frames, frame.AllNumbers P
  | name done frames =>
    (∀ member ∈ done, member.2.AllNumbers P) ∧ ∀ frame ∈ frames, frame.AllNumbers P
  | colon done _ frames =>
    (∀ member ∈ done, member.2.AllNumbers P) ∧ ∀ frame ∈ frames, frame.AllNumbers P
  | finished json frames => json.AllNumbers P ∧ ∀ frame ∈ frames, frame.AllNumbers P

namespace ReaderState

variable {state next : ReaderState} {frames : List Frame} {t : Token}

theorem AllNumbers.opens (hframes : ∀ frame ∈ frames, frame.AllNumbers fun _ => True)
    (h : Opens frames t next) : next.AllNumbers fun _ => True := by
  cases h with
  | null => exact ⟨.null, hframes⟩
  | bool b => exact ⟨.bool b, hframes⟩
  | number n => exact ⟨n.allNumbers_toJson, hframes⟩
  | string text => exact ⟨.string text, hframes⟩
  | array => exact hframes
  | object => exact hframes

theorem AllNumbers.moves (hstate : state.AllNumbers fun _ => True) (h : Moves state t next) :
    next.AllNumbers fun _ => True := by
  cases h with
  | value hopens => exact AllNumbers.opens hstate hopens
  | firstItem hopens =>
      have hempty : (Frame.items []).AllNumbers fun _ => True := List.forall_mem_nil _
      exact AllNumbers.opens (List.forall_mem_cons.2 ⟨hempty, hstate⟩) hopens
  | noItems frames => exact ⟨.array (List.forall_mem_nil _), hstate⟩
  | nextItem item done frames =>
      obtain ⟨hitem, hframes⟩ := hstate
      obtain ⟨hdone, hrest⟩ := List.forall_mem_cons.1 hframes
      exact List.forall_mem_cons.2 ⟨List.forall_mem_cons.2 ⟨hitem, hdone⟩, hrest⟩
  | endArray item done frames =>
      obtain ⟨hitem, hframes⟩ := hstate
      obtain ⟨hdone, hrest⟩ := List.forall_mem_cons.1 hframes
      have hitems := List.forall_mem_cons.2 ⟨hitem, hdone⟩
      exact ⟨.array fun other hother => hitems other (List.mem_reverse.1 hother), hrest⟩
  | firstName text frames => exact ⟨List.forall_mem_nil _, hstate⟩
  | noMembers frames => exact ⟨.object (List.forall_mem_nil _), hstate⟩
  | name done text frames => exact hstate
  | colon done text frames => exact List.forall_mem_cons.2 hstate
  | nextMember value done text frames =>
      obtain ⟨hvalue, hframes⟩ := hstate
      obtain ⟨hdone, hrest⟩ := List.forall_mem_cons.1 hframes
      exact ⟨List.forall_mem_cons.2 ⟨hvalue, hdone⟩, hrest⟩
  | endObject value done text frames =>
      obtain ⟨hvalue, hframes⟩ := hstate
      obtain ⟨hdone, hrest⟩ := List.forall_mem_cons.1 hframes
      have hmembers : ∀ member ∈ (text, value) :: done, member.2.AllNumbers fun _ => True :=
        List.forall_mem_cons.2 ⟨hvalue, hdone⟩
      exact ⟨.object fun other hother => hmembers other (List.mem_reverse.1 hother), hrest⟩

theorem AllNumbers.run {tokens : List Token} (hstate : state.AllNumbers fun _ => True)
    (h : state.run tokens = some next) : next.AllNumbers fun _ => True := by
  induction tokens generalizing state with
  | nil =>
      obtain rfl := Option.some.inj h
      exact hstate
  | cons t rest ih =>
      obtain ⟨middle, hstep, hrun⟩ := Option.bind_eq_some_iff.1 h
      exact ih (hstate.moves (moves_of_step hstep)) hrun

end ReaderState

/-- A tree that was read has no integers but those that are read as such. -/
theorem allNumbers_of_ofText? {source : String} (h : ofText? source = some json) :
    json.AllNumbers fun _ => True := by
  obtain ⟨tokens, -, htokens⟩ := Option.bind_eq_some_iff.1 h
  have hstart : (ReaderState.value []).AllNumbers fun _ => True := by simp [ReaderState.AllNumbers]
  unfold ofTokens? at htokens
  split at htokens
  · rename_i value hrun
    obtain rfl := Option.some.inj htokens
    exact (hstart.run hrun).1
  · cases htokens

end EntryFilter.Json
