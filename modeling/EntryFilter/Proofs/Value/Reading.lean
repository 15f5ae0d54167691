import EntryFilter.Proofs.Json.Transition
import EntryFilter.Proofs.Value.RoundTrip

/-! # What a row of tokens denotes

A text is decoded to the value that its tokens denote: each number is what its numeral denotes, an
array has its items in order, and an object has its members in order of their names. The reader
keeps finished parts in reverse, so its invariant says what each open array and object has taken. In
the other direction a row that denotes a value spells a tree, part by part. -/

namespace EntryFilter

open EntryFilter.Decimal

namespace Json

/-! ## Numerals -/

namespace Numeral

/-- The digits before the point with the sign. -/
def toInt (n : Numeral) : Int := if n.negative then -ofDigits n.whole else ofDigits n.whole

/-- The numeral has neither point nor power, 64 bits with a sign hold it, and it is not minus
zero. -/
structure IsInteger (n : Numeral) : Prop where
  fraction : n.fraction = none
  power : n.power = none
  fits : isInt64 n.toInt = true
  sign : n.negative = true → ofDigits n.whole ≠ 0

/-- The float as which any other numeral is read. What 64 bits without a sign hold is rounded
once. -/
def toFloat (n : Numeral) : Binary64 :=
  if n.fraction = none ∧ n.power = none ∧ n.negative = false ∧ ofDigits n.whole < UInt64.size then
    .ofInt n.toInt
  else n.toBinary64

variable {n : Numeral}

theorem toJson_negative (whole : List Char) : toJson ⟨true, whole, none, none⟩ =
    if 0 < ofDigits whole ∧ isInt64 (-ofDigits whole) then .integer (-ofDigits whole)
    else .decimal (toBinary64 ⟨true, whole, none, none⟩) := rfl

theorem toJson_unsigned (whole : List Char) : toJson ⟨false, whole, none, none⟩ =
    if ofDigits whole < UInt64.size then .integer (ofDigits whole)
    else .decimal (toBinary64 ⟨false, whole, none, none⟩) := rfl

theorem toFloat_of_not_unsigned (h : ¬ (n.fraction = none ∧ n.power = none ∧ n.negative = false ∧
    ofDigits n.whole < UInt64.size)) : n.toFloat = n.toBinary64 := if_neg h

theorem ofJson_toJson_of_isInteger (h : n.IsInteger) :
    Value.ofJson n.toJson = .int (Int64.ofInt n.toInt) := by
  obtain ⟨negative, whole, fraction, power⟩ := n
  obtain ⟨rfl, rfl, hfits, hsign⟩ := h
  cases negative with
  | true =>
      have hpos : 0 < ofDigits whole := Nat.pos_of_ne_zero (hsign rfl)
      change isInt64 (-ofDigits whole) = true at hfits
      rw [toJson_negative, if_pos ⟨hpos, hfits⟩, Value.ofJson, Value.ofNumber_integer,
        if_pos hfits]
      rfl
  | false =>
      change isInt64 (ofDigits whole) = true at hfits
      have hsmall : ofDigits whole < UInt64.size := by
        simp only [isInt64, Bool.and_eq_true, decide_eq_true_eq] at hfits
        simp only [UInt64.size]
        omega
      rw [toJson_unsigned, if_pos hsmall, Value.ofJson, Value.ofNumber_integer, if_pos hfits]
      rfl

theorem ofJson_toJson_of_not_isInteger (h : ¬ n.IsInteger) :
    Value.ofJson n.toJson = .float n.toFloat := by
  obtain ⟨negative, whole, fraction, power⟩ := n
  cases fraction with
  | some digits =>
      rw [toFloat_of_not_unsigned fun hall => by cases hall.1]
      exact Value.ofNumber_decimal _
  | none =>
      cases power with
      | some power =>
          rw [toFloat_of_not_unsigned fun hall => by cases hall.2.1]
          exact Value.ofNumber_decimal _
      | none =>
          cases negative with
          | true =>
              have hnot : ¬ (0 < ofDigits whole ∧ isInt64 (-ofDigits whole) = true) :=
                fun hfits => h ⟨rfl, rfl, hfits.2, fun _ => Nat.ne_of_gt hfits.1⟩
              rw [toFloat_of_not_unsigned fun hall => (by cases hall.2.2.1), toJson_negative,
                if_neg hnot, Value.ofJson, Value.ofNumber_decimal]
          | false =>
              have hnot : ¬ isInt64 (ofDigits whole) = true := fun hfits =>
                h ⟨rfl, rfl, hfits, fun hnegative => absurd hnegative Bool.false_ne_true⟩
              by_cases hsmall : ofDigits whole < UInt64.size
              · rw [toJson_unsigned, if_pos hsmall, Value.ofJson, Value.ofNumber_integer,
                  if_neg hnot, toFloat, if_pos ⟨rfl, rfl, rfl, hsmall⟩]
                rfl
              · rw [toFloat_of_not_unsigned fun hall => hsmall hall.2.2.2, toJson_unsigned,
                  if_neg hsmall, Value.ofJson, Value.ofNumber_decimal]

example : (Value.ofJson (toJson ⟨true, ['0'], none, none⟩)).kind = "float" := by decide +kernel

end Numeral

/-! ## Rows -/

/-- The tokens of a member: its name, a colon, and the tokens of its value. -/
def memberRow (part : String × List Token × Value) : List Token :=
  .string part.1 :: .colon :: part.2.1

/-- The value that a row of tokens denotes. Of members with one name the last one counts. -/
inductive Denotes : List Token → Value → Prop where
  | null : Denotes [.null] .null
  | bool (b : Bool) : Denotes [.bool b] (.bool b)
  | integer {n : Numeral} : n.IsInteger → Denotes [.number n] (.int (Int64.ofInt n.toInt))
  | float {n : Numeral} : ¬ n.IsInteger → Denotes [.number n] (.float n.toFloat)
  | text (text : String) : Denotes [.string text] (.text text)
  | list {parts : List (List Token × Value)} : (∀ part ∈ parts, Denotes part.1 part.2) →
      Denotes (.beginArray :: [.comma].intercalate (parts.map Prod.fst) ++ [.endArray])
        (.list (parts.map Prod.snd))
  | dict {parts : List (String × List Token × Value)} :
      (∀ part ∈ parts, Denotes part.2.1 part.2.2) →
      Denotes (.beginObject :: [.comma].intercalate (parts.map memberRow) ++ [.endObject])
        (.dict (orderPairs (parts.map fun part => (part.1, part.2.2))))

theorem denotes_number (n : Numeral) : Denotes [.number n] (Value.ofJson n.toJson) := by
  by_cases h : n.IsInteger
  · rw [Numeral.ofJson_toJson_of_isInteger h]
    exact .integer h
  · rw [Numeral.ofJson_toJson_of_not_isInteger h]
    exact .float h

/-- The rows with a comma behind each of them. -/
def withCommas (rows : List (List Token)) : List Token := rows.flatMap fun row => row ++ [.comma]

theorem withCommas_concat (rows : List (List Token)) (row : List Token) :
    withCommas (rows ++ [row]) = withCommas rows ++ (row ++ [.comma]) := by
  simp [withCommas]

theorem intercalate_concat (rows : List (List Token)) (row : List Token) :
    [Token.comma].intercalate (rows ++ [row]) = withCommas rows ++ row := by
  induction rows with
  | nil => simp [withCommas]
  | cons first rows ih =>
      have hne : rows ++ [row] ≠ [] := List.append_ne_nil_of_right_ne_nil rows (by simp)
      obtain ⟨next, more, hsplit⟩ := List.exists_cons_of_ne_nil hne
      rw [List.cons_append, hsplit, List.intercalate_cons_cons, ← hsplit, ih]
      simp [withCommas]

/-! ## Open arrays and objects -/

/-- The parts denote the finished items of an array, of which the latest comes first. -/
structure IsItems (done : List Json) (parts : List (List Token × Value)) : Prop where
  denotes : ∀ part ∈ parts, Denotes part.1 part.2
  values : parts.map Prod.snd = done.reverse.map Value.ofJson

/-- The parts denote the finished members of an object, of which the latest comes first. -/
structure IsMembers (done : List (String × Json)) (parts : List (String × List Token × Value)) :
    Prop where
  denotes : ∀ part ∈ parts, Denotes part.2.1 part.2.2
  members : parts.map (fun part => (part.1, part.2.2)) =
    done.reverse.map fun member => (member.1, Value.ofJson member.2)

variable {done : List Json} {named : List (String × Json)} {json : Json} {row : List Token}
  {parts : List (List Token × Value)} {namedParts : List (String × List Token × Value)}

theorem isItems_nil : IsItems [] [] := ⟨List.forall_mem_nil _, rfl⟩

theorem isMembers_nil : IsMembers [] [] := ⟨List.forall_mem_nil _, rfl⟩

theorem IsItems.concat (h : IsItems done parts) (hrow : Denotes row (Value.ofJson json)) :
    IsItems (json :: done) (parts ++ [(row, Value.ofJson json)]) where
  denotes := List.forall_mem_append.2 ⟨h.denotes, List.forall_mem_singleton.2 hrow⟩
  values := by simp [h.values]

theorem IsMembers.concat (h : IsMembers named namedParts) (hrow : Denotes row (Value.ofJson json))
    (name : String) :
    IsMembers ((name, json) :: named) (namedParts ++ [(name, row, Value.ofJson json)]) where
  denotes := List.forall_mem_append.2 ⟨h.denotes, List.forall_mem_singleton.2 hrow⟩
  members := by simp [h.members]

theorem IsItems.list (h : IsItems done parts) :
    Denotes (.beginArray :: [.comma].intercalate (parts.map Prod.fst) ++ [.endArray])
      (Value.ofJson (.array done.reverse)) := by
  rw [Value.ofJson, Value.itemsOfJson_eq_map, ← h.values]
  exact .list h.denotes

theorem IsMembers.dict (h : IsMembers named namedParts) :
    Denotes (.beginObject :: [.comma].intercalate (namedParts.map memberRow) ++ [.endObject])
      (Value.ofJson (.object named.reverse)) := by
  rw [Value.ofJson, Value.membersOfJson_eq_map, ← h.members]
  exact .dict h.denotes

/-- The tokens that an open array or object has taken. -/
inductive Frame.HasRead : Frame → List Token → Prop where
  | items {done : List Json} {parts : List (List Token × Value)} : IsItems done parts →
      HasRead (.items done) (.beginArray :: withCommas (parts.map Prod.fst))
  | members {done : List (String × Json)} {parts : List (String × List Token × Value)}
      (name : String) : IsMembers done parts → HasRead (.members done name)
        (.beginObject :: withCommas (parts.map memberRow) ++ [.string name, .colon])

/-- The tokens that all open arrays and objects have taken, the outermost first. -/
inductive HaveRead : List Frame → List Token → Prop where
  | nil : HaveRead [] []
  | cons {frame : Frame} {frames : List Frame} {outer row : List Token} : HaveRead frames outer →
      frame.HasRead row → HaveRead (frame :: frames) (outer ++ row)

/-- The tokens that the reader has taken when it is in the state. -/
inductive ReaderState.HasRead : ReaderState → List Token → Prop where
  | value {frames : List Frame} {outer : List Token} : HaveRead frames outer →
      HasRead (.value frames) outer
  | firstItem {frames : List Frame} {outer : List Token} : HaveRead frames outer →
      HasRead (.firstItem frames) (outer ++ [.beginArray])
  | firstName {frames : List Frame} {outer : List Token} : HaveRead frames outer →
      HasRead (.firstName frames) (outer ++ [.beginObject])
  | name {frames : List Frame} {outer : List Token} {done : List (String × Json)}
      {parts : List (String × List Token × Value)} : HaveRead frames outer → IsMembers done parts →
      HasRead (.name done frames) (outer ++ .beginObject :: withCommas (parts.map memberRow))
  | colon {frames : List Frame} {outer : List Token} {done : List (String × Json)}
      {parts : List (String × List Token × Value)} (text : String) : HaveRead frames outer →
      IsMembers done parts → HasRead (.colon done text frames)
        (outer ++ (.beginObject :: withCommas (parts.map memberRow) ++ [.string text]))
  | finished {frames : List Frame} {outer row : List Token} {json : Json} : HaveRead frames outer →
      Denotes row (Value.ofJson json) → HasRead (.finished json frames) (outer ++ row)

namespace ReaderState

variable {state next : ReaderState} {frames : List Frame} {t : Token} {outer : List Token}

theorem HasRead.opens (hframes : HaveRead frames outer) (h : Opens frames t next) :
    next.HasRead (outer ++ [t]) := by
  cases h with
  | null => exact .finished hframes .null
  | bool b => exact .finished hframes (.bool b)
  | number n => exact .finished hframes (denotes_number n)
  | string text => exact .finished hframes (.text text)
  | array => exact .firstItem hframes
  | object => exact .firstName hframes

/-- The tokens up to a finished item: those around its array, the parts before it, and its own. -/
theorem HasRead.finished_items
    (h : (ReaderState.finished json (.items done :: frames)).HasRead row) :
    ∃ outer last, ∃ parts : List (List Token × Value), HaveRead frames outer ∧
      IsItems done parts ∧ Denotes last (Value.ofJson json) ∧
      row = outer ++ (.beginArray :: withCommas (parts.map Prod.fst)) ++ last := by
  cases h with
  | finished hframes hjson =>
      cases hframes with
      | cons houter hframe =>
          cases hframe with
          | items hparts => exact ⟨_, _, _, houter, hparts, hjson, rfl⟩

/-- The tokens up to a finished member: those around its object, the members before it, its name and
its own. -/
theorem HasRead.finished_members {name : String}
    (h : (ReaderState.finished json (.members named name :: frames)).HasRead row) :
    ∃ outer last, ∃ parts : List (String × List Token × Value), HaveRead frames outer ∧
      IsMembers named parts ∧ Denotes last (Value.ofJson json) ∧
      row = outer ++ (.beginObject :: withCommas (parts.map memberRow) ++
        [.string name, .colon]) ++ last := by
  cases h with
  | finished hframes hjson =>
      cases hframes with
      | cons houter hframe =>
          cases hframe with
          | members _ hparts => exact ⟨_, _, _, houter, hparts, hjson, rfl⟩

theorem HasRead.moves (hstate : state.HasRead row) (h : Moves state t next) :
    next.HasRead (row ++ [t]) := by
  cases h with
  | value hopens =>
      cases hstate with
      | value hframes => exact HasRead.opens hframes hopens
  | firstItem hopens =>
      cases hstate with
      | firstItem hframes =>
          exact HasRead.opens (.cons hframes (.items isItems_nil)) hopens
  | noItems frames =>
      cases hstate with
      | firstItem hframes =>
          rw [List.append_assoc]
          exact .finished hframes isItems_nil.list
  | nextItem item done frames =>
      -- The finished item becomes the last part of the array, which stays open.
      obtain ⟨outer, last, parts, houter, hparts, hitem, rfl⟩ := hstate.finished_items
      have hall := HasRead.value (.cons houter (.items (hparts.concat hitem)))
      rw [List.map_append, List.map_singleton, withCommas_concat] at hall
      simpa [List.append_assoc] using hall
  | endArray item done frames =>
      -- With the finished item the parts are complete and denote a list.
      obtain ⟨outer, last, parts, houter, hparts, hitem, rfl⟩ := hstate.finished_items
      have hall := HasRead.finished houter (hparts.concat hitem).list
      rw [List.map_append, List.map_singleton, intercalate_concat] at hall
      simpa [List.append_assoc] using hall
  | firstName text frames =>
      cases hstate with
      | firstName hframes =>
          rw [List.append_assoc]
          exact .colon text hframes isMembers_nil
  | noMembers frames =>
      cases hstate with
      | firstName hframes =>
          rw [List.append_assoc]
          exact .finished hframes isMembers_nil.dict
  | name done text frames =>
      cases hstate with
      | name hframes hparts =>
          rw [List.append_assoc]
          exact .colon text hframes hparts
  | colon done text frames =>
      cases hstate with
      | colon _ hframes hparts =>
          simpa [List.append_assoc] using HasRead.value (.cons hframes (.members text hparts))
  | nextMember value done text frames =>
      obtain ⟨outer, last, parts, houter, hparts, hvalue, rfl⟩ := hstate.finished_members
      have hall := HasRead.name houter (hparts.concat hvalue text)
      rw [List.map_append, List.map_singleton, withCommas_concat] at hall
      simpa [memberRow, List.append_assoc] using hall
  | endObject value done text frames =>
      obtain ⟨outer, last, parts, houter, hparts, hvalue, rfl⟩ := hstate.finished_members
      have hall := HasRead.finished houter (hparts.concat hvalue text).dict
      rw [List.map_append, List.map_singleton, intercalate_concat] at hall
      simpa [memberRow, List.append_assoc] using hall

theorem HasRead.run {tokens : List Token} (hstate : state.HasRead row)
    (h : state.run tokens = some next) : next.HasRead (row ++ tokens) := by
  induction tokens generalizing state row with
  | nil =>
      obtain rfl := Option.some.inj h
      rwa [List.append_nil]
  | cons t rest ih =>
      obtain ⟨middle, hstep, hrun⟩ := Option.bind_eq_some_iff.1 h
      have hmiddle := hstate.moves (moves_of_step hstep)
      simpa [List.append_assoc] using ih hmiddle hrun

end ReaderState

/-- A row that is read as a tree denotes the value that the tree describes. -/
theorem denotes_of_ofTokens? {tokens : List Token} (h : ofTokens? tokens = some json) :
    Denotes tokens (Value.ofJson json) := by
  have hstart : (ReaderState.value []).HasRead [] := .value .nil
  unfold ofTokens? at h
  split at h
  · rename_i value hrun
    obtain rfl := Option.some.inj h
    cases hstart.run hrun with
    | finished hframes hvalue =>
        cases hframes with
        | nil => exact hvalue
  · cases h

/-! ## Rows that denote a value are read -/

variable {v : Value}

theorem exists_spellsItems (hne : parts ≠ [])
    (h : ∀ part ∈ parts, ∃ json, Spells part.1 json ∧ Value.ofJson json = part.2) :
    ∃ items, SpellsItems ([.comma].intercalate (parts.map Prod.fst)) items ∧
      items.map Value.ofJson = parts.map Prod.snd := by
  induction parts with
  | nil => exact absurd rfl hne
  | cons part parts ih =>
      obtain ⟨hpart, hparts⟩ := List.forall_mem_cons.1 h
      obtain ⟨json, hspells, hjson⟩ := hpart
      cases parts with
      | nil =>
          refine ⟨[json], ?_, by simp [hjson]⟩
          rw [List.map_singleton, List.intercalate_singleton]
          exact hspells.single
      | cons next parts =>
          obtain ⟨items, hitems, hvalues⟩ := ih (List.cons_ne_nil next parts) hparts
          refine ⟨json :: items, ?_, by simp [hvalues, hjson]⟩
          rw [List.map_cons, List.map_cons, List.intercalate_cons_cons, ← List.map_cons,
            List.append_assoc]
          exact hspells.cons hitems

theorem exists_spellsMembers (hne : namedParts ≠ [])
    (h : ∀ part ∈ namedParts, ∃ json, Spells part.2.1 json ∧ Value.ofJson json = part.2.2) :
    ∃ members, SpellsMembers ([.comma].intercalate (namedParts.map memberRow)) members ∧
      members.map (fun member => (member.1, Value.ofJson member.2)) =
        namedParts.map fun part => (part.1, part.2.2) := by
  induction namedParts with
  | nil => exact absurd rfl hne
  | cons part parts ih =>
      obtain ⟨hpart, hparts⟩ := List.forall_mem_cons.1 h
      obtain ⟨json, hspells, hjson⟩ := hpart
      cases parts with
      | nil =>
          refine ⟨[(part.1, json)], ?_, by simp [hjson]⟩
          rw [List.map_singleton, List.intercalate_singleton]
          exact hspells.member part.1
      | cons next parts =>
          obtain ⟨members, hmembers, hvalues⟩ := ih (List.cons_ne_nil next parts) hparts
          refine ⟨(part.1, json) :: members, ?_, by simp [hvalues, hjson]⟩
          rw [List.map_cons, List.map_cons, List.intercalate_cons_cons, ← List.map_cons,
            List.append_assoc]
          exact hspells.cons_member part.1 hmembers

/-- A row that denotes a value spells a tree that describes it. -/
theorem Denotes.exists_spells (h : Denotes row v) :
    ∃ json, Spells row json ∧ Value.ofJson json = v := by
  induction h with
  | null => exact ⟨.null, spells_token fun _ => rfl, rfl⟩
  | bool b => exact ⟨.bool b, spells_token fun _ => rfl, rfl⟩
  | @integer n hn =>
      exact ⟨n.toJson, spells_token fun _ => rfl, Numeral.ofJson_toJson_of_isInteger hn⟩
  | @float n hn =>
      exact ⟨n.toJson, spells_token fun _ => rfl, Numeral.ofJson_toJson_of_not_isInteger hn⟩
  | text s => exact ⟨.string s, spells_token fun _ => rfl, rfl⟩
  | @list parts _ ih =>
      by_cases hne : parts = []
      · subst hne
        exact ⟨.array [], spells_emptyArray, rfl⟩
      · obtain ⟨items, hitems, hvalues⟩ := exists_spellsItems hne ih
        refine ⟨.array items, hitems.array, ?_⟩
        rw [Value.ofJson, Value.itemsOfJson_eq_map, hvalues]
  | @dict parts _ ih =>
      by_cases hne : parts = []
      · subst hne
        exact ⟨.object [], spells_emptyObject, rfl⟩
      · obtain ⟨members, hmembers, hvalues⟩ := exists_spellsMembers hne ih
        refine ⟨.object members, hmembers.object, ?_⟩
        rw [Value.ofJson, Value.membersOfJson_eq_map, hvalues]

/-- A row denotes the value of the tree as which it is read, and no row denotes another value. -/
theorem denotes_iff {tokens : List Token} :
    Denotes tokens v ↔ ∃ json, ofTokens? tokens = some json ∧ Value.ofJson json = v := by
  constructor
  · intro h
    obtain ⟨json, hspells, hjson⟩ := h.exists_spells
    exact ⟨json, hspells.ofTokens?, hjson⟩
  · rintro ⟨json, hread, rfl⟩
    exact denotes_of_ofTokens? hread

end Json

/-- The value of a text is what its tokens denote, if they spell a tree within the limits. -/
theorem Value.ofJsonText?_eq_some_iff {source : String} {v : Value} :
    ofJsonText? source = some v ↔ ∃ row json, Json.tokens? source.toList = some row ∧
      Json.ofTokens? row = some json ∧ json.fits Json.maxNesting = true ∧ Json.Denotes row v := by
  simp only [ofJsonText?, Json.ofText?, decode?_eq]
  constructor
  · intro h
    split at h
    · rename_i json hread
      obtain ⟨row, hrow, htree⟩ := Option.bind_eq_some_iff.1 hread
      by_cases hfits : json.fits Json.maxNesting = true
      · rw [if_pos hfits] at h
        exact ⟨row, json, hrow, htree, hfits, Json.denotes_iff.2 ⟨json, htree, Option.some.inj h⟩⟩
      · rw [if_neg hfits] at h
        cases h
    · cases h
  · rintro ⟨row, json, hrow, htree, hfits, hdenotes⟩
    obtain ⟨json', htree', rfl⟩ := Json.denotes_iff.1 hdenotes
    obtain rfl := Option.some.inj (htree.symm.trans htree')
    simp only [hrow, Option.bind_some, htree, if_pos hfits]

end EntryFilter
