import EntryFilter.Proofs.Json.Numbers
import EntryFilter.Proofs.Json.Spelling

/-! # Trees read back from their texts

A tree is read back from its text, compact or indented, if its numbers are. An integer is read back
if 64 bits hold it. Any other number is taken to be read back, as a hypothesis on that number: the
shortest digits determine it, but the reader rounds twice. -/

namespace EntryFilter

open EntryFilter.Decimal

/-- The text of the number is read back as the number. -/
def Binary64.ReadsBack (x : Binary64) : Prop :=
  Json.ofText? (String.ofList x.jsonText) = some (.decimal x)

namespace Json

/-- All numbers of the tree are read back from their texts. -/
def IsReadable : Json → Prop := AllNumbers fun x => x.isFinite = true ∧ x.ReadsBack

/-! ## Texts of trees -/

section Texts

variable {cs tail stop rest : List Char} {json item value : Json} {items more : List Json}
  {members others : List (String × Json)}

/-- The text begins with the tree, and the rest stands behind it. -/
def Reads (cs : List Char) (json : Json) (rest : List Char) : Prop :=
  ∃ row, Begins cs row rest ∧ Spells row json

/-- The text begins with the items of an array, with commas between them. -/
def ReadsItems (cs : List Char) (items : List Json) (rest : List Char) : Prop :=
  ∃ row, Begins cs row rest ∧ SpellsItems row items

/-- The text begins with the members of an object, with commas between them. -/
def ReadsMembers (cs : List Char) (members : List (String × Json)) (rest : List Char) : Prop :=
  ∃ row, Begins cs row rest ∧ SpellsMembers row members

theorem reads_token {t : Token} (h : token? cs = some (t, rest))
    (hread : ∀ frames, ReaderState.onValue frames t = some (.finished json frames)) :
    Reads cs json rest :=
  ⟨[t], begins_token h, spells_token hread⟩

theorem Reads.behind_blanks (hblank : Begins cs [] tail) (h : Reads tail json rest) :
    Reads cs json rest := by
  obtain ⟨row, hrow, hspells⟩ := h
  exact ⟨row, hblank.append hrow, hspells⟩

theorem Reads.single (h : Reads cs item rest) : ReadsItems cs [item] rest := by
  obtain ⟨row, hrow, hspells⟩ := h
  exact ⟨row, hrow, hspells.single⟩

theorem Reads.cons (h : Reads cs item (',' :: tail)) (h' : ReadsItems tail items rest) :
    ReadsItems cs (item :: items) rest := by
  obtain ⟨row, hrow, hspells⟩ := h
  obtain ⟨row', hrow', hspells'⟩ := h'
  have hcomma : Begins (',' :: tail) [.comma] tail := begins_token rfl
  exact ⟨_, hrow.append (hcomma.append hrow'), hspells.cons hspells'⟩

theorem Reads.member (h : Reads cs value rest) (name : String) :
    ReadsMembers (stringText name ++ ':' :: cs) [(name, value)] rest := by
  obtain ⟨row, hrow, hspells⟩ := h
  have hcolon : Begins (':' :: cs) [.colon] cs := begins_token rfl
  exact ⟨_, (begins_stringText name _).append (hcolon.append hrow), hspells.member name⟩

theorem Reads.cons_member (h : Reads cs value (',' :: tail)) (name : String)
    (h' : ReadsMembers tail members rest) :
    ReadsMembers (stringText name ++ ':' :: cs) ((name, value) :: members) rest := by
  obtain ⟨row, hrow, hspells⟩ := h
  obtain ⟨row', hrow', hspells'⟩ := h'
  have hcolon : Begins (':' :: cs) [.colon] cs := begins_token rfl
  have hcomma : Begins (',' :: tail) [.comma] tail := begins_token rfl
  have hfront := (begins_stringText name (':' :: cs)).append (hcolon.append hrow)
  exact ⟨_, hfront.append (hcomma.append hrow'), hspells.cons_member name hspells'⟩

theorem ReadsMembers.behind_blanks (hblank : Begins cs [] tail)
    (h : ReadsMembers tail members rest) : ReadsMembers cs members rest := by
  obtain ⟨row, hrow, hspells⟩ := h
  exact ⟨row, hblank.append hrow, hspells⟩

theorem ReadsItems.array (h : ReadsItems cs items stop) (hstop : Begins stop [.endArray] rest) :
    Reads ('[' :: cs) (.array items) rest := by
  obtain ⟨row, hrow, hspells⟩ := h
  have hopen : Begins ('[' :: cs) [.beginArray] cs := begins_token rfl
  exact ⟨_, (hopen.append hrow).append hstop, hspells.array⟩

theorem ReadsMembers.object (h : ReadsMembers cs members stop)
    (hstop : Begins stop [.endObject] rest) : Reads ('{' :: cs) (.object members) rest := by
  obtain ⟨row, hrow, hspells⟩ := h
  have hopen : Begins ('{' :: cs) [.beginObject] cs := begins_token rfl
  exact ⟨_, (hopen.append hrow).append hstop, hspells.object⟩

theorem reads_emptyArray (rest : List Char) : Reads ('[' :: ']' :: rest) (.array []) rest := by
  have hopen : Begins ('[' :: ']' :: rest) [.beginArray] (']' :: rest) := begins_token rfl
  exact ⟨_, hopen.append (begins_token rfl), spells_emptyArray⟩

theorem reads_emptyObject (rest : List Char) : Reads ('{' :: '}' :: rest) (.object []) rest := by
  have hopen : Begins ('{' :: '}' :: rest) [.beginObject] ('}' :: rest) := begins_token rfl
  exact ⟨_, hopen.append (begins_token rfl), spells_emptyObject⟩

/-- A whole text that begins with a tree is the text of the tree. -/
theorem Reads.ofText? (h : Reads cs json []) : Json.ofText? (String.ofList cs) = some json := by
  obtain ⟨row, hrow, hspells⟩ := h
  have hend : tokens? [] = some [] := by rw [tokens?]
  rw [Begins, hend] at hrow
  simp [Json.ofText?, hrow, hspells.ofTokens?]

end Texts

/-! ## Numbers -/

variable {rest : List Char}

theorem reads_numeral {n : Numeral} (h : n.IsWritten) (hrest : EndsNumber rest) :
    Reads (n.text ++ rest) n.toJson rest :=
  reads_token (token?_numeral h hrest) fun _ => rfl

theorem reads_intText {n : Int} (h : IsWhole n) (hrest : EndsNumber rest) :
    Reads (intText n ++ rest) (.integer n) rest := by
  have hread := reads_numeral (isWritten_integerNumeral n) hrest
  rwa [text_integerNumeral, toJson_integerNumeral h] at hread

theorem reads_jsonText {x : Binary64} (hx : x.isFinite = true) (h : x.ReadsBack)
    (hrest : EndsNumber rest) : Reads (x.jsonText ++ rest) (.decimal x) rest := by
  obtain ⟨n, hn, -, htext⟩ := exists_numeral_jsonText hx
  have halone := (reads_numeral hn endsNumber_nil).ofText?
  rw [List.append_nil, htext] at halone
  have htree : n.toJson = .decimal x := Option.some.inj (halone.symm.trans h)
  have hread := reads_numeral hn hrest
  rwa [htext, htree] at hread

/-- A finite number is read back if the numeral that it is written as has its value. -/
theorem readsBack_iff {x : Binary64} {n : Numeral} (hn : n.IsWritten) (hfractional : n.IsFractional)
    (htext : n.text = x.jsonText) : x.ReadsBack ↔ n.toBinary64 = x := by
  have halone := (reads_numeral hn endsNumber_nil).ofText?
  rw [List.append_nil, htext, hfractional.toJson] at halone
  rw [Binary64.ReadsBack, halone]
  simp

theorem readsBack_eighteen : (Binary64.ofInt 18).ReadsBack := by
  have hdigits : IsDigits ['1', '8'] ∧ IsDigits ['0'] := by
    simp [IsDigits, Text.isAsciiDigit]
  have hwritten := Numeral.isWritten_point false hdigits.1 (by decide) hdigits.2
  exact (readsBack_iff hwritten (.inl rfl) (by decide +kernel)).2 (by decide +kernel)

/-! ## Compact and indented texts -/

theorem reads_boolText (b : Bool) (rest : List Char) :
    Reads (boolText b ++ rest) (.bool b) rest := by
  cases b <;> exact reads_token rfl fun _ => rfl

theorem reads_stringText (text : String) (rest : List Char) :
    Reads (stringText text ++ rest) (.string text) rest :=
  reads_token (token?_stringText text rest) fun _ => rfl

theorem endsNumber_comma (rest : List Char) : EndsNumber (',' :: rest) :=
  endsNumber_cons rest (by decide)

theorem endsNumber_endArray (rest : List Char) : EndsNumber (']' :: rest) :=
  endsNumber_cons rest (by decide)

theorem endsNumber_endObject (rest : List Char) : EndsNumber ('}' :: rest) :=
  endsNumber_cons rest (by decide)

theorem endsNumber_newLine (level : Nat) (rest : List Char) : EndsNumber (newLine level ++ rest) :=
  endsNumber_cons _ (by decide)

theorem readsItems_compact {items : List Json} (hne : items ≠ []) (hrest : EndsNumber rest)
    (h : ∀ item ∈ items, ∀ rest, EndsNumber rest → Reads (item.compactOnto rest) item rest) :
    ReadsItems (compactItems items rest) items rest := by
  induction items with
  | nil => exact absurd rfl hne
  | cons item more ih =>
      have hitem := h item List.mem_cons_self
      cases more with
      | nil => exact (hitem rest hrest).single
      | cons next more =>
          have hmore := ih (by simp) fun j hj => h j (List.mem_cons_of_mem item hj)
          exact (hitem _ (endsNumber_comma _)).cons hmore

theorem readsMembers_compact {members : List (String × Json)} (hne : members ≠ [])
    (hrest : EndsNumber rest) (h : ∀ member ∈ members, ∀ rest, EndsNumber rest →
      Reads (member.2.compactOnto rest) member.2 rest) :
    ReadsMembers (compactMembers members rest) members rest := by
  induction members with
  | nil => exact absurd rfl hne
  | cons member more ih =>
      obtain ⟨name, value⟩ := member
      have hvalue := h (name, value) List.mem_cons_self
      cases more with
      | nil => exact (hvalue rest hrest).member name
      | cons next more =>
          have hmore := ih (by simp) fun j hj => h j (List.mem_cons_of_mem _ hj)
          exact (hvalue _ (endsNumber_comma _)).cons_member name hmore

/-- The compact text of a tree is read as the tree in front of any text that ends a number. -/
theorem reads_compactOnto {json : Json} (h : json.IsReadable) (hrest : EndsNumber rest) :
    Reads (json.compactOnto rest) json rest := by
  induction h generalizing rest with
  | null => exact reads_token rfl fun _ => rfl
  | bool b => exact reads_boolText b rest
  | integer hn => exact reads_intText hn hrest
  | decimal hx => exact reads_jsonText hx.1 hx.2 hrest
  | string text => exact reads_stringText text rest
  | @array items _ ih =>
      by_cases hne : items = []
      · subst hne
        exact reads_emptyArray rest
      · have hitems := readsItems_compact hne (endsNumber_endArray rest)
          fun item hitem _ => ih item hitem
        exact hitems.array (begins_token rfl)
  | @object members _ ih =>
      by_cases hne : members = []
      · subst hne
        exact reads_emptyObject rest
      · have hmembers := readsMembers_compact hne (endsNumber_endObject rest)
          fun member hmember _ => ih member hmember
        exact hmembers.object (begins_token rfl)

theorem readsItems_indented {items : List Json} (level : Nat) (hne : items ≠ [])
    (hrest : EndsNumber rest) (h : ∀ item ∈ items, ∀ rest, EndsNumber rest →
      Reads (item.indentedOnto level rest) item rest) :
    ReadsItems (indentedItems level items rest) items rest := by
  induction items with
  | nil => exact absurd rfl hne
  | cons item more ih =>
      have hitem := h item List.mem_cons_self
      cases more with
      | nil => exact ((hitem rest hrest).behind_blanks (begins_newLine level _)).single
      | cons next more =>
          have hmore := ih (by simp) fun j hj => h j (List.mem_cons_of_mem item hj)
          have hfirst := hitem (',' :: indentedItems level (next :: more) rest) (endsNumber_comma _)
          exact (hfirst.behind_blanks (begins_newLine level _)).cons hmore

theorem readsMembers_indented {members : List (String × Json)} (level : Nat) (hne : members ≠ [])
    (hrest : EndsNumber rest) (h : ∀ member ∈ members, ∀ rest, EndsNumber rest →
      Reads (member.2.indentedOnto level rest) member.2 rest) :
    ReadsMembers (indentedMembers level members rest) members rest := by
  have hspace (cs : List Char) : Begins (' ' :: cs) [] cs := (begins_nil cs).cons_space rfl
  induction members with
  | nil => exact absurd rfl hne
  | cons member more ih =>
      obtain ⟨name, value⟩ := member
      have hvalue := h (name, value) List.mem_cons_self
      cases more with
      | nil =>
          have hmember := ((hvalue rest hrest).behind_blanks (hspace _)).member name
          simpa [indentedMembers] using hmember.behind_blanks (begins_newLine level _)
      | cons next more =>
          have hmore := ih (by simp) fun j hj => h j (List.mem_cons_of_mem _ hj)
          have hfirst := hvalue (',' :: indentedMembers level (next :: more) rest)
            (endsNumber_comma _)
          have hmember := (hfirst.behind_blanks (hspace _)).cons_member name hmore
          simpa [indentedMembers] using hmember.behind_blanks (begins_newLine level _)

/-- The indented text of a tree is read as the tree in front of any text that ends a number. -/
theorem reads_indentedOnto {json : Json} (h : json.IsReadable) (level : Nat)
    (hrest : EndsNumber rest) : Reads (json.indentedOnto level rest) json rest := by
  induction h generalizing level rest with
  | null => exact reads_token rfl fun _ => rfl
  | bool b => exact reads_boolText b rest
  | integer hn => exact reads_intText hn hrest
  | decimal hx => exact reads_jsonText hx.1 hx.2 hrest
  | string text => exact reads_stringText text rest
  | @array items _ ih =>
      cases items with
      | nil => exact reads_emptyArray rest
      | cons item more =>
          have hitems := readsItems_indented (level + 1) (List.cons_ne_nil item more)
            (endsNumber_newLine level (']' :: rest)) fun j hj _ => ih j hj (level + 1)
          exact hitems.array ((begins_newLine level _).append (begins_token rfl))
  | @object members _ ih =>
      cases members with
      | nil => exact reads_emptyObject rest
      | cons member more =>
          have hmembers := readsMembers_indented (level + 1) (List.cons_ne_nil member more)
            (endsNumber_newLine level ('}' :: rest)) fun j hj _ => ih j hj (level + 1)
          exact hmembers.object ((begins_newLine level _).append (begins_token rfl))

theorem ofText?_compact {json : Json} (h : json.IsReadable) : ofText? json.compact = some json :=
  (reads_compactOnto h endsNumber_nil).ofText?

theorem ofText?_indented {json : Json} (h : json.IsReadable) : ofText? json.indented = some json :=
  (reads_indentedOnto h 0 endsNumber_nil).ofText?

end Json

end EntryFilter
