import EntryFilter.Proofs.Dictionary.Lookup
import EntryFilter.Proofs.Text.Cutting
import EntryFilter.Proofs.Text.LowerCase
import EntryFilter.Proofs.Text.Trimming
import EntryFilter.Schema.FieldSpec

/-! # Declarations of fields

A declaration is a name and a type with a colon between them. The reader of lists takes the blanks
off a declaration before it looks for the colon, the reader of single declarations does not; both
accept the same declarations, since a colon is no blank. So a written list of declarations is read
back, whatever blanks and blank entries stand in it. -/

namespace EntryFilter

open EntryFilter.Text

variable {field : String} {declared : FieldType} {text entry : List Char}

/-! ## Codes -/

/-- The letters from `A` to `Z`. -/
def capitals : List Char := "ABCDEFGHIJKLMNOPQRSTUVWXYZ".toList

/-- A letter is no separator and no blank, and it has one capital. -/
theorem letter_of_toLower {c d : Char} (hd : d ∈ capitals) (h : c.toLower = d.toLower) :
    c.toUpper = d ∧ isBlank c = false ∧ c ≠ ':' ∧ c ≠ ',' := by
  by_cases hascii : c.toNat < 128
  · have hcodes : ∀ n < 128, capitals.all (fun d => decide ((Char.ofNat n).toLower = d.toLower →
        (Char.ofNat n).toUpper = d ∧ isBlank (Char.ofNat n) = false ∧ Char.ofNat n ≠ ':' ∧
          Char.ofNat n ≠ ',')) = true := by
      decide +kernel
    have hletters := of_ascii (fun c => capitals.all (fun d => decide (c.toLower = d.toLower →
      c.toUpper = d ∧ isBlank c = false ∧ c ≠ ':' ∧ c ≠ ',')) = true) hcodes hascii
    exact forall_mem_of_all hletters d hd h
  · have hletters : capitals.all (fun d => decide (d.toLower.toNat < 128)) = true := by
      decide +kernel
    rw [toLower_of_not_ascii (Nat.le_of_not_lt hascii)] at h
    rw [h] at hascii
    exact absurd (forall_mem_of_all hletters d hd) hascii

namespace FieldType

/-- The text is the code of the type, in any case of its letters. -/
def SpeltBy (declared : FieldType) (text : List Char) : Prop :=
  text.map Char.toLower = declared.code.toList.map Char.toLower

instance (declared : FieldType) (text : List Char) : Decidable (declared.SpeltBy text) :=
  inferInstanceAs (Decidable (_ = _))

theorem ofCode?_code (declared : FieldType) : ofCode? declared.code = some declared := by
  cases declared <;> rfl

theorem code_capitals (declared : FieldType) : ∀ d ∈ declared.code.toList, d ∈ capitals := by
  cases declared <;> exact forall_mem_of_all (by decide +kernel)

theorem letters_of_map_toLower {word : List Char} (hword : ∀ d ∈ word, d ∈ capitals)
    (h : text.map Char.toLower = word.map Char.toLower) :
    upperAscii text = word ∧ ∀ c ∈ text, isBlank c = false ∧ c ≠ ':' ∧ c ≠ ',' := by
  induction text generalizing word with
  | nil =>
      cases word with
      | nil => exact ⟨rfl, List.forall_mem_nil _⟩
      | cons d word => cases h
  | cons c text ih =>
      cases word with
      | nil => cases h
      | cons d word =>
          obtain ⟨hd, hrest⟩ := List.forall_mem_cons.1 hword
          obtain ⟨hc, htext⟩ := List.cons.inj h
          obtain ⟨hupper, hparts⟩ := ih hrest htext
          obtain ⟨hcapital, hpart⟩ := letter_of_toLower hd hc
          refine ⟨?_, List.forall_mem_cons.2 ⟨hpart, hparts⟩⟩
          rw [← hupper, ← hcapital]
          rfl

theorem SpeltBy.letters (h : declared.SpeltBy text) :
    ∀ c ∈ text, isBlank c = false ∧ c ≠ ':' ∧ c ≠ ',' :=
  (letters_of_map_toLower declared.code_capitals h).2

/-- A code is read in any case of its letters and with blanks around it. -/
theorem SpeltBy.read? (h : declared.SpeltBy text) {padded : List Char}
    (hpadded : trim padded = trim text) : FieldType.read? padded = some declared := by
  have htrim : trim text = text := trim_of_not_blank fun c hc => (h.letters c hc).1
  have hupper := (letters_of_map_toLower declared.code_capitals h).1
  rw [FieldType.read?, hpadded, htrim, hupper, String.ofList_toList, ofCode?_code]

end FieldType

/-! ## Single declarations -/

/-- The text declares the type of the field: the last colon in it stands between the name and the
code, and blanks around the two do not count. -/
def Declares (text : List Char) (field : String) (declared : FieldType) : Prop :=
  ∃ name code, text = name ++ ':' :: code ∧ ':' ∉ code ∧ field ≠ "" ∧ trim name = field.toList ∧
    FieldType.read? code = some declared

theorem name_eq_iff {name : List Char} :
    trim name ≠ [] ∧ String.ofList (trim name) = field ↔
      field ≠ "" ∧ trim name = field.toList := by
  constructor
  · rintro ⟨hne, rfl⟩
    refine ⟨fun hempty => hne ?_, String.toList_ofList.symm⟩
    rw [← String.toList_ofList (l := trim name), hempty]
    rfl
  · rintro ⟨hne, hname⟩
    rw [hname, String.ofList_toList]
    refine ⟨fun hnil => hne (String.toList_inj.1 ?_), rfl⟩
    exact hnil

theorem FieldSpec.read_eq_ok_iff {spec : String} :
    FieldSpec.read spec = .ok ⟨field, declared⟩ ↔ Declares spec.toList field declared := by
  constructor
  · intro h
    unfold read at h
    split at h
    · cases h
    · rename_i name code hcut
      obtain ⟨hspec, hcode⟩ := cutLast?_eq_some_iff.1 hcut
      dsimp only at h
      split at h
      · cases h
      · rename_i hname
        split at h
        · rename_i t hread
          obtain ⟨hfield, rfl⟩ := FieldSpec.mk.inj (Except.ok.inj h)
          obtain ⟨hne, htrim⟩ := name_eq_iff.1 ⟨mt List.isEmpty_iff.2 hname, hfield⟩
          exact ⟨name, code, hspec, hcode, hne, htrim, hread⟩
        · cases h
  · rintro ⟨name, code, hspec, hcode, hne, htrim, hread⟩
    obtain ⟨hname, hfield⟩ := name_eq_iff.2 ⟨hne, htrim⟩
    rw [read, hspec, cutLast?_append hcode]
    simp only [if_neg (mt List.isEmpty_iff.1 hname), hread, hfield]

namespace Schema

theorem pairOfText_eq_ok_iff :
    pairOfText entry = .ok (field, declared) ↔ Declares entry field declared := by
  constructor
  · intro h
    unfold pairOfText at h
    split at h
    · cases h
    · rename_i name code hcut
      obtain ⟨hentry, hcode⟩ := cutLast?_eq_some_iff.1 hcut
      dsimp only at h
      split at h
      · cases h
      · rename_i hname
        rw [FieldType.ofText] at h
        split at h
        · rename_i t hread
          obtain ⟨hfield, rfl⟩ := Prod.mk.inj (Except.ok.inj h)
          obtain ⟨hne, htrim⟩ := name_eq_iff.1 ⟨mt List.isEmpty_iff.2 hname, hfield⟩
          exact ⟨name, code, hentry, hcode, hne, htrim, hread⟩
        · cases h
  · rintro ⟨name, code, hentry, hcode, hne, htrim, hread⟩
    obtain ⟨hname, hfield⟩ := name_eq_iff.2 ⟨hne, htrim⟩
    rw [pairOfText, hentry, cutLast?_append hcode]
    simp only [if_neg (mt List.isEmpty_iff.1 hname), FieldType.ofText, hread, Except.map, hfield]

/-! ## Blanks around declarations -/

theorem read?_congr {code code' : List Char} (h : trim code = trim code') :
    FieldType.read? code = FieldType.read? code' := by
  rw [FieldType.read?, FieldType.read?, h]

/-- Blanks around a declaration do not matter: they are blanks around its name or its code. -/
theorem declares_trim_iff : Declares (trim text) field declared ↔ Declares text field declared := by
  have hcolon : isBlank ':' = false := rfl
  constructor
  · rintro ⟨name, code, htext, hcode, hne, htrim, hread⟩
    obtain ⟨front, back, hpadded, hfront, hback⟩ := exists_blanks_trim text
    refine ⟨front ++ name, code ++ back, ?_, ?_, hne, ?_, ?_⟩
    · rw [hpadded, htext]
      simp only [List.append_assoc, List.cons_append]
    · rw [List.mem_append, not_or]
      refine ⟨hcode, fun hmem => ?_⟩
      rw [hback ':' hmem] at hcolon
      cases hcolon
    · rw [trim_blanks_append hfront, htrim]
    · rw [read?_congr (trim_append_blanks hback code), hread]
  · rintro ⟨name, code, rfl, hcode, hne, htrim, hread⟩
    refine ⟨trimStart name, trimEnd code, trim_append_cons hcolon name code, ?_, hne, ?_, ?_⟩
    · exact mt mem_of_mem_trimEnd hcode
    · rw [trim_trimStart, htrim]
    · rw [read?_congr (trim_trimEnd code), hread]

end Schema

/-! ## Written declarations -/

/-- A name that a list can declare: it has no comma, and no blank at its ends. -/
structure IsFieldName (name : String) : Prop where
  nonempty : name ≠ ""
  noComma : ',' ∉ name.toList
  front : ∀ c ∈ name.toList.head?, isBlank c = false
  back : ∀ c ∈ name.toList.getLast?, isBlank c = false

/-- The text with blanks, if any, on both sides. -/
def IsPadded (text padded : List Char) : Prop :=
  ∃ front back, padded = front ++ (text ++ back) ∧ (∀ b ∈ front, isBlank b = true) ∧
    ∀ b ∈ back, isBlank b = true

/-- The entry is the name, a colon and the code in some case of its letters, with blanks around the
name and around the code. -/
def Writes (field : String) (declared : FieldType) (entry : List Char) : Prop :=
  ∃ name code letters, entry = name ++ ':' :: code ∧ IsPadded field.toList name ∧
    declared.SpeltBy letters ∧ IsPadded letters code

/-- The entries are written declarations, in the order of the pairs, and blanks. -/
inductive WritesAll : List (String × FieldType) → List (List Char) → Prop where
  | nil : WritesAll [] []
  | blank {pairs : List (String × FieldType)} {entry : List Char} {entries : List (List Char)} :
      (∀ c ∈ entry, isBlank c = true) → WritesAll pairs entries → WritesAll pairs (entry :: entries)
  | pair {pairs : List (String × FieldType)} {entry : List Char} {entries : List (List Char)}
      {field : String} {declared : FieldType} : Writes field declared entry →
      WritesAll pairs entries → WritesAll ((field, declared) :: pairs) (entry :: entries)

theorem IsPadded.trim_eq {padded : List Char} (h : IsPadded text padded) :
    trim padded = trim text := by
  obtain ⟨front, back, rfl, hfront, hback⟩ := h
  exact trim_between_blanks hfront hback text

theorem IsPadded.not_mem {padded : List Char} (h : IsPadded text padded) {c : Char}
    (hblank : isBlank c = false) (hc : c ∉ text) : c ∉ padded := by
  obtain ⟨front, back, rfl, hfront, hback⟩ := h
  have hnot : ∀ blanks : List Char, (∀ b ∈ blanks, isBlank b = true) → c ∉ blanks := by
    intro blanks hblanks hmem
    rw [hblanks c hmem] at hblank
    cases hblank
  simp only [List.mem_append, not_or]
  exact ⟨hnot front hfront, hc, hnot back hback⟩

theorem Writes.declares (h : Writes field declared entry) (hfield : IsFieldName field) :
    Declares entry field declared := by
  obtain ⟨name, code, letters, rfl, hname, hletters, hcode⟩ := h
  have hcolon : ':' ∉ letters := fun hmem => (hletters.letters ':' hmem).2.1 rfl
  refine ⟨name, code, rfl, hcode.not_mem rfl hcolon, hfield.nonempty, ?_, ?_⟩
  · rw [hname.trim_eq, trim_of_ends hfield.front hfield.back]
  · exact hletters.read? hcode.trim_eq

theorem Writes.not_mem_comma (h : Writes field declared entry) (hfield : IsFieldName field) :
    ',' ∉ entry := by
  obtain ⟨name, code, letters, rfl, hname, hletters, hcode⟩ := h
  have hcomma : ',' ∉ letters := fun hmem => (hletters.letters ',' hmem).2.2 rfl
  simp only [List.mem_append, List.mem_cons, not_or]
  exact ⟨hname.not_mem rfl hfield.noComma, by decide, hcode.not_mem rfl hcomma⟩

namespace WritesAll

variable {pairs : List (String × FieldType)} {entries : List (List Char)}

theorem not_mem_comma (h : WritesAll pairs entries) (hnames : ∀ pair ∈ pairs, IsFieldName pair.1) :
    ∀ entry ∈ entries, ',' ∉ entry := by
  induction h with
  | nil => exact List.forall_mem_nil _
  | blank hblank _ ih =>
      refine List.forall_mem_cons.2 ⟨fun hmem => ?_, ih hnames⟩
      exact absurd (hblank ',' hmem) (by decide)
  | pair hwrites _ ih =>
      obtain ⟨hname, hrest⟩ := List.forall_mem_cons.1 hnames
      exact List.forall_mem_cons.2 ⟨hwrites.not_mem_comma hname, ih hrest⟩

/-- Blank entries are passed over, and each other entry gives its pair. -/
theorem mapM_pairOfText (h : WritesAll pairs entries)
    (hnames : ∀ pair ∈ pairs, IsFieldName pair.1) :
    ((entries.map trim).filter (!·.isEmpty)).mapM Schema.pairOfText = .ok pairs := by
  induction h with
  | nil => rfl
  | blank hblank _ ih =>
      have hempty : trim _ = [] := trim_eq_nil_iff.2 hblank
      rw [List.map_cons, hempty]
      exact ih hnames
  | @pair pairs entry entries field declared hwrites _ ih =>
      obtain ⟨hname, hrest⟩ := List.forall_mem_cons.1 hnames
      have hdeclares := hwrites.declares hname
      have hread : Schema.pairOfText (trim entry) = .ok (field, declared) :=
        Schema.pairOfText_eq_ok_iff.2 (Schema.declares_trim_iff.2 hdeclares)
      have hne : (!(trim entry).isEmpty) = true := by
        cases htrim : trim entry with
        | nil =>
            rw [htrim] at hread
            cases hread
        | cons c rest => rfl
      rw [List.map_cons, List.filter_cons, if_pos hne, List.mapM_cons, hread, ih hrest]
      rfl

end WritesAll

namespace Schema

theorem pairTexts_intercalate {entries : List (List Char)} (h : ∀ entry ∈ entries, ',' ∉ entry) :
    pairTexts ([','].intercalate entries) = (entries.map trim).filter (!·.isEmpty) := by
  by_cases hne : entries = []
  · subst hne
    rfl
  · rw [pairTexts, splitAll_intercalate hne h]

theorem ofPairs_of_writesAll {pairs : List (String × FieldType)} {entries : List (List Char)}
    (h : WritesAll pairs entries) (hnames : ∀ pair ∈ pairs, IsFieldName pair.1) :
    ofPairs (String.ofList ([','].intercalate entries)) = .ok (Dictionary.ofList pairs) := by
  rw [ofPairs, String.toList_ofList, pairTexts_intercalate (h.not_mem_comma hnames),
    h.mapM_pairOfText hnames]
  rfl

/-- Without commas, a text that is not blank is a list of one entry. -/
theorem ofPairs_of_no_comma {spec : String} (hcomma : ',' ∉ spec.toList)
    (hblank : ∃ c ∈ spec.toList, isBlank c = false) :
    ofPairs spec =
      (pairOfText (trim spec.toList)).map fun pair => Dictionary.ofList [pair] := by
  have hne : (!(trim spec.toList).isEmpty) = true := by
    obtain ⟨c, hc, hnot⟩ := hblank
    cases htrim : trim spec.toList with
    | nil =>
        rw [trim_eq_nil_iff.1 htrim c hc] at hnot
        cases hnot
    | cons d rest => rfl
  rw [ofPairs, pairTexts, splitAll_of_not_mem hcomma, List.map_singleton, List.filter_cons,
    if_pos hne, List.filter_nil, List.mapM_cons]
  cases pairOfText (trim spec.toList) with
  | error e => rfl
  | ok pair => rfl

theorem exists_singleton_iff {spec : String} (hcomma : ',' ∉ spec.toList)
    (hblank : ∃ c ∈ spec.toList, isBlank c = false) :
    (∃ schema, ofPairs spec = .ok schema ∧ schema.entries = [(field, declared)]) ↔
      Declares spec.toList field declared := by
  rw [← declares_trim_iff, ← pairOfText_eq_ok_iff, ofPairs_of_no_comma hcomma hblank]
  cases pairOfText (trim spec.toList) with
  | error e =>
      constructor
      · rintro ⟨schema, h, -⟩
        cases h
      · intro h
        cases h
  | ok pair =>
      constructor
      · rintro ⟨schema, h, hentries⟩
        rw [← Except.ok.inj h] at hentries
        rw [← (List.cons.inj hentries).1]
      · intro h
        rw [Except.ok.inj h]
        exact ⟨_, rfl, rfl⟩

end Schema

/-- A written list of declarations is read as the schema in which the last declaration of each name
counts. On a single entry the two readers of declarations agree: the list is read as the schema of
one field exactly if the text is read as the declaration of this field. -/
theorem declarations_read_back :
    (∀ (pairs : List (String × FieldType)) (entries : List (List Char)),
      (∀ pair ∈ pairs, IsFieldName pair.1) → WritesAll pairs entries →
        ∃ schema, Schema.ofPairs (String.ofList ([','].intercalate entries)) = .ok schema ∧
          ∀ name, schema.get? name = pairs.reverse.lookup name) ∧
    ∀ spec : String, ',' ∉ spec.toList → (∃ c ∈ spec.toList, isBlank c = false) →
      ∀ (field : String) (declared : FieldType),
        (∃ schema, Schema.ofPairs spec = .ok schema ∧ schema.entries = [(field, declared)]) ↔
          FieldSpec.read spec = .ok ⟨field, declared⟩ := by
  constructor
  · intro pairs entries hnames hwrites
    exact ⟨_, Schema.ofPairs_of_writesAll hwrites hnames, Dictionary.get?_ofList pairs⟩
  · intro spec hcomma hblank field declared
    rw [Schema.exists_singleton_iff hcomma hblank, FieldSpec.read_eq_ok_iff]

/-- A name with a colon is declared twice, with blanks and blank entries between, and the second
declaration counts; a single declaration with blanks is read by both readers. -/
theorem declarations_read_back_of_three :
    (∃ schema, Schema.ofPairs (String.ofList ([','].intercalate
        [" ns:key : sTr".toList, " ".toList, "age:INT".toList, [], "ns:key:bool ".toList])) =
          .ok schema ∧
        ∀ name, schema.get? name =
          [("ns:key", FieldType.bool), ("age", .int), ("ns:key", .str)].lookup name) ∧
      ∃ schema, Schema.ofPairs " a:b : int" = .ok schema ∧ schema.entries = [("a:b", .int)] := by
  have hnames : ∀ pair ∈ [("ns:key", FieldType.str), ("age", .int), ("ns:key", .bool)],
      IsFieldName pair.1 := by
    have hkey : IsFieldName "ns:key" := by
      refine ⟨by decide, by decide, ?_, ?_⟩
      all_goals
        intro c hc
        obtain rfl := Option.some.inj hc
        decide
    have hage : IsFieldName "age" := by
      refine ⟨by decide, by decide, ?_, ?_⟩
      all_goals
        intro c hc
        obtain rfl := Option.some.inj hc
        decide
    simp [hkey, hage]
  have hnone : ∀ b ∈ ([] : List Char), isBlank b = true := nofun
  have hblank : ∀ b ∈ [' '], isBlank b = true := List.forall_mem_singleton.2 (by decide)
  have hfirst : Writes "ns:key" .str " ns:key : sTr".toList :=
    ⟨" ns:key ".toList, " sTr".toList, "sTr".toList, rfl, ⟨[' '], [' '], rfl, hblank, hblank⟩,
      by decide, ⟨[' '], [], rfl, hblank, hnone⟩⟩
  have hage : Writes "age" .int "age:INT".toList :=
    ⟨"age".toList, "INT".toList, "INT".toList, rfl, ⟨[], [], rfl, hnone, hnone⟩,
      by decide, ⟨[], [], rfl, hnone, hnone⟩⟩
  have hlast : Writes "ns:key" .bool "ns:key:bool ".toList :=
    ⟨"ns:key".toList, "bool ".toList, "bool".toList, rfl, ⟨[], [], rfl, hnone, hnone⟩,
      by decide, ⟨[], [' '], rfl, hnone, hblank⟩⟩
  constructor
  · exact declarations_read_back.1 _ _ hnames
      (.pair hfirst (.blank hblank (.pair hage (.blank hnone (.pair hlast .nil)))))
  · refine (declarations_read_back.2 " a:b : int" (by decide) ⟨'a', by decide, rfl⟩ _ _).2 ?_
    decide +kernel

end EntryFilter
