import EntryFilter.Output.Format
import EntryFilter.Proofs.Csv.Reader
import EntryFilter.Proofs.Dictionary.Order
import EntryFilter.Proofs.Number.Digits

/-! # Entries as comma-separated values

Identifiers and all values that may have separators stand between quotes, and numbers and truth
values have none. Only the names of fields are written as they are, so the whole file is read back
exactly if no name needs quotes. -/

namespace EntryFilter

open EntryFilter.Decimal EntryFilter.Text

namespace Csv

/-! ## Texts without separators -/

theorem isAsciiDigit_of_isSpecial {c : Char} (h : isSpecial c = true) : isAsciiDigit c = false := by
  simp only [isSpecial, Bool.or_eq_true, decide_eq_true_eq] at h
  rcases h with (rfl | rfl) | rfl <;> rfl

/-- The signs in the text of a number, apart from digits. -/
def numberSigns : List Char := ['-', '.', 'N', 'a', 'i', 'n', 'f']

/-- The text has nothing but digits and the signs of numbers. -/
def IsNumeric (cs : List Char) : Prop := ∀ c ∈ cs, isAsciiDigit c = true ∨ c ∈ numberSigns

theorem IsNumeric.isPlain {cs : List Char} (h : IsNumeric cs) : IsPlain (String.ofList cs) := by
  have hsigns : (numberSigns.all fun c => !isSpecial c) = true := by decide
  intro c hc
  rw [String.toList_ofList] at hc
  rcases h c hc with hdigit | hsign
  · by_contra hspecial
    rw [isAsciiDigit_of_isSpecial (Bool.not_eq_false _ ▸ hspecial)] at hdigit
    cases hdigit
  · simpa using List.all_eq_true.1 hsigns c hsign

theorem isNumeric_nil : IsNumeric [] := List.forall_mem_nil _

theorem isNumeric_append {cs ds : List Char} : IsNumeric (cs ++ ds) ↔ IsNumeric cs ∧ IsNumeric ds :=
  List.forall_mem_append

theorem isNumeric_cons {c : Char} {cs : List Char} :
    IsNumeric (c :: cs) ↔ (isAsciiDigit c = true ∨ c ∈ numberSigns) ∧ IsNumeric cs :=
  List.forall_mem_cons

theorem isNumeric_natText (n : Nat) : IsNumeric (natText n) :=
  fun _ hc => .inl (isAsciiDigit_of_mem_natText hc)

theorem isNumeric_zeros (n : Nat) : IsNumeric (List.replicate n '0') :=
  fun _ hc => .inl (isAsciiDigit_of_mem_zeros hc)

theorem isNumeric_intText (n : Int) : IsNumeric (intText n) := by
  unfold intText
  split
  · exact isNumeric_cons.2 ⟨.inr (by decide), isNumeric_natText _⟩
  · exact isNumeric_natText _

theorem isNumeric_positional (d : Decimal) : IsNumeric d.positional := by
  have hpoint : isAsciiDigit '.' = true ∨ '.' ∈ numberSigns := .inr (by decide)
  have hdigits := isNumeric_natText d.digits
  simp only [positional]
  split
  · exact isNumeric_append.2 ⟨hdigits, isNumeric_zeros _⟩
  · split
    · refine isNumeric_cons.2 ⟨.inl rfl, isNumeric_cons.2 ⟨hpoint, ?_⟩⟩
      exact isNumeric_append.2 ⟨isNumeric_zeros _, hdigits⟩
    · refine isNumeric_append.2 ⟨fun c hc => hdigits c (List.mem_of_mem_take hc), ?_⟩
      exact isNumeric_cons.2 ⟨hpoint, fun c hc => hdigits c (List.mem_of_mem_drop hc)⟩

theorem isNumeric_plainText (x : Binary64) : IsNumeric x.plainText := by
  have hsign (negative : Bool) : IsNumeric (Binary64.signText negative) := by
    cases negative
    · exact isNumeric_nil
    · exact List.forall_mem_singleton.2 (.inr (by decide))
  cases x with
  | nan => simp [Binary64.plainText, IsNumeric, numberSigns]
  | infinity negative =>
      have hword : IsNumeric ['i', 'n', 'f'] := by simp [IsNumeric, numberSigns]
      exact isNumeric_append.2 ⟨hsign negative, hword⟩
  | finite negative significand exponent canonical =>
      exact isNumeric_append.2 ⟨hsign negative, isNumeric_positional _⟩

/-! ## Cells of entries -/

/-- What stands in the cell of a value: its text, and nothing for null or no value. -/
def cellText : Option Value → String
  | none => ""
  | some .null => ""
  | some value => value.toText

theorem isPlain_empty : IsPlain "" := by decide +kernel

theorem isWritten_cell (value : Option Value) : IsWritten (cell value) (cellText value) := by
  cases value with
  | none => exact isPlain_empty.isWritten
  | some value =>
      cases value with
      | null => exact isPlain_empty.isWritten
      | bool b =>
          have hplain : IsPlain (Value.bool b).toText := by
            cases b <;> decide +kernel
          exact hplain.isWritten
      | int n => exact (isNumeric_intText n.toInt).isPlain.isWritten
      | float x => exact (isNumeric_plainText x).isPlain.isWritten
      | text s => exact isWritten_quoted s
      | list items => exact isWritten_quoted _
      | dict members => exact isWritten_quoted _

end Csv

/-- The cells of an entry: its identifier, and what stands in each column. -/
def Entry.cells (columns : List String) (entry : Entry) : List String :=
  entry.id :: columns.map fun name => Csv.cellText (entry.value? name)

theorem Csv.isWritten_cells (columns : List String) (entry : Entry) :
    List.Forall₂ IsWritten (quoted entry.id :: columns.map fun name => cell (entry.value? name))
      (entry.cells columns) := by
  refine .cons (isWritten_quoted entry.id) ?_
  rw [List.forall₂_map_left_iff, List.forall₂_map_right_iff, List.forall₂_same]
  exact fun name _ => isWritten_cell (entry.value? name)

theorem Csv.isPlain_id : IsPlain "id" := by decide +kernel

theorem mem_fieldNames {entries : List Entry} {name : String} :
    name ∈ Entry.fieldNames entries ↔ ∃ entry ∈ entries, (entry.value? name).isSome = true := by
  simp [Entry.fieldNames, Entry.value?, Dictionary.mem_names_iff]

/-- The file is read back exactly if its header is. -/
theorem read?_entriesCsv_iff (entries : List Entry) :
    Csv.read? (OutputFormat.entriesCsv entries) =
        some (("id" :: Entry.fieldNames entries) ::
          entries.map (Entry.cells (Entry.fieldNames entries))) ↔
      ∀ name ∈ "id" :: Entry.fieldNames entries, Csv.IsPlain name := by
  constructor
  · intro h
    obtain ⟨after, hrow⟩ := Csv.row?_of_rows? h
    rw [OutputFormat.entriesCsv, List.map_cons, String.join_cons, String.toList_append] at hrow
    exact Csv.isPlain_of_row? hrow
  · intro h
    refine Csv.rows?_rows ?_ ?_
    · refine .cons ?_ ?_
      · exact List.forall₂_same.2 fun name hname => (h name hname).isWritten
      · rw [List.forall₂_map_left_iff, List.forall₂_map_right_iff, List.forall₂_same]
        exact fun entry _ => Csv.isWritten_cells _ entry
    · refine List.forall_mem_cons.2 ⟨List.cons_ne_nil _ _, List.forall_mem_map.2 fun entry _ => ?_⟩
      exact List.cons_ne_nil _ _

/-- The file of some entries has a column for each field that any of them has, in order of the
names, and a cell of each column in every row. It is read back exactly if no name of a field has a
comma, a quote or a line feed in it. -/
theorem csv_output_spec (entries : List Entry) :
    ((Entry.fieldNames entries).Pairwise (· < ·) ∧
      ∀ name, name ∈ Entry.fieldNames entries ↔ ∃ entry ∈ entries, (entry.value? name).isSome) ∧
    (∀ entry ∈ entries, (entry.cells (Entry.fieldNames entries)).length =
      ("id" :: Entry.fieldNames entries).length) ∧
    (Csv.read? (OutputFormat.csv.showEntries entries) =
        some (("id" :: Entry.fieldNames entries) ::
          entries.map (Entry.cells (Entry.fieldNames entries))) ↔
      ∀ name ∈ Entry.fieldNames entries, Csv.IsPlain name) := by
  refine ⟨⟨orderNames_increase _, fun _ => mem_fieldNames⟩, fun entry _ => ?_, ?_⟩
  · simp [Entry.cells]
  · refine (read?_entriesCsv_iff entries).trans ?_
    simp [Csv.isPlain_id]

/-- A comma in a name splits the cell of the header, but not the cells below it. -/
theorem csv_header_of_comma :
    Csv.read? (OutputFormat.csv.showEntries
      [⟨"e1", .ofList [("a,b", .int 1)], .epoch, .epoch⟩]) =
      some [["id", "a", "b"], ["e1", "1"]] := by
  decide +kernel

end EntryFilter
