import EntryFilter.Output.Format
import EntryFilter.Proofs.Text.Front
import Mathlib.Data.List.Forall2

/-! # Reading comma-separated values

The usual rules: commas between cells, a line feed behind every row, and quotes around a cell in
which any of these signs or a quote stands. A quote inside quotes is written twice, and outside
quotes none may stand. -/

namespace EntryFilter.Csv

open EntryFilter.Text

/-! ## The reader -/

/-- A sign that no cell without quotes may have. -/
def isSpecial (c : Char) : Bool := c = ',' || c = '"' || c = '\n'

/-- The text of a cell behind its first quote, and what stands behind its last quote. -/
def quotedCell? : List Char → Option (List Char × List Char)
  | [] => none
  | '"' :: '"' :: rest => (quotedCell? rest).map fun (cell, after) => ('"' :: cell, after)
  | '"' :: rest => some ([], rest)
  | c :: rest => (quotedCell? rest).map fun (cell, after) => (c :: cell, after)

/-- The cell at the front of a text, and what stands behind it. -/
def cell? : List Char → Option (List Char × List Char)
  | '"' :: rest => quotedCell? rest
  | cs => some (cs.takeWhile (!isSpecial ·), cs.dropWhile (!isSpecial ·))

variable {cs cell rest after : List Char}

theorem quotedCell?_length (h : quotedCell? cs = some (cell, rest)) : rest.length < cs.length := by
  fun_induction quotedCell? cs generalizing cell with
  | case1 => cases h
  | case2 more ih =>
      obtain ⟨found, hfound, heq⟩ := Option.map_eq_some_iff.1 h
      obtain ⟨rfl, rfl⟩ := Prod.mk.inj heq
      have hrest := ih hfound
      simp only [List.length_cons]
      omega
  | case3 more =>
      obtain ⟨rfl, rfl⟩ := Prod.mk.inj (Option.some.inj h)
      exact Nat.lt_succ_self _
  | case4 c more _ _ ih =>
      obtain ⟨found, hfound, heq⟩ := Option.map_eq_some_iff.1 h
      obtain ⟨rfl, rfl⟩ := Prod.mk.inj heq
      exact (ih hfound).trans (Nat.lt_succ_self _)

theorem cell?_length (h : cell? cs = some (cell, rest)) : rest.length ≤ cs.length := by
  unfold cell? at h
  split at h
  · exact (quotedCell?_length h).le.trans (Nat.le_succ _)
  · obtain ⟨rfl, rfl⟩ := Prod.mk.inj (Option.some.inj h)
    exact (List.dropWhile_suffix _).length_le

/-- The row at the front of a text, and what stands behind its line feed. -/
def row? (cs : List Char) : Option (List String × List Char) :=
  match _hcell : cell? cs with
  | some (cell, ',' :: rest) =>
    (row? rest).map fun (cells, after) => (String.ofList cell :: cells, after)
  | some (cell, '\n' :: rest) => some ([String.ofList cell], rest)
  | _ => none
termination_by cs.length
decreasing_by
  have hlength := cell?_length _hcell
  rw [List.length_cons] at hlength
  omega

theorem row?_comma (h : cell? cs = some (cell, ',' :: rest)) :
    row? cs = (row? rest).map fun (cells, after) => (String.ofList cell :: cells, after) := by
  rw [row?, h]
  rfl

theorem row?_lineFeed (h : cell? cs = some (cell, '\n' :: rest)) :
    row? cs = some ([String.ofList cell], rest) := by
  rw [row?, h]
  rfl

/-- A row is one cell, or a cell and a comma in front of a row. -/
theorem row?_cases {cells : List String} (h : row? cs = some (cells, after)) :
    (∃ cell, cell? cs = some (cell, '\n' :: after) ∧ cells = [String.ofList cell]) ∨
      ∃ cell rest others, cell? cs = some (cell, ',' :: rest) ∧ row? rest = some (others, after) ∧
        cells = String.ofList cell :: others := by
  rw [row?] at h
  split at h
  · rename_i cell rest hcell
    obtain ⟨⟨others, after'⟩, hothers, heq⟩ := Option.map_eq_some_iff.1 h
    obtain ⟨rfl, rfl⟩ := Prod.mk.inj heq
    exact .inr ⟨cell, rest, others, hcell, hothers, rfl⟩
  · rename_i cell rest hcell
    obtain ⟨rfl, rfl⟩ := Prod.mk.inj (Option.some.inj h)
    exact .inl ⟨cell, hcell, rfl⟩
  · cases h

theorem row?_length {cells : List String} (h : row? cs = some (cells, after)) :
    after.length < cs.length := by
  induction cells generalizing cs with
  | nil =>
      obtain ⟨_, _, hcells⟩ | ⟨_, _, _, _, _, hcells⟩ := row?_cases h <;> cases hcells
  | cons cell cells ih =>
      obtain ⟨_, hcell, -⟩ | ⟨_, rest, others, hcell, hothers, hcells⟩ := row?_cases h
      · exact cell?_length hcell
      · obtain ⟨rfl, rfl⟩ := List.cons.inj hcells
        have hrest := cell?_length hcell
        exact (ih hothers).trans hrest

/-- The rows of a text. -/
def rows? (cs : List Char) : Option (List (List String)) :=
  if cs = [] then some []
  else
    match _hrow : row? cs with
    | some (cells, after) => (rows? after).map (cells :: ·)
    | none => none
termination_by cs.length
decreasing_by exact row?_length _hrow

theorem rows?_row {cells : List String} (h : row? cs = some (cells, after)) :
    rows? cs = (rows? after).map (cells :: ·) := by
  have hne : cs ≠ [] := by
    rintro rfl
    exact absurd (row?_length h) (Nat.not_lt_zero _)
  rw [rows?, if_neg hne, h]

/-- The cells of a file, row by row. -/
def read? (file : String) : Option (List (List String)) := rows? file.toList

theorem row?_of_rows? {cells : List String} {more : List (List String)}
    (h : rows? cs = some (cells :: more)) : ∃ after, row? cs = some (cells, after) := by
  rw [rows?] at h
  split at h
  · cases h
  · split at h
    · rename_i found after hrow
      obtain ⟨others, -, heq⟩ := Option.map_eq_some_iff.1 h
      obtain ⟨rfl, -⟩ := List.cons.inj heq
      exact ⟨after, hrow⟩
    · cases h

/-! ## Written cells -/

/-- The text needs no quotes to be a cell. -/
def IsPlain (text : String) : Prop := ∀ c ∈ text.toList, isSpecial c = false

theorem isPlain_iff {text : String} :
    IsPlain text ↔ (text.toList.all fun c => !isSpecial c) = true := by
  simp [IsPlain]

instance (text : String) : Decidable (IsPlain text) := decidable_of_iff' _ isPlain_iff

/-- The signs behind a cell. -/
def IsSeparator (c : Char) : Prop := c = ',' ∨ c = '\n'

/-- The written text is read as the cell in front of every separator. -/
def IsWritten (written cell : String) : Prop :=
  ∀ separator rest, IsSeparator separator →
    cell? (written.toList ++ separator :: rest) = some (cell.toList, separator :: rest)

theorem IsSeparator.isSpecial {c : Char} (h : IsSeparator c) : isSpecial c = true := by
  rcases h with rfl | rfl <;> rfl

theorem IsSeparator.ne_quote {c : Char} (h : IsSeparator c) : c ≠ '"' := by
  rcases h with rfl | rfl <;> decide

theorem cell?_of_head (h : cs.head? ≠ some '"') :
    cell? cs = some (cs.takeWhile (!isSpecial ·), cs.dropWhile (!isSpecial ·)) := by
  unfold cell?
  split
  · exact absurd rfl h
  · rfl

theorem IsPlain.isWritten {text : String} (h : IsPlain text) : IsWritten text text := by
  intro separator rest hseparator
  have hspecial := hseparator.isSpecial
  have hhead : (text.toList ++ separator :: rest).head? ≠ some '"' := by
    cases htext : text.toList with
    | nil => simpa using hseparator.ne_quote
    | cons c cs =>
        intro hc
        obtain rfl : c = '"' := Option.some.inj hc
        have hquote := h '"' (by simp [htext])
        cases hquote
  have hkeep : ∀ c ∈ text.toList, (!isSpecial c) = true := fun c hc => by simp [h c hc]
  rw [cell?_of_head hhead, List.takeWhile_append_of_pos hkeep, List.dropWhile_append_of_pos hkeep]
  simp [hspecial]

/-- How a character stands in a quoted cell. -/
def escaped (cs : List Char) : List Char := cs.flatMap fun c => if c = '"' then ['"', '"'] else [c]

theorem toList_quoted (text : String) :
    (quoted text).toList = '"' :: (escaped text.toList ++ ['"']) := by
  rw [quoted, String.toList_ofList]
  rfl

theorem escaped_cons_quote (cs : List Char) : escaped ('"' :: cs) = '"' :: '"' :: escaped cs := rfl

theorem escaped_cons {c : Char} (h : c ≠ '"') (cs : List Char) :
    escaped (c :: cs) = c :: escaped cs := by
  simp [escaped, h]

theorem quotedCell?_cons {c : Char} (h : c ≠ '"') (cs : List Char) :
    quotedCell? (c :: cs) = (quotedCell? cs).map fun (cell, after) => (c :: cell, after) := by
  rw [quotedCell?]
  · exact fun _ h' => absurd h' h
  · exact h

/-- What is written between quotes is read up to a quote without another behind it. -/
theorem quotedCell?_escaped (cell : List Char) (h : rest.head? ≠ some '"') :
    quotedCell? (escaped cell ++ '"' :: rest) = some (cell, rest) := by
  induction cell with
  | nil =>
      rw [escaped, List.flatMap_nil, List.nil_append, quotedCell?]
      intro more hmore
      rw [hmore] at h
      exact h rfl
  | cons c cell ih =>
      by_cases hc : c = '"'
      · subst hc
        simp [escaped_cons_quote, quotedCell?, ih]
      · simp [escaped_cons hc, quotedCell?_cons hc, ih]

theorem isWritten_quoted (text : String) : IsWritten (quoted text) text := by
  intro separator rest hseparator
  have hhead : (separator :: rest).head? ≠ some '"' := by simpa using hseparator.ne_quote
  rw [toList_quoted, List.cons_append, List.append_assoc, cell?]
  exact quotedCell?_escaped text.toList hhead

/-! ## Written rows -/

theorem toList_row_singleton (cell : String) : (row [cell]).toList = cell.toList ++ ['\n'] := by
  simp [row]

theorem toList_row_cons (cell next : String) (more : List String) :
    (row (cell :: next :: more)).toList = cell.toList ++ ',' :: (row (next :: more)).toList := by
  simp [row, String.toList_intercalate]

theorem row?_row {written cells : List String} (h : List.Forall₂ IsWritten written cells)
    (hne : cells ≠ []) (rest : List Char) :
    row? ((row written).toList ++ rest) = some (cells, rest) := by
  induction h with
  | nil => exact absurd rfl hne
  | @cons text cell written cells hcell hmore ih =>
      cases hmore with
      | nil =>
          have hread := hcell '\n' rest (.inr rfl)
          rw [toList_row_singleton, List.append_assoc]
          exact (row?_lineFeed hread).trans (by rw [String.ofList_toList])
      | @cons text' cell' written cells hcell' hmore =>
          have hread := hcell ',' ((row (text' :: written)).toList ++ rest) (.inl rfl)
          rw [toList_row_cons, List.append_assoc, List.cons_append, row?_comma hread,
            ih (List.cons_ne_nil _ _), String.ofList_toList]
          rfl

theorem rows?_rows {written rows : List (List String)}
    (h : List.Forall₂ (List.Forall₂ IsWritten) written rows) (hne : ∀ row ∈ rows, row ≠ []) :
    rows? (String.join (written.map row)).toList = some rows := by
  induction h with
  | nil => rw [rows?]; rfl
  | @cons texts cells written rows hcells hmore ih =>
      have hrow := row?_row hcells (hne cells List.mem_cons_self)
        (String.join (written.map row)).toList
      have hrest := ih fun row hrow => hne row (List.mem_cons_of_mem cells hrow)
      rw [List.map_cons, String.join_cons, String.toList_append, rows?_row hrow, hrest]
      rfl

/-! ## Cells without quotes -/

theorem eq_escaped_of_quotedCell? (h : quotedCell? cs = some (cell, rest)) :
    cs = escaped cell ++ '"' :: rest := by
  fun_induction quotedCell? cs generalizing cell with
  | case1 => cases h
  | case2 more ih =>
      obtain ⟨found, hfound, heq⟩ := Option.map_eq_some_iff.1 h
      obtain ⟨rfl, rfl⟩ := Prod.mk.inj heq
      rw [escaped_cons_quote, ih hfound]
      rfl
  | case3 more =>
      obtain ⟨rfl, rfl⟩ := Prod.mk.inj (Option.some.inj h)
      rfl
  | case4 c more _ hc ih =>
      obtain ⟨found, hfound, heq⟩ := Option.map_eq_some_iff.1 h
      obtain ⟨rfl, rfl⟩ := Prod.mk.inj heq
      rw [escaped_cons hc, List.cons_append, ← ih hfound]

/-- A text with a separator behind it never looks like itself between quotes. -/
theorem append_separator_ne (cs : List Char) {separator : Char} (h : IsSeparator separator)
    (rest after : List Char) (n : Nat) :
    cs ++ separator :: rest ≠ List.replicate (n + 1) '"' ++ (escaped cs ++ '"' :: after) := by
  induction cs generalizing n with
  | nil =>
      intro heq
      exact h.ne_quote (List.cons.inj heq).1
  | cons c cs ih =>
      intro heq
      obtain ⟨rfl, htail⟩ := List.cons.inj heq
      -- Both sides lose a quote, and the quote in the cell gives back two.
      have hquotes : List.replicate n '"' ++ '"' :: '"' :: (escaped cs ++ '"' :: after) =
          List.replicate (n + 1 + 1) '"' ++ (escaped cs ++ '"' :: after) := by
        simp [List.replicate_succ']
      exact ih (n + 1) (htail.trans hquotes)

theorem isPlain_of_cell? {text : String} {separator : Char} (h : IsSeparator separator)
    (hcell : cell? (text.toList ++ separator :: rest) = some (text.toList, after)) :
    IsPlain text := by
  by_cases hhead : (text.toList ++ separator :: rest).head? = some '"'
  · cases htext : text.toList with
    | nil =>
        rw [htext] at hhead
        exact absurd (Option.some.inj hhead) h.ne_quote
    | cons c cs =>
        rw [htext] at hhead hcell
        obtain rfl : c = '"' := Option.some.inj hhead
        have hread := eq_escaped_of_quotedCell? hcell
        exact absurd hread (append_separator_ne cs h rest after 1)
  · rw [cell?_of_head hhead] at hcell
    have htake := (Prod.mk.inj (Option.some.inj hcell)).1
    intro c hc
    rw [← htake] at hc
    simpa using List.mem_takeWhile_imp hc

/-- Texts that are written as a row without any quotes are read as this row only if they need no
quotes. -/
theorem isPlain_of_row? {names : List String}
    (h : row? ((row names).toList ++ rest) = some (names, after)) :
    ∀ name ∈ names, IsPlain name := by
  induction names with
  | nil => exact List.forall_mem_nil _
  | cons name more ih =>
      have hcell : ∃ separator rest, IsSeparator separator ∧
          (row (name :: more)).toList = name.toList ++ separator :: rest := by
        cases more with
        | nil => exact ⟨'\n', [], .inr rfl, toList_row_singleton name⟩
        | cons next more => exact ⟨',', _, .inl rfl, toList_row_cons name next more⟩
      obtain ⟨separator, others, hseparator, htext⟩ := hcell
      have hname : IsPlain name := by
        rw [htext, List.append_assoc, List.cons_append] at h
        rcases row?_cases h with ⟨cell, hread, hcells⟩ | ⟨cell, _, _, hread, -, hcells⟩
        · obtain rfl := (List.cons.inj hcells).1
          exact isPlain_of_cell? hseparator (by simpa using hread)
        · obtain rfl := (List.cons.inj hcells).1
          exact isPlain_of_cell? hseparator (by simpa using hread)
      refine List.forall_mem_cons.2 ⟨hname, ?_⟩
      cases more with
      | nil => exact List.forall_mem_nil _
      | cons next more =>
          rw [toList_row_cons, List.append_assoc] at h
          have hread := hname.isWritten ',' ((row (next :: more)).toList ++ rest) (.inl rfl)
          rw [List.cons_append, row?_comma hread] at h
          obtain ⟨⟨others, after'⟩, hothers, heq⟩ := Option.map_eq_some_iff.1 h
          obtain ⟨hcells, rfl⟩ := Prod.mk.inj heq
          obtain ⟨-, rfl⟩ := List.cons.inj hcells
          exact ih hothers

end EntryFilter.Csv
