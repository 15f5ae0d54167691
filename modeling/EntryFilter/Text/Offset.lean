/-! # Byte offsets

Places in a text are counted in bytes of its UTF-8 form. Only some offsets fall between two
characters; `cutAt?` refuses the others. Lines and columns are counted from one, columns in
characters. -/

namespace EntryFilter.Text

/-- Length of the text in bytes. -/
def byteLength : List Char → Nat
  | [] => 0
  | c :: rest => c.utf8Size + byteLength rest

@[simp] theorem byteLength_nil : byteLength [] = 0 := rfl

@[simp] theorem byteLength_cons (c : Char) (cs : List Char) :
    byteLength (c :: cs) = c.utf8Size + byteLength cs := rfl

@[simp] theorem byteLength_append (xs ys : List Char) :
    byteLength (xs ++ ys) = byteLength xs + byteLength ys := by
  induction xs with
  | nil => simp
  | cons c xs ih => simp [ih, Nat.add_assoc]

/-- The text before and after the offset, if the offset falls between two characters. -/
def cutAt? : List Char → Nat → Option (List Char × List Char)
  | cs, 0 => some ([], cs)
  | [], _ + 1 => none
  | c :: rest, offset =>
    if offset < c.utf8Size then none
    else (cutAt? rest (offset - c.utf8Size)).map fun (before, after) => (c :: before, after)

/-- The text between two offsets, if both fall between characters and are in order. -/
def slice? (cs : List Char) (start stop : Nat) : Option (List Char) :=
  match cutAt? cs stop with
  | some (before, _) => (cutAt? before start).map Prod.snd
  | none => none

theorem cutAt_append (xs ys : List Char) :
    cutAt? (xs ++ ys) (byteLength xs) = some (xs, ys) := by
  induction xs with
  | nil => cases ys <;> rfl
  | cons c xs ih =>
    have hpos := c.utf8Size_pos
    obtain ⟨n, hn⟩ := Nat.exists_eq_succ_of_ne_zero (n := c.utf8Size + byteLength xs) (by omega)
    have hlt : ¬ n + 1 < c.utf8Size := by omega
    have hsub : n + 1 - c.utf8Size = byteLength xs := by omega
    simp only [List.cons_append, byteLength_cons, hn, Nat.succ_eq_add_one, cutAt?, if_neg hlt, hsub,
      ih, Option.map_some]

/-- Text between two places is found by their offsets. -/
theorem slice_append (xs ys zs : List Char) :
    slice? (xs ++ (ys ++ zs)) (byteLength xs) (byteLength xs + byteLength ys) = some ys := by
  have hstop := cutAt_append (xs ++ ys) zs
  rw [byteLength_append, List.append_assoc] at hstop
  simp only [slice?, hstop, cutAt_append, Option.map_some]

/-- The characters that start before the offset. -/
def startingBefore : List Char → Nat → List Char
  | _, 0 => []
  | [], _ => []
  | c :: rest, offset => c :: startingBefore rest (offset - c.utf8Size)

/-- Line and column reached after reading the given characters from the given place. -/
def advancePosition : Nat × Nat → Char → Nat × Nat
  | (line, column), c => if c = '\n' then (line + 1, 1) else (line, column + 1)

/-- Line and column of a byte offset, both counted from one. -/
def position (cs : List Char) (offset : Nat) : Nat × Nat :=
  (startingBefore cs offset).foldl advancePosition (1, 1)

end EntryFilter.Text
