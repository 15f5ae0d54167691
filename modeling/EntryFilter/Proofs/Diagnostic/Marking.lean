import EntryFilter.Language.Diagnostic
import EntryFilter.Proofs.Lexer.TokenRow
import EntryFilter.Proofs.Number.Digits
import EntryFilter.Proofs.Text.Position
import Mathlib.Order.Monotone.Defs

/-! # What a diagnostic marks

A diagnostic shows the line of the source on which its span begins, whatever the span, and marks the
characters of the span on this line. Two notions of a line meet here: line feeds are counted to get
the number of the line, and the lines without their ends are counted to find it. -/

namespace EntryFilter

open EntryFilter.Text

variable {source : String} {d : Diagnostic} {front marked back : List Char}

namespace Diagnostic

/-! ## Rows -/

/-- What stands in front of a line of the source. -/
def gutter (number : Nat) : List Char := lineNumber number ++ "| ".toList

/-- What stands in front of the caret. -/
def margin (column : Nat) : List Char := "   |".toList ++ List.replicate column ' '

def adviceRows : Option String → List (List Char)
  | none => []
  | some hint => ["   = hint: ".toList ++ hint.toList]

/-- The rows of a diagnostic about the place between two texts. -/
def rows (d : Diagnostic) (front back : List Char) (tildes : Nat) : List (List Char) :=
  let number := 1 + front.count '\n'
  let column := 1 + (lastLine front).length
  ["error: ".toList ++ d.message.toList,
    "  --> line ".toList ++ Decimal.natText number ++ ':' :: Decimal.natText column,
    "   |".toList,
    gutter number ++ lineAround front back,
    margin column ++ '^' :: List.replicate tildes '~'] ++ adviceRows d.hint

/-- The text of rows, each of which has an end. -/
def ofRows (rows : List (List Char)) : List Char := rows.flatMap (· ++ ['\n'])

/-- The line that a place is on can be shown, also behind the last line end and in an empty
source. -/
theorem sourceLine?_append (front back : List Char) :
    sourceLine? (front ++ back) (1 + front.count '\n') = some (lineAround front back) := by
  rw [sourceLine?, Nat.add_sub_cancel_left, getElem?_lines]
  by_cases hend : lastLine front ++ back = []
  · obtain ⟨hlast, rfl⟩ := List.append_eq_nil_iff.1 hend
    have hempty : (front ++ []).isEmpty || (front ++ []).getLast? == some '\n' := by
      rw [List.append_nil]
      rcases List.eq_nil_or_concat front with rfl | ⟨cs, c, rfl⟩
      · rfl
      · rw [List.concat_eq_append, lastLine_concat] at hlast
        have hc : c = '\n' := by
          by_contra hne
          simp [hne] at hlast
        simp [hc]
    rw [if_pos hend]
    simp only [hempty, if_true, lineAround, hlast]
    rfl
  · rw [if_neg hend]

theorem feed_not_mem_gutter (number : Nat) : '\n' ∉ gutter number := by
  rw [gutter, lineNumber, List.mem_append, List.mem_append, not_or, not_or]
  refine ⟨⟨fun h => ?_, fun h => ?_⟩, by decide⟩
  · exact absurd (List.eq_of_mem_replicate h) (by decide)
  · exact absurd (Decimal.isAsciiDigit_of_mem_natText h) (by decide)

theorem feed_not_mem_shown (number : Nat) (front back : List Char) :
    '\n' ∉ gutter number ++ lineAround front back := by
  rw [List.mem_append, not_or]
  exact ⟨feed_not_mem_gutter number, feed_not_mem_lineAround front back⟩

theorem ofRows_append (rows more : List (List Char)) :
    ofRows (rows ++ more) = ofRows rows ++ ofRows more := List.flatMap_append

theorem ofRows_adviceRows (hint : Option String) : ofRows (adviceRows hint) = advice hint := by
  cases hint with
  | none => rfl
  | some hint => exact List.flatMap_singleton _ _

/-- A diagnostic always shows the line on which its span begins. -/
theorem toList_render (hsource : source.toList = front ++ back)
    (hstart : d.span.start = byteLength front) :
    (d.render source).toList = ofRows (d.rows front back
      (underline (lineAround front back).length (1 + (lastLine front).length)
        (spanWidth source.toList d.span))) := by
  have hposition : position source.toList d.span.start =
      (1 + front.count '\n', 1 + (lastLine front).length) := by
    rw [hsource, hstart, position_append]
  have hline : sourceLine? source.toList (1 + front.count '\n') = some (lineAround front back) := by
    rw [hsource, sourceLine?_append]
  have hbar : "   |\n".toList = "   |".toList ++ ['\n'] := by decide
  unfold render -- its equation lemma would evaluate the whole text
  rw [String.toList_ofList, location, hposition]
  simp only [hline, hbar, rows, ofRows_append, ofRows_adviceRows]
  simp only [ofRows, sourceRow, caretRow, gutter, margin, List.flatMap_cons, List.flatMap_nil,
    List.append_assoc, List.cons_append, List.nil_append]

/-! ## The marked characters -/

/-- The characters between two texts are marked: the diagnostic tells their place and shows the line
there, and below it a caret with tildes. -/
structure Marks (d : Diagnostic) (source : String) (front marked back : List Char) (tildes : Nat) :
    Prop where
  source_eq : source.toList = front ++ (marked ++ back)
  span_eq : d.span = ⟨byteLength front, byteLength (front ++ marked)⟩
  position_eq : position source.toList d.span.start =
    (1 + front.count '\n', 1 + (lastLine front).length)
  render_eq : (d.render source).toList = ofRows (d.rows front (marked ++ back) tildes)
  /-- The line of the source is shown in a single row. -/
  feed_not_mem : '\n' ∉ gutter (1 + front.count '\n') ++ lineAround front (marked ++ back)
  width_eq : 1 + tildes = max 1 (min marked.length
    ((lineAround front (marked ++ back)).length - (lastLine front).length))
  /-- No tilde stands behind the end of the line. -/
  within : tildes ≠ 0 →
    (lastLine front).length + (1 + tildes) ≤ (lineAround front (marked ++ back)).length

theorem spanWidth_between (hsource : source.toList = front ++ (marked ++ back))
    (hspan : d.span = ⟨byteLength front, byteLength (front ++ marked)⟩) :
    spanWidth source.toList d.span = marked.length := by
  have hstop : max (min (byteLength (front ++ marked)) (byteLength (front ++ (marked ++ back))))
      (byteLength front) = byteLength front + byteLength marked := by
    simp only [byteLength_append]
    omega
  rw [spanWidth, hsource, hspan]
  simp only [hstop, slice_append, Option.map_some, Option.getD_some]

theorem exists_marks (hsource : source.toList = front ++ (marked ++ back))
    (hspan : d.span = ⟨byteLength front, byteLength (front ++ marked)⟩) :
    ∃ tildes, d.Marks source front marked back tildes := by
  have hstart : d.span.start = byteLength front := by rw [hspan]
  have hrender := toList_render hsource hstart
  rw [spanWidth_between hsource hspan, underline, Nat.add_sub_cancel_left] at hrender
  refine ⟨_, hsource, hspan, ?_, hrender, feed_not_mem_shown _ _ _, ?_, ?_⟩
  · rw [hsource, hstart, position_append]
  · omega
  · omega

end Diagnostic

theorem Span.LiesIn.exists_parts {span : Span} {source : List Char} (h : span.LiesIn source) :
    ∃ front marked back, source = front ++ (marked ++ back) ∧
      span = ⟨byteLength front, byteLength (front ++ marked)⟩ := by
  obtain ⟨hle, -, ⟨front, rest, hsource, hstart⟩, ⟨before, back, hsource', hstop⟩⟩ := h
  rw [hstart, hstop] at hle
  obtain ⟨marked, rfl, rfl⟩ := split_behind (hsource.symm.trans hsource') hle
  refine ⟨front, marked, back, hsource, ?_⟩
  rw [← hstart, ← hstop]

/-- Diagnostics show the line on which a span begins and mark what they are about. Places further
behind have a later line, or a later column on the same line. For every span of whole characters
the line and the column are told by what stands in front of it, this line of the source is shown
without its end, and the mark below it is as long as the part of the span that is on this line,
but has one character at least. -/
theorem diagnostic_marks_span (source : String) :
    StrictMonoOn (fun offset => toLex (position source.toList offset))
      {offset | IsBoundary source.toList offset} ∧
    ∀ d : Diagnostic, d.span.LiesIn source.toList →
      ∃ front marked back tildes, d.Marks source front marked back tildes := by
  constructor
  · rintro _ ⟨front, rest, hsource, rfl⟩ _ ⟨before, back, hsource', rfl⟩ hlt
    obtain ⟨marked, rfl, rfl⟩ := split_behind (hsource.symm.trans hsource') hlt.le
    have hmarked : marked ≠ [] := by
      rintro rfl
      simp at hlt
    rw [hsource]
    exact position_lt_position hmarked back
  · intro d hspan
    obtain ⟨front, marked, back, hsource, hspan⟩ := hspan.exists_parts
    obtain ⟨tildes, hmarks⟩ := Diagnostic.exists_marks hsource hspan
    exact ⟨front, marked, back, tildes, hmarks⟩

/-- An open text that goes on behind a carriage return and a line feed is marked on its first
line. -/
theorem diagnostic_marks_span_of_two_lines : ∃ front marked back tildes,
    Diagnostic.Marks ⟨"unterminated string", ⟨4, 9⟩, none⟩ "a = \"b\r\nc" front marked back
      tildes := by
  refine (diagnostic_marks_span _).2 _ ⟨by decide, by decide, ?_, ?_⟩
  · exact ⟨"a = ".toList, "\"b\r\nc".toList, by decide, by decide⟩
  · exact ⟨"a = \"b\r\nc".toList, [], by decide, by decide⟩

end EntryFilter
