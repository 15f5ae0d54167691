import EntryFilter.Proofs.Diagnostic.Marking
import EntryFilter.Proofs.Grammar.ErrorPlace

/-! # Where the caret stands

The number of a line takes three places at least, and more if it has more digits, but the row with
the caret always begins with three blanks. So the caret stands below the character that it is about
up to line 999, and too far to the left from line 1000 on. -/

namespace EntryFilter

open EntryFilter.Text ParserState

variable {source : String} {limits : Limits} {e : SyntaxError} {front back : List Char} {c : Char}

/-! ## Errors begin at no blank -/

/-- An error of the parser begins where a token begins. -/
theorem exists_token_of_parse_error {tokens : List PlacedToken}
    (htokens : tokenize source = .ok tokens) (h : Filter.parse limits source = .error e) :
    ∃ token ∈ tokens, e.span.start = token.span.start := by
  rw [Filter.parse, htokens] at h
  obtain ⟨front, token, rest, last, rfl, hreads, hstop⟩ :=
    exists_stop (exists_done_of_tokenize htokens) h
  obtain ⟨⟨token, hget, hcovers⟩, -⟩ := pointsAt_of_blames
    (fun x hx => liesIn_of_tokenize htokens hx) (apart_of_tokenize htokens) hreads hstop.blames
  rcases hcovers with ⟨-, hspan⟩ | ⟨-, field, _, -, -, hfield, -, hspan⟩
  · exact ⟨token, List.mem_of_getElem? hget, by rw [hspan]⟩
  · exact ⟨field, List.mem_of_getElem? hfield, by rw [hspan]⟩

/-- The character at which a piece begins is not blank. -/
theorem IsTile.not_isBlank_at {before text after : List Char} {x : Finding}
    (h : IsTile before text after x) (hparts : before ++ (text ++ after) = front ++ c :: back)
    (hstart : x.span.start = byteLength front) : isBlank c = false := by
  rw [h.span_eq] at hstart
  obtain ⟨marked, rfl, hrest⟩ := split_behind hparts.symm hstart.ge
  have hnil : marked = [] := by
    by_contra hne
    have hpos := byteLength_pos hne
    rw [byteLength_append] at hstart
    simp only at hstart
    omega
  subst hnil
  obtain ⟨d, rest, htext⟩ := List.exists_cons_of_ne_nil h.longest.text_ne_nil
  rw [htext, List.nil_append, List.cons_append] at hrest
  obtain ⟨rfl, -⟩ := List.cons.inj hrest
  exact h.not_blank c (by simp [htext])

theorem not_isBlank_at_error (h : Filter.parse limits source = .error e)
    (hsource : source.toList = front ++ c :: back) (hstart : e.span.start = byteLength front) :
    isBlank c = false := by
  cases htokens : tokenize source with
  | error e' =>
      rw [Filter.parse, htokens] at h
      obtain rfl : e' = e := Except.error.inj h
      obtain ⟨before, text, after, hparts, htile⟩ := exists_tile_of_tokenize_error htokens
      exact htile.not_isBlank_at (hparts.symm.trans hsource) hstart
  | ok tokens =>
      obtain ⟨token, htoken, hplace⟩ := exists_token_of_parse_error htokens h
      obtain ⟨row, htiles, rfl⟩ := tiles_of_tokenize htokens
      rw [hplace] at hstart
      rcases List.mem_append.1 htoken with hrow | hend
      · obtain ⟨before, text, after, hparts, htile⟩ :=
          htiles.tile (.ok token) (List.mem_map_of_mem hrow)
        exact htile.not_isBlank_at (hparts.symm.trans hsource) hstart
      · -- the end token begins behind every character
        obtain rfl := List.mem_singleton.1 hend
        have hpos := c.utf8Size_pos
        simp only [Span.point, hsource, byteLength_append, byteLength_cons] at hstart
        omega

/-! ## The two rows -/

namespace Diagnostic

/-- The place of the character behind a text in the row of the source. -/
def shownAt (front : List Char) : Nat :=
  (gutter (1 + front.count '\n') ++ lastLine front).length

/-- The place of the caret in the row below. -/
def caretAt (front : List Char) : Nat := (margin (1 + (lastLine front).length)).length

theorem shownAt_eq (front : List Char) :
    shownAt front =
      max 3 (Decimal.digitCount (1 + front.count '\n')) + 2 + (lastLine front).length := by
  simp only [shownAt, gutter, lineNumber, List.length_append, List.length_replicate]
  change 3 - Decimal.digitCount _ + Decimal.digitCount _ + 2 + _ = _
  omega

theorem caretAt_eq (front : List Char) : caretAt front = 5 + (lastLine front).length := by
  simp only [caretAt, margin, List.length_append, List.length_replicate]
  change 4 + _ = _
  omega

/-- Blanks and a bar stand in front of the caret. -/
theorem mem_margin {column : Nat} {s : Char} (h : s ∈ margin column) : s = ' ' ∨ s = '|' := by
  rw [margin, List.mem_append] at h
  rcases h with h | h
  · have hall : "   |".toList.all (fun s => decide (s = ' ' ∨ s = '|')) = true := by decide
    exact of_decide_eq_true (List.all_eq_true.1 hall s h)
  · exact .inl (List.eq_of_mem_replicate h)

theorem caret_not_mem_margin (column : Nat) : '^' ∉ margin column := by
  intro h
  rcases mem_margin h with heq | heq <;> cases heq

theorem feed_not_mem_mark (column tildes : Nat) :
    '\n' ∉ margin column ++ '^' :: List.replicate tildes '~' := by
  rw [List.mem_append, List.mem_cons, not_or, not_or]
  refine ⟨fun h => ?_, by decide, fun h => ?_⟩
  · rcases mem_margin h with heq | heq <;> cases heq
  · exact absurd (List.eq_of_mem_replicate h) (by decide)

/-- From line 1000 on the caret is too far to the left, by as many places as the number of the line
has digits more than three. -/
theorem caretAt_add (front : List Char) :
    caretAt front + (Decimal.digitCount (1 + front.count '\n') - 3) = shownAt front := by
  rw [shownAt_eq, caretAt_eq]
  omega

theorem caretAt_eq_shownAt_iff (front : List Char) :
    caretAt front = shownAt front ↔ 1 + front.count '\n' < 1000 := by
  have hdigits : Decimal.digitCount (1 + front.count '\n') ≤ 3 ↔ 1 + front.count '\n' < 1000 :=
    Nat.length_toDigits_le_iff (k := 3) (by decide) (by decide)
  have hadd := caretAt_add front
  rw [← hdigits]
  omega

/-- The diagnostic about the place between two texts shows the character behind the place in the row
of the source and the caret in the row below. -/
structure PointsTo (d : Diagnostic) (source : String) (front : List Char) (c : Char)
    (back : List Char) (tildes : Nat) : Prop where
  source_eq : source.toList = front ++ c :: back
  start_eq : d.span.start = byteLength front
  render_eq : (d.render source).toList = ofRows (d.rows front (c :: back) tildes)
  shown : ∃ row, (d.rows front (c :: back) tildes)[3]? = some row ∧ '\n' ∉ row ∧
    row[shownAt front]? = some c
  caret : ∃ row, (d.rows front (c :: back) tildes)[4]? = some row ∧ '\n' ∉ row ∧
    row[caretAt front]? = some '^' ∧ '^' ∉ row.take (caretAt front)

theorem exists_pointsTo {d : Diagnostic} (hsource : source.toList = front ++ c :: back)
    (hstart : d.span.start = byteLength front) (hc : isBlank c = false) :
    ∃ tildes, d.PointsTo source front c back tildes := by
  have hfeed : c ≠ '\n' := by
    rintro rfl
    cases hc
  have hreturn : c ≠ '\r' := by
    rintro rfl
    cases hc
  obtain ⟨rest, hline⟩ := exists_lineAround_cons front back hfeed hreturn
  refine ⟨_, hsource, hstart, toList_render hsource hstart, ⟨_, rfl, ?_, ?_⟩,
    ⟨_, rfl, ?_, ?_, ?_⟩⟩
  · exact feed_not_mem_shown _ _ _
  · rw [hline, shownAt, ← List.append_assoc]
    simp
  · exact feed_not_mem_mark _ _
  · simp [caretAt]
  · rw [caretAt, List.take_left]
    exact caret_not_mem_margin _

end Diagnostic

/-- The caret of an error stands below the character at which the error begins, which is never the
end of a line, if and only if this is on one of the first 999 lines. Further down it stands to the
left, by as many places as the number of the line has digits more than three. -/
theorem caret_below_error_iff (h : Filter.parse limits source = .error e)
    (hsource : source.toList = front ++ c :: back) (hstart : e.span.start = byteLength front) :
    isBlank c = false ∧
      ∃ tildes, e.diagnostic.PointsTo source front c back tildes ∧
        Diagnostic.caretAt front + (Decimal.digitCount (1 + front.count '\n') - 3) =
          Diagnostic.shownAt front ∧
        (Diagnostic.caretAt front = Diagnostic.shownAt front ↔ 1 + front.count '\n' < 1000) := by
  have hc := not_isBlank_at_error h hsource hstart
  obtain ⟨tildes, hpoints⟩ := Diagnostic.exists_pointsTo (d := e.diagnostic) hsource hstart hc
  exact ⟨hc, tildes, hpoints, Diagnostic.caretAt_add front,
    Diagnostic.caretAt_eq_shownAt_iff front⟩

/-- Columns are counted in characters, so a letter of two bytes in front of the caret does not move
it. -/
theorem caret_below_error_iff_of_second_line :
    Filter.parse .standard "a = 1 AND\nö @ 2" = .error ⟨.unexpectedCharacter '@', ⟨13, 14⟩⟩ ∧
      Diagnostic.caretAt "a = 1 AND\nö ".toList = Diagnostic.shownAt "a = 1 AND\nö ".toList := by
  have hparse : Filter.parse .standard "a = 1 AND\nö @ 2" =
      .error ⟨.unexpectedCharacter '@', ⟨13, 14⟩⟩ := by
    decide +kernel
  have hsource : "a = 1 AND\nö @ 2".toList = "a = 1 AND\nö ".toList ++ '@' :: " 2".toList := by
    decide
  obtain ⟨-, -, -, -, haligned⟩ := caret_below_error_iff hparse hsource (by decide)
  exact ⟨hparse, haligned.2 (by decide)⟩

/-- On line 1000 the caret stands in front of the sign that is at fault. -/
theorem caret_of_line_thousand : ∃ e,
    Filter.parse .standard (String.ofList (List.replicate 999 '\n' ++ ['@'])) = .error e ∧
      e.span = ⟨999, 1000⟩ ∧
      (e.diagnostic.render (String.ofList (List.replicate 999 '\n' ++ ['@']))).toList =
        Diagnostic.ofRows ["error: unexpected character: @".toList, "  --> line 1000:1".toList,
          "   |".toList, "1000| @".toList, "   | ^".toList] ∧
      "   | ^".toList.idxOf '^' < "1000| @".toList.idxOf '@' := by
  have htokens : (Cursor.mk 0 (List.replicate 999 '\n' ++ ['@'])).tokens =
      .error ⟨.unexpectedCharacter '@', ⟨999, 1000⟩⟩ := by
    decide +kernel
  have hsource : (String.ofList (List.replicate 999 '\n' ++ ['@'])).toList =
      List.replicate 999 '\n' ++ ['@'] := String.toList_ofList
  have hstart : (SyntaxError.diagnostic ⟨.unexpectedCharacter '@', ⟨999, 1000⟩⟩).span.start =
      byteLength (List.replicate 999 '\n') := by
    decide +kernel
  refine ⟨⟨.unexpectedCharacter '@', ⟨999, 1000⟩⟩, ?_, rfl, ?_, by decide⟩
  · rw [Filter.parse, tokenize, Cursor.ofSource, hsource, htokens]
    rfl
  · rw [Diagnostic.toList_render hsource hstart, hsource]
    decide +kernel

end EntryFilter
