import EntryFilter.Proofs.Text.Lines
import EntryFilter.Text.Offset
import Mathlib.Data.List.DropRight
import Mathlib.Data.Prod.Lex

/-! # Lines and columns

The line and the column of a place are told by the text in front of it: by the line feeds in it
and by what stands behind the last of them. Each further character leads to a later place. The
line at a place, without its end, is the one that is found by the number of the line. -/

namespace EntryFilter

open EntryFilter.Text

/-- What stands behind the last line feed. -/
def lastLine (cs : List Char) : List Char := cs.rtakeWhile (· != '\n')

/-- What stands in front of the first line feed. -/
def firstLine (cs : List Char) : List Char := cs.takeWhile (· != '\n')

/-- The line at the place between two texts. A carriage return belongs to the end of the line only
if a line feed follows it. -/
def lineAround (front back : List Char) : List Char :=
  let line := lastLine front ++ firstLine back
  if '\n' ∈ back then withoutReturn line else line

theorem lastLine_concat (cs : List Char) (c : Char) :
    lastLine (cs ++ [c]) = if c = '\n' then [] else lastLine cs ++ [c] := by
  rw [lastLine, List.rtakeWhile_concat]
  by_cases hc : c = '\n' <;> simp [hc, lastLine]

theorem feed_not_mem_lastLine (cs : List Char) : '\n' ∉ lastLine cs := by
  intro h
  have hkept := List.mem_rtakeWhile_imp h
  simp at hkept

theorem bne_feed_of_not_mem {cs : List Char} (h : '\n' ∉ cs) : ∀ c ∈ cs, (c != '\n') = true := by
  intro c hc
  have hne : c ≠ '\n' := fun heq => h (heq ▸ hc)
  simpa using hne

theorem lastLine_of_no_feed {cs : List Char} (h : '\n' ∉ cs) : lastLine cs = cs :=
  List.rtakeWhile_eq_self_iff.2 (bne_feed_of_not_mem h)

theorem lastLine_append_feed (cs rest : List Char) :
    lastLine (cs ++ '\n' :: rest) = lastLine rest := by
  induction rest using List.reverseRecOn with
  | nil => rw [lastLine_concat, if_pos rfl, lastLine, List.rtakeWhile_nil]
  | append_singleton rest c ih =>
      rw [← List.cons_append, ← List.append_assoc, lastLine_concat, lastLine_concat, ih]

theorem feed_not_mem_firstLine (cs : List Char) : '\n' ∉ firstLine cs := by
  intro h
  have hkept := List.mem_takeWhile_imp h
  simp at hkept

theorem firstLine_of_no_feed {cs : List Char} (h : '\n' ∉ cs) : firstLine cs = cs :=
  List.takeWhile_eq_self_iff.2 (bne_feed_of_not_mem h)

theorem firstLine_append_feed {cs : List Char} (h : '\n' ∉ cs) (rest : List Char) :
    firstLine (cs ++ '\n' :: rest) = cs := by
  rw [firstLine, List.takeWhile_append_of_pos (bne_feed_of_not_mem h)]
  simp

/-! ## The place behind a text -/

theorem startingBefore_append (xs ys : List Char) :
    startingBefore (xs ++ ys) (byteLength xs) = xs := by
  induction xs with
  | nil => cases ys <;> rfl
  | cons c xs ih =>
      have hpos := c.utf8Size_pos
      obtain ⟨n, hn⟩ := Nat.exists_eq_succ_of_ne_zero (n := c.utf8Size + byteLength xs) (by omega)
      have hsub : n + 1 - c.utf8Size = byteLength xs := by omega
      rw [List.cons_append, byteLength_cons, hn, startingBefore, hsub, ih]
      simp

theorem foldl_advancePosition (cs : List Char) :
    cs.foldl advancePosition (1, 1) = (1 + cs.count '\n', 1 + (lastLine cs).length) := by
  induction cs using List.reverseRecOn with
  | nil => rfl
  | append_singleton cs c ih =>
      rw [List.foldl_concat, ih, advancePosition, lastLine_concat, List.count_append]
      by_cases hc : c = '\n'
      · simp [hc, Nat.add_assoc]
      · simp [hc, Nat.add_assoc]

theorem position_append (front back : List Char) :
    position (front ++ back) (byteLength front) =
      (1 + front.count '\n', 1 + (lastLine front).length) := by
  rw [position, startingBefore_append, foldl_advancePosition]

/-- One more character leads further down, or further to the right on the same line. -/
theorem lt_advancePosition (place : Nat × Nat) (c : Char) :
    toLex place < toLex (advancePosition place c) := by
  rw [Prod.Lex.toLex_lt_toLex, advancePosition]
  split
  · exact .inl (Nat.lt_succ_self _)
  · exact .inr ⟨rfl, Nat.lt_succ_self _⟩

theorem lt_foldl_advancePosition {cs : List Char} (h : cs ≠ []) (place : Nat × Nat) :
    toLex place < toLex (cs.foldl advancePosition place) := by
  induction cs generalizing place with
  | nil => exact absurd rfl h
  | cons c cs ih =>
      have hstep := lt_advancePosition place c
      by_cases hnil : cs = []
      · subst hnil
        exact hstep
      · exact hstep.trans (ih hnil _)

/-- A place behind another one is a later place. -/
theorem position_lt_position {front marked : List Char} (h : marked ≠ []) (back : List Char) :
    toLex (position (front ++ (marked ++ back)) (byteLength front)) <
      toLex (position (front ++ (marked ++ back)) (byteLength (front ++ marked))) := by
  have hstop : startingBefore (front ++ (marked ++ back)) (byteLength (front ++ marked)) =
      front ++ marked := by
    rw [← List.append_assoc, startingBefore_append]
  rw [position, position, startingBefore_append, hstop, List.foldl_append]
  exact lt_foldl_advancePosition h _

/-! ## The line at a place -/

theorem lineAround_append_feed (cs rest back : List Char) :
    lineAround (cs ++ '\n' :: rest) back = lineAround rest back := by
  rw [lineAround, lineAround, lastLine_append_feed]

theorem feed_not_mem_lineAround (front back : List Char) : '\n' ∉ lineAround front back := by
  have hline : '\n' ∉ lastLine front ++ firstLine back := by
    rw [List.mem_append, not_or]
    exact ⟨feed_not_mem_lastLine front, feed_not_mem_firstLine back⟩
  rw [lineAround]
  split
  · exact fun h => hline (mem_of_mem_withoutReturn h)
  · exact hline

/-- The line goes on with the character at the place, if this does not belong to its end. -/
theorem exists_lineAround_cons (front back : List Char) {c : Char} (hfeed : c ≠ '\n')
    (hreturn : c ≠ '\r') : ∃ rest, lineAround front (c :: back) = lastLine front ++ c :: rest := by
  have hfirst : firstLine (c :: back) = c :: firstLine back :=
    List.takeWhile_cons_of_pos (by simpa using hfeed)
  rw [lineAround, hfirst]
  split
  · obtain ⟨rest, hrest⟩ := exists_withoutReturn_cons (firstLine back) hreturn
    exact ⟨rest, by rw [withoutReturn_append _ (List.cons_ne_nil _ _), hrest]⟩
  · exact ⟨_, rfl⟩

/-- The line at a place has its number, unless it is the empty line at the end of the text. -/
theorem getElem?_lines (front back : List Char) :
    (lines (front ++ back))[front.count '\n']? =
      if lastLine front ++ back = [] then none else some (lineAround front back) := by
  -- the first line of `front` is taken off until the place is on the first line
  generalize hn : front.length = n
  induction n using Nat.strongRecOn generalizing front with
  | _ n ih =>
      by_cases hfeed : '\n' ∈ front
      · obtain ⟨line, rest, rfl, hline⟩ := List.eq_append_cons_of_mem hfeed
        have hcount : (line ++ '\n' :: rest).count '\n' = rest.count '\n' + 1 := by
          simp [List.count_eq_zero.2 hline]
        have hshorter : rest.length < n := by
          rw [← hn, List.length_append, List.length_cons]
          omega
        rw [hcount, List.append_assoc, List.cons_append, lines_append_feed hline,
          List.getElem?_cons_succ, ih _ hshorter rest rfl, lastLine_append_feed,
          lineAround_append_feed]
      · rw [List.count_eq_zero.2 hfeed, lastLine_of_no_feed hfeed, lineAround,
          lastLine_of_no_feed hfeed]
        by_cases hback : '\n' ∈ back
        · obtain ⟨line, rest, rfl, hline⟩ := List.eq_append_cons_of_mem hback
          have hjoined : '\n' ∉ front ++ line := by simp [hfeed, hline]
          rw [firstLine_append_feed hline, ← List.append_assoc, lines_append_feed hjoined]
          simp
        · have hjoined : '\n' ∉ front ++ back := by simp [hfeed, hback]
          rw [firstLine_of_no_feed hback, if_neg hback]
          by_cases hnil : front ++ back = []
          · rw [hnil]
            rfl
          · rw [lines_of_no_feed hjoined hnil, if_neg hnil]
            rfl

end EntryFilter
