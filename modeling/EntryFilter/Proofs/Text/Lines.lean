import EntryFilter.Proofs.Text.Trimming
import EntryFilter.Text.Cut

/-! # Lines of a text

A line feed ends a line and takes a carriage return in front of it along. Trimming takes carriage
returns off as well, so trimmed lines are what stands between the line feeds. -/

namespace EntryFilter

open EntryFilter.Text

/-- A character that ends no line is put in front of the first line. -/
theorem lines_cons {c : Char} {rest : List Char} (hfeed : c ≠ '\n')
    (hreturn : c = '\r' → rest.head? ≠ some '\n') :
    lines (c :: rest) =
      match lines rest with
      | [] => [[c]]
      | line :: more => (c :: line) :: more := by
  refine lines.eq_4 c rest hfeed ?_
  rintro after rfl rfl
  exact hreturn rfl rfl

theorem lines_of_no_feed {cs : List Char} (h : '\n' ∉ cs) (hne : cs ≠ []) : lines cs = [cs] := by
  induction cs with
  | nil => exact absurd rfl hne
  | cons c cs ih =>
      obtain ⟨hc, hcs⟩ := not_or.1 (mt List.mem_cons.2 h)
      have hreturn : c = '\r' → cs.head? ≠ some '\n' := by
        intro _ hhead
        exact hcs (List.mem_of_mem_head? hhead)
      rw [lines_cons (Ne.symm hc) hreturn]
      cases cs with
      | nil => rfl
      | cons d cs => rw [ih hcs (List.cons_ne_nil d cs)]

/-- A line without the carriage return at its end. -/
def withoutReturn (cs : List Char) : List Char :=
  if cs.getLast? = some '\r' then cs.dropLast else cs

theorem withoutReturn_cons (c : Char) {cs : List Char} (h : cs ≠ []) :
    withoutReturn (c :: cs) = c :: withoutReturn cs := by
  rw [withoutReturn, withoutReturn, List.getLast?_cons_of_ne_nil h, List.dropLast_cons_of_ne_nil h]
  split <;> rfl

theorem withoutReturn_append (xs : List Char) {ys : List Char} (h : ys ≠ []) :
    withoutReturn (xs ++ ys) = xs ++ withoutReturn ys := by
  induction xs with
  | nil => rfl
  | cons x xs ih =>
      have hne : xs ++ ys ≠ [] := List.append_ne_nil_of_right_ne_nil xs h
      rw [List.cons_append, withoutReturn_cons x hne, ih, List.cons_append]

theorem exists_withoutReturn_cons {c : Char} (cs : List Char) (h : c ≠ '\r') :
    ∃ rest, withoutReturn (c :: cs) = c :: rest := by
  by_cases hnil : cs = []
  · subst hnil
    exact ⟨[], if_neg (by simpa using h)⟩
  · exact ⟨_, withoutReturn_cons c hnil⟩

theorem mem_of_mem_withoutReturn {c : Char} {cs : List Char} (h : c ∈ withoutReturn cs) :
    c ∈ cs := by
  rw [withoutReturn] at h
  split at h
  · exact List.dropLast_subset cs h
  · exact h

/-- The first line feed ends the first line, and a carriage return in front of it goes along. -/
theorem lines_append_feed {cs : List Char} (h : '\n' ∉ cs) (rest : List Char) :
    lines (cs ++ '\n' :: rest) = withoutReturn cs :: lines rest := by
  induction cs with
  | nil => rfl
  | cons c cs ih =>
      obtain ⟨hc, hcs⟩ := not_or.1 (mt List.mem_cons.2 h)
      by_cases hnil : cs = []
      · subst hnil
        by_cases hreturn : c = '\r'
        · subst hreturn
          rfl
        · have hkept : withoutReturn [c] = [c] := if_neg (by simpa using hreturn)
          rw [hkept]
          exact lines_cons (Ne.symm hc) (absurd · hreturn)
      · have hhead : c = '\r' → (cs ++ '\n' :: rest).head? ≠ some '\n' := by
          intro _ hhead
          rw [List.head?_append_of_ne_nil cs hnil] at hhead
          exact hcs (List.mem_of_mem_head? hhead)
        rw [List.cons_append, lines_cons (Ne.symm hc) hhead, ih hcs, withoutReturn_cons c hnil]

theorem isBlank_return : ∀ b ∈ ['\r'], isBlank b = true := by
  intro b hb
  obtain rfl := List.mem_singleton.1 hb
  rfl

theorem trim_withoutReturn (cs : List Char) : trim (withoutReturn cs) = trim cs := by
  rw [withoutReturn]
  split
  · rename_i hreturn
    conv_rhs => rw [← List.dropLast_append_getLast? '\r' hreturn]
    exact (trim_append_blanks isBlank_return cs.dropLast).symm
  · rfl

/-- The first of the trimmed lines is what stands in front of the first line feed. -/
theorem trimmed_lines_append_feed {cs : List Char} (h : '\n' ∉ cs) (rest : List Char) :
    (lines (cs ++ '\n' :: rest)).map trim = trim cs :: (lines rest).map trim := by
  rw [lines_append_feed h, List.map_cons, trim_withoutReturn]

end EntryFilter
