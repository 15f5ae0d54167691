import EntryFilter.Proofs.Text.Front
import EntryFilter.Text.Offset
import Mathlib.Data.List.DropRight

/-! # Trimmed texts

A text consists of blanks, its trimmed form, and blanks again. The trimmed form begins and ends
with a character that is not blank, so more blanks around the text do not change it. -/

namespace EntryFilter

open EntryFilter.Text

/-! ## The end of a text -/

theorem trimEnd_append_blanks {blanks : List Char} (h : ∀ b ∈ blanks, isBlank b = true)
    (cs : List Char) : trimEnd (cs ++ blanks) = trimEnd cs := by
  have hreverse : ∀ b ∈ blanks.reverse, isBlank b = true := by
    intro b hb
    exact h b (List.mem_reverse.1 hb)
  rw [trimEnd, List.reverse_append, List.dropWhile_append_of_pos hreverse, trimEnd]

theorem trimEnd_cons_of_not_blank {c : Char} (h : isBlank c = false) (cs : List Char) :
    trimEnd (c :: cs) = c :: trimEnd cs := by
  rw [trimEnd, trimEnd, List.reverse_cons, List.dropWhile_append]
  by_cases hblank : (cs.reverse.dropWhile isBlank).isEmpty = true
  · have hnil := List.isEmpty_iff.1 hblank
    simp [hnil, h]
  · rw [if_neg hblank, List.reverse_append]
    rfl

theorem trimEnd_append_of_not_blank {front : List Char} (h : ∀ c ∈ front, isBlank c = false)
    (cs : List Char) : trimEnd (front ++ cs) = front ++ trimEnd cs := by
  induction front with
  | nil => rfl
  | cons c front ih =>
      obtain ⟨hc, hfront⟩ := List.forall_mem_cons.1 h
      rw [List.cons_append, trimEnd_cons_of_not_blank hc, ih hfront, List.cons_append]

/-! ## Both ends -/

theorem trim_of_cons {c : Char} (h : isBlank c = false) (cs : List Char) :
    trim (c :: cs) = c :: trimEnd cs := by
  rw [trim, trimStart_of_not_blank h, trimEnd_cons_of_not_blank h]

/-- Trimming keeps a beginning without blanks. -/
theorem prefix_trim {front cs : List Char} (h : ∀ c ∈ front, isBlank c = false)
    (hbegins : front <+: cs) : front <+: trim cs := by
  obtain ⟨rest, rfl⟩ := hbegins
  cases front with
  | nil => exact List.nil_prefix
  | cons c front =>
      obtain ⟨hc, hfront⟩ := List.forall_mem_cons.1 h
      rw [List.cons_append, trim_of_cons hc, trimEnd_append_of_not_blank hfront]
      exact List.prefix_append (c :: front) _

/-- Trimming takes blanks off both ends and nothing else. -/
theorem exists_blanks_trim (cs : List Char) : ∃ front back, cs = front ++ (trim cs ++ back) ∧
    (∀ b ∈ front, isBlank b = true) ∧ ∀ b ∈ back, isBlank b = true := by
  refine ⟨cs.takeWhile isBlank, (trimStart cs).rtakeWhile isBlank, ?_, ?_, ?_⟩
  · have hback : trim cs ++ (trimStart cs).rtakeWhile isBlank = trimStart cs :=
      List.rdropWhile_append_rtakeWhile ..
    rw [hback]
    exact List.takeWhile_append_dropWhile.symm
  · intro b hb
    exact List.mem_takeWhile_imp hb
  · intro b hb
    exact List.mem_rtakeWhile_imp hb

theorem length_trim_le (cs : List Char) : (trim cs).length ≤ cs.length := by
  obtain ⟨front, back, hcs, -, -⟩ := exists_blanks_trim cs
  have hlength := congrArg List.length hcs
  simp only [List.length_append] at hlength
  omega

theorem byteLength_trim_le (cs : List Char) : byteLength (trim cs) ≤ byteLength cs := by
  obtain ⟨front, back, hcs, -, -⟩ := exists_blanks_trim cs
  have hlength := congrArg byteLength hcs
  rw [byteLength_append, byteLength_append] at hlength
  omega

theorem trim_of_not_blank {cs : List Char} (h : ∀ c ∈ cs, isBlank c = false) : trim cs = cs :=
  ((prefix_trim h List.prefix_rfl).eq_of_length_le (length_trim_le cs)).symm

theorem trim_between_blanks {front back : List Char} (hfront : ∀ b ∈ front, isBlank b = true)
    (hback : ∀ b ∈ back, isBlank b = true) (cs : List Char) :
    trim (front ++ (cs ++ back)) = trim cs := by
  rw [trim, trimStart_blanks_append hfront, trim]
  cases htrim : trimStart cs with
  | nil =>
      have hblank : trimStart back = [] := List.dropWhile_eq_nil_iff.2 hback
      rw [trimStart_append_of_nil htrim, hblank]
  | cons c rest =>
      rw [trimStart_append_of_cons htrim, ← List.cons_append, trimEnd_append_blanks hback]

theorem trim_blanks_append {blanks : List Char} (h : ∀ b ∈ blanks, isBlank b = true)
    (cs : List Char) : trim (blanks ++ cs) = trim cs := by
  have hnil : ∀ b ∈ ([] : List Char), isBlank b = true := nofun
  have hwide := trim_between_blanks h hnil cs
  rwa [List.append_nil] at hwide

theorem trim_append_blanks {blanks : List Char} (h : ∀ b ∈ blanks, isBlank b = true)
    (cs : List Char) : trim (cs ++ blanks) = trim cs := by
  have hnil : ∀ b ∈ ([] : List Char), isBlank b = true := nofun
  exact trim_between_blanks hnil h cs

@[simp] theorem trim_trim (cs : List Char) : trim (trim cs) = trim cs := by
  obtain ⟨front, back, hcs, hfront, hback⟩ := exists_blanks_trim cs
  have hwide := trim_between_blanks hfront hback (trim cs)
  rw [← hcs] at hwide
  exact hwide.symm

theorem trim_eq_nil_iff {cs : List Char} : trim cs = [] ↔ ∀ c ∈ cs, isBlank c = true := by
  constructor
  · intro h
    obtain ⟨front, back, hcs, hfront, hback⟩ := exists_blanks_trim cs
    rw [h, List.nil_append] at hcs
    intro c hc
    rw [hcs] at hc
    exact (List.mem_append.1 hc).elim (hfront c) (hback c)
  · intro h
    exact trim_append_blanks h []

theorem isBlank_of_trimStart_cons {cs rest : List Char} {c : Char} (h : trimStart cs = c :: rest) :
    isBlank c = false := by
  have hnot := List.head?_dropWhile_not isBlank cs
  rw [show cs.dropWhile isBlank = c :: rest from h] at hnot
  simpa using hnot

/-- A trimmed text begins as the text does behind its blanks. -/
theorem head?_trim (cs : List Char) : (trim cs).head? = (trimStart cs).head? := by
  rw [trim]
  cases htrim : trimStart cs with
  | nil => rfl
  | cons c rest =>
      rw [trimEnd_cons_of_not_blank (isBlank_of_trimStart_cons htrim)]
      rfl

/-! ## A character that is kept -/

/-- Trimming goes no further than a character that is not blank. -/
theorem trim_append_cons {c : Char} (h : isBlank c = false) (front back : List Char) :
    trim (front ++ c :: back) = trimStart front ++ c :: trimEnd back := by
  have hstart : trimStart (front ++ c :: back) = trimStart front ++ c :: back := by
    refine (takeWhile_append_of_head front ?_).2
    intro d hd
    rwa [← Option.some.inj hd]
  have hend : ((trimStart front ++ c :: back).reverse).dropWhile isBlank =
      back.reverse.dropWhile isBlank ++ c :: (trimStart front).reverse := by
    rw [List.reverse_append, List.reverse_cons, List.append_assoc, List.singleton_append]
    refine (takeWhile_append_of_head back.reverse ?_).2
    intro d hd
    rwa [← Option.some.inj hd]
  rw [trim, hstart, trimEnd, hend, List.reverse_append, List.reverse_cons, List.reverse_reverse,
    List.append_assoc, List.singleton_append, trimEnd]

@[simp] theorem trim_trimStart (cs : List Char) : trim (trimStart cs) = trim cs := by
  have hfront : ∀ b ∈ cs.takeWhile isBlank, isBlank b = true := by
    intro b hb
    exact List.mem_takeWhile_imp hb
  rw [← trim_blanks_append hfront, trimStart, List.takeWhile_append_dropWhile]

@[simp] theorem trim_trimEnd (cs : List Char) : trim (trimEnd cs) = trim cs := by
  have hback : ∀ b ∈ cs.rtakeWhile isBlank, isBlank b = true := by
    intro b hb
    exact List.mem_rtakeWhile_imp hb
  have hsplit : trimEnd cs ++ cs.rtakeWhile isBlank = cs := List.rdropWhile_append_rtakeWhile ..
  rw [← trim_append_blanks hback, hsplit]

theorem mem_of_mem_trimEnd {cs : List Char} {c : Char} (h : c ∈ trimEnd cs) : c ∈ cs := by
  have hbegins : trimEnd cs <+: cs := List.rdropWhile_prefix ..
  exact hbegins.mem h

/-- Without a blank at its end, only the blanks in front of a text are taken off. -/
theorem trim_eq_trimStart {cs : List Char} (h : ¬ ∃ b ∈ cs.getLast?, isBlank b = true) :
    trim cs = trimStart cs := by
  refine List.rdropWhile_eq_self_iff.2 fun hne hblank => h ⟨_, ?_, hblank⟩
  have hlast : cs.getLast? = (trimStart cs).getLast? := by
    conv_lhs => rw [← List.takeWhile_append_dropWhile (p := isBlank) (l := cs)]
    exact List.getLast?_append_of_ne_nil _ hne
  rw [hlast]
  exact List.getLast?_eq_some_getLast hne

/-- A text without blanks at its ends is trimmed already. -/
theorem trim_of_ends {cs : List Char} (hfront : ∀ c ∈ cs.head?, isBlank c = false)
    (hback : ∀ c ∈ cs.getLast?, isBlank c = false) : trim cs = cs := by
  have hend : ¬ ∃ b ∈ cs.getLast?, isBlank b = true := by
    rintro ⟨b, hb, hblank⟩
    exact Bool.false_ne_true ((hback b hb).symm.trans hblank)
  rw [trim_eq_trimStart hend]
  cases cs with
  | nil => rfl
  | cons c cs => exact trimStart_of_not_blank (hfront c rfl) cs

end EntryFilter
