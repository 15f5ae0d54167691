import EntryFilter.Text.CaseFold
import Mathlib.Data.List.Pairwise
import Mathlib.Order.Basic

/-! # Agreement up to case

The variants of a character are exactly the characters that fold to the same one. This rests on
three properties of the table: its runs lie one behind the other, they lead from characters to
characters, and nothing that a run leads to is folded again. -/

namespace EntryFilter.Text

namespace CaseRun

/-- The code to which the run maps the first or the last of its codes. -/
def image (run : CaseRun) (code : Nat) : Nat := (code + run.shift).toNat

/-- Whether the codes between two others are codes of characters. -/
def areChars (first last : Nat) : Bool :=
  Nat.blt last 0xD800 || (Nat.blt 0xDFFF first && Nat.blt last 0x110000)

/-- Whether a run leads from characters to characters and leaves the code zero alone. -/
def mapsChars (run : CaseRun) : Bool :=
  (Nat.blt 0 run.first && 0 ≤ run.first + run.shift) && areChars run.first run.last &&
    areChars (run.image run.first) (run.image run.last)

/-- Whether no code from `first` to `last` is covered by a run: either all of them lie outside, or
they have the other parity than the codes of the run. -/
def leavesAlone (first last : Nat) (sameParity : Bool) (run : CaseRun) : Bool :=
  Nat.blt last run.first || Nat.blt run.last first ||
    (sameParity && Nat.beq run.step 2 && Nat.beq ((first + run.first) % 2) 1)

/-- Whether nothing that a run leads to is covered by a run of the table. -/
def isFinal (table : List CaseRun) (run : CaseRun) : Bool :=
  table.all (leavesAlone (run.image run.first) (run.image run.last)
    (Nat.beq run.step 2 || Nat.beq run.first run.last))

/-- Whether the runs lie one behind the other. -/
def areOrdered : List CaseRun → Bool
  | a :: b :: rest => Nat.ble b.first b.last && Nat.blt a.last b.first && areOrdered (b :: rest)
  | _ => true

end CaseRun

/-! ## The table -/

theorem foldRuns_areOrdered : CaseRun.areOrdered foldRuns = true := by decide +kernel

theorem foldRuns_mapsChars : foldRuns.all CaseRun.mapsChars = true := by decide +kernel

theorem foldRuns_isFinal : foldRuns.all (CaseRun.isFinal foldRuns) = true := by decide +kernel

namespace CaseRun

theorem covers_iff {run : CaseRun} {code : Nat} :
    run.covers code = true ↔
      run.first ≤ code ∧ code ≤ run.last ∧ (code - run.first) % run.step = 0 := by
  simp [covers, and_assoc]

theorem areOrdered_cons {a : CaseRun} {rest : List CaseRun} (h : areOrdered (a :: rest) = true) :
    (∀ b ∈ rest, a.last < b.first) ∧ areOrdered rest = true := by
  induction rest generalizing a with
  | nil => exact ⟨nofun, rfl⟩
  | cons b rest ih =>
      simp only [areOrdered, Bool.and_eq_true, Nat.ble_eq, Nat.blt_eq] at h
      obtain ⟨⟨hb, hab⟩, hrest⟩ := h
      refine ⟨fun c hc => ?_, hrest⟩
      rcases List.mem_cons.1 hc with rfl | hc
      · exact hab
      · have := (ih hrest).1 c hc
        omega

/-- No code is covered by two runs of an ordered table. -/
theorem find_covers {table : List CaseRun} (htable : areOrdered table = true) {run : CaseRun}
    (hrun : run ∈ table) {code : Nat} (h : run.covers code = true) :
    table.find? (·.covers code) = some run := by
  induction table with
  | nil => cases hrun
  | cons a rest ih =>
      obtain ⟨hbehind, hrest⟩ := areOrdered_cons htable
      rcases List.mem_cons.1 hrun with rfl | hrun
      · exact List.find?_cons_of_pos h
      · have ha : a.covers code = false := by
          have := hbehind run hrun
          rw [covers_iff] at h
          rw [Bool.eq_false_iff, ne_eq, covers_iff]
          omega
        simpa only [List.find?_cons, ha] using ih hrest hrun

theorem areChars_valid {first last code : Nat} (h : areChars first last = true)
    (hfirst : first ≤ code) (hlast : code ≤ last) : code.isValidChar := by
  simp only [areChars, Bool.or_eq_true, Bool.and_eq_true, Nat.blt_eq] at h
  simp only [Nat.isValidChar]
  omega

theorem image_le {run : CaseRun} (h : run.mapsChars = true) {code : Nat}
    (hcode : run.covers code = true) :
    run.image run.first ≤ run.image code ∧ run.image code ≤ run.image run.last ∧
      ((run.image code : Nat) : Int) = code + run.shift := by
  simp only [mapsChars, Bool.and_eq_true, decide_eq_true_eq] at h
  rw [covers_iff] at hcode
  simp only [image]
  omega

theorem valid_of_covers {run : CaseRun} (h : run.mapsChars = true) {code : Nat}
    (hcode : run.covers code = true) : code.isValidChar ∧ (run.image code).isValidChar := by
  obtain ⟨hlow, hhigh, -⟩ := image_le h hcode
  simp only [mapsChars, Bool.and_eq_true] at h
  obtain ⟨hfirst, hlast, -⟩ := covers_iff.1 hcode
  exact ⟨areChars_valid h.1.2 hfirst hlast, areChars_valid h.2 hlow hhigh⟩

end CaseRun

/-! ## Folding -/

theorem toNat_ofNat {code : Nat} (h : code.isValidChar) : (Char.ofNat code).toNat = code := by
  rw [Char.ofNat, dif_pos h]
  rfl

theorem foldCase_of_covers {run : CaseRun} (hrun : run ∈ foldRuns) {c : Char}
    (h : run.covers c.toNat = true) : (foldCase c).toNat = run.image c.toNat := by
  have hmaps := List.all_eq_true.1 foldRuns_mapsChars run hrun
  have hvalid := (CaseRun.valid_of_covers hmaps h).2
  simp only [foldCase, shiftBy, CaseRun.find_covers foldRuns_areOrdered hrun h]
  exact toNat_ofNat hvalid

theorem foldCase_of_uncovered {c : Char} (h : ∀ run ∈ foldRuns, run.covers c.toNat = false) :
    foldCase c = c := by
  have hfind : foldRuns.find? (·.covers c.toNat) = none :=
    List.find?_eq_none.2 fun run hrun => by simp [h run hrun]
  simp only [foldCase, shiftBy, hfind]

/-- A character that is folded is covered by some run, all others are left alone. -/
theorem covers_or_foldCase_eq (c : Char) :
    (∃ run ∈ foldRuns, run.covers c.toNat = true) ∨ foldCase c = c := by
  by_cases h : ∃ run ∈ foldRuns, run.covers c.toNat = true
  · exact .inl h
  · refine .inr (foldCase_of_uncovered fun run hrun => Bool.eq_false_iff.2 fun hcovers => ?_)
    exact h ⟨run, hrun, hcovers⟩

theorem image_uncovered {run : CaseRun} (hrun : run ∈ foldRuns) {code : Nat}
    (h : run.covers code = true) : ∀ other ∈ foldRuns, other.covers (run.image code) = false := by
  intro other hother
  have hmaps := List.all_eq_true.1 foldRuns_mapsChars run hrun
  have hfinal := List.all_eq_true.1 foldRuns_isFinal run hrun
  have halone := List.all_eq_true.1 hfinal other hother
  obtain ⟨hlow, hhigh, himage⟩ := CaseRun.image_le hmaps h
  have hfirst : ((run.image run.first : Nat) : Int) = run.first + run.shift := by
    simp only [CaseRun.mapsChars, Bool.and_eq_true, decide_eq_true_eq] at hmaps
    exact Int.toNat_of_nonneg hmaps.1.1.2
  simp only [CaseRun.leavesAlone, Bool.or_eq_true, Bool.and_eq_true, Nat.blt_eq,
    Nat.beq_eq] at halone
  rw [Bool.eq_false_iff, ne_eq, CaseRun.covers_iff]
  rw [CaseRun.covers_iff] at h
  rcases halone with (hbehind | hbefore) | ⟨⟨hparity, hstep⟩, hodd⟩
  · omega
  · omega
  · -- The codes of a run of step two all have one parity.
    rw [hstep]
    rcases hparity with hparity | hparity
    · rw [hparity] at h
      omega
    · omega

theorem foldCase_foldCase (c : Char) : foldCase (foldCase c) = foldCase c := by
  rcases covers_or_foldCase_eq c with ⟨run, hrun, h⟩ | h
  · refine foldCase_of_uncovered ?_
    rw [foldCase_of_covers hrun h]
    exact image_uncovered hrun h
  · rw [h, h]

theorem source_eq_some {run : CaseRun} (hrun : run ∈ foldRuns) {base d : Char} :
    run.source? base = some d ↔ run.covers d.toNat = true ∧ run.image d.toNat = base.toNat := by
  have hmaps := List.all_eq_true.1 foldRuns_mapsChars run hrun
  simp only [CaseRun.source?]
  constructor
  · intro h
    split at h
    · rename_i hcovers
      have hd := Option.some.inj h
      have hcode := toNat_ofNat (CaseRun.valid_of_covers hmaps hcovers).1
      rw [hd] at hcode
      rw [← hcode] at hcovers
      refine ⟨hcovers, ?_⟩
      obtain ⟨-, -, himage⟩ := CaseRun.image_le hmaps hcovers
      simp only [CaseRun.mapsChars, Bool.and_eq_true, Nat.blt_eq] at hmaps
      obtain ⟨hfirst, -, -⟩ := CaseRun.covers_iff.1 hcovers
      omega
    · cases h
  · rintro ⟨hcovers, hbase⟩
    obtain ⟨-, -, himage⟩ := CaseRun.image_le hmaps hcovers
    have hcode : ((base.toNat : Int) - run.shift).toNat = d.toNat := by omega
    rw [hcode, if_pos hcovers, Char.ofNat_toNat]

/-- The variants of a character are the characters that fold to the same one. -/
theorem mem_caseVariants {c d : Char} : d ∈ caseVariants c ↔ foldCase d = foldCase c := by
  simp only [caseVariants, List.mem_cons, List.mem_filterMap]
  constructor
  · rintro (rfl | rfl | ⟨run, hrun, hsource⟩)
    · rfl
    · exact foldCase_foldCase c
    · obtain ⟨hcovers, himage⟩ := (source_eq_some hrun).1 hsource
      exact Char.toNat_inj.1 ((foldCase_of_covers hrun hcovers).trans himage)
  · intro h
    rcases covers_or_foldCase_eq d with ⟨run, hrun, hcovers⟩ | hd
    · have himage := foldCase_of_covers hrun hcovers
      rw [h] at himage
      exact .inr (.inr ⟨run, hrun, (source_eq_some hrun).2 ⟨hcovers, himage.symm⟩⟩)
    · exact .inr (.inl (hd.symm.trans h))

end EntryFilter.Text
