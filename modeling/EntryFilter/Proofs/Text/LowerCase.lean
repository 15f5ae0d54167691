import EntryFilter.Proofs.Pattern.CaseAgreement
import EntryFilter.Text.CaseMap

/-! # Words in any letter case

In the whole lower-case mapping a letter from `a` to `z` comes from its own capital alone, except
that the Kelvin sign becomes `k`. So a text becomes a word without `k` in lower case if and only
if its letters from `A` to `Z`, made small, give the word. -/

namespace EntryFilter.Text

/-- Whether a run begins among the first 128 codes, leads behind them, or is the Kelvin sign. -/
def CaseRun.keepsApart (run : CaseRun) : Bool :=
  Nat.blt run.last 128 || Nat.ble 128 (run.image run.first) ||
    (Nat.beq run.first run.last && Nat.beq (run.image run.first) 'k'.toNat)

theorem lowercaseRuns_mapsChars : lowercaseRuns.all CaseRun.mapsChars = true := by
  decide +kernel

theorem lowercaseRuns_keepsApart : lowercaseRuns.all CaseRun.keepsApart = true := by
  decide +kernel

/-! ## Single characters -/

/-- What holds for the first 128 codes holds for their characters. -/
theorem of_ascii (P : Char → Prop) (h : ∀ n < 128, P (Char.ofNat n)) {c : Char}
    (hc : c.toNat < 128) : P c := by
  have hcode := h c.toNat hc
  rwa [Char.ofNat_toNat] at hcode

/-- What a check of each character has found holds of all of them. -/
theorem forall_mem_of_all {P : Char → Prop} [DecidablePred P] {cs : List Char}
    (h : cs.all (fun c => decide (P c)) = true) : ∀ c ∈ cs, P c := by
  intro c hc
  exact of_decide_eq_true (List.all_eq_true.1 h c hc)

theorem shiftBy_of_ascii {c : Char} (h : c.toNat < 128) :
    shiftBy lowercaseRuns c = c.toLower := by
  have hcodes : ∀ n < 128,
      shiftBy lowercaseRuns (Char.ofNat n) = (Char.ofNat n).toLower := by
    decide +kernel
  exact of_ascii (fun c => shiftBy lowercaseRuns c = c.toLower) hcodes h

/-- Behind the first 128 characters the mapping stays behind them, but for the Kelvin sign. -/
theorem shiftBy_of_not_ascii {c : Char} (h : 128 ≤ c.toNat) :
    128 ≤ (shiftBy lowercaseRuns c).toNat ∨ shiftBy lowercaseRuns c = 'k' := by
  rw [shiftBy]
  split
  · rename_i run hfind
    have hrun := List.mem_of_find?_eq_some hfind
    have hcovers := List.find?_some hfind
    have hmaps := List.all_eq_true.1 lowercaseRuns_mapsChars run hrun
    have hapart := List.all_eq_true.1 lowercaseRuns_keepsApart run hrun
    obtain ⟨hlow, hhigh, -⟩ := CaseRun.image_le hmaps hcovers
    have himage : (Char.ofNat (run.image c.toNat)).toNat = run.image c.toNat :=
      toNat_ofNat (CaseRun.valid_of_covers hmaps hcovers).2
    obtain ⟨-, hlast, -⟩ := CaseRun.covers_iff.1 hcovers
    simp only [CaseRun.keepsApart, Bool.or_eq_true, Bool.and_eq_true, Nat.blt_eq, Nat.ble_eq,
      Nat.beq_eq] at hapart
    rcases hapart with (hfirst | hbehind) | ⟨hsingle, hkelvin⟩
    · omega
    · left
      change 128 ≤ (Char.ofNat (run.image c.toNat)).toNat
      omega
    · right
      rw [← hsingle] at hhigh
      refine Char.toNat_inj.1 ?_
      change (Char.ofNat (run.image c.toNat)).toNat = 'k'.toNat
      omega
  · exact .inl h

theorem toLower_of_not_ascii {c : Char} (h : 128 ≤ c.toNat) : c.toLower = c := by
  have hcapital : ¬ (c.val ≥ 'A'.val ∧ c.val ≤ 'Z'.val) := by
    rintro ⟨-, hle⟩
    have hcode : c.toNat ≤ 90 := hle
    omega
  exact dif_neg hcapital

/-! ## Words -/

/-- The characters that nothing but themselves and their capitals become in lower case. -/
def IsPlainAscii (c : Char) : Prop := c.toNat < 128 ∧ c ≠ 'k'

instance (c : Char) : Decidable (IsPlainAscii c) := inferInstanceAs (Decidable (_ ∧ _))

theorem lowerAfter_of_ascii {cs : List Char} (h : ∀ c ∈ cs, c.toNat < 128)
    (before : List Char) : lowerAfter before cs = cs.map Char.toLower := by
  induction cs generalizing before with
  | nil => rfl
  | cons c cs ih =>
      obtain ⟨hc, hcs⟩ := List.forall_mem_cons.1 h
      have hsigma : c ≠ 'Σ' := by
        rintro rfl
        exact absurd hc (by decide)
      have hdotted : c ≠ 'İ' := by
        rintro rfl
        exact absurd hc (by decide)
      rw [lowerAfter, if_neg hsigma, lowerChar, if_neg hdotted, shiftBy_of_ascii hc, ih hcs]
      rfl

/-- No character vanishes in lower case. -/
theorem lower_eq_nil_iff {cs : List Char} : lower cs = [] ↔ cs = [] := by
  constructor
  · intro h
    cases cs with
    | nil => rfl
    | cons c cs =>
        rw [lower, lowerAfter, lowerChar] at h
        have hlow := (List.append_eq_nil_iff.1 h).1
        split_ifs at hlow
  · rintro rfl
    rfl

/-- Only ASCII text becomes a plain word. -/
theorem ascii_of_lowerAfter {before cs : List Char}
    (h : ∀ d ∈ lowerAfter before cs, IsPlainAscii d) : ∀ c ∈ cs, c.toNat < 128 := by
  induction cs generalizing before with
  | nil => exact nofun
  | cons c cs ih =>
      rw [lowerAfter] at h
      obtain ⟨hlow, hrest⟩ := List.forall_mem_append.1 h
      refine List.forall_mem_cons.2 ⟨?_, ih hrest⟩
      by_cases hsigma : c = 'Σ'
      · rw [if_pos hsigma] at hlow
        split at hlow
        · exact absurd (hlow 'ς' List.mem_cons_self) (by decide)
        · exact absurd (hlow 'σ' List.mem_cons_self) (by decide)
      · rw [if_neg hsigma, lowerChar] at hlow
        by_cases hdotted : c = 'İ'
        · rw [if_pos hdotted] at hlow
          exact absurd (hlow '\u0307' (by simp)) (by decide)
        · rw [if_neg hdotted] at hlow
          obtain ⟨hascii, hk⟩ := hlow _ List.mem_cons_self
          by_contra hnot
          rcases shiftBy_of_not_ascii (Nat.le_of_not_lt hnot) with hbehind | hkelvin
          · omega
          · exact hk hkelvin

theorem ascii_of_map_toLower {cs : List Char} (h : ∀ d ∈ cs.map Char.toLower, d.toNat < 128) :
    ∀ c ∈ cs, c.toNat < 128 := by
  intro c hc
  by_contra hnot
  have hlower := h _ (List.mem_map_of_mem hc)
  rw [toLower_of_not_ascii (Nat.le_of_not_lt hnot)] at hlower
  exact hnot hlower

/-- A text is a plain word in lower case if and only if it is the word up to capital letters. -/
theorem lower_eq_iff {cs word : List Char} (h : ∀ d ∈ word, IsPlainAscii d) :
    lower cs = word ↔ cs.map Char.toLower = word := by
  constructor
  · rintro rfl
    exact (lowerAfter_of_ascii (ascii_of_lowerAfter h) []).symm
  · rintro rfl
    have hascii := ascii_of_map_toLower fun d hd => (h d hd).1
    exact lowerAfter_of_ascii hascii []

end EntryFilter.Text
