import EntryFilter.Proofs.Number.Exact
import Mathlib.Tactic.NormNum

/-! # Nearest numbers

A rational number is rounded to the number of the format that is nearest to it, and halfway between
two of them to the one with the even significand. Beyond the largest number of the format, from half
a step on, it is rounded to infinity. This determines the result up to the sign of zero, and numbers
of the format are rounded to themselves. -/

namespace EntryFilter.Binary64

/-- As a place for `q` to be rounded to, `x` is preferred to `y`: it is nearer, or the same, or it
is as near and its significand `m` is even, where the significand `k` of `y` is odd. -/
def Preferred (q x : ℚ) (m : Int) (y : ℚ) (k : Int) : Prop :=
  |q - x| < |q - y| ∨ x = y ∨ |q - x| = |q - y| ∧ m % 2 = 0 ∧ k % 2 = 1

/-- The first rational number that is rounded to infinity, half a step behind the largest number of
the format. -/
def bound : ℚ := 2 ^ 1024 - 2 ^ 970

/-- The rational number `q` is rounded to the number. -/
def IsNearest (q : ℚ) : Binary64 → Prop
  | nan => False
  | infinity negative => bound ≤ signed negative q
  | finite negative m e _ =>
    |q| < bound ∧ ∀ negative' m' e', CanonicalParts m' e' →
      Preferred q (signed negative (m * 2 ^ e)) m (signed negative' (m' * 2 ^ e')) m'

/-- The rational number is a number of the format. -/
def InFormat (q : ℚ) : Prop := ∃ x : Binary64, x.toRat? = some q

/-! ## Preferences -/

namespace Preferred

variable {q x y : ℚ} {m k : Int}

theorem le (h : Preferred q x m y k) : |q - x| ≤ |q - y| := by
  rcases h with hlt | rfl | ⟨heq, -⟩
  · exact hlt.le
  · exact le_rfl
  · exact heq.le

/-- Of two different places only one is preferred to the other. -/
theorem antisymm (h : Preferred q x m y k) (h' : Preferred q y k x m) : x = y := by
  rcases h with hlt | heq | ⟨hdist, heven, -⟩
  · exact absurd h'.le (not_le.2 hlt)
  · exact heq
  · rcases h' with hlt | heq | ⟨-, -, hodd⟩
    · exact absurd hdist.le (not_le.2 hlt)
    · exact heq.symm
    · omega

/-- Nothing else is preferred to `q` itself. -/
theorem eq_of_self (h : Preferred q x m q k) : x = q := by
  have hle := h.le
  rw [sub_self, abs_zero] at hle
  exact (sub_eq_zero.1 (abs_nonpos_iff.1 hle)).symm

theorem of_even {m' : Int} (hm : m' % 2 = 0) (h : Preferred q x m y k) : Preferred q x m' y k :=
  h.imp_right fun h => h.imp_right fun ⟨hdist, _, hodd⟩ => ⟨hdist, hm, hodd⟩

theorem neg (h : Preferred q x m y k) : Preferred (-q) (-x) m (-y) k := by
  have hmirror (z : ℚ) : |-q - -z| = |q - z| := by
    rw [neg_sub_neg, abs_sub_comm]
  rwa [Preferred, hmirror, hmirror, neg_inj]

theorem mul_right {c : ℚ} (hc : 0 < c) (h : Preferred q x m y k) :
    Preferred (q * c) (x * c) m (y * c) k := by
  have hscale (z : ℚ) : |q * c - z * c| = |q - z| * c := by
    rw [← sub_mul, abs_mul, abs_of_pos hc]
  rwa [Preferred, hscale, hscale, mul_lt_mul_iff_left₀ hc, mul_left_inj' hc.ne',
    mul_left_inj' hc.ne']

end Preferred

/-! ## The bound -/

/-- In terms of the last step, the bound has 53 digits and a half. -/
theorem bound_eq : bound = (2 ^ 53 - 1 / 2) * 2 ^ (971 : Int) := by
  have htop : (2 : ℚ) ^ 1024 = 2 ^ 53 * 2 ^ 971 := by rw [← pow_add]
  have hhalf : (2 : ℚ) ^ 971 = 2 ^ 970 * 2 := pow_succ 2 970
  have hcast : (2 : ℚ) ^ (971 : Int) = 2 ^ 971 := zpow_natCast 2 971
  rw [bound, htop, hcast, hhalf]
  generalize (2 : ℚ) ^ 970 = half
  ring

theorem mul_zpow_lt_bound {c : ℚ} {e : Int} (hnonneg : 0 ≤ c) (hc : c < 2 ^ 53 - 1 / 2)
    (he : e ≤ 971) : c * 2 ^ e < bound := by
  rw [bound_eq]
  calc c * 2 ^ e ≤ c * 2 ^ (971 : Int) := by
        gcongr
        exact one_le_two
    _ < (2 ^ 53 - 1 / 2) * 2 ^ (971 : Int) := mul_lt_mul_of_pos_right hc (zpow_pos two_pos _)

theorem bound_le_mul_zpow {c : ℚ} {e : Int} (hc : 2 ^ 53 - 1 / 2 ≤ c) (he : 971 ≤ e) :
    bound ≤ c * 2 ^ e := by
  have hnonneg : (0 : ℚ) ≤ 2 ^ 53 - 1 / 2 := by norm_num
  rw [bound_eq]
  exact mul_le_mul hc (zpow_le_zpow_right₀ one_le_two he) (zpow_pos two_pos _).le
    (hnonneg.trans hc)

theorem abs_lt_bound {q : ℚ} (h : InFormat q) : |q| < bound := by
  obtain ⟨x, hx⟩ := h
  cases x with
  | nan => cases hx
  | infinity negative => cases hx
  | finite negative m e canonical =>
      obtain rfl := Option.some.inj hx
      obtain ⟨hm, -, he, -⟩ := canonical
      have hm : (m : ℚ) + 1 ≤ 2 ^ 53 := by exact_mod_cast hm
      rw [abs_signed, abs_of_nonneg (by positivity)]
      exact mul_zpow_lt_bound m.cast_nonneg (by linarith) he

/-! ## The nearest number -/

namespace IsNearest

variable {q : ℚ} {x y : Binary64}

theorem abs_lt_iff (h : x.IsNearest q) : |q| < bound ↔ x.isFinite = true := by
  cases x with
  | nan => exact h.elim
  | infinity negative =>
      exact iff_of_false (not_lt.2 (h.trans (signed_le_abs negative q))) Bool.false_ne_true
  | finite negative m e canonical => exact iff_of_true h.1 rfl

/-- There is one nearest number only, up to the sign of zero. -/
theorem unique (hx : x.IsNearest q) (hy : y.IsNearest q) : x.toRat? = y.toRat? := by
  have hfinite := hx.abs_lt_iff.symm.trans hy.abs_lt_iff
  cases x with
  | nan => exact hx.elim
  | infinity negative =>
      cases y with
      | finite => exact absurd (hfinite.2 rfl) Bool.false_ne_true
      | _ => rfl
  | finite negative m e canonical =>
      cases y with
      | finite negative' m' e' canonical' =>
          exact congrArg some
            ((hx.2 negative' m' e' canonical').antisymm (hy.2 negative m e canonical))
      | _ => exact absurd (hfinite.1 rfl) Bool.false_ne_true

/-- A number of the format is rounded to itself. -/
theorem toRat?_eq (hx : x.IsNearest q) (hq : InFormat q) : x.toRat? = some q := by
  have hfinite := hx.abs_lt_iff.1 (abs_lt_bound hq)
  obtain ⟨y, hy⟩ := hq
  cases y with
  | nan => cases hy
  | infinity negative => cases hy
  | finite negative' m' e' canonical' =>
      obtain rfl := Option.some.inj hy
      cases x with
      | finite negative m e canonical =>
          exact congrArg some (hx.2 negative' m' e' canonical').eq_of_self
      | _ => exact absurd hfinite Bool.false_ne_true

theorem toRat?_eq_self_iff (hx : x.IsNearest q) : x.toRat? = some q ↔ InFormat q :=
  ⟨fun h => ⟨x, h⟩, hx.toRat?_eq⟩

end IsNearest

end EntryFilter.Binary64
