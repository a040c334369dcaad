import Mathlib.Algebra.Order.Field.Power
import Mathlib.Data.Nat.Cast.Order.Field
import Mathlib.Data.Rat.Cast.Order
import Mathlib.Tactic.FieldSimp
import Mathlib.Tactic.Linarith
import Mathlib.Tactic.Positivity
import Mathlib.Tactic.Ring
import TestBench.Decimal.Binary64

/-! Rounding to binary64. A fraction below the overflow threshold has a nearest number, which is
away from it by at most half a unit in the last place. -/
namespace TestBench
namespace Binary64

theorem two_zpow_of_nonneg {e : Int} (h : 0 ≤ e) : (2 : ℚ) ^ e = 2 ^ e.toNat := by
  rw [← zpow_natCast, Int.toNat_of_nonneg h]

theorem two_zpow_of_neg {e : Int} (h : e < 0) : (2 : ℚ) ^ e = ((2 : ℚ) ^ (-e).toNat)⁻¹ := by
  rw [← zpow_natCast, Int.toNat_of_nonneg (by omega), zpow_neg, inv_inv]

def magnitude (x : Binary64) : ℚ := x.significand * 2 ^ x.exponent

theorem magnitude_nonneg (x : Binary64) : 0 ≤ x.magnitude := by
  rw [magnitude]
  positivity

theorem ratio_pos (x : Binary64) : 0 < x.ratio.2 := by
  rw [ratio]
  split
  · exact Nat.one_pos
  · rw [Nat.shiftLeft_eq]
    positivity

theorem ratio_eq (x : Binary64) : (x.ratio.1 : ℚ) / x.ratio.2 = x.magnitude := by
  rw [ratio, magnitude]
  split
  · next h =>
    rw [two_zpow_of_nonneg h, Nat.shiftLeft_eq]
    push_cast
    ring
  · next h =>
    rw [two_zpow_of_neg (by omega), Nat.shiftLeft_eq]
    push_cast
    ring

theorem roundDiv_bounds (n : Nat) {d : Nat} (hd : 0 < d) :
    2 * (roundDiv n d * d) ≤ 2 * n + d ∧ 2 * n ≤ 2 * (roundDiv n d * d) + d := by
  have hsplit := Nat.div_add_mod n d
  have hlt := Nat.mod_lt n hd
  have hcomm : n / d * d = d * (n / d) := Nat.mul_comm ..
  rw [roundDiv]
  split
  · next h =>
    rw [Nat.add_mul]
    simp only [gt_iff_lt, Bool.or_eq_true, decide_eq_true_eq, Bool.and_eq_true, beq_iff_eq] at h
    omega
  · next h =>
    simp only [gt_iff_lt, Bool.or_eq_true, decide_eq_true_eq, Bool.and_eq_true, beq_iff_eq] at h
    omega

theorem abs_roundDiv_sub_le (n : Nat) {d : Nat} (hd : 0 < d) :
    |(roundDiv n d : ℚ) - n / d| ≤ 1 / 2 := by
  obtain ⟨hupper, hlower⟩ := roundDiv_bounds n hd
  have hd' : (0 : ℚ) < d := by exact_mod_cast hd
  have hupper' : 2 * ((roundDiv n d : ℚ) * d) ≤ 2 * n + d := by exact_mod_cast hupper
  have hlower' : 2 * (n : ℚ) ≤ 2 * (roundDiv n d * d) + d := by exact_mod_cast hlower
  have hn : (n : ℚ) = n / d * d := by field_simp
  rw [abs_le]
  constructor <;> nlinarith

theorem scaled_pos {num den : Nat} (hden : 0 < den) (e : Int) : 0 < (scaled num den e).2 := by
  rw [scaled]
  split
  · dsimp only
    rw [Nat.shiftLeft_eq]
    positivity
  · exact hden

theorem scaled_eq (num den : Nat) (e : Int) :
    ((scaled num den e).1 : ℚ) / (scaled num den e).2 = num / den / 2 ^ e := by
  rw [scaled]
  split
  · next h =>
    rw [two_zpow_of_nonneg h, Nat.shiftLeft_eq]
    push_cast
    rw [div_div]
  · next h =>
    rw [two_zpow_of_neg (by omega), Nat.shiftLeft_eq]
    push_cast
    rw [div_inv_eq_mul]
    ring

theorem zpow_log2_le {n : Nat} (h : 0 < n) : (2 : ℚ) ^ (Nat.log2 n : Int) ≤ n := by
  rw [zpow_natCast]
  exact_mod_cast Nat.log2_self_le h.ne'

theorem lt_zpow_log2 (n : Nat) : (n : ℚ) < 2 ^ ((Nat.log2 n : Int) + 1) := by
  have h : (n : ℚ) < 2 ^ (Nat.log2 n + 1) := by exact_mod_cast Nat.lt_log2_self
  rwa [← zpow_natCast] at h

variable {num den : Nat}

theorem guess_bounds (hnum : 0 < num) (hden : 0 < den) {guess : Int}
    (h : guess = (Nat.log2 num : Int) - Nat.log2 den - 52) :
    (2 : ℚ) ^ (51 : Int) < num / den / 2 ^ guess ∧
    (num / den / 2 ^ guess : ℚ) < 2 ^ (53 : Int) := by
  have hd : (0 : ℚ) < den := by exact_mod_cast hden
  have hg : (0 : ℚ) < 2 ^ guess := by positivity
  rw [lt_div_iff₀ hg, lt_div_iff₀ hd, div_lt_iff₀ hg, div_lt_iff₀ hd]
  constructor
  · calc (2 : ℚ) ^ (51 : Int) * 2 ^ guess * den
        < 2 ^ (51 : Int) * 2 ^ guess * 2 ^ ((Nat.log2 den : Int) + 1) := by
          exact mul_lt_mul_of_pos_left (lt_zpow_log2 den) (by positivity)
      _ = 2 ^ (Nat.log2 num : Int) := by
          rw [← zpow_add₀ (by norm_num), ← zpow_add₀ (by norm_num)]
          congr 1
          omega
      _ ≤ num := zpow_log2_le hnum
  · calc (num : ℚ) < 2 ^ ((Nat.log2 num : Int) + 1) := lt_zpow_log2 num
      _ = 2 ^ (53 : Int) * 2 ^ guess * 2 ^ (Nat.log2 den : Int) := by
          rw [← zpow_add₀ (by norm_num), ← zpow_add₀ (by norm_num)]
          congr 1
          omega
      _ ≤ 2 ^ (53 : Int) * 2 ^ guess * den := by
          exact mul_le_mul_of_nonneg_left (zpow_log2_le hden) (by positivity)

/-- At its exponent a fraction has 53 bits before the point, or fewer at the least exponent. -/
theorem exponentFor_bounds (hnum : 0 < num) (hden : 0 < den) :
    -1074 ≤ exponentFor num den ∧ (num / den / 2 ^ exponentFor num den : ℚ) < 2 ^ (53 : Int) ∧
      (exponentFor num den = -1074 ∨
        (2 : ℚ) ^ (52 : Int) ≤ num / den / 2 ^ exponentFor num den) := by
  obtain ⟨hlow, hhigh⟩ := guess_bounds hnum hden rfl
  set guess : Int := (Nat.log2 num : Int) - Nat.log2 den - 52 with hguess
  have hpos : 0 < (scaled num den guess).2 := scaled_pos hden guess
  have hpos' : (0 : ℚ) < (scaled num den guess).2 := by exact_mod_cast hpos
  have hfor : exponentFor num den = max (-1074)
      (if (scaled num den guess).1 / (scaled num den guess).2 < leastFull then
        guess - 1 else guess) := rfl
  have hexact : ∃ e : Int, exponentFor num den = max (-1074) e ∧
    (2 : ℚ) ^ (52 : Int) ≤ num / den / 2 ^ e ∧
      (num / den / 2 ^ e : ℚ) < 2 ^ (53 : Int) := by
    have hfull : (leastFull : ℚ) = 2 ^ (52 : Int) := by norm_num [leastFull]
    split at hfor
    · next hlt =>
      refine ⟨guess - 1, hfor, ?_⟩
      rw [Nat.div_lt_iff_lt_mul hpos] at hlt
      have hlt' : ((scaled num den guess).1 : ℚ) < leastFull * (scaled num den guess).2 := by
        exact_mod_cast hlt
      rw [← div_lt_iff₀ hpos', scaled_eq, hfull] at hlt'
      have hdouble : (num / den / 2 ^ (guess - 1) : ℚ) = 2 * (num / den / 2 ^ guess) := by
        rw [zpow_sub_one₀ (by norm_num)]
        field_simp
      rw [hdouble]
      norm_num at hlow hlt' ⊢
      constructor <;> linarith
    · next hge =>
      refine ⟨guess, hfor, ?_, hhigh⟩
      rw [not_lt, Nat.le_div_iff_mul_le hpos] at hge
      have hge' : (leastFull : ℚ) * (scaled num den guess).2 ≤ (scaled num den guess).1 := by
        exact_mod_cast hge
      rwa [← le_div_iff₀ hpos', scaled_eq, hfull] at hge'
  obtain ⟨e, he, hlower, hupper⟩ := hexact
  rw [he]
  rcases le_total e (-1074) with hle | hle
  · rw [max_eq_left hle]
    refine ⟨le_rfl, lt_of_le_of_lt ?_ hupper, .inl rfl⟩
    have hmono : (2 : ℚ) ^ e ≤ 2 ^ (-1074 : Int) := zpow_le_zpow_right₀ (by norm_num) hle
    exact div_le_div_of_nonneg_left (by positivity) (by positivity) hmono
  · rw [max_eq_right hle]
    exact ⟨hle, hupper, .inr hlower⟩

/-- A number is off a fraction by at most half a unit in the last place of the exponent that the
fraction has. -/
def Nearest (q : ℚ) (y : Binary64) : Prop :=
  ∃ e : Int, |y.magnitude - q| ≤ 2 ^ (e - 1) ∧ (e = -1074 ∨ (2 : ℚ) ^ (52 + e) ≤ q)

/-- From here on a fraction is rounded to no finite number. -/
def overflow : ℚ := 2 ^ (1024 : Int) - 2 ^ (970 : Int)

theorem overflow_eq : overflow = (2 ^ (53 : Int) - 1 / 2) * 2 ^ (971 : Int) := by
  have hwhole : (2 : ℚ) ^ (1024 : Int) = 2 ^ (53 : Int) * 2 ^ (971 : Int) :=
    zpow_add₀ two_ne_zero 53 971
  have hhalf : (2 : ℚ) ^ (971 : Int) = 2 ^ (970 : Int) * 2 := zpow_add_one₀ two_ne_zero 970
  rw [overflow, hwhole, sub_mul, hhalf]
  ring

theorem mk?_eq_some (negative : Bool) {m : Nat} {e : Int} (h : IsBinary64 m e) :
    mk? negative m e = some ⟨negative, m, e, h⟩ := dif_pos h

/-- A fraction at its exponent, and a whole number that is nearest to it there. -/
structure Rounded (q : ℚ) (m : Nat) (e : Int) : Prop where
  least : -1074 ≤ e
  upper : q / 2 ^ e < 2 ^ (53 : Int)
  lower : e = -1074 ∨ (2 : ℚ) ^ (52 : Int) ≤ q / 2 ^ e
  near : |m - q / 2 ^ e| ≤ 1 / 2

namespace Rounded

variable {q : ℚ} {m : Nat} {e : Int}

theorem error (h : Rounded q m e) : |(m : ℚ) * 2 ^ e - q| ≤ 2 ^ (e - 1) := by
  have hunit : (0 : ℚ) < 2 ^ e := by positivity
  have hscale : (m : ℚ) * 2 ^ e - q = (m - q / 2 ^ e) * 2 ^ e := by field_simp
  rw [hscale, abs_mul, abs_of_pos hunit, zpow_sub_one₀ (by norm_num)]
  linarith [mul_le_mul_of_nonneg_right h.near hunit.le]

theorem place (h : Rounded q m e) : e = -1074 ∨ (2 : ℚ) ^ (52 + e) ≤ q := by
  have hunit : (0 : ℚ) < 2 ^ e := by positivity
  refine h.lower.imp id fun h => ?_
  rwa [le_div_iff₀ hunit, ← zpow_add₀ (by norm_num)] at h

theorem le_greatest (h : Rounded q m e) (hlimit : q < overflow) : e ≤ 971 := by
  rcases h.place with h | h
  · omega
  · have hlt : (2 : ℚ) ^ (52 + e) < 2 ^ (1024 : Int) := by
      have hpos : (0 : ℚ) < 2 ^ (970 : Int) := by positivity
      exact lt_of_le_of_lt h (hlimit.trans (sub_lt_self _ hpos))
    have := (zpow_lt_zpow_iff_right₀ (by norm_num)).mp hlt
    omega

theorem le_full (h : Rounded q m e) : m ≤ 2 * leastFull := by
  have hlt : (m : ℚ) < (2 * leastFull + 1 : Nat) := by
    have hfull : ((2 * leastFull + 1 : Nat) : ℚ) = 2 ^ (53 : Int) + 1 := by norm_num [leastFull]
    rw [hfull]
    linarith [(abs_le.mp h.near).2, h.upper]
  exact Nat.lt_succ_iff.mp (by exact_mod_cast hlt)

theorem canonical (h : Rounded q m e) (hlimit : q < overflow) (hne : m ≠ 2 * leastFull) :
    IsBinary64 m e := by
  have hle := h.le_full
  refine ⟨by omega, h.least, h.le_greatest hlimit, h.lower.imp id fun hlower => ?_⟩
  have hlt : (leastFull : ℚ) < (m + 1 : Nat) := by
    have hfull : (leastFull : ℚ) = 2 ^ (52 : Int) := by norm_num [leastFull]
    rw [hfull]
    push_cast
    linarith [(abs_le.mp h.near).1]
  exact Nat.lt_succ_iff.mp (by exact_mod_cast hlt)

theorem canonical_carry (h : Rounded q m e) (hlimit : q < overflow) (hcarry : m = 2 * leastFull) :
    IsBinary64 leastFull (e + 1) := by
  have hunit : (0 : ℚ) < 2 ^ e := by positivity
  have hleast := h.least
  have hgreatest := h.le_greatest hlimit
  have hne : e ≠ 971 := by
    rintro rfl
    have hlow : (2 ^ (53 : Int) - 1 / 2 : ℚ) * 2 ^ (971 : Int) ≤ q := by
      rw [← le_div_iff₀ hunit]
      have hfull : (m : ℚ) = 2 ^ (53 : Int) := by
        rw [hcarry]
        norm_num [leastFull]
      linarith [(abs_le.mp h.near).2]
    rw [← overflow_eq] at hlow
    exact absurd hlimit (not_lt.mpr hlow)
  exact ⟨by decide, by omega, by omega, .inr le_rfl⟩

end Rounded

theorem exists_ofRatio (hden : 0 < den) (hlimit : (num / den : ℚ) < overflow) (negative : Bool) :
    ∃ y, ofRatio? negative num den = some y ∧ Nearest (num / den) y := by
  rcases Nat.eq_zero_or_pos num with rfl | hnum
  · refine ⟨zero negative, rfl, -1074, ?_, .inl rfl⟩
    simp [magnitude, zero]
  obtain ⟨hleast, hupper, hlower⟩ := exponentFor_bounds hnum hden
  set e := exponentFor num den with he
  have hpos : 0 < (scaled num den e).2 := scaled_pos hden e
  have hnear := abs_roundDiv_sub_le (scaled num den e).1 hpos
  rw [scaled_eq] at hnear
  set m := roundDiv (scaled num den e).1 (scaled num den e).2 with hm
  have hrounded : Rounded (num / den) m e := ⟨hleast, hupper, hlower, hnear⟩
  have hratio : ofRatio? negative num den =
      if m = 2 * leastFull then mk? negative leastFull (e + 1) else mk? negative m e :=
        if_neg hnum.ne'
  rw [hratio]
  split
  · next hcarry =>
    rw [mk?_eq_some negative (hrounded.canonical_carry hlimit hcarry)]
    refine ⟨_, rfl, e, ?_, hrounded.place⟩
    have hsame : ((leastFull : Nat) : ℚ) * 2 ^ (e + 1) = m * 2 ^ e := by
      rw [hcarry, zpow_add_one₀ (by norm_num)]
      push_cast
      ring
    rw [magnitude, hsame]
    exact hrounded.error
  · next hne =>
    rw [mk?_eq_some negative (hrounded.canonical hlimit hne)]
    exact ⟨_, rfl, e, hrounded.error, hrounded.place⟩

section
variable {q : ℚ} {y : Binary64}

theorem Nearest.abs_sub_le (h : Nearest q y) (hq : 1 ≤ q) : |y.magnitude - q| ≤ q / 2 ^ 53 := by
  obtain ⟨e, herror, hplace⟩ := h
  have hplace' : (2 : ℚ) ^ (52 + e) ≤ q := by
    rcases hplace with rfl | h
    · refine le_trans ?_ hq
      exact zpow_le_one_of_nonpos₀ (by norm_num) (by norm_num)
    · exact h
  have hsplit : (2 : ℚ) ^ (52 + e) = 2 ^ (e - 1) * 2 ^ 53 := by
    rw [← zpow_natCast, ← zpow_add₀ (by norm_num)]
    congr 1
    push_cast
    ring
  rw [hsplit] at hplace'
  exact herror.trans ((le_div_iff₀ (by positivity)).mpr hplace')

theorem Nearest.abs_sub_le_one (h : Nearest q y) (hq : q < 2 ^ 54) : |y.magnitude - q| ≤ 1 := by
  obtain ⟨e, herror, hplace⟩ := h
  have hexponent : e - 1 ≤ 0 := by
    rcases hplace with rfl | h
    · norm_num
    · have hlt : (2 : ℚ) ^ (52 + e) < 2 ^ (54 : Int) := lt_of_le_of_lt h hq
      have := (zpow_lt_zpow_iff_right₀ (by norm_num)).mp hlt
      omega
  exact herror.trans (zpow_le_one_of_nonpos₀ (by norm_num) hexponent)

theorem Nearest.le_add_one (h : Nearest q y) (hq : 0 ≤ q) : y.magnitude ≤ q + q / 2 ^ 53 + 1 := by
  rcases le_or_gt 1 q with hone | hone
  · linarith [(abs_le.mp (h.abs_sub_le hone)).2]
  · have herror := h.abs_sub_le_one (by linarith)
    have hpos : 0 ≤ q / 2 ^ 53 := by positivity
    linarith [(abs_le.mp herror).2]

end

theorem exists_ofNat {n : Nat} (h : (n : ℚ) < overflow) : ∃ y, ofNat? n = some y ∧ Nearest n y := by
  have hsame : ((n : Nat) : ℚ) / (1 : Nat) = n := by simp
  have hround := exists_ofRatio Nat.one_pos (by rwa [hsame]) false
  rwa [hsame] at hround

theorem exists_mul {x y : Binary64} (h : x.magnitude * y.magnitude < overflow) :
    ∃ z, mul? x y = some z ∧ Nearest (x.magnitude * y.magnitude) z := by
  have hsame : ((x.ratio.1 * y.ratio.1 : Nat) : ℚ) / (x.ratio.2 * y.ratio.2 : Nat) =
      x.magnitude * y.magnitude := by
    rw [← ratio_eq, ← ratio_eq, div_mul_div_comm]
    push_cast
    rfl
  rw [← hsame] at h ⊢
  exact exists_ofRatio (Nat.mul_pos x.ratio_pos y.ratio_pos) h _

theorem exists_div {x y : Binary64} (hy : 0 < y.magnitude)
    (h : x.magnitude / y.magnitude < overflow) :
    ∃ z, div? x y = some z ∧ Nearest (x.magnitude / y.magnitude) z := by
  have hsame : ((x.ratio.1 * y.ratio.2 : Nat) : ℚ) / (x.ratio.2 * y.ratio.1 : Nat) =
      x.magnitude / y.magnitude := by
    rw [← ratio_eq, ← ratio_eq, div_div_div_eq]
    push_cast
    rfl
  have hnum : 0 < y.ratio.1 := by
    rw [Nat.pos_iff_ne_zero]
    intro hzero
    rw [← ratio_eq, hzero] at hy
    simp at hy
  rw [← hsame] at h ⊢
  exact exists_ofRatio (Nat.mul_pos x.ratio_pos hnum) h _

end Binary64
end TestBench
