import TestBench.Outcome.Result
import TestBench.Proofs.Decimal.Rounding
import TestBench.Proofs.Json.ReadReal

/-! Binary64 numbers that are not rounded: fractions that are whole numbers at their exponent, such
as integers of at most 53 bits. Durations of so many milliseconds are read as they are written. -/
namespace TestBench
namespace Binary64

variable {num den : Nat}

theorem eq_of_abs_sub_le_half {m k : Nat} (h : |(m : ℚ) - k| ≤ 1 / 2) : m = k := by
  obtain ⟨hlower, hupper⟩ := abs_le.mp h
  have hle : (m : ℚ) < (k + 1 : Nat) := by
    push_cast
    linarith
  have hge : (k : ℚ) < (m + 1 : Nat) := by
    push_cast
    linarith
  have hle' : m < k + 1 := by exact_mod_cast hle
  have hge' : k < m + 1 := by exact_mod_cast hge
  omega

theorem exists_ofRatio_eq (hnum : 0 < num) (hden : 0 < den) (hlimit : (num / den : ℚ) < overflow)
    (negative : Bool) {k : Nat} (hk : (num / den / 2 ^ exponentFor num den : ℚ) = k) :
    ∃ y, ofRatio? negative num den = some y ∧ y.negative = negative ∧ y.magnitude = num / den := by
  obtain ⟨hleast, hupper, hlower⟩ := exponentFor_bounds hnum hden
  set e := exponentFor num den with he
  have hpos : 0 < (scaled num den e).2 := scaled_pos hden e
  have hnear := abs_roundDiv_sub_le (scaled num den e).1 hpos
  rw [scaled_eq] at hnear
  set m := roundDiv (scaled num den e).1 (scaled num den e).2 with hm
  have hrounded : Rounded (num / den) m e := ⟨hleast, hupper, hlower, hnear⟩
  have hmk : m = k := eq_of_abs_sub_le_half (by rwa [hk] at hnear)
  have hcarry : m ≠ 2 * leastFull := by
    intro hfull
    rw [hk, ← hmk, hfull] at hupper
    norm_num [leastFull] at hupper
  have hratio : ofRatio? negative num den =
      if m = 2 * leastFull then mk? negative leastFull (e + 1) else mk? negative m e :=
        if_neg hnum.ne'
  rw [hratio, if_neg hcarry, mk?_eq_some negative (hrounded.canonical hlimit hcarry)]
  refine ⟨_, rfl, rfl, ?_⟩
  have hunit : (2 : ℚ) ^ e ≠ 0 := by positivity
  have hvalue : (m : ℚ) * 2 ^ e = num / den := by rw [hmk, ← hk, div_mul_cancel₀ _ hunit]
  exact hvalue

theorem exponent_le {n : Nat} (hn : n ≤ 2 ^ 53) {e : Int}
    (h : e = -1074 ∨ (2 : ℚ) ^ (52 : Int) ≤ n / 2 ^ e) :
    e ≤ 0 ∨ e = 1 ∧ n = 2 ^ 53 := by
  rcases h with rfl | h
  · exact .inl (by norm_num)
  have hunit : (0 : ℚ) < 2 ^ e := by positivity
  rw [le_div_iff₀ hunit, ← zpow_add₀ (by norm_num)] at h
  have hn' : (n : ℚ) ≤ 2 ^ (53 : Int) := by exact_mod_cast hn
  have hexponent : 52 + e ≤ 53 := (zpow_le_zpow_iff_right₀ (by norm_num)).mp (h.trans hn')
  rcases Int.lt_or_le 0 e with hpos | hle
  · obtain rfl : e = 1 := by omega
    have hge : 2 ^ 53 ≤ n := by exact_mod_cast h
    exact .inr ⟨rfl, Nat.le_antisymm hn hge⟩
  · exact .inl hle

theorem exists_ofNat_eq {n : Nat} (hn : n ≤ 2 ^ 53) :
    ∃ y, ofRatio? false n 1 = some y ∧ y.negative = false ∧ y.magnitude = n := by
  rcases Nat.eq_zero_or_pos n with rfl | hpos
  · exact ⟨zero false, rfl, rfl, by simp [magnitude, zero]⟩
  have hone : ((n : ℚ) / (1 : Nat)) = n := by simp
  have hlimit : ((n : ℚ) / (1 : Nat)) < overflow := by
    have hn' : (n : ℚ) ≤ 2 ^ 53 := by exact_mod_cast hn
    rw [hone]
    exact hn'.trans_lt (lt_of_le_of_lt (by norm_num) Json.big_lt_overflow)
  have hlower := (exponentFor_bounds hpos Nat.one_pos).2.2
  rw [hone] at hlower
  have hscaled : ∃ k : Nat, (n : ℚ) / 2 ^ exponentFor n 1 = k := by
    generalize exponentFor n 1 = e at hlower
    rcases exponent_le hn hlower with hle | ⟨rfl, rfl⟩
    · refine ⟨n * 2 ^ (-e).toNat, ?_⟩
      have hpower : (2 : ℚ) ^ (-e) = 2 ^ (-e).toNat := two_zpow_of_nonneg (by omega)
      rw [div_eq_mul_inv, ← zpow_neg, hpower]
      push_cast
      rfl
    · exact ⟨2 ^ 52, by norm_num⟩
  obtain ⟨k, hk⟩ := hscaled
  obtain ⟨y, hy, hnegative, hmagnitude⟩ :=
    exists_ofRatio_eq hpos Nat.one_pos hlimit false (by rwa [hone])
  exact ⟨y, hy, hnegative, by rw [hmagnitude, hone]⟩

theorem roundHalfUp_of_magnitude {x : Binary64} {n : Nat} (h : x.magnitude = n) :
    x.roundHalfUp = n := by
  have hpos : 0 < x.ratio.2 := x.ratio_pos
  have hne : (x.ratio.2 : ℚ) ≠ 0 := by exact_mod_cast hpos.ne'
  have hcross : (x.ratio.1 : ℚ) = n * x.ratio.2 := by rw [← h, ← ratio_eq, div_mul_cancel₀ _ hne]
  have hcross' : x.ratio.1 = n * x.ratio.2 := by exact_mod_cast hcross
  have hsum : 2 * x.ratio.1 + x.ratio.2 = 2 * x.ratio.2 * n + x.ratio.2 := by
    rw [hcross']
    ring
  rw [roundHalfUp]
  dsimp only
  rw [hsum, Nat.mul_add_div (by omega), Nat.div_eq_of_lt (by omega), Nat.add_zero]

end Binary64

@[simp] theorem Json.millis?_ofUInt64 {n : UInt64} (h : n.toNat ≤ 2 ^ 53) :
    Json.millis? (.number (.ofUInt64 n)) = some n := by
  obtain ⟨y, hy, hnegative, hmagnitude⟩ := Binary64.exists_ofNat_eq h
  have hread : (Number.ofUInt64 n).toBinary64? = some y := by
    have hsign : decide ((n.toNat : Int) < 0) = false := by simp
    rw [Number.ofUInt64, Number.toBinary64?, hsign, Int.natAbs_natCast, hy]
  have hkept : y.isNonnegative = true := by rw [Binary64.isNonnegative, hnegative]; rfl
  rw [Json.millis?, hread, Option.filter_some, if_pos hkept, Option.map_some, Binary64.toMillis,
    Binary64.roundHalfUp_of_magnitude hmagnitude, UInt64.ofNatClamp, dif_pos n.toNat_lt,
    UInt64.ofNatLT_toNat]

end TestBench
