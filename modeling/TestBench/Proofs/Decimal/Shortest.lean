import TestBench.Decimal.Shortest
import TestBench.Proofs.Decimal.Rounding

/-! The shortest decimal of a number. It reads back to the number, seventeen digits suffice, and it
lies below the upper end of the fractions that are rounded to the number. -/
namespace TestBench
namespace Binary64

theorem tens_eq (n : Nat) : tens n = 10 ^ n := rfl

theorem ten_zpow_of_nonneg {e : Int} (h : 0 ≤ e) : (10 : ℚ) ^ e = tens e.toNat := by
  rw [tens_eq, Nat.cast_pow, ← zpow_natCast, Int.toNat_of_nonneg h]
  rfl

theorem ten_zpow_of_neg {e : Int} (h : e < 0) : (10 : ℚ) ^ e = (tens (-e).toNat : ℚ)⁻¹ := by
  rw [← ten_zpow_of_nonneg (by omega), zpow_neg, inv_inv]

theorem tens_pos (n : Nat) : 0 < tens n := by
  rw [tens_eq]
  positivity

namespace Decimal

def value (d : Decimal) : ℚ := d.digits * 10 ^ d.exponent

theorem ratio_pos (d : Decimal) : 0 < d.ratio.2 := by
  rw [ratio]
  split
  · exact Nat.one_pos
  · exact tens_pos _

theorem ratio_eq (d : Decimal) : (d.ratio.1 : ℚ) / d.ratio.2 = d.value := by
  rw [ratio, value]
  split
  · next h =>
    rw [ten_zpow_of_nonneg h]
    push_cast
    ring
  · next h =>
    rw [ten_zpow_of_neg (by omega)]
    ring

end Decimal

variable {x : Binary64}

theorem cast_lt_of_div_lt {a b c d : Nat} (hb : 0 < b) (hd : 0 < d) (h : (a / b : ℚ) < c / d) :
    a * d < c * b := by
  have hb' : (0 : ℚ) < b := by exact_mod_cast hb
  have hd' : (0 : ℚ) < d := by exact_mod_cast hd
  rw [div_lt_div_iff₀ hb' hd'] at h
  exact_mod_cast h

theorem div_le_of_cast_le {a b c d : Nat} (hb : 0 < b) (hd : 0 < d) (h : a * d ≤ c * b) :
    (a / b : ℚ) ≤ c / d := by
  have hb' : (0 : ℚ) < b := by exact_mod_cast hb
  have hd' : (0 : ℚ) < d := by exact_mod_cast hd
  rw [div_le_div_iff₀ hb' hd']
  exact_mod_cast h

theorem upperEnd_pos (h : x.significand ≠ 0) : 0 < x.upperEnd.2 := by
  have hform : x.upperEnd.2 = 2 * x.ratio.2 * x.significand := rfl
  have hratio := x.ratio_pos
  have hpos := Nat.pos_of_ne_zero h
  rw [hform]
  positivity

theorem upperEnd_eq (h : x.significand ≠ 0) :
    (x.upperEnd.1 / x.upperEnd.2 : ℚ) = (x.significand + 1 / 2) * 2 ^ x.exponent := by
  have hnum : x.upperEnd.1 = x.ratio.1 * (2 * x.significand + 1) := rfl
  have hden : x.upperEnd.2 = 2 * x.ratio.2 * x.significand := rfl
  have hm : (x.significand : ℚ) ≠ 0 := by exact_mod_cast h
  have hb : (x.ratio.2 : ℚ) ≠ 0 := by exact_mod_cast x.ratio_pos.ne'
  have hratio := x.ratio_eq
  rw [magnitude, div_eq_iff hb] at hratio
  rw [hnum, hden]
  push_cast
  rw [hratio]
  field_simp

theorem lowerEnd_eq (x : Binary64) : x.lowerEnd = if x.significand = leastFull ∧ x.exponent ≠ -1074
    then (x.ratio.1 * (4 * x.significand - 1), 4 * x.ratio.2 * x.significand)
    else (x.ratio.1 * (2 * x.significand - 1), 2 * x.ratio.2 * x.significand) := rfl

theorem lowerEnd_pos (h : x.significand ≠ 0) : 0 < x.lowerEnd.2 := by
  have hratio := x.ratio_pos
  have hpos := Nat.pos_of_ne_zero h
  rw [lowerEnd_eq]
  split <;> positivity

/-- The lower end is at least a quarter of a unit in the last place below the number. -/
theorem lowerEnd_le (h : x.significand ≠ 0) :
    (x.lowerEnd.1 / x.lowerEnd.2 : ℚ) ≤ x.magnitude - x.magnitude / 2 ^ 54 := by
  have hpos := Nat.pos_of_ne_zero h
  have hm : (0 : ℚ) < x.significand := by exact_mod_cast hpos
  have hb : (x.ratio.2 : ℚ) ≠ 0 := by exact_mod_cast x.ratio_pos.ne'
  have hmagnitude := x.magnitude_nonneg
  have hratio := x.ratio_eq
  rw [div_eq_iff hb] at hratio
  rw [lowerEnd_eq]
  split
  · next hleast =>
    have hfull : (x.significand : ℚ) = 2 ^ 52 := by
      rw [hleast.1]
      norm_num [leastFull]
    rw [Nat.cast_mul, Nat.cast_sub (by omega), hratio]
    push_cast
    have hsame :
        x.magnitude * x.ratio.2 * (4 * x.significand - 1) / (4 * x.ratio.2 * x.significand) =
          x.magnitude - x.magnitude / (4 * x.significand) := by field_simp
    rw [hsame, hfull]
    norm_num
  · have hsmall : (2 * x.significand : ℚ) ≤ 2 ^ 54 := by
      have hnat : x.significand < 9007199254740992 := x.canonical.1
      have hcast : (x.significand : ℚ) < 9007199254740992 := by exact_mod_cast hnat
      norm_num
      linarith
    rw [Nat.cast_mul, Nat.cast_sub (by omega), hratio]
    push_cast
    have hsame :
        x.magnitude * x.ratio.2 * (2 * x.significand - 1) / (2 * x.ratio.2 * x.significand) =
          x.magnitude - x.magnitude / (2 * x.significand) := by field_simp
    rw [hsame]
    exact sub_le_sub_left (div_le_div_of_nonneg_left hmagnitude (by positivity) hsmall) _

theorem readsAs_eq (x : Binary64) (d : Decimal) : readsAs x d = if x.significand % 2 = 0
    then decide (x.lowerEnd.1 * d.ratio.2 ≤ d.ratio.1 * x.lowerEnd.2) &&
      decide (d.ratio.1 * x.upperEnd.2 ≤ x.upperEnd.1 * d.ratio.2)
    else decide (x.lowerEnd.1 * d.ratio.2 < d.ratio.1 * x.lowerEnd.2) &&
      decide (d.ratio.1 * x.upperEnd.2 < x.upperEnd.1 * d.ratio.2) := rfl

theorem readsAs_of_lt (h : x.significand ≠ 0) {d : Decimal}
    (hlower : (x.lowerEnd.1 / x.lowerEnd.2 : ℚ) < d.value)
    (hupper : d.value < x.upperEnd.1 / x.upperEnd.2) : readsAs x d = true := by
  rw [← d.ratio_eq] at hlower hupper
  have hlow := cast_lt_of_div_lt (lowerEnd_pos h) d.ratio_pos hlower
  have hhigh := cast_lt_of_div_lt d.ratio_pos (upperEnd_pos h) hupper
  rw [readsAs_eq]
  split
  · simp [hlow.le, hhigh.le]
  · simp [hlow, hhigh]

theorem value_le_of_readsAs (h : x.significand ≠ 0) {d : Decimal} (hd : readsAs x d = true) :
    d.value ≤ (x.significand + 1 / 2) * 2 ^ x.exponent := by
  have hle : d.ratio.1 * x.upperEnd.2 ≤ x.upperEnd.1 * d.ratio.2 := by
    rw [readsAs_eq] at hd
    split at hd
    · simp only [Bool.and_eq_true, decide_eq_true_eq] at hd
      exact hd.2
    · simp only [Bool.and_eq_true, decide_eq_true_eq] at hd
      exact hd.2.le
  rw [← upperEnd_eq h, ← d.ratio_eq]
  exact div_le_of_cast_le d.ratio_pos (upperEnd_pos h) hle

def gridRatio (x : Binary64) (g : Int) : Nat × Nat :=
  if g ≥ 0 then (x.ratio.1, x.ratio.2 * tens g.toNat) else (x.ratio.1 * tens (-g).toNat, x.ratio.2)

theorem gridRatio_pos (x : Binary64) (g : Int) : 0 < (x.gridRatio g).2 := by
  rw [gridRatio]
  split
  · exact Nat.mul_pos x.ratio_pos (tens_pos _)
  · exact x.ratio_pos

theorem gridRatio_eq (x : Binary64) (g : Int) :
    ((x.gridRatio g).1 / (x.gridRatio g).2 : ℚ) = x.magnitude / 10 ^ g := by
  rw [gridRatio, ← x.ratio_eq]
  split
  · next h =>
    rw [ten_zpow_of_nonneg h]
    push_cast
    rw [div_div]
  · next h =>
    rw [ten_zpow_of_neg (by omega)]
    push_cast
    rw [div_inv_eq_mul]
    ring

def gridFloor (x : Binary64) (g : Int) : Nat := (x.gridRatio g).1 / (x.gridRatio g).2

theorem neighbours_eq (x : Binary64) (g : Int) : neighbours x g =
    if 2 * ((x.gridRatio g).1 % (x.gridRatio g).2) < (x.gridRatio g).2 ||
        (2 * ((x.gridRatio g).1 % (x.gridRatio g).2) == (x.gridRatio g).2 && x.gridFloor g % 2 == 0)
    then [⟨x.gridFloor g, g⟩, ⟨x.gridFloor g + 1, g⟩] else [⟨x.gridFloor g + 1, g⟩,
      ⟨x.gridFloor g, g⟩] := rfl

theorem gridFloor_le (x : Binary64) (g : Int) : (x.gridFloor g : ℚ) ≤ x.magnitude / 10 ^ g := by
  rw [← gridRatio_eq]
  exact Nat.cast_div_le

theorem lt_gridFloor_add_one (x : Binary64) (g : Int) :
    x.magnitude / 10 ^ g < x.gridFloor g + 1 := by
  rw [← gridRatio_eq]
  have hpos := x.gridRatio_pos g
  have hpos' : (0 : ℚ) < (x.gridRatio g).2 := by exact_mod_cast hpos
  rw [div_lt_iff₀ hpos']
  exact_mod_cast (Nat.div_lt_iff_lt_mul hpos).mp (Nat.lt_succ_self _)

theorem mem_neighbours {d : Decimal} {g : Int} (h : d ∈ neighbours x g) :
    d.exponent = g ∧ x.gridFloor g ≤ d.digits ∧ d.digits ≤ x.gridFloor g + 1 := by
  rw [neighbours_eq] at h
  split at h <;>
  · simp only [List.mem_cons, List.not_mem_nil, or_false] at h
    rcases h with rfl | rfl <;> exact ⟨rfl, by simp, by simp⟩

theorem sub_gridFloor (x : Binary64) (g : Int) : x.magnitude / 10 ^ g - x.gridFloor g =
    ((x.gridRatio g).1 % (x.gridRatio g).2 : Nat) / (x.gridRatio g).2 := by
  have hpos : (0 : ℚ) < (x.gridRatio g).2 := by exact_mod_cast x.gridRatio_pos g
  have hsplit : ((x.gridRatio g).2 * x.gridFloor g + (x.gridRatio g).1 % (x.gridRatio g).2 : Nat) =
      ((x.gridRatio g).1 : ℚ) := by exact_mod_cast Nat.div_add_mod _ _
  rw [← gridRatio_eq, ← hsplit]
  push_cast
  field_simp
  ring

theorem abs_value_sub_le {n : Nat} {g : Int} (h : |(n : ℚ) - x.magnitude / 10 ^ g| ≤ 1 / 2) :
    |Decimal.value ⟨n, g⟩ - x.magnitude| ≤ 10 ^ g / 2 := by
  have hunit : (0 : ℚ) < 10 ^ g := by positivity
  have hscale : Decimal.value ⟨n, g⟩ - x.magnitude = (n - x.magnitude / 10 ^ g) * 10 ^ g := by
    rw [Decimal.value]
    field_simp
  rw [hscale, abs_mul, abs_of_pos hunit]
  linarith [mul_le_mul_of_nonneg_right h hunit.le]

/-- The neighbour that is tried first is at most half a grid unit away. -/
theorem exists_nearest_neighbour (x : Binary64) (g : Int) :
    ∃ d rest, neighbours x g = d :: rest ∧ |d.value - x.magnitude| ≤ 10 ^ g / 2 := by
  have hpos : (0 : ℚ) < (x.gridRatio g).2 := by exact_mod_cast x.gridRatio_pos g
  have hpart := sub_gridFloor x g
  have hlow := gridFloor_le x g
  have hhigh := lt_gridFloor_add_one x g
  rw [neighbours_eq]
  set r : Nat := (x.gridRatio g).1 % (x.gridRatio g).2 with hr
  split
  · next h =>
    have hhalf : (r / (x.gridRatio g).2 : ℚ) ≤ 1 / 2 := by
      simp only [Bool.or_eq_true, decide_eq_true_eq, Bool.and_eq_true, beq_iff_eq] at h
      have hle : 2 * r ≤ (x.gridRatio g).2 := by omega
      have hle' : (2 * r : ℚ) ≤ (x.gridRatio g).2 := by exact_mod_cast hle
      rw [div_le_iff₀ hpos]
      linarith
    refine ⟨_, _, rfl, abs_value_sub_le ?_⟩
    rw [abs_le]
    constructor <;> linarith
  · next h =>
    have hhalf : 1 / 2 ≤ (r / (x.gridRatio g).2 : ℚ) := by
      simp only [Bool.or_eq_true, decide_eq_true_eq, Bool.and_eq_true, beq_iff_eq] at h
      have hle : (x.gridRatio g).2 ≤ 2 * r := by omega
      have hle' : ((x.gridRatio g).2 : ℚ) ≤ 2 * r := by exact_mod_cast hle
      rw [le_div_iff₀ hpos]
      linarith
    refine ⟨_, _, rfl, abs_value_sub_le ?_⟩
    push_cast
    rw [abs_le]
    constructor <;> linarith

variable {num den : Nat}

theorem length_toDigits_bounds {n : Nat} (h : 0 < n) :
    1 ≤ (Nat.toDigits 10 n).length ∧ 10 ^ ((Nat.toDigits 10 n).length - 1) ≤ n ∧
      n < 10 ^ (Nat.toDigits 10 n).length := by
  have hlength : 1 ≤ (Nat.toDigits 10 n).length := List.length_pos_of_ne_nil Nat.toDigits_ne_nil
  refine ⟨hlength, ?_, (Nat.length_toDigits_le_iff (by decide) hlength).mp le_rfl⟩
  by_contra hnot
  rcases Nat.eq_or_lt_of_le hlength with hone | hmore
  · rw [← hone] at hnot
    exact hnot h
  · have := (Nat.length_toDigits_le_iff (by decide) (Nat.sub_pos_of_lt hmore)).mpr (not_le.mp hnot)
    omega

/-- A fraction lies between the power of ten of its first digit and the next one. -/
theorem leadingExponent_bounds (hnum : 0 < num) (hden : 0 < den) :
    (10 : ℚ) ^ leadingExponent num den ≤ num / den ∧
    (num / den : ℚ) < 10 ^ (leadingExponent num den + 1) := by
  have hn : (0 : ℚ) < num := by exact_mod_cast hnum
  have hd : (0 : ℚ) < den := by exact_mod_cast hden
  rw [leadingExponent]
  split
  · next h =>
    obtain ⟨hlength, hlower, hupper⟩ := length_toDigits_bounds (Nat.div_pos h hden)
    set k := (Nat.toDigits 10 (num / den)).length
    constructor
    · have hexp : ((k : Int) - 1) = ((k - 1 : Nat) : Int) := by omega
      rw [hexp, zpow_natCast, le_div_iff₀ hd]
      exact_mod_cast (Nat.le_div_iff_mul_le hden).mp hlower
    · rw [sub_add_cancel, zpow_natCast, div_lt_iff₀ hd]
      exact_mod_cast (Nat.div_lt_iff_lt_mul hden).mp hupper
  · next h =>
    obtain ⟨hlength, hlower, hupper⟩ := length_toDigits_bounds (Nat.div_pos (not_le.mp h).le hnum)
    dsimp only
    set k := (Nat.toDigits 10 (den / num)).length
    have hlower' : (10 : ℚ) ^ (k - 1) * num ≤ den := by
      exact_mod_cast (Nat.le_div_iff_mul_le hnum).mp hlower
    have hupper' : (den : ℚ) < 10 ^ k * num := by
      exact_mod_cast (Nat.div_lt_iff_lt_mul hnum).mp hupper
    have hexp : ((k : Int) - 1) = ((k - 1 : Nat) : Int) := by omega
    split
    · next hge =>
      have hge' : (den : ℚ) ≤ num * 10 ^ (k - 1) := by exact_mod_cast hge
      rw [hexp]
      constructor
      · rw [zpow_neg, zpow_natCast, inv_le_comm₀ (by positivity) (by positivity), inv_div,
          div_le_iff₀ hn]
        linarith
      · rw [zpow_add_one₀ (by norm_num), zpow_neg, zpow_natCast, div_lt_iff₀ hd]
        have hpos : (0 : ℚ) < 10 ^ (k - 1) := by positivity
        rw [mul_assoc, ← div_eq_inv_mul, lt_div_iff₀ hpos]
        linarith
    · next hlt =>
      have hlt' : (num : ℚ) * 10 ^ (k - 1) < den := by exact_mod_cast not_le.mp hlt
      constructor
      · rw [zpow_neg, zpow_natCast, inv_le_comm₀ (by positivity) (by positivity), inv_div,
          div_le_iff₀ hn]
        exact hupper'.le
      · have hnext : -(k : Int) + 1 = -((k - 1 : Nat) : Int) := by omega
        rw [hnext, zpow_neg, zpow_natCast, lt_inv_comm₀ (by positivity) (by positivity), inv_div,
          lt_div_iff₀ hn]
        linarith

theorem magnitude_pos (h : x.significand ≠ 0) : 0 < x.magnitude := by
  have hm : (0 : ℚ) < x.significand := by exact_mod_cast Nat.pos_of_ne_zero h
  rw [magnitude]
  positivity

theorem exists_find_seventeen (h : x.significand ≠ 0) {leading : Int}
    (hleading : (10 : ℚ) ^ leading ≤ x.magnitude) :
    ∃ d, (neighbours x (leading - 16)).find? (readsAs x) = some d := by
  obtain ⟨d, rest, hneighbours, hnear⟩ := exists_nearest_neighbour x (leading - 16)
  have hpos := magnitude_pos h
  have herror : |d.value - x.magnitude| < x.magnitude / 2 ^ 54 := by
    have hgrid : (10 : ℚ) ^ (leading - 16) = 10 ^ leading / 10 ^ 16 := by
      rw [zpow_sub₀ (by norm_num)]
      rfl
    rw [hgrid] at hnear
    refine lt_of_le_of_lt hnear ?_
    have hle : (10 : ℚ) ^ leading / 10 ^ 16 / 2 ≤ x.magnitude / 10 ^ 16 / 2 := by gcongr
    refine lt_of_le_of_lt hle ?_
    rw [div_div, div_lt_div_iff_of_pos_left hpos (by norm_num) (by norm_num)]
    norm_num
  have hunit : x.magnitude / 2 ^ 54 < 1 / 2 * 2 ^ x.exponent := by
    have hnat : x.significand < 9007199254740992 := x.canonical.1
    have hcast : (x.significand : ℚ) < 9007199254740992 := by exact_mod_cast hnat
    have hplace : (0 : ℚ) < 2 ^ x.exponent := by positivity
    rw [magnitude, div_lt_iff₀ (by norm_num)]
    nlinarith
  obtain ⟨hlow, hhigh⟩ := abs_lt.mp herror
  have hlower : (x.lowerEnd.1 / x.lowerEnd.2 : ℚ) < d.value :=
    lt_of_le_of_lt (lowerEnd_le h) (by linarith)
  have hupper : d.value < (x.upperEnd.1 / x.upperEnd.2 : ℚ) := by
    rw [upperEnd_eq h, add_mul, ← magnitude]
    linarith
  exact ⟨d, by rw [hneighbours, List.find?_cons_of_pos (readsAs_of_lt h hlower hupper)]⟩

theorem shortestFrom_spec (h : x.significand ≠ 0) {leading : Int}
    (hleading : (10 : ℚ) ^ leading ≤ x.magnitude) (fuel count : Nat) (hcount : 1 ≤ count)
    (hfuel : 1 ≤ fuel) (hsum : fuel + count = 18) :
    readsAs x (shortestFrom x leading fuel count) = true ∧
      ∃ c : Nat, 1 ≤ c ∧ c ≤ 17 ∧
      shortestFrom x leading fuel count ∈ neighbours x (leading - c + 1) := by
  induction fuel generalizing count with
  | zero => omega
  | succ fuel ih =>
    rw [shortestFrom]
    split
    · next d hd => exact ⟨List.find?_some hd, count, hcount, by omega, List.mem_of_find?_eq_some hd⟩
    · next hnone =>
      rcases Nat.eq_zero_or_pos fuel with rfl | hpos
      · obtain ⟨d, hd⟩ := exists_find_seventeen h hleading
        have hgrid : leading - (count : Int) + 1 = leading - 16 := by omega
        rw [hgrid, hd] at hnone
        cases hnone
      · exact ih (count + 1) (by omega) hpos (by omega)

/-- The shortest decimal of a number reads back to it and has up to seventeen digits. -/
theorem shortest_spec (h : x.significand ≠ 0) :
    readsAs x (shortest x) = true ∧ 1 ≤ (shortest x).digits ∧ (shortest x).digits ≤ 10 ^ 17 := by
  have hratio := x.ratio_eq
  have hpos := magnitude_pos h
  have hnum : 0 < x.ratio.1 := by
    rw [Nat.pos_iff_ne_zero]
    intro hzero
    rw [← hratio, hzero] at hpos
    simp at hpos
  obtain ⟨hlower, hupper⟩ := leadingExponent_bounds hnum x.ratio_pos
  rw [hratio] at hlower hupper
  set leading := leadingExponent x.ratio.1 x.ratio.2 with hl
  have hform : shortest x = shortestFrom x leading 17 1 := if_neg h
  rw [hform]
  obtain ⟨hreads, c, hc, hc', hmem⟩ := shortestFrom_spec h hlower 17 1 le_rfl (by decide) rfl
  obtain ⟨-, hfloor, hfloor'⟩ := mem_neighbours hmem
  have hunit : (0 : ℚ) < 10 ^ (leading - c + 1) := by positivity
  refine ⟨hreads, ?_, ?_⟩
  · have hone : (1 : ℚ) < x.gridFloor (leading - c + 1) + 1 := by
      refine lt_of_le_of_lt ?_ (lt_gridFloor_add_one x _)
      rw [one_le_div hunit]
      exact le_trans (zpow_le_zpow_right₀ (by norm_num) (by omega)) hlower
    have : 1 < x.gridFloor (leading - c + 1) + 1 := by exact_mod_cast hone
    omega
  · have hlt : (x.gridFloor (leading - c + 1) : ℚ) < (10 ^ c : Nat) := by
      refine lt_of_le_of_lt (gridFloor_le x _) ?_
      rw [div_lt_iff₀ hunit]
      refine lt_of_lt_of_eq hupper ?_
      rw [Nat.cast_pow, ← zpow_natCast, Nat.cast_ofNat, ← zpow_add₀ (by norm_num)]
      congr 1
      omega
    have hlt' : x.gridFloor (leading - c + 1) < 10 ^ c := by exact_mod_cast hlt
    have hpow : 10 ^ c ≤ 10 ^ 17 := Nat.pow_le_pow_right (by decide) hc'
    omega

end Binary64
end TestBench
