import TestBench.Proofs.Decimal.Shortest
import TestBench.Proofs.Json.ReadNumber

/-! Reading binary64 numbers. Whatever number is written, some number is read from its text: no text
of a number is out of range. The number that is read need not be the one that was written. -/
namespace TestBench
namespace Json

open Binary64

def overflowNat : Nat := (2 ^ 54 - 1) <<< 970

def belowGreatest : Nat := (2 ^ 54 - 3) <<< 970

theorem cast_shiftLeft (n k : Nat) : ((n <<< k : Nat) : ℚ) = n / 2 * 2 ^ (k + 1 : Int) := by
  rw [Nat.shiftLeft_eq, zpow_add_one₀ two_ne_zero, zpow_natCast]
  push_cast
  ring

theorem overflow_eq_cast : overflow = overflowNat := by
  rw [overflow_eq, overflowNat, cast_shiftLeft]
  norm_num

theorem belowGreatest_eq : (belowGreatest : ℚ) = (2 ^ 53 - 3 / 2) * 2 ^ (971 : Int) := by
  rw [belowGreatest, cast_shiftLeft]
  norm_num

theorem tens_le_tens {m n : Nat} (h : m ≤ n) : tens m ≤ tens n := Nat.pow_le_pow_right (by decide) h

theorem tens_lt_overflow {n : Nat} (hn : n ≤ 308) : (tens n : ℚ) < overflow := by
  have hgreatest : tens 308 < overflowNat := by decide +kernel
  have hle : tens n ≤ tens 308 := tens_le_tens hn
  rw [overflow_eq_cast]
  exact_mod_cast lt_of_le_of_lt hle hgreatest

theorem one_le_tens (n : Nat) : (1 : ℚ) ≤ tens n := by exact_mod_cast tens_pos n

theorem abs_powerOfTen_sub_le {n : Nat} (hn : n ≤ 308) :
    |(powerOfTen n).magnitude - tens n| ≤ tens n / 2 ^ 53 := by
  obtain ⟨y, hy, hnear⟩ := exists_ofNat (tens_lt_overflow hn)
  rw [powerOfTen, hy, Option.getD_some]
  exact hnear.abs_sub_le (one_le_tens n)

theorem two_le_powerOfTen {n : Nat} (hpos : 1 ≤ n) (hn : n ≤ 308) :
    2 ≤ (powerOfTen n).magnitude := by
  have hten : (10 : ℚ) ≤ tens n := by
    have hle : tens 1 ≤ tens n := tens_le_tens hpos
    exact_mod_cast hle
  have herror := (abs_le.mp (abs_powerOfTen_sub_le hn)).1
  norm_num at herror
  linarith

theorem big_lt_overflow : (2 : ℚ) ^ 65 < overflow := by
  have h : 2 ^ 65 < overflowNat := by decide +kernel
  rw [overflow_eq_cast]
  exact_mod_cast h

theorem exists_div_powerOfTen {x : Binary64} (hx : x.magnitude ≤ 2 ^ 65) {n : Nat} (hpos : 1 ≤ n)
    (hn : n ≤ 308) :
    ∃ y, div? x (powerOfTen n) = some y ∧ y.magnitude ≤ 2 ^ 65 := by
  have htwo := two_le_powerOfTen hpos hn
  have hmagnitude := x.magnitude_nonneg
  have hhalf : x.magnitude / (powerOfTen n).magnitude ≤ 2 ^ 64 := by
    rw [div_le_iff₀ (by linarith)]
    nlinarith
  obtain ⟨y, hy, hnear⟩ := exists_div (x := x) (y := powerOfTen n) (by linarith)
    (lt_of_le_of_lt (hhalf.trans (by norm_num)) big_lt_overflow)
  refine ⟨y, hy, ?_⟩
  have hle := hnear.le_add_one (by positivity)
  norm_num at hle hhalf ⊢
  linarith

theorem exists_scaleTen_neg (fuel : Nat) {x : Binary64} (hx : x.magnitude ≤ 2 ^ 65) {e : Int}
    (he : e < 0) :
    ∃ y, scaleTen fuel x e = some y := by
  induction fuel generalizing x e with
  | zero => exact ⟨x, rfl⟩
  | succ fuel ih =>
    rw [scaleTen]
    split
    · next hsmall =>
      rw [if_neg (by omega)]
      obtain ⟨y, hy, -⟩ := exists_div_powerOfTen hx (n := e.natAbs) (by omega) hsmall
      exact ⟨y, hy⟩
    · next hlarge =>
      split
      · exact ⟨x, rfl⟩
      · rw [if_neg (by omega)]
        obtain ⟨y, hy, hle⟩ := exists_div_powerOfTen hx (n := 308) (by decide) le_rfl
        rw [hy, Option.bind_some]
        exact ih hle (by omega)

theorem exists_realOf_neg (negative : Bool) {n : Nat} (hn : n < UInt64.size) {e : Int}
    (he : e < 0) :
    ∃ y, realOf negative n e = .ok (.real y) := by
  have hcast : (n : ℚ) ≤ 18446744073709551616 := by exact_mod_cast hn.le
  obtain ⟨x, hx, hnear⟩ := exists_ofNat (lt_of_le_of_lt (hcast.trans (by norm_num)) big_lt_overflow)
  have hle : x.magnitude ≤ 2 ^ 65 := by
    have hbound := hnear.le_add_one (by positivity)
    norm_num at hbound ⊢
    linarith
  obtain ⟨y, hy⟩ := exists_scaleTen_neg 4 hle he
  rw [realOf, hx, Option.bind_some, hy]
  exact ⟨_, rfl⟩

theorem exists_realOf_of_mul (negative : Bool) {n e : Nat} (he : e ≤ 308) {x : Binary64}
    (hx : ofNat? n = some x) (h : x.magnitude * (powerOfTen e).magnitude < overflow) :
    ∃ y, realOf negative n e = .ok (.real y) := by
  obtain ⟨y, hy, -⟩ := exists_mul h
  have hscale : scaleTen 4 x e = some y := by
    rw [scaleTen, if_pos (by omega), if_pos (by omega)]
    exact hy
  rw [realOf, hx, Option.bind_some, hscale]
  exact ⟨_, rfl⟩

theorem mul_lt_overflow {n e : Nat} (hn : 1 ≤ n) (he : e ≤ 308) {x : Binary64} (hx : Nearest n x)
    (h : n * tens e * (2 ^ 53 + 1) ^ 2 < overflowNat * 2 ^ 106) :
    x.magnitude * (powerOfTen e).magnitude < overflow := by
  have hx' := (abs_le.mp (hx.abs_sub_le (by exact_mod_cast hn))).2
  have hp' := (abs_le.mp (abs_powerOfTen_sub_le he)).2
  have h' : ((n : ℚ) * tens e * (2 ^ 53 + 1) ^ 2) < overflowNat * 2 ^ 106 := by exact_mod_cast h
  rw [overflow_eq_cast]
  have hmul : x.magnitude * (powerOfTen e).magnitude ≤
      (n + n / 2 ^ 53) * (tens e + tens e / 2 ^ 53) :=
    mul_le_mul (by linarith) (by linarith) (magnitude_nonneg _) (by positivity)
  refine lt_of_le_of_lt hmul ?_
  have hsame : (n + n / 2 ^ 53) * (tens e + tens e / 2 ^ 53) =
      (n : ℚ) * tens e * (2 ^ 53 + 1) ^ 2 / 2 ^ 106 := by
    field_simp
  rw [hsame, div_lt_iff₀ (by positivity)]
  exact h'

/-- A decimal of up to seventeen digits that lies below the greatest number is scaled up without
leaving the range. -/
theorem exists_realOf_nonneg (negative : Bool) {n e : Nat} (hpos : 1 ≤ n) (hn : n ≤ 10 ^ 17)
    (h : n * tens e ≤ belowGreatest) : ∃ y, realOf negative n e = .ok (.real y) := by
  have he : e ≤ 308 := by
    by_contra hnot
    have hlarge : belowGreatest < tens 309 := by decide +kernel
    have hmono : tens 309 ≤ tens e := tens_le_tens (by omega)
    have hle : tens e ≤ n * tens e := Nat.le_mul_of_pos_left _ hpos
    omega
  have hbelow : belowGreatest ≤ overflowNat := by decide +kernel
  have hfinite : (n : ℚ) < overflow := by
    have hcast : (n : ℚ) ≤ 10 ^ 17 := by exact_mod_cast hn
    exact lt_of_le_of_lt (hcast.trans (by norm_num)) big_lt_overflow
  obtain ⟨x, hx, hnear⟩ := exists_ofNat hfinite
  refine exists_realOf_of_mul negative he hx ?_
  rcases lt_trichotomy e 292 with hlt | rfl | hgt
  · refine mul_lt_overflow hpos he hnear ?_
    have hbound : n * tens e ≤ 10 ^ 17 * tens 291 := Nat.mul_le_mul hn (tens_le_tens (by omega))
    have hdecide : 10 ^ 17 * tens 291 * (2 ^ 53 + 1) ^ 2 < overflowNat * 2 ^ 106 := by
      decide +kernel
    exact lt_of_le_of_lt (Nat.mul_le_mul_right _ hbound) hdecide
  · -- Here rounding may carry a product over the threshold, so that both factors have to be known.
    have hbound : n ≤ belowGreatest / tens 292 := (Nat.le_div_iff_mul_le (tens_pos _)).mpr h
    have hdigits : belowGreatest / tens 292 = 17976931348623156 := by decide +kernel
    rw [hdigits] at hbound
    have hcast : (n : ℚ) ≤ 17976931348623156 := by exact_mod_cast hbound
    have hx' := (abs_le.mp (hnear.abs_sub_le_one (by linarith))).2
    have hpower :
        (powerOfTen 292).ratio.1 * 17976931348623157 < overflowNat * (powerOfTen 292).ratio.2 := by
      decide +kernel
    have hpower' : (powerOfTen 292).magnitude * 17976931348623157 < overflow := by
      have hratio : (0 : ℚ) < (powerOfTen 292).ratio.2 := by
        exact_mod_cast (powerOfTen 292).ratio_pos
      rw [← (powerOfTen 292).ratio_eq, overflow_eq_cast, div_mul_eq_mul_div, div_lt_iff₀ hratio]
      exact_mod_cast hpower
    refine lt_of_le_of_lt ?_ hpower'
    rw [mul_comm]
    exact mul_le_mul_of_nonneg_left (by linarith) (magnitude_nonneg _)
  · refine mul_lt_overflow hpos he hnear ?_
    have hbound : n ≤ overflowNat / tens e :=
      (Nat.le_div_iff_mul_le (tens_pos _)).mpr (h.trans hbelow)
    have hdecide : ∀ e < 309, 292 < e →
        overflowNat / tens e * tens e * (2 ^ 53 + 1) ^ 2 < overflowNat * 2 ^ 106 := by
      decide +kernel
    exact lt_of_le_of_lt (Nat.mul_le_mul_right _ (Nat.mul_le_mul_right _ hbound))
      (hdecide e (by omega) hgt)

theorem ofDigitChars_lt {ds : Text} (hds : ∀ c ∈ ds, Text.isDigit c = true) (value : Nat) :
    Nat.ofDigitChars 10 ds value < (value + 1) * 10 ^ ds.length := by
  induction ds generalizing value with
  | nil => simp
  | cons c ds ih =>
    obtain ⟨hc, hds⟩ := List.forall_mem_cons.mp hds
    rw [Text.isDigit_eq] at hc
    have hdigit := Text.toNat_of_isDigit hc
    rw [Nat.ofDigitChars_cons, List.length_cons, Nat.pow_succ]
    refine lt_of_lt_of_le (ih hds _) ?_
    have hle : 10 * value + (c.toNat - '0'.toNat) + 1 ≤ (value + 1) * 10 := by
      have hzero : '0'.toNat = 48 := rfl
      omega
    calc (10 * value + (c.toNat - '0'.toNat) + 1) * 10 ^ ds.length
        ≤ (value + 1) * 10 * 10 ^ ds.length := Nat.mul_le_mul_right _ hle
      _ = (value + 1) * (10 ^ ds.length * 10) := by ring

/-- Digits without a zero in front that stand for a number. -/
structure Significant (ds : Text) (n : Nat) : Prop where
  ne_nil : ds ≠ []
  digits : ∀ c ∈ ds, Text.isDigit c = true
  head : ds.head? ≠ some '0'
  value : Nat.ofDigitChars 10 ds 0 = n

theorem Significant.isWhole_take {ds : Text} {n : Nat} (h : Significant ds n) {k : Nat}
    (hk : 0 < k) :
    IsWhole (ds.take k) where
  ne_nil := by simpa [List.take_eq_nil_iff, hk.ne'] using h.ne_nil
  digits c hc := h.digits c (List.take_subset _ _ hc)
  zero hzero := by
    rw [List.head?_take, if_neg hk.ne'] at hzero
    exact absurd hzero h.head

theorem exists_dropZeros {n : Nat} (hn : n ≠ 0) (e : Int) :
    ∃ (ds : Text) (m k : Nat), dropZeros (Text.ofNat n) e = (ds, e + k) ∧ Significant ds m ∧
    n = m * 10 ^ k := by
  set kept := ((Text.ofNat n).reverse.dropWhile (· = '0')).reverse with hkept
  set zeros := ((Text.ofNat n).reverse.takeWhile (· = '0')).reverse with hzeros
  have hsplit : Text.ofNat n = kept ++ zeros := by
    rw [hkept, hzeros, ← List.reverse_append, List.takeWhile_append_dropWhile, List.reverse_reverse]
  have hreplicate : zeros = List.replicate zeros.length '0' := by
    refine List.eq_replicate_of_mem fun c hc => ?_
    simpa using List.mem_takeWhile_imp (List.mem_reverse.mp hc)
  have hdrop :
      dropZeros (Text.ofNat n) e = (kept, e + ((Text.ofNat n).length - kept.length : Nat)) := rfl
  have hlength : (Text.ofNat n).length - kept.length = zeros.length := by
    rw [hsplit, List.length_append]
    omega
  have hhead := head?_ofNat_ne n hn
  have hne : kept ≠ [] := by
    intro hnil
    rw [hsplit, hnil, List.nil_append, hreplicate] at hhead
    cases hz : zeros.length with
    | zero =>
      rw [hnil, List.nil_append, hreplicate, hz] at hsplit
      exact Nat.toDigits_ne_nil hsplit
    | succ k =>
      rw [hz] at hhead
      exact hhead rfl
  refine ⟨kept, Nat.ofDigitChars 10 kept 0, zeros.length, by rw [hdrop, hlength],
    ⟨hne, ?_, ?_, rfl⟩, ?_⟩
  · intro c hc
    exact (isWhole_ofNat n).digits c (by rw [hsplit]; exact List.mem_append_left _ hc)
  · rwa [hsplit, List.head?_append_of_ne_nil _ hne] at hhead
  · have hvalue : Nat.ofDigitChars 10 (Text.ofNat n) 0 = n := Nat.ofDigitChars_ten_toDigits
    rw [hsplit, Nat.ofDigitChars_append, hreplicate, Nat.ofDigitChars_replicate_zero] at hvalue
    exact hvalue.symm.trans (Nat.mul_comm ..)

/-- A text of digits with places, an exponent, or both, from which some binary64 number is read. -/
def ReadsReal (negative : Bool) (t : Text) : Prop :=
  ∃ (whole places tail : Text) (exponent : Option Int) (y : Binary64),
    t = whole ++ (fractionText places ++ tail) ∧ IsWhole whole ∧
      (∀ c ∈ places, Text.isDigit c = true) ∧
      readExponent tail = .ok (exponent, []) ∧ NoDigit tail ∧ (∀ u, tail ≠ '.' :: u) ∧
      numberOf negative whole places exponent = .ok (.real y)

theorem ReadsReal.exists_readNumber {negative : Bool} {t : Text} (h : ReadsReal negative t) :
    ∃ y, readNumber ((if negative then ['-'] else []) ++ t) = .ok (.real y, []) := by
  obtain ⟨whole, places, tail, exponent, y, rfl, hwhole, hplaces, htail, hdigit, hpoint, hy⟩ := h
  have hread := readUnsigned_digits hwhole hplaces htail hdigit hpoint hy
  refine ⟨y, ?_⟩
  cases negative with
  | true => exact hread
  | false =>
    rw [if_neg (by decide), List.nil_append, readNumber]
    · exact hread
    · refine append_ne_cons (fun u hu => ?_) fun hnil => absurd hnil hwhole.ne_nil
      have hminus := hwhole.digits '-' (by rw [hu]; exact List.mem_cons_self)
      cases hminus

theorem forall_isDigit_zeros (n : Nat) : ∀ c ∈ List.replicate n '0', Text.isDigit c = true := by
  intro c hc
  rw [List.eq_of_mem_replicate hc]
  rfl

theorem readsReal_of_places (negative : Bool) {whole places : Text} (hwhole : IsWhole whole)
    (hne : places ≠ []) (hplaces : ∀ c ∈ places, Text.isDigit c = true)
    (hvalue : Nat.ofDigitChars 10 (whole ++ places) 0 < UInt64.size) :
    ReadsReal negative (whole ++ '.' :: places) := by
  have hlength : 0 < places.length := List.length_pos_of_ne_nil hne
  obtain ⟨y, hy⟩ := exists_realOf_neg negative hvalue (e := 0 - places.length) (by omega)
  refine ⟨whole, places, [], none, y, ?_, hwhole, hplaces, rfl, noDigit_nil, by simp, ?_⟩
  · rw [fractionText, if_neg hne, List.append_nil]
  · rw [numberOf_eq hvalue, if_neg (by simp [hne])]
    exact hy

theorem tenPow_lt_size : 10 ^ 17 < UInt64.size := by decide

/-- What is said of a decimal so that its text can be read: it has up to seventeen digits and is not
too large. -/
structure Small (n : Nat) (e : Int) : Prop where
  digits : n ≤ 10 ^ 17
  below : 0 ≤ e → n * tens e.toNat ≤ belowGreatest

theorem Small.exists_realOf {n : Nat} {e : Int} (h : Small n e) (hn : 1 ≤ n) (negative : Bool) :
    ∃ y, realOf negative n e = .ok (.real y) := by
  rcases lt_or_ge e 0 with hneg | hpos
  · exact exists_realOf_neg negative (lt_of_le_of_lt h.digits tenPow_lt_size) hneg
  · have he : (e.toNat : Int) = e := Int.toNat_of_nonneg hpos
    rw [← he]
    exact exists_realOf_nonneg negative hn h.digits (h.below hpos)

variable {ds : Text} {n : Nat}

theorem readsReal_zerosBehind (h : Significant ds n) {k : Nat} (hk : ds.length + k ≤ 16)
    (negative : Bool) :
    ReadsReal negative ((ds ++ List.replicate k '0') ++ '.' :: ['0']) := by
  have hdigits : ∀ c ∈ ds ++ List.replicate k '0', Text.isDigit c = true :=
    List.forall_mem_append.mpr ⟨h.digits, forall_isDigit_zeros _⟩
  have hzero : ∀ c ∈ ['0'], Text.isDigit c = true := by simp [Text.isDigit]
  have hhead : (ds ++ List.replicate k '0').head? ≠ some '0' := by
    rw [List.head?_append_of_ne_nil _ h.ne_nil]
    exact h.head
  have hlength : (ds ++ List.replicate k '0' ++ ['0']).length ≤ 17 := by
    simp only [List.length_append, List.length_replicate, List.length_singleton]
    omega
  refine readsReal_of_places negative ⟨by simp [h.ne_nil], hdigits,
    fun h => absurd h hhead⟩ (by simp) hzero ?_
  refine lt_of_lt_of_le (ofDigitChars_lt (List.forall_mem_append.mpr ⟨hdigits, hzero⟩) 0) ?_
  rw [Nat.zero_add, Nat.one_mul]
  exact (Nat.pow_le_pow_right (by decide) hlength).trans tenPow_lt_size.le

theorem readsReal_zerosBefore (h : Significant ds n) (hn : n ≤ 10 ^ 17) (k : Nat)
    (negative : Bool) :
    ReadsReal negative (['0'] ++ '.' :: (List.replicate k '0' ++ ds)) := by
  refine readsReal_of_places negative ⟨by simp, by simp [Text.isDigit],
    fun _ => rfl⟩ (by simp [h.ne_nil])
    (List.forall_mem_append.mpr ⟨forall_isDigit_zeros _, h.digits⟩) ?_
  have hvalue : Nat.ofDigitChars 10 (['0'] ++ (List.replicate k '0' ++ ds)) 0 = n := by
    have hzero : Nat.ofDigitChars 10 ['0'] 0 = 0 := rfl
    rw [Nat.ofDigitChars_append, Nat.ofDigitChars_append, hzero, Nat.ofDigitChars_replicate_zero,
      Nat.mul_zero, h.value]
  rw [hvalue]
  exact lt_of_le_of_lt hn tenPow_lt_size

theorem readsReal_plainText (h : Significant ds n) (hn : n ≤ 10 ^ 17) {e : Int}
    (he : e + ds.length - 1 ≤ 15) (negative : Bool) : ReadsReal negative (plainText ds e) := by
  rw [plainText]
  split
  · next hpos =>
    exact readsReal_zerosBehind h (k := e.toNat) (by omega) negative
  · next hneg =>
    dsimp only
    split
    · next hlong =>
      have hne : ds.drop (ds.length - (-e).toNat) ≠ [] := by
        rw [Ne, List.drop_eq_nil_iff]
        omega
      refine readsReal_of_places negative (h.isWhole_take (by omega)) hne
        (fun c hc => h.digits c (List.drop_subset _ _ hc)) ?_
      rw [List.take_append_drop, h.value]
      exact lt_of_le_of_lt hn tenPow_lt_size
    · next hshort => exact readsReal_zerosBefore h hn ((-e).toNat - ds.length) negative

theorem readExponent_mark (leading : Int) :
    readExponent (if leading ≥ 0 then "e+".toList ++ Text.ofNat leading.natAbs
      else "e-".toList ++ Text.ofNat leading.natAbs) = .ok (some leading, []) := by
  have hdigits : readDigits (Text.ofNat leading.natAbs) = .ok (Text.ofNat leading.natAbs, []) := by
    have hwhole := isWhole_ofNat leading.natAbs
    have hread := readDigits_digits hwhole.ne_nil hwhole.digits noDigit_nil
    rwa [List.append_nil] at hread
  have hvalue : Text.digitsValue (Text.ofNat leading.natAbs) = leading.natAbs :=
    Nat.ofDigitChars_ten_toDigits
  split
  · next hpos =>
    change (readSignedDigits ('+' :: Text.ofNat leading.natAbs)).map _ = _
    rw [readSignedDigits, hdigits]
    have hsame : Int.ofNat (Text.digitsValue (Text.ofNat leading.natAbs)) = leading := by
      rw [hvalue]
      exact Int.natAbs_of_nonneg hpos
    simp only [Except.map, hsame]
  · next hneg =>
    change (readSignedDigits ('-' :: Text.ofNat leading.natAbs)).map _ = _
    rw [readSignedDigits, hdigits]
    have hsame : -Int.ofNat (Text.digitsValue (Text.ofNat leading.natAbs)) = leading := by
      rw [hvalue]
      have : ((leading.natAbs : Nat) : Int) = -leading := by omega
      rw [Int.ofNat_eq_natCast, this, neg_neg]
    simp only [Except.map, hsame]

theorem readsReal_scientificText (h : Significant ds n) (hn : 1 ≤ n) {e : Int} (hsmall : Small n e)
    (negative : Bool) :
    ReadsReal negative (scientificText numberLayout ds (e + ds.length - 1)) := by
  have hlength : 0 < ds.length := List.length_pos_of_ne_nil h.ne_nil
  set leading := e + ds.length - 1 with hleading
  set tail := if leading ≥ 0 then "e+".toList ++ Text.ofNat leading.natAbs
      else "e-".toList ++ Text.ofNat leading.natAbs with htail
  have hform :
      scientificText numberLayout ds leading = ds.take 1 ++ (fractionText (ds.drop 1) ++ tail) := by
    rw [scientificText, ← List.append_assoc]
    congr 2
    rw [fractionText]
    cases ds.drop 1 <;> rfl
  have hhead : ∃ u, tail = 'e' :: u := by
    rw [htail]
    split <;> exact ⟨_, rfl⟩
  obtain ⟨u, hu⟩ := hhead
  have hvalue : Nat.ofDigitChars 10 (ds.take 1 ++ ds.drop 1) 0 = n := by
    rw [List.take_append_drop, h.value]
  obtain ⟨y, hy⟩ := hsmall.exists_realOf hn negative
  refine ⟨ds.take 1, ds.drop 1, tail, some leading, y, hform, h.isWhole_take (by decide),
    fun c hc => h.digits c (List.drop_subset _ _ hc), readExponent_mark leading, ?_, ?_, ?_⟩
  · intro c hc
    rw [hu] at hc
    cases hc
    rfl
  · intro v hv
    rw [hu] at hv
    cases hv
  · rw [numberOf_eq (by rw [hvalue]; exact lt_of_le_of_lt hsmall.digits tenPow_lt_size),
      if_neg (by simp), hvalue]
    have hexponent : (some leading).getD 0 - ((ds.drop 1).length : Int) = e := by
      rw [Option.getD_some, List.length_drop]
      omega
    rw [hexponent, hy]

def greatest (negative : Bool) : Binary64 := ⟨negative, 2 * leastFull - 1, 971, by decide⟩

theorem readNumber_greatest (negative : Bool) :
    readNumber ((greatest negative).toText numberLayout) = .ok (.real (greatest negative), []) := by
  refine eq_ok_of_toOption ?_
  cases negative <;> decide +kernel

theorem upper_le_belowGreatest {x : Binary64}
    (h : ¬ (x.significand = 2 * leastFull - 1 ∧ x.exponent = 971)) :
    ((x.significand : ℚ) + 1 / 2) * 2 ^ x.exponent ≤ belowGreatest := by
  obtain ⟨hsignificand, -, hexponent, -⟩ := x.canonical
  rw [belowGreatest_eq]
  rw [leastFull] at h hsignificand
  rcases Int.lt_or_eq_of_le hexponent with hlt | heq
  · have hcast : (x.significand : ℚ) ≤ 9007199254740991 := by
      exact_mod_cast Nat.le_of_lt_succ hsignificand
    have hunit : (2 : ℚ) ^ x.exponent ≤ 2 ^ (970 : Int) :=
      zpow_le_zpow_right₀ (by norm_num) (by omega)
    have hdouble : (2 : ℚ) ^ (971 : Int) = 2 ^ (970 : Int) * 2 := zpow_add_one₀ two_ne_zero 970
    have hpos : (0 : ℚ) < 2 ^ (970 : Int) := by positivity
    rw [hdouble]
    calc ((x.significand : ℚ) + 1 / 2) * 2 ^ x.exponent ≤
      (9007199254740991 + 1 / 2) * 2 ^ (970 : Int) :=
          mul_le_mul (by linarith) hunit (by positivity) (by norm_num)
      _ ≤ (2 ^ 53 - 3 / 2) * 2 * 2 ^ (970 : Int) := mul_le_mul_of_nonneg_right (by norm_num) hpos.le
      _ = (2 ^ 53 - 3 / 2) * (2 ^ (970 : Int) * 2) := by rw [mul_assoc, mul_comm 2]
  · have hcast : (x.significand : ℚ) ≤ 9007199254740990 := by
      have hle : x.significand ≤ 9007199254740990 := by omega
      exact_mod_cast hle
    rw [heq]
    exact mul_le_mul_of_nonneg_right (by linarith) (by positivity)

theorem exists_readNumber_toText (x : Binary64) :
    ∃ y, readNumber (x.toText numberLayout) = .ok (.real y, []) := by
  by_cases hgreatest : x.significand = 2 * leastFull - 1 ∧ x.exponent = 971
  · have hx : x = greatest x.negative := by
      obtain ⟨negative, significand, exponent, canonical⟩ := x
      obtain ⟨rfl, rfl⟩ := hgreatest
      rfl
    rw [hx]
    exact ⟨_, readNumber_greatest x.negative⟩
  by_cases hzero : x.significand = 0
  · have hform : x.toText numberLayout = (if x.negative then ['-'] else []) ++
      (['0'] ++ '.' :: ['0']) := if_pos hzero
    rw [hform]
    exact (readsReal_of_places x.negative ⟨by simp, by simp [Text.isDigit], fun _ => rfl⟩ (by simp)
      (by simp [Text.isDigit]) (by decide)).exists_readNumber
  obtain ⟨hreads, hone, hdigits⟩ := shortest_spec hzero
  obtain ⟨ds, n, k, hdrop, hds, hn⟩ :=
    exists_dropZeros (Nat.one_le_iff_ne_zero.mp hone) (shortest x).exponent
  have hpow : 0 < 10 ^ k := by positivity
  have hpos : 1 ≤ n := by
    rw [Nat.one_le_iff_ne_zero]
    rintro rfl
    omega
  have hle : n ≤ 10 ^ 17 := le_trans (by rw [hn]; exact Nat.le_mul_of_pos_right n hpow) hdigits
  have hsmall : Small n ((shortest x).exponent + k) := by
    refine ⟨hle, fun hexponent => ?_⟩
    have hvalue :
        ((n * tens ((shortest x).exponent + k).toNat : Nat) : ℚ) = (shortest x).value := by
      rw [Nat.cast_mul, ← ten_zpow_of_nonneg hexponent, Decimal.value, hn, zpow_add₀ (by norm_num),
        zpow_natCast]
      push_cast
      ring
    have hbound : ((n * tens ((shortest x).exponent + k).toNat : Nat) : ℚ) ≤ belowGreatest := by
      rw [hvalue]
      exact (value_le_of_readsAs hzero hreads).trans (upper_le_belowGreatest hgreatest)
    exact_mod_cast hbound
  have hform : x.toText numberLayout = (if x.negative then ['-'] else []) ++
      (if numberLayout.plainFrom ≤ (shortest x).exponent + k + ds.length - 1 ∧
          (shortest x).exponent + k + ds.length - 1 ≤ numberLayout.plainTo
        then plainText ds ((shortest x).exponent + k)
        else scientificText numberLayout ds ((shortest x).exponent + k + ds.length - 1)) := by
    simp only [toText, if_neg hzero, hdrop]
  rw [hform]
  by_cases hplain : numberLayout.plainFrom ≤ (shortest x).exponent + k + ds.length - 1 ∧
      (shortest x).exponent + k + ds.length - 1 ≤ numberLayout.plainTo
  · rw [if_pos hplain]
    exact (readsReal_plainText hds hle hplain.2 x.negative).exists_readNumber
  · rw [if_neg hplain]
    exact (readsReal_scientificText hds hpos hsmall x.negative).exists_readNumber

end Json
end TestBench
