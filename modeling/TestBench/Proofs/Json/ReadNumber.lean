import Mathlib.Data.List.TakeDrop
import Mathlib.Data.List.TakeWhile
import TestBench.Json.Printer
import TestBench.Json.Reader
import TestBench.Proofs.Except
import TestBench.Proofs.Text.Basic

/-! Reading numbers. What follows a number has no part in it unless it goes on as a number does, and
integers are read back as they are written. -/
namespace TestBench
namespace Json

/-- Nothing that digits could go on with. -/
def NoDigit (rest : Text) : Prop := ∀ c, rest.head? = some c → Text.isDigit c = false

/-- Nothing that a number could go on with. -/
def Stops (rest : Text) : Prop :=
  ∀ c, rest.head? = some c → Text.isDigit c = false ∧ c ≠ '.' ∧ c ≠ 'e' ∧ c ≠ 'E'

theorem Stops.noDigit {rest : Text} (h : Stops rest) : NoDigit rest := fun c hc => (h c hc).1

theorem noDigit_nil : NoDigit [] := fun _ h => nomatch h

variable {t r rest : Text}

theorem takeWhile_append_of_noDigit (h : NoDigit rest) (t : Text) :
    (t ++ rest).takeWhile Text.isDigit = t.takeWhile Text.isDigit := by
  induction t with
  | nil =>
    cases rest with
    | nil => rfl
    | cons c rest => exact List.takeWhile_cons_of_neg (by simp [h c rfl])
  | cons c t ih => simp only [List.cons_append, List.takeWhile_cons, ih]

theorem dropWhile_append_of_noDigit (h : NoDigit rest) (t : Text) :
    (t ++ rest).dropWhile Text.isDigit = t.dropWhile Text.isDigit ++ rest := by
  induction t with
  | nil =>
    cases rest with
    | nil => rfl
    | cons c rest => exact List.dropWhile_cons_of_neg (by simp [h c rfl])
  | cons c t ih =>
    simp only [List.cons_append, List.dropWhile_cons, ih]
    split <;> rfl

theorem readDigits_eq_ok_iff {ds : Text} :
    readDigits t = .ok (ds, r) ↔ t.takeWhile Text.isDigit = ds ∧ t.dropWhile Text.isDigit = r ∧
    ds ≠ [] := by
  rw [readDigits, List.span_eq_takeWhile_dropWhile]
  generalize t.takeWhile Text.isDigit = taken
  generalize t.dropWhile Text.isDigit = left
  cases taken with
  | nil =>
    simp only [reduceCtorEq, false_iff, not_and]
    rintro rfl - h
    exact h rfl
  | cons c taken =>
    simp only [Except.ok.injEq, Prod.mk.injEq]
    constructor
    · rintro ⟨rfl, rfl⟩
      exact ⟨rfl, rfl, by simp⟩
    · rintro ⟨rfl, rfl, -⟩
      exact ⟨rfl, rfl⟩

theorem readDigits_append (hr : NoDigit rest) {ds : Text} (h : readDigits t = .ok (ds, r)) :
    readDigits (t ++ rest) = .ok (ds, r ++ rest) := by
  obtain ⟨hds, hr', hne⟩ := readDigits_eq_ok_iff.mp h
  exact readDigits_eq_ok_iff.mpr
    ⟨by rw [takeWhile_append_of_noDigit hr, hds], by rw [dropWhile_append_of_noDigit hr, hr'], hne⟩

theorem append_ne_cons {c : Char} (h : ∀ u, t ≠ c :: u) (hrest : t = [] → ∀ u, rest ≠ c :: u)
    (u : Text) :
    t ++ rest ≠ c :: u := by
  intro hu
  cases t with
  | nil => exact hrest rfl u hu
  | cons d t => exact h t (by rw [(List.cons.inj hu).1])

theorem readWhole_append (hr : Stops rest) {ds : Text} (h : readWhole t = .ok (ds, r)) :
    readWhole (t ++ rest) = .ok (ds, r ++ rest) := by
  rw [readWhole.eq_def] at h
  split at h
  · next t =>
    split at h
    · cases h
    · next hhead =>
      cases h
      have hnot : ((r ++ rest).head?.any Text.isDigit) = false := by
        cases r with
        | nil =>
          cases rest with
          | nil => rfl
          | cons c rest => exact (hr c rfl).1
        | cons c r => simpa using hhead
      rw [List.cons_append, readWhole, hnot]
      rfl
  · next hzero =>
    have hne : t ≠ [] := by
      rintro rfl
      cases h
    rw [readWhole]
    · exact readDigits_append hr.noDigit h
    · exact append_ne_cons hzero fun hnil => absurd hnil hne

theorem readFraction_append (hr : Stops rest) {ds : Text} (h : readFraction t = .ok (ds, r)) :
    readFraction (t ++ rest) = .ok (ds, r ++ rest) := by
  rw [readFraction.eq_def] at h
  split at h
  · exact readDigits_append hr.noDigit h
  · next hpoint =>
    cases h
    rw [readFraction]
    refine append_ne_cons hpoint fun _ u hu => ?_
    exact (hr '.' (by rw [hu]; rfl)).2.1 rfl

theorem readSignedDigits_append (hr : Stops rest) {i : Int} (h : readSignedDigits t = .ok (i, r)) :
    readSignedDigits (t ++ rest) = .ok (i, r ++ rest) := by
  have hmap : ∀ (f : Text → Int) (t : Text),
      (readDigits t).map (fun p => (f p.1, p.2)) = .ok (i, r) →
        (readDigits (t ++ rest)).map (fun p => (f p.1, p.2)) = .ok (i, r ++ rest) := by
    intro f t h
    obtain ⟨⟨ds, r'⟩, hds, heq⟩ := eq_ok_of_map h
    cases heq
    rw [readDigits_append hr.noDigit hds]
    rfl
  rw [readSignedDigits.eq_def] at h
  split at h
  · exact hmap (fun ds => Int.ofNat (Text.digitsValue ds)) _ h
  · exact hmap (fun ds => -Int.ofNat (Text.digitsValue ds)) _ h
  · next hplus hminus =>
    have hne : t ≠ [] := by
      rintro rfl
      cases h
    rw [readSignedDigits]
    · exact hmap (fun ds => Int.ofNat (Text.digitsValue ds)) _ h
    · exact append_ne_cons hplus fun hnil => absurd hnil hne
    · exact append_ne_cons hminus fun hnil => absurd hnil hne

theorem readExponent_append (hr : Stops rest) {i : Option Int} (h : readExponent t = .ok (i, r)) :
    readExponent (t ++ rest) = .ok (i, r ++ rest) := by
  have hmap : ∀ t : Text, (readSignedDigits t).map (fun p => (some p.1, p.2)) = .ok (i, r) →
      (readSignedDigits (t ++ rest)).map (fun p => (some p.1, p.2)) = .ok (i, r ++ rest) := by
    intro t h
    obtain ⟨⟨j, r'⟩, hj, heq⟩ := eq_ok_of_map h
    cases heq
    rw [readSignedDigits_append hr hj]
    rfl
  rw [readExponent.eq_def] at h
  split at h
  · exact hmap _ h
  · exact hmap _ h
  · next hsmall hcapital =>
    cases h
    rw [readExponent]
    · refine append_ne_cons hsmall fun _ u hu => ?_
      exact (hr 'e' (by rw [hu]; rfl)).2.2.1 rfl
    · refine append_ne_cons hcapital fun _ u hu => ?_
      exact (hr 'E' (by rw [hu]; rfl)).2.2.2 rfl

/-- The number of digits before and after the point and an exponent. -/
def numberOf (negative : Bool) (whole places : Text) (exponent : Option Int) :
    Except Fault Number :=
  let (value, taken) := gather 0 0 whole
  let dropped := whole.length - taken
  if dropped = 0 ∧ places = [] ∧ exponent = none then integerOf negative value
  else
    let (significand, used) := gather value 0 places
    realOf negative significand (exponent.getD 0 + dropped - used)

theorem readUnsigned_eq_ok_iff {negative : Bool} {n : Number} :
    readUnsigned negative t = .ok (n, r) ↔
    ∃ whole t' places t'' exponent, readWhole t = .ok (whole, t') ∧
    readFraction t' = .ok (places, t'') ∧
      readExponent t'' = .ok (exponent, r) ∧ numberOf negative whole places exponent = .ok n := by
  have hend : ∀ whole places exponent (r' : Text),
      (if whole.length - (gather 0 0 whole).2 = 0 ∧ places = [] ∧ exponent = none then
        integerOf negative (gather 0 0 whole).1 >>= fun n => Except.ok (n, r')
      else
        realOf negative (gather (gather 0 0 whole).1 0 places).1
          (exponent.getD 0 +
            (whole.length - (gather 0 0 whole).2 : Nat) - (gather (gather 0 0 whole).1 0
            places).2) >>=
            fun n => Except.ok (n, r')) = (numberOf negative whole places exponent).map
              fun n => (n, r') := by
    intro whole places exponent r'
    rw [numberOf]
    dsimp only
    split
    · cases integerOf negative (gather 0 0 whole).1 <;> rfl
    · generalize realOf negative _ _ = result
      cases result <;> rfl
  constructor
  · intro h
    obtain ⟨⟨whole, t'⟩, hwhole, h⟩ := eq_ok_of_bind h
    obtain ⟨⟨places, t''⟩, hplaces, h⟩ := eq_ok_of_bind h
    obtain ⟨⟨exponent, r'⟩, hexponent, h⟩ := eq_ok_of_bind h
    obtain ⟨n', hn, heq⟩ := eq_ok_of_map ((hend whole places exponent r').symm.trans h)
    cases heq
    exact ⟨whole, t', places, t'', exponent, hwhole, hplaces, hexponent, hn⟩
  · rintro ⟨whole, t', places, t'', exponent, hwhole, hplaces, hexponent, hn⟩
    rw [readUnsigned, hwhole]
    dsimp only [bind, Except.bind]
    rw [hplaces]
    dsimp only
    rw [hexponent]
    refine (hend whole places exponent r).trans ?_
    rw [hn]
    rfl

theorem readUnsigned_append (hr : Stops rest) {negative : Bool} {n : Number}
    (h : readUnsigned negative t = .ok (n, r)) :
    readUnsigned negative (t ++ rest) = .ok (n, r ++ rest) := by
  obtain ⟨whole, t', places, t'', exponent, hwhole, hplaces, hexponent, hn⟩ :=
    readUnsigned_eq_ok_iff.mp h
  exact readUnsigned_eq_ok_iff.mpr ⟨whole, t' ++ rest, places, t'' ++ rest, exponent,
    readWhole_append hr hwhole,
    readFraction_append hr hplaces, readExponent_append hr hexponent, hn⟩

theorem readNumber_append (hr : Stops rest) {n : Number} (h : readNumber t = .ok (n, r)) :
    readNumber (t ++ rest) = .ok (n, r ++ rest) := by
  rw [readNumber.eq_def] at h
  split at h
  · exact readUnsigned_append hr h
  · next hminus =>
    have hne : t ≠ [] := by
      rintro rfl
      cases h
    rw [readNumber]
    · exact readUnsigned_append hr h
    · exact append_ne_cons hminus fun hnil => absurd hnil hne

theorem le_ofDigitChars (ds : Text) (value : Nat) : value ≤ Nat.ofDigitChars 10 ds value := by
  induction ds generalizing value with
  | nil => exact Nat.le_refl _
  | cons c ds ih =>
    rw [Nat.ofDigitChars_cons]
    exact Nat.le_trans (by omega) (ih _)

theorem gather_eq {ds : Text} {value : Nat} (h : Nat.ofDigitChars 10 ds value < UInt64.size)
    (taken : Nat) :
    gather value taken ds = (Nat.ofDigitChars 10 ds value, taken + ds.length) := by
  induction ds generalizing value taken with
  | nil => rfl
  | cons c ds ih =>
    rw [Nat.ofDigitChars_cons] at h
    have hnext : value * 10 + Text.digitValue c = 10 * value + (c.toNat - '0'.toNat) := by
      rw [Text.digitValue, Nat.mul_comm]
    rw [gather, hnext, if_pos (Nat.lt_of_le_of_lt (le_ofDigitChars ds _) h), ih h,
      Nat.ofDigitChars_cons, List.length_cons]
    congr 1
    omega

theorem numberOf_eq {whole places : Text}
    (h : Nat.ofDigitChars 10 (whole ++ places) 0 < UInt64.size) (negative : Bool)
    (exponent : Option Int) :
    numberOf negative whole places exponent =
      if places = [] ∧ exponent = none then integerOf negative (Nat.ofDigitChars 10 whole 0)
      else realOf negative (Nat.ofDigitChars 10 (whole ++ places) 0)
        (exponent.getD 0 - places.length) := by
  rw [Nat.ofDigitChars_append] at h
  have hwhole := Nat.lt_of_le_of_lt (le_ofDigitChars places _) h
  rw [numberOf, gather_eq hwhole]
  dsimp only
  rw [gather_eq h, Nat.ofDigitChars_append]
  simp

/-- Digits that may stand before a point. -/
structure IsWhole (ds : Text) : Prop where
  ne_nil : ds ≠ []
  digits : ∀ c ∈ ds, Text.isDigit c = true
  zero : ds.head? = some '0' → ds = ['0']

theorem readDigits_digits {ds : Text} (hne : ds ≠ []) (hds : ∀ c ∈ ds, Text.isDigit c = true)
    (hrest : NoDigit rest) :
    readDigits (ds ++ rest) = .ok (ds, rest) := by
  have hall : readDigits ds = .ok (ds, []) := readDigits_eq_ok_iff.mpr
    ⟨List.takeWhile_eq_self_iff.mpr hds, List.dropWhile_eq_nil_iff.mpr hds, hne⟩
  exact readDigits_append hrest hall

theorem readWhole_whole {ds : Text} (h : IsWhole ds) (hrest : NoDigit rest) :
    readWhole (ds ++ rest) = .ok (ds, rest) := by
  by_cases hzero : ds.head? = some '0'
  · have hnot : rest.head?.any Text.isDigit = false := by
      cases rest with
      | nil => rfl
      | cons c rest => exact hrest c rfl
    rw [h.zero hzero, List.singleton_append, readWhole, hnot]
    rfl
  · rw [readWhole]
    · exact readDigits_digits h.ne_nil h.digits hrest
    · refine append_ne_cons (fun u hu => hzero ?_) fun hnil => absurd hnil h.ne_nil
      rw [hu]
      rfl

/-- The digits after a point, with the point if there are any. -/
def fractionText (places : Text) : Text := if places = [] then [] else '.' :: places

theorem readUnsigned_digits {whole places tail : Text} {exponent : Option Int}
    (hwhole : IsWhole whole) (hplaces : ∀ c ∈ places, Text.isDigit c = true)
    (htail : readExponent tail = .ok (exponent, [])) (hhead : NoDigit tail)
    (hpoint : ∀ u, tail ≠ '.' :: u) {negative : Bool} {n : Number}
    (hn : numberOf negative whole places exponent = .ok n) :
    readUnsigned negative (whole ++ (fractionText places ++ tail)) = .ok (n, []) := by
  have hfraction : readFraction (fractionText places ++ tail) = .ok (places, tail) := by
    rw [fractionText]
    split
    · next h =>
      rw [List.nil_append, readFraction, h]
      exact hpoint
    · next h => exact readDigits_digits h hplaces hhead
  have hnoDigit : NoDigit (fractionText places ++ tail) := by
    rw [fractionText]
    split
    · exact hhead
    · intro c hc
      cases hc
      rfl
  exact readUnsigned_eq_ok_iff.mpr
    ⟨whole, _, places, tail, exponent, readWhole_whole hwhole hnoDigit, hfraction, htail, hn⟩

theorem head?_ofNat_ne (n : Nat) (h : n ≠ 0) : (Text.ofNat n).head? ≠ some '0' := by
  induction n using Nat.strongRecOn with
  | ind n ih =>
    rw [Text.ofNat, Nat.toDigits_eq_if (by decide)]
    split
    · next hlt =>
      have hchar : ∀ d < 10, Nat.digitChar d = '0' → d = 0 := by decide
      intro hhead
      exact h (hchar n hlt (Option.some_inj.mp hhead))
    · next hge =>
      have hhead := ih (n / 10) (by omega) (by omega)
      obtain ⟨c, t, hc⟩ := List.exists_cons_of_ne_nil (Nat.toDigits_ne_nil (n := n / 10) (b := 10))
      rw [Text.ofNat, hc] at hhead
      rw [hc]
      exact hhead

theorem isWhole_ofNat (n : Nat) : IsWhole (Text.ofNat n) where
  ne_nil := Nat.toDigits_ne_nil
  digits c hc := by
    rw [Text.isDigit_eq]
    exact Nat.isDigit_of_mem_toDigits (by decide) (by decide) hc
  zero h := by
    by_cases hn : n = 0
    · rw [hn]
      rfl
    · exact absurd h (head?_ofNat_ne n hn)

theorem readUnsigned_ofNat {n : Nat} (hn : n < UInt64.size) {negative : Bool} {m : Number}
    (hm : integerOf negative n = .ok m) : readUnsigned negative (Text.ofNat n) = .ok (m, []) := by
  have hvalue : Nat.ofDigitChars 10 (Text.ofNat n) 0 = n := Nat.ofDigitChars_ten_toDigits
  have hnumber : numberOf negative (Text.ofNat n) [] none = .ok m := by
    rw [numberOf_eq (by rwa [List.append_nil, hvalue]), if_pos ⟨rfl, rfl⟩, hvalue, hm]
  have hread : readUnsigned negative (Text.ofNat n ++ (fractionText [] ++ [])) = .ok (m, []) :=
    readUnsigned_digits (isWhole_ofNat n) (by simp) rfl noDigit_nil (by simp) hnumber
  simpa [fractionText] using hread

theorem integerOf_eq {negative : Bool} {n : Nat} {i : Int}
    (hi : (if negative then -(n : Int) else n) = i) (h : FitsInteger i)
    (hzero : ¬ (negative = true ∧ n = 0)) :
    integerOf negative n = .ok (.integer i h) := by
  subst hi
  exact dif_pos ⟨h, hzero⟩

@[simp] theorem readNumber_ofInt (i : Int) (h : FitsInteger i) :
    readNumber (Text.ofInt i) = .ok (.integer i h, []) := by
  have hlow := h.1
  have hhigh := h.2
  have hsize : i.natAbs < UInt64.size := by
    rw [UInt64.size]
    omega
  rw [Text.ofInt]
  split
  · next hneg =>
      exact readUnsigned_ofNat hsize (integerOf_eq (by rw [if_pos rfl]; omega) h (by omega))
  · next hpos =>
    rw [readNumber]
    · exact readUnsigned_ofNat hsize (integerOf_eq (by rw [if_neg (by decide)]; omega) h (by simp))
    · intro u hu
      have hdigit := (isWhole_ofNat i.natAbs).digits '-' (by rw [hu]; exact List.mem_cons_self)
      cases hdigit

end Json
end TestBench
