import Mathlib.Data.List.Basic
import TestBench.Text.Capital

/-! How words are spelled. A word in Latin capital letters is what its letters stand for in either
case; the only other characters that stand for such letters are the long s and the ligatures of s
and t. -/
namespace TestBench
namespace Text

variable {c d : Char} {n : Nat} {s t v : Text}

/-- The texts that stand for a word in capital letters. -/
inductive Spells : Text → Text → Prop
  | nil : Spells [] []
  | letter {c d : Char} {v t : Text} : d = c ∨ d = c.toLower → Spells v t → Spells (c :: v) (d :: t)
  | longS {v t : Text} : Spells v t → Spells ('S' :: v) ('ſ' :: t)
  | ligature {d : Char} {v t : Text} : d = 'ﬅ' ∨ d = 'ﬆ' → Spells v t →
      Spells ('S' :: 'T' :: v) (d :: t)

@[simp] theorem toUpper_nil : toUpper [] = [] := rfl

@[simp] theorem toUpper_cons (c : Char) (t : Text) : toUpper (c :: t) = capital c ++ toUpper t :=
  rfl

@[simp] theorem capital_of_lt (h : c.toNat < 128) : capital c = [c.toUpper] := if_pos h

theorem mem_of_capitalGain? {runs : List (Nat × Nat × Nat × Int)} {gain : Int}
    (h : capitalGain? runs n = some gain) :
    ∃ first last stride, (first, last, stride, gain) ∈ runs ∧ first ≤ n ∧ n ≤ last := by
  induction runs with
  | nil => cases h
  | cons run runs ih =>
    obtain ⟨first, last, stride, gain'⟩ := run
    rw [capitalGain?] at h
    split at h
    · next hrun =>
      cases h
      simp only [Bool.and_eq_true, decide_eq_true_eq] at hrun
      exact ⟨first, last, stride, List.mem_cons_self, hrun.1.1, hrun.1.2⟩
    · obtain ⟨first, last, stride, hmem, hn⟩ := ih h
      exact ⟨first, last, stride, List.mem_cons_of_mem _ hmem, hn⟩

/-- A word of capital letters of which none comes from a single character of another kind, apart
from the long s and the ligatures of s and t. -/
structure CapitalWord (v : Text) : Prop where
  letters : ∀ c ∈ v, 65 ≤ c.toNat ∧ c.toNat ≤ 90
  dotless : 'I' ∉ v
  expansions : ∀ p ∈ capitalExpansions, p.1 = 0xfb05 ∨ p.1 = 0xfb06 ∨ ¬p.2.map Char.ofNat <:+: v

theorem CapitalWord.tail (h : CapitalWord (c :: v)) : CapitalWord v where
  letters d hd := h.letters d (List.mem_cons_of_mem _ hd)
  dotless hmem := h.dotless (List.mem_cons_of_mem _ hmem)
  expansions p hp := (h.expansions p hp).imp_right fun hp => hp.imp_right fun hp hpart =>
    hp (hpart.trans (List.suffix_cons c v).isInfix)

theorem forall_ascii {P : Char → Prop} (h : ∀ n < 128, P (Char.ofNat n)) (hc : c.toNat < 128) :
    P c := by
  have hP := h c.toNat hc
  rwa [Char.ofNat_toNat] at hP

theorem spelled_of_ascii (hc : c.toNat < 128)
    (hletter : 65 ≤ c.toUpper.toNat ∧ c.toUpper.toNat ≤ 90) :
    c = c.toUpper ∨ c = c.toUpper.toLower :=
  forall_ascii (P := fun c => 65 ≤ c.toUpper.toNat ∧ c.toUpper.toNat ≤ 90 → c = c.toUpper ∨
    c = c.toUpper.toLower)
    (by decide +kernel) hc hletter

theorem capital_of_letter (hc : 65 ≤ c.toNat ∧ c.toNat ≤ 90) :
    capital c = [c] ∧ capital c.toLower = [c] :=
  forall_ascii (P := fun c => 65 ≤ c.toNat ∧ c.toNat ≤ 90 → capital c = [c] ∧
    capital c.toLower = [c])
    (by decide +kernel) (by omega) hc

theorem run_cases : ∀ r ∈ capitalRuns, r.2.1 < 128 ∨ r = (0x131, 0x131, 1, -232) ∨
    r = (0x17f, 0x17f, 1, -300) ∨
    128 ≤ r.1 + r.2.2.2 ∧ (r.2.1 + r.2.2.2 < 0xd800 ∨ 0xdfff < r.1 + r.2.2.2 ∧
      r.2.1 + r.2.2.2 < 0x110000) := by
  decide +kernel

theorem ligature_cases : ∀ p ∈ capitalExpansions, p.1 = 0xfb05 ∨ p.1 = 0xfb06 →
    p.2 = [0x53, 0x54] := by
  decide +kernel

theorem capital_cases (hc : 128 ≤ c.toNat) (h : CapitalWord (capital c ++ t)) :
    c = 'ſ' ∧ capital c = ['S'] ∨ (c = 'ﬅ' ∨ c = 'ﬆ') ∧ capital c = ['S', 'T'] := by
  have hhead : ∀ d, capital c = [d] → d.toNat < 128 := fun d hd => by
    have hletter := (h.letters d (by simp [hd])).2
    omega
  rw [capital, if_neg (Nat.not_lt_of_le hc)] at hhead h ⊢
  cases hlookup : capitalExpansions.lookup c.toNat with
  | some ns =>
    rw [hlookup] at h
    have hmem : (c.toNat, ns) ∈ capitalExpansions := by
      obtain ⟨before, after, hruns, -⟩ := List.lookup_eq_some_iff.mp hlookup
      exact hruns ▸ List.mem_append_right _ List.mem_cons_self
    have hligature : c.toNat = 0xfb05 ∨ c.toNat = 0xfb06 := by
      rcases h.expansions _ hmem with hn | hn | hn
      · exact .inl hn
      · exact .inr hn
      · exact absurd (List.prefix_append _ _).isInfix hn
    have hns : ns = [0x53, 0x54] := ligature_cases _ hmem hligature
    exact .inr ⟨hligature.imp Char.toNat_inj.mp Char.toNat_inj.mp, hns ▸ rfl⟩
  | none =>
    rw [hlookup] at h hhead
    cases hgain : capitalGain? capitalRuns c.toNat with
    | none =>
      rw [hgain] at hhead
      exact absurd (hhead c rfl) (Nat.not_lt_of_le hc)
    | some gain =>
      rw [hgain] at h hhead
      obtain ⟨first, last, stride, hmem, hfirst, hlast⟩ := mem_of_capitalGain? hgain
      rcases run_cases _ hmem with hlow | hdotless | hlong | hhigh
      · dsimp only at hlow
        omega
      · cases hdotless
        have hn : c.toNat = 0x131 := by omega
        refine absurd ?_ h.dotless
        rw [hn]
        exact List.mem_cons_self
      · cases hlong
        have hn : c.toNat = 0x17f := by omega
        refine .inl ⟨Char.toNat_inj.mp hn, ?_⟩
        rw [hn]
        rfl
      · dsimp only at hhigh
        have hvalid : (c.toNat + gain).toNat.isValidChar := by
          rw [Nat.isValidChar]
          omega
        have hlow := hhead _ rfl
        have hvalue : (Char.ofNat (c.toNat + gain).toNat).toNat = (c.toNat + gain).toNat := by
          rw [Char.ofNat, dif_pos hvalid]
          rfl
        omega

/-- The texts that are spelled in capital letters as such a word are those that stand for it. -/
theorem toUpper_eq_iff (h : CapitalWord v) : toUpper t = v ↔ Spells v t := by
  constructor
  · rintro rfl
    induction t with
    | nil => exact .nil
    | cons c t ih =>
      rw [toUpper_cons] at h ⊢
      rcases Nat.lt_or_ge c.toNat 128 with hc | hc
      · rw [capital_of_lt hc] at h ⊢
        exact .letter (spelled_of_ascii hc (h.letters _ List.mem_cons_self)) (ih h.tail)
      · rcases capital_cases hc h with ⟨rfl, hcapital⟩ | ⟨hligature, hcapital⟩
        · rw [hcapital] at h ⊢
          exact .longS (ih h.tail)
        · rw [hcapital] at h ⊢
          exact .ligature hligature (ih h.tail.tail)
  · intro hspells
    induction hspells with
    | nil => rfl
    | letter hd _ ih =>
      have hletter := capital_of_letter (h.letters _ List.mem_cons_self)
      rw [toUpper_cons, ih h.tail]
      rcases hd with rfl | rfl
      · rw [hletter.1, List.singleton_append]
      · rw [hletter.2, List.singleton_append]
    | longS _ ih =>
      rw [toUpper_cons, ih h.tail]
      rfl
    | ligature hd _ ih =>
      rw [toUpper_cons, ih h.tail.tail]
      rcases hd with rfl | rfl <;> rfl

end Text
end TestBench
