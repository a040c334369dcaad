import Mathlib.Data.List.Infix
import TestBench.Proofs.Text.Basic
import TestBench.Proofs.Xml.Grammar

/-! Reading XML documents. The reader accepts exactly the documents of the grammar, so that a
document says one thing only. Each reading function gives what is left of the text, and is compared
with the grammar of what it has taken. -/
namespace TestBench
namespace Xml

open Shape (run someRun)

variable {r t w : Text} {c : Char}

def skipSpace (t : Text) : Text := t.dropWhile isSpace

def name? (t : Text) : Option (Text × Text) :=
  let (name, rest) := t.span isNameChar
  if IsName name then some (name, rest) else none

theorem isNameChar_of_isSpace (h : isSpace c = true) : isNameChar c = false := by
  simp only [isSpace, Bool.or_eq_true, decide_eq_true_eq] at h
  rcases h with ((rfl | rfl) | rfl) | rfl <;> decide

theorem isSpace_of_isNameChar (h : isNameChar c = true) : isSpace c = false := by
  by_contra hs
  rw [isNameChar_of_isSpace (by simpa using hs)] at h
  exact Bool.false_ne_true h

theorem IsName.forall_mem {name : Text} (h : IsName name) : ∀ c ∈ name, isNameChar c = true := by
  cases name with
  | nil => exact h.elim
  | cons c t => exact List.forall_mem_cons.mpr ⟨by rw [isNameChar, h.1, Bool.true_or], h.2⟩

theorem IsName.exists_cons {name : Text} (h : IsName name) :
    ∃ c t, name = c :: t ∧ isNameStart c = true := by
  cases name with
  | nil => exact h.elim
  | cons c t => exact ⟨c, t, rfl, h.1⟩

theorem name?_eq_some_iff {name : Text} :
    name? t = some (name, r) ↔ t = name ++ r ∧ IsName name ∧
    ∀ c, r.head? = some c → isNameChar c = false := by
  constructor
  · intro h
    rw [name?, List.span_eq_takeWhile_dropWhile] at h
    dsimp only at h
    split at h
    · next hname =>
      obtain ⟨rfl, rfl⟩ := Prod.mk.inj (Option.some.inj h)
      refine ⟨(List.takeWhile_append_dropWhile ..).symm, hname, fun c hc => ?_⟩
      have hnot := List.head?_dropWhile_not isNameChar t
      rw [hc] at hnot
      simpa using hnot
    · simp at h
  · rintro ⟨rfl, hname, hr⟩
    rw [name?, Shape.span_append hname.forall_mem hr]
    simp [hname]

/-- The text for which a written one stands; of a reference that is open, `reference` holds what has
been read, the last character first. -/
def resolve? : (reference : Option Text) → Text → Option Text
  | none, [] => some []
  | some _, [] => none
  | none, c :: w => if c = '&' then resolve? (some []) w else (resolve? none w).map (c :: ·)
  | some name, c :: w =>
    if c = ';' then (referent? name.reverse).bind fun d => (resolve? none w).map (d :: ·)
    else resolve? (some (c :: name)) w

theorem resolve?_reference {name : Text} (hname : ';' ∉ name) (known w : Text) :
    resolve? (some known) (name ++ ';' :: w) =
      (referent? (known.reverse ++ name)).bind fun d => (resolve? none w).map (d :: ·) := by
  induction name generalizing known with
  | nil => simp [resolve?]
  | cons c name ih =>
    rw [List.mem_cons, not_or] at hname
    rw [List.cons_append, resolve?, if_neg (Ne.symm hname.1), ih hname.2]
    simp

theorem resolve?_of_stands (h : Stands w t) : resolve? none w = some t := by
  induction h with
  | nil => rfl
  | plain hc _ ih => simp [resolve?, hc, ih]
  | reference hname hc _ ih =>
    rw [resolve?, if_pos rfl, resolve?_reference hname]
    simp [hc, ih]

/-- What a text stands for when the start of a reference is before it. -/
def StandsBehind (w t : Text) : (reference : Option Text) → Prop
  | none => Stands w t
  | some known =>
    ∃ name w' c t', w = name ++ ';' :: w' ∧ ';' ∉ name ∧
      referent? (known.reverse ++ name) = some c ∧
      Stands w' t' ∧ t = c :: t'

theorem stands_of_resolve? {reference : Option Text} (h : resolve? reference w = some t) :
    StandsBehind w t reference := by
  induction w generalizing reference t with
  | nil =>
    cases reference with
    | none =>
      obtain rfl := Option.some.inj h
      exact Stands.nil
    | some known => simp [resolve?] at h
  | cons c w ih =>
    cases reference with
    | none =>
      rw [resolve?] at h
      split at h
      · next hc =>
        obtain ⟨name, w', d, t', rfl, hname, hd, hw, rfl⟩ := ih h
        subst hc
        exact .reference hname hd hw
      · next hc =>
        obtain ⟨t', ht', rfl⟩ := Option.map_eq_some_iff.mp h
        exact .plain hc (ih ht')
    | some known =>
      rw [resolve?] at h
      split at h
      · next hc =>
        obtain ⟨d, hd, h⟩ := Option.bind_eq_some_iff.mp h
        obtain ⟨t', ht', rfl⟩ := Option.map_eq_some_iff.mp h
        exact ⟨[], w, d, t', by rw [hc, List.nil_append],
          List.not_mem_nil, by rwa [List.append_nil], ih ht', rfl⟩
      · next hc =>
        obtain ⟨name, w', d, t', rfl, hname, hd, hw, rfl⟩ := ih h
        refine ⟨c :: name, w', d, t', rfl, ?_, by simpa using hd, hw, rfl⟩
        rw [List.mem_cons, not_or]
        exact ⟨Ne.symm hc, hname⟩

@[simp] theorem resolve?_eq_some_iff : resolve? none w = some t ↔ Stands w t :=
  ⟨stands_of_resolve?, resolve?_of_stands⟩

def value? (quote : Char) (t : Text) : Option (Text × Text) :=
  (Text.splitOnce? quote t).bind fun (written, rest) =>
    if '<' ∈ written then
      none else (resolve? none (written.map spaced)).map fun value => (value, rest)

theorem value?_eq_some_iff {quote : Char} {value : Text} :
    value? quote t = some (value, r) ↔
      ∃ written, t = written ++ quote :: r ∧ quote ∉ written ∧ '<' ∉ written ∧
      Stands (written.map spaced) value := by
  rw [value?, Option.bind_eq_some_iff]
  constructor
  · rintro ⟨⟨written, rest⟩, hsplit, h⟩
    obtain ⟨ht, hquote⟩ := Text.splitOnce?_eq_some_iff.mp hsplit
    dsimp only at h
    split at h
    · simp at h
    · next hless =>
      obtain ⟨value', hvalue, h⟩ := Option.map_eq_some_iff.mp h
      obtain ⟨rfl, rfl⟩ := Prod.mk.inj h
      exact ⟨written, ht, hquote, hless, resolve?_eq_some_iff.mp hvalue⟩
  · rintro ⟨written, ht, hquote, hless, hvalue⟩
    refine ⟨(written, r), Text.splitOnce?_eq_some_iff.mpr ⟨ht, hquote⟩, ?_⟩
    simp [hless, resolve?_of_stands hvalue]

/-- The value between quotes at the start of a text. -/
def quoted? : Text → Option (Text × Text)
  | [] => none
  | c :: t => if c = '"' ∨ c = '\'' then value? c t else none

theorem quoted?_eq_some_iff {value : Text} :
    quoted? t = some (value, r) ↔ ∃ quote written, t = quote :: (written ++ quote :: r) ∧
    (quote = '"' ∨ quote = '\'') ∧
      quote ∉ written ∧ '<' ∉ written ∧ Stands (written.map spaced) value := by
  constructor
  · intro h
    cases t with
    | nil => simp [quoted?] at h
    | cons quote t =>
      rw [quoted?] at h
      split at h
      · next hquote =>
        obtain ⟨written, rfl, hwritten⟩ := value?_eq_some_iff.mp h
        exact ⟨quote, written, rfl, hquote, hwritten⟩
      · simp at h
  · rintro ⟨quote, written, rfl, hquote, hwritten⟩
    rw [quoted?, if_pos hquote, value?_eq_some_iff]
    exact ⟨written, rfl, hwritten⟩

theorem skipSpace_append {s : Text} (hs : s ∈ run isSpace)
    (ht : ∀ c, t.head? = some c → isSpace c = false) :
    skipSpace (s ++ t) = t :=
  Shape.dropWhile_append hs ht

theorem skipSpace_eq (t : Text) : ∃ s ∈ run isSpace, t = s ++ skipSpace t :=
  ⟨_, Shape.takeWhile_mem_run isSpace t, (List.takeWhile_append_dropWhile ..).symm⟩

theorem head?_skipSpace (h : (skipSpace t).head? = some c) : isSpace c = false := by
  have hnot := List.head?_dropWhile_not isSpace t
  rw [skipSpace] at h
  rw [h] at hnot
  simpa using hnot

def afterEquals? (t : Text) : Option Text := (Text.dropPrefix? ['='] (skipSpace t)).map skipSpace

theorem afterEquals?_eq_some_iff :
    afterEquals? t = some r ↔
    (∃ before ∈ run isSpace, ∃ after ∈ run isSpace, t = before ++ '=' :: (after ++ r)) ∧
      ∀ c, r.head? = some c → isSpace c = false := by
  constructor
  · intro h
    obtain ⟨t', hdrop, rfl⟩ := Option.map_eq_some_iff.mp h
    obtain ⟨before, hbefore, ht⟩ := skipSpace_eq t
    obtain ⟨after, hafter, ht'⟩ := skipSpace_eq t'
    refine ⟨⟨before, hbefore, after, hafter, ?_⟩, fun c => head?_skipSpace⟩
    rw [← ht', ht, Text.dropPrefix?_eq_some_iff.mp hdrop, List.singleton_append]
  · rintro ⟨⟨before, hbefore, after, hafter, rfl⟩, hr⟩
    rw [afterEquals?, skipSpace_append hbefore (by simp; decide)]
    simp [Text.dropPrefix?, skipSpace_append hafter hr]

def attribute? (t : Text) : Option ((Text × Text) × Text) := do
  let (name, t) ← name? t
  let t ← afterEquals? t
  let (value, t) ← quoted? t
  return ((name, value), t)

theorem attribute?_eq_some_iff {p : Text × Text} : attribute? t = some (p, r) ↔
    ∃ a, t = a ++ r ∧ Attribute a p := by
  constructor
  · intro h
    obtain ⟨⟨name, t₁⟩, hname, h⟩ := Option.bind_eq_some_iff.mp h
    obtain ⟨t₂, hequals, h⟩ := Option.bind_eq_some_iff.mp h
    obtain ⟨⟨value, t₃⟩, hvalue, h⟩ := Option.bind_eq_some_iff.mp h
    obtain ⟨rfl, rfl⟩ := Prod.mk.inj (Option.some.inj h)
    obtain ⟨rfl, hisName, -⟩ := name?_eq_some_iff.mp hname
    obtain ⟨⟨before, hbefore, after, hafter, rfl⟩, -⟩ := afterEquals?_eq_some_iff.mp hequals
    obtain ⟨quote, written, rfl, hquote, hclosed, hless, hstands⟩ := quoted?_eq_some_iff.mp hvalue
    exact ⟨_, by simp, .mk hisName hbefore hafter hquote hclosed hless hstands⟩
  · rintro ⟨_, rfl,
      @⟨name, before, after, written, value, quote, hname, hbefore, hafter, hquote, hclosed,
        hless, hvalue⟩⟩
    have hstart :
        ∀ c, (before ++ '=' :: (after ++ quote :: (written ++ quote :: r))).head? = some c →
          isNameChar c = false := by
      intro c hc
      cases before with
      | nil =>
        obtain rfl : '=' = c := Option.some.inj hc
        decide
      | cons b before =>
        obtain rfl : b = c := Option.some.inj hc
        exact isNameChar_of_isSpace (hbefore b List.mem_cons_self)
    have hspace : isSpace quote = false := by rcases hquote with rfl | rfl <;> decide
    have hname? : name? (name ++ (before ++ '=' :: (after ++ quote :: (written ++ quote :: r)))) =
        some (name, before ++ '=' :: (after ++ quote :: (written ++ quote :: r))) :=
      name?_eq_some_iff.mpr ⟨rfl, hname, hstart⟩
    have hequals : afterEquals? (before ++ '=' :: (after ++ quote :: (written ++ quote :: r))) =
        some (quote :: (written ++ quote :: r)) :=
      afterEquals?_eq_some_iff.mpr ⟨⟨before, hbefore, after, hafter, rfl⟩, by simp [hspace]⟩
    have hvalue? : quoted? (quote :: (written ++ quote :: r)) = some (value, r) :=
      quoted?_eq_some_iff.mpr ⟨quote, written, rfl, hquote, hclosed, hless, hvalue⟩
    simp [attribute?, hname?, hequals, hvalue?]

/-- The attributes at the start of a text, and the white space behind them. -/
def attributes? : (fuel : Nat) → Text → Option (List (Text × Text) × Text)
  | 0, _ => none
  | fuel + 1, t =>
    if (skipSpace t).head?.any isNameStart then
      if t.head?.any isSpace then do
        let (p, t) ← attribute? (skipSpace t)
        let (ps, t) ← attributes? fuel t
        return (p :: ps, t)
      else none
    else some ([], skipSpace t)

def Ends (t : Text) : Prop := ∀ c, t.head? = some c → isSpace c = false ∧ isNameChar c = false

theorem attributes_of_attributes? {fuel : Nat} {ps : List (Text × Text)}
    (h : attributes? fuel t = some (ps, r)) :
    ∃ a, t = a ++ r ∧ Attributes a ps := by
  induction fuel generalizing t ps with
  | zero => simp [attributes?] at h
  | succ fuel ih =>
    obtain ⟨s, hs, ht⟩ := skipSpace_eq t
    rw [attributes?] at h
    split at h
    · split at h
      · next hspace =>
        obtain ⟨⟨p, t₁⟩, hp, h⟩ := Option.bind_eq_some_iff.mp h
        obtain ⟨⟨ps', t₂⟩, hps, h⟩ := Option.bind_eq_some_iff.mp h
        obtain ⟨rfl, rfl⟩ := Prod.mk.inj (Option.some.inj h)
        obtain ⟨a, ha, hattribute⟩ := attribute?_eq_some_iff.mp hp
        obtain ⟨b, rfl, hb⟩ := ih hps
        have hne : s ≠ [] := by
          rintro rfl
          cases t with
          | nil => simp at hspace
          | cons c t =>
            have hc : isSpace c = false :=
              head?_skipSpace (t := c :: t) (by rw [← List.nil_append (skipSpace _), ← ht]; rfl)
            simp [hc] at hspace
        refine ⟨s ++ (a ++ b), ?_, .more ⟨hne, hs⟩ hattribute hb⟩
        rw [ht, ha]
        simp
      · simp at h
    · obtain ⟨rfl, rfl⟩ := Prod.mk.inj (Option.some.inj h)
      exact ⟨s, ht, .last hs⟩

theorem Attribute.exists_cons {a : Text} {p : Text × Text} (h : Attribute a p) :
    ∃ c b, a = c :: b ∧ isNameStart c = true := by
  cases h with
  | mk hname =>
    obtain ⟨c, t, rfl, hc⟩ := hname.exists_cons
    exact ⟨c, _, rfl, hc⟩

theorem isNameChar_of_isNameStart (h : isNameStart c = true) : isNameChar c = true := by
  rw [isNameChar, h, Bool.true_or]

theorem attributes?_of_attributes {a : Text} {ps : List (Text × Text)} (h : Attributes a ps)
    (hr : Ends r) {fuel : Nat} (hfuel : a.length < fuel) :
    attributes? fuel (a ++ r) = some (ps, r) := by
  induction h generalizing fuel with
  | @last s hs =>
    obtain ⟨fuel, rfl⟩ := Nat.exists_eq_succ_of_ne_zero (Nat.ne_zero_of_lt hfuel)
    have hskip : skipSpace (s ++ r) = r := skipSpace_append hs fun c hc => (hr c hc).1
    have hstart : ¬r.head?.any isNameStart = true := by
      cases r with
      | nil => simp
      | cons c r =>
        have hc := (hr c rfl).2
        intro hstart
        rw [isNameChar_of_isNameStart (by simpa using hstart)] at hc
        exact Bool.false_ne_true hc.symm
    rw [attributes?, hskip, if_neg hstart]
  | @more s a t p ps hs ha _ ih =>
    obtain ⟨fuel, rfl⟩ := Nat.exists_eq_succ_of_ne_zero (Nat.ne_zero_of_lt hfuel)
    obtain ⟨c, b, hab, hc⟩ := ha.exists_cons
    obtain ⟨d, s', rfl⟩ := List.exists_cons_of_ne_nil hs.1
    have hd : isSpace d = true := hs.2 d List.mem_cons_self
    have hskip : skipSpace (d :: s' ++ (a ++ t) ++ r) = a ++ (t ++ r) := by
      rw [List.append_assoc, List.append_assoc, skipSpace_append hs.2]
      intro x hx
      obtain rfl : c = x := by simpa [hab] using hx
      exact isSpace_of_isNameChar (isNameChar_of_isNameStart hc)
    have hattribute : attribute? (a ++ (t ++ r)) = some (p, t ++ r) :=
      attribute?_eq_some_iff.mpr ⟨a, rfl, ha⟩
    have hrest : attributes? fuel (t ++ r) = some (ps, r) := by
      refine ih ?_
      simp only [List.length_append, List.length_cons] at hfuel
      omega
    rw [attributes?, hskip, if_pos (by simp [hab, hc]), if_pos (by simp [hd])]
    simp [hattribute, hrest]

/-- The name and the attributes at the start of a text. -/
def tag? (t : Text) : Option ((Text × List (Text × Text)) × Text) := do
  let (name, t) ← name? t
  let (attributes, t) ← attributes? (t.length + 1) t
  if (attributes.map Prod.fst).Nodup then return ((name, attributes), t) else none

theorem tag_of_tag? {name : Text} {ps : List (Text × Text)} (h : tag? t = some ((name, ps), r)) :
    ∃ a, t = a ++ r ∧ Tag a name ps := by
  obtain ⟨⟨name', t₁⟩, hname, h⟩ := Option.bind_eq_some_iff.mp h
  obtain ⟨⟨ps', t₂⟩, hps, h⟩ := Option.bind_eq_some_iff.mp h
  dsimp only at h
  split at h
  · next hnodup =>
    obtain ⟨hpair, rfl⟩ := Prod.mk.inj (Option.some.inj h)
    obtain ⟨rfl, rfl⟩ := Prod.mk.inj hpair
    obtain ⟨rfl, hisName, -⟩ := name?_eq_some_iff.mp hname
    obtain ⟨a, rfl, ha⟩ := attributes_of_attributes? hps
    exact ⟨name' ++ a, (List.append_assoc ..).symm, hisName, hnodup, a, rfl, ha⟩
  · simp at h

theorem Attributes.head {a : Text} {ps : List (Text × Text)} (h : Attributes a ps) :
    ∀ c, a.head? = some c → isSpace c = true := by
  intro c hc
  cases h with
  | last hs => exact hs c (List.mem_of_mem_head? hc)
  | more hs =>
    obtain ⟨d, s, rfl⟩ := List.exists_cons_of_ne_nil hs.1
    obtain rfl : d = c := by simpa using hc
    exact hs.2 d List.mem_cons_self

theorem tag?_of_tag {a name : Text} {ps : List (Text × Text)} (h : Tag a name ps) (hr : Ends r) :
    tag? (a ++ r) = some ((name, ps), r) := by
  obtain ⟨hname, hnodup, b, rfl, hb⟩ := h
  have hname? : name? (name ++ (b ++ r)) = some (name, b ++ r) := by
    refine name?_eq_some_iff.mpr ⟨rfl, hname, fun c hc => ?_⟩
    cases b with
    | nil => exact (hr c hc).2
    | cons d b => exact isNameChar_of_isSpace (hb.head c (by simpa using hc))
  have hps : attributes? ((b ++ r).length + 1) (b ++ r) = some (ps, r) := by
    refine attributes?_of_attributes hb hr ?_
    rw [List.length_append]
    omega
  rw [tag?, List.append_assoc, hname?]
  dsimp only [Option.bind_eq_bind, Option.bind_some]
  rw [hps]
  simp [hnodup]

def data? (t : Text) : Option (List Node × Text) :=
  let (d, rest) := t.span (· ≠ '<')
  if "]]>".toList <:+: d then none else (resolve? none d).map fun t => (textNodes t, rest)

theorem data?_eq_some_iff {nodes : List Node} :
    data? t = some (nodes, r) ↔
    ∃ d, t = d ++ r ∧ Data d nodes ∧ ∀ c, r.head? = some c → c = '<' := by
  constructor
  · intro h
    rw [data?, List.span_eq_takeWhile_dropWhile] at h
    dsimp only at h
    split at h
    · simp at h
    · next hend =>
      obtain ⟨t', ht', heq⟩ := Option.map_eq_some_iff.mp h
      obtain ⟨rfl, rfl⟩ := Prod.mk.inj heq
      have hless : '<' ∉ t.takeWhile (· ≠ '<') := by
        intro hmem
        have hne := Shape.takeWhile_mem_run (· ≠ '<') t '<' hmem
        simp at hne
      refine ⟨_, List.takeWhile_append_dropWhile.symm,
        ⟨hless, hend, t', resolve?_eq_some_iff.mp ht', rfl⟩, ?_⟩
      intro c hc
      have hnot := List.head?_dropWhile_not (· ≠ '<') t
      rw [hc] at hnot
      simpa using hnot
  · rintro ⟨d, rfl, ⟨hless, hend, t', ht', rfl⟩, hr⟩
    have hd : d ∈ run (· ≠ '<') := by
      intro c hc
      simp only [ne_eq, decide_not, Bool.not_eq_true', decide_eq_false_iff_not]
      rintro rfl
      exact hless hc
    have hspan : (d ++ r).span (· ≠ '<') = (d, r) := Shape.span_append hd fun c hc => by
      simp [hr c hc]
    rw [data?, hspan]
    dsimp only
    rw [if_neg hend, resolve?_of_stands ht', Option.map_some]

def closed? (name t : Text) : Option Text := do
  let t ← Text.dropPrefix? ("</".toList ++ name) t
  Text.dropPrefix? ['>'] (skipSpace t)

theorem closed?_eq_some_iff {name : Text} :
    closed? name t = some r ↔ ∃ s ∈ run isSpace, t = "</".toList ++ name ++ s ++ '>' :: r := by
  constructor
  · intro h
    obtain ⟨t', ht', h⟩ := Option.bind_eq_some_iff.mp h
    obtain ⟨s, hs, hskip⟩ := skipSpace_eq t'
    rw [Text.dropPrefix?_eq_some_iff.mp h] at hskip
    refine ⟨s, hs, ?_⟩
    rw [Text.dropPrefix?_eq_some_iff.mp ht', hskip]
    simp
  · rintro ⟨s, hs, rfl⟩
    have hskip : skipSpace (s ++ '>' :: r) = '>' :: r := skipSpace_append hs (by simp; decide)
    rw [closed?, List.append_assoc, Text.dropPrefix?_append]
    simp [hskip, Text.dropPrefix?]

mutual

def element? : (fuel : Nat) → Text → Option (Node × Text)
  | 0, _ => none
  | fuel + 1, t => do
    let t ← Text.dropPrefix? ['<'] t
    let ((name, attributes), t) ← tag? t
    match Text.dropPrefix? "/>".toList t with
    | some t => return (.element name attributes [], t)
    | none =>
      let t ← Text.dropPrefix? ['>'] t
      let (content, t) ← content? fuel t
      let t ← closed? name t
      return (.element name attributes content, t)

def content? : (fuel : Nat) → Text → Option (List Node × Text)
  | 0, _ => none
  | fuel + 1, t => do
    let (before, t) ← data? t
    if "</".toList <+: t then return (before, t) else
      let (n, t) ← element? fuel t
      let (after, t) ← content? fuel t
      return (before ++ n :: after, t)

end

theorem element_of_element? (fuel : Nat) :
    (∀ {t r : Text} {n : Node}, element? fuel t = some (n, r) → ∃ e, t = e ++ r ∧ Element e n) ∧
    ∀ {t r : Text} {nodes : List Node}, content? fuel t = some (nodes, r) →
    ∃ c, t = c ++ r ∧ Content c nodes := by
  induction fuel with
  | zero => simp [element?, content?]
  | succ fuel ih =>
    obtain ⟨ihElement, ihContent⟩ := ih
    constructor
    · intro t r n h
      rw [element?] at h
      obtain ⟨t₁, hopen, h₁⟩ := Option.bind_eq_some_iff.mp h
      obtain ⟨⟨⟨name, attributes⟩, t₂⟩, htag, h₂⟩ := Option.bind_eq_some_iff.mp h₁
      obtain ⟨a, ht₁, ha⟩ := tag_of_tag? htag
      rw [Text.dropPrefix?_eq_some_iff.mp hopen, ht₁]
      dsimp only at h₂
      split at h₂
      · next t₃ hempty =>
        obtain ⟨rfl, rfl⟩ := Prod.mk.inj (Option.some.inj h₂)
        rw [Text.dropPrefix?_eq_some_iff.mp hempty]
        exact ⟨_, by simp, .empty ha⟩
      · obtain ⟨t₃, hend, h₃⟩ := Option.bind_eq_some_iff.mp h₂
        obtain ⟨⟨content, t₄⟩, hcontent, h₄⟩ := Option.bind_eq_some_iff.mp h₃
        dsimp only at h₄
        obtain ⟨t₅, hclosed, h₅⟩ := Option.bind_eq_some_iff.mp h₄
        obtain ⟨rfl, rfl⟩ := Prod.mk.inj (Option.some.inj h₅)
        obtain ⟨c, ht₃, hc⟩ := ihContent hcontent
        obtain ⟨s, hs, ht₄⟩ := closed?_eq_some_iff.mp hclosed
        rw [Text.dropPrefix?_eq_some_iff.mp hend, ht₃, ht₄]
        exact ⟨_, by simp, .filled ha hc hs⟩
    · intro t r nodes h
      rw [content?] at h
      obtain ⟨⟨before, t₁⟩, hdata, h₁⟩ := Option.bind_eq_some_iff.mp h
      obtain ⟨d, ht, hd, -⟩ := data?_eq_some_iff.mp hdata
      dsimp only at h₁
      split at h₁
      · obtain ⟨rfl, rfl⟩ := Prod.mk.inj (Option.some.inj h₁)
        exact ⟨d, ht, .last hd⟩
      · obtain ⟨⟨n, t₂⟩, helement, h₂⟩ := Option.bind_eq_some_iff.mp h₁
        dsimp only at h₂
        obtain ⟨⟨after, t₃⟩, hafter, h₃⟩ := Option.bind_eq_some_iff.mp h₂
        obtain ⟨rfl, rfl⟩ := Prod.mk.inj (Option.some.inj h₃)
        obtain ⟨e, ht₁, he⟩ := ihElement helement
        obtain ⟨c, ht₂, hc⟩ := ihContent hafter
        rw [ht, ht₁, ht₂]
        exact ⟨_, by simp, .more hd he hc⟩

theorem ends_cons (h : isSpace c = false) (h' : isNameChar c = false) : Ends (c :: t) := by
  intro d hd
  obtain rfl : c = d := by simpa using hd
  exact ⟨h, h'⟩

theorem Element.exists_cons {e : Text} {n : Node} (h : Element e n) :
    ∃ c t, e = '<' :: c :: t ∧ isNameStart c = true := by
  have htag : ∀ {t name : Text} {ps : List (Text × Text)} (r : Text), Tag t name ps →
      ∃ c t', '<' :: (t ++ r) = '<' :: c :: t' ∧ isNameStart c = true := by
    rintro t name ps r ⟨hname, -, a, rfl, -⟩
    obtain ⟨c, t', rfl, hc⟩ := hname.exists_cons
    exact ⟨c, t' ++ a ++ r, by simp, hc⟩
  cases h with
  | empty h => exact htag _ h
  | filled h => exact htag _ h

theorem not_endTag_prefix_of_element {e : Text} {n : Node} (h : Element e n) :
    ¬"</".toList <+: e ++ r := by
  obtain ⟨c, t, rfl, hc⟩ := h.exists_cons
  rintro ⟨s, hs⟩
  obtain rfl : '/' = c := by
    simp only [String.toList] at hs
    exact (List.cons.inj (List.cons.inj hs).2).1
  exact Bool.false_ne_true hc

mutual

theorem element?_of_element {e r : Text} {n : Node} :
    Element e n → ∀ {fuel : Nat}, e.length ≤ fuel → element? fuel (e ++ r) = some (n, r)
  | @Element.empty t name attributes htag, fuel, hfuel => by
    obtain ⟨fuel, rfl⟩ : ∃ k, fuel = k + 1 :=
      Nat.exists_eq_succ_of_ne_zero (Nat.ne_zero_of_lt hfuel)
    have htag? : tag? (t ++ ("/>".toList ++ r)) = some ((name, attributes), "/>".toList ++ r) :=
      tag?_of_tag htag (ends_cons rfl (by decide))
    have hopen : '<' :: (t ++ "/>".toList) ++ r = ['<'] ++ (t ++ ("/>".toList ++ r)) := by simp
    rw [element?, hopen, Text.dropPrefix?_append]
    simp only [Option.bind_eq_bind, Option.bind_some, htag?, Text.dropPrefix?_append]
    rfl
  | @Element.filled t name c s attributes content htag hc hs, fuel, hfuel => by
    obtain ⟨fuel, rfl⟩ : ∃ k, fuel = k + 1 :=
      Nat.exists_eq_succ_of_ne_zero (Nat.ne_zero_of_lt hfuel)
    let closing := "</".toList ++ name ++ s ++ '>' :: r
    have htag? :
        tag? (t ++ ('>' :: (c ++ closing))) = some ((name, attributes), '>' :: (c ++ closing)) :=
      tag?_of_tag htag (ends_cons rfl (by decide))
    have hcontent : content? fuel (c ++ closing) = some (content, closing) := by
      refine content?_of_content hc ?_ ⟨name ++ s ++ '>' :: r, by simp [closing]⟩
      simp only [List.length_cons, List.length_append] at hfuel
      omega
    have hclosed : closed? name closing = some r := closed?_eq_some_iff.mpr ⟨s, hs, rfl⟩
    have hopen : '<' :: (t ++ '>' :: (c ++ "</".toList ++ name ++ s ++ ['>'])) ++ r =
        ['<'] ++ (t ++ ('>' :: (c ++ closing))) := by simp [closing]
    rw [element?, hopen, Text.dropPrefix?_append]
    simp only [Option.bind_eq_bind, Option.bind_some, htag?]
    have hempty : Text.dropPrefix? "/>".toList ('>' :: (c ++ closing)) = none := rfl
    have hend : Text.dropPrefix? ['>'] ('>' :: (c ++ closing)) = some (c ++ closing) :=
      Text.dropPrefix?_append ['>'] _
    simp only [hempty, hend, Option.bind_some, hcontent, hclosed]
    rfl

theorem content?_of_content {c r : Text} {nodes : List Node} :
    Content c nodes → ∀ {fuel : Nat}, c.length < fuel → "</".toList <+: r →
    content? fuel (c ++ r) = some (nodes, r)
  | @Content.last d _ hd, fuel, hfuel, hr => by
    obtain ⟨fuel, rfl⟩ : ∃ k, fuel = k + 1 :=
      Nat.exists_eq_succ_of_ne_zero (Nat.ne_zero_of_lt hfuel)
    have hdata : data? (d ++ r) = some (nodes, r) := by
      refine data?_eq_some_iff.mpr ⟨d, rfl, hd, fun x hx => ?_⟩
      obtain ⟨s, rfl⟩ := hr
      exact (Option.some.inj hx).symm
    rw [content?, hdata]
    simp only [Option.bind_eq_bind, Option.bind_some, if_pos hr]
    rfl
  | @Content.more d e c before after n hd he hc, fuel, hfuel, hr => by
    obtain ⟨fuel, rfl⟩ : ∃ k, fuel = k + 1 :=
      Nat.exists_eq_succ_of_ne_zero (Nat.ne_zero_of_lt hfuel)
    simp only [List.length_append] at hfuel
    obtain ⟨x, e', rfl, hx⟩ := he.exists_cons
    have hdata :
        data? (d ++ ('<' :: x :: e' ++ (c ++ r))) = some (before, '<' :: x :: e' ++ (c ++ r)) :=
      data?_eq_some_iff.mpr ⟨d, rfl, hd, fun y hy => (Option.some.inj hy).symm⟩
    have helement : element? fuel ('<' :: x :: e' ++ (c ++ r)) = some (n, c ++ r) :=
      element?_of_element he (by omega)
    have hafter : content? fuel (c ++ r) = some (after, r) :=
      content?_of_content hc (by simp only [List.length_cons] at hfuel; omega) hr
    rw [content?, List.append_assoc, List.append_assoc, hdata]
    simp only [Option.bind_eq_bind, Option.bind_some, if_neg (not_endTag_prefix_of_element he),
      helement, hafter]
    rfl

end

/-- What is behind the declaration, if there is one. -/
def afterDeclaration? (t : Text) : Option Text :=
  match Text.dropPrefix? "<?xml".toList t with
  | none => some t
  | some t => do
    let (attributes, t) ← attributes? (t.length + 1) t
    if attributes ∈ declarations then Text.dropPrefix? "?>".toList t else none

theorem declaration_of_afterDeclaration? (h : afterDeclaration? t = some r) :
    ∃ d, t = d ++ r ∧ Declaration d := by
  rw [afterDeclaration?] at h
  split at h
  · obtain rfl := Option.some.inj h
    exact ⟨[], rfl, .inl rfl⟩
  · next t₁ hstart =>
    obtain ⟨⟨attributes, t₂⟩, hattributes, h₁⟩ := Option.bind_eq_some_iff.mp h
    obtain ⟨a, ht₁, ha⟩ := attributes_of_attributes? hattributes
    dsimp only at h₁
    split at h₁
    · next hmem =>
      rw [Text.dropPrefix?_eq_some_iff.mp hstart, ht₁, Text.dropPrefix?_eq_some_iff.mp h₁]
      exact ⟨_, by simp, .inr ⟨a, attributes, rfl, ha, hmem⟩⟩
    · simp at h₁

theorem afterDeclaration?_of_declaration {d : Text} (h : Declaration d)
    (hr : Text.dropPrefix? "<?xml".toList r = none) : afterDeclaration? (d ++ r) = some r := by
  obtain rfl | ⟨a, attributes, rfl, ha, hmem⟩ := h
  · rw [afterDeclaration?, List.nil_append, hr]
  · have hattributes :
        attributes? ((a ++ ("?>".toList ++ r)).length + 1) (a ++ ("?>".toList ++ r)) =
          some (attributes, "?>".toList ++ r) := by
      refine attributes?_of_attributes ha (ends_cons rfl (by decide)) ?_
      rw [List.length_append]
      omega
    rw [afterDeclaration?, List.append_assoc, Text.dropPrefix?_append, List.append_assoc]
    simp only [hattributes, Option.bind_eq_bind, Option.bind_some, if_pos hmem,
      Text.dropPrefix?_append]

theorem no_declaration {s : Text} (hs : s ∈ run isSpace) (hc : isNameStart c = true) :
    Text.dropPrefix? "<?xml".toList (s ++ '<' :: c :: t) = none := by
  cases s with
  | nil =>
    have hne : '?' ≠ c := by
      rintro rfl
      exact absurd hc (by decide)
    simp [Text.dropPrefix?, hne]
  | cons b s =>
    have hne : '<' ≠ b := by
      rintro rfl
      exact absurd (hs _ List.mem_cons_self) (by decide)
    simp [Text.dropPrefix?, hne]

def read? (t : Text) : Option Node :=
  if t.all isLegal then do
    let t ← afterDeclaration? (lineEnds t)
    let (root, rest) ← element? t.length (skipSpace t)
    if rest.all isSpace then some root else none
  else none

/-- The reader accepts the documents, and no other text. -/
@[simp] theorem read?_eq_some_iff {root : Node} : read? t = some root ↔ IsDocument t root := by
  constructor
  · intro h
    rw [read?] at h
    split at h
    · next hlegal =>
      obtain ⟨t₁, hdeclaration, h₁⟩ := Option.bind_eq_some_iff.mp h
      obtain ⟨⟨root', rest⟩, helement, h₂⟩ := Option.bind_eq_some_iff.mp h₁
      dsimp only at h₂
      split at h₂
      · next hrest =>
        obtain rfl := Option.some.inj h₂
        obtain ⟨d, ht, hd⟩ := declaration_of_afterDeclaration? hdeclaration
        obtain ⟨s, hs, ht₁⟩ := skipSpace_eq t₁
        obtain ⟨e, hskip, he⟩ := (element_of_element? _).1 helement
        refine ⟨List.all_eq_true.mp hlegal, d, s, e, rest, ?_, hd, hs, he,
          List.all_eq_true.mp hrest⟩
        rw [ht, ht₁, hskip]
      · simp at h₂
    · simp at h
  · rintro ⟨hlegal, d, s, e, s', ht, hd, hs, he, hs'⟩
    obtain ⟨x, e', rfl, hx⟩ := he.exists_cons
    have hdeclaration : afterDeclaration? (lineEnds t) = some (s ++ ('<' :: x :: e' ++ s')) := by
      rw [ht]
      exact afterDeclaration?_of_declaration hd (no_declaration hs hx)
    have hskip : skipSpace (s ++ ('<' :: x :: e' ++ s')) = '<' :: x :: e' ++ s' :=
      skipSpace_append hs (by simp; decide)
    have helement : element? (s ++ ('<' :: x :: e' ++ s')).length ('<' :: x :: e' ++ s') =
        some (root, s') := by
      refine element?_of_element he ?_
      simp only [List.length_append]
      omega
    rw [read?, if_pos (List.all_eq_true.mpr hlegal), hdeclaration]
    simp only [Option.bind_eq_bind, Option.bind_some, hskip, helement,
      if_pos (List.all_eq_true.mpr hs')]

theorem IsDocument.unique {m n : Node} (hm : IsDocument t m) (hn : IsDocument t n) : m = n :=
  Option.some.inj ((read?_eq_some_iff.mpr hm).symm.trans (read?_eq_some_iff.mpr hn))

end Xml
end TestBench
