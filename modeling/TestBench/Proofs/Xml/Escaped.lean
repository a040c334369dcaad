import TestBench.Proofs.Xml.Reader

/-! Escaped text and what is read of it: the text without its illegal characters and with line feeds
as its only line breaks. In the value of an attribute all white space is blanks besides. -/
namespace TestBench
namespace Xml

variable {a b t w : Text} {c : Char}

@[simp] theorem lineEnds_cons (hc : c ≠ '\r') : lineEnds (c :: t) = c :: lineEnds t := by
  rw [lineEnds, if_neg hc]

@[simp] theorem lineEnds_append_left (ha : '\r' ∉ a) : lineEnds (a ++ b) = a ++ lineEnds b := by
  induction a with
  | nil => rfl
  | cons c a ih =>
    rw [List.mem_cons, not_or] at ha
    rw [List.cons_append, lineEnds_cons (Ne.symm ha.1), ih ha.2, List.cons_append]

theorem lineEnds_eq_self (ht : '\r' ∉ t) : lineEnds t = t := by
  have h : lineEnds (t ++ []) = t ++ lineEnds [] := lineEnds_append_left ht
  rwa [List.append_nil, lineEnds, List.append_nil] at h

theorem lineEnds_append_cons (hc : c ≠ '\r') (hc' : c ≠ '\n') :
    lineEnds (a ++ c :: b) = lineEnds a ++ c :: lineEnds b := by
  induction a with
  | nil => exact lineEnds_cons hc
  | cons d a ih =>
    have hhead : (a ++ c :: b).head? = some '\n' ↔ a.head? = some '\n' := by
      cases a with
      | nil => simp [hc']
      | cons e a => simp
    simp only [List.cons_append, lineEnds, hhead, ih]
    split
    · split
      · rfl
      · rfl
    · rfl

theorem mem_lineEnds (h : c ∈ lineEnds t) : (c ∈ t ∨ c = '\n') ∧ c ≠ '\r' := by
  induction t with
  | nil => exact absurd h List.not_mem_nil
  | cons d t ih =>
    have hrest : c ∈ lineEnds t → (c ∈ d :: t ∨ c = '\n') ∧ c ≠ '\r' := fun h =>
      (ih h).imp_left fun h => h.imp_left (List.mem_cons_of_mem d)
    rw [lineEnds] at h
    split at h
    · split at h
      · exact hrest h
      · rcases List.mem_cons.mp h with rfl | h
        · exact ⟨.inr rfl, by decide⟩
        · exact hrest h
    · next hd =>
      rcases List.mem_cons.mp h with rfl | h
      · exact ⟨.inl List.mem_cons_self, hd⟩
      · exact hrest h

theorem isLegal_iff (c : Char) :
    isLegal c = true ↔ (c = '\t' ∨ c = '\n' ∨ c = '\r') ∨
    ¬(c.toNat < 32 ∨ c.toNat = 0xfffe ∨ c.toNat = 0xffff) := by
  have hvalid : c.toNat < 0xd800 ∨ 0xdfff < c.toNat ∧ c.toNat < 0x110000 := c.valid
  have hcode : ∀ d : Char, c = d ↔ c.toNat = d.toNat := fun d => by
    rw [Char.ext_iff, UInt32.toNat_inj.symm]
    rfl
  have htab : '\t'.toNat = 9 := rfl
  have hfeed : '\n'.toNat = 10 := rfl
  have hreturn : '\r'.toNat = 13 := rfl
  rw [hcode, hcode, hcode]
  simp only [isLegal, Bool.or_eq_true, Bool.and_eq_true, decide_eq_true_eq]
  omega

theorem isLegal_of_isNameChar (h : isNameChar c = true) : isLegal c = true := by
  have hrange : ∀ rs : List (Nat × Nat), (∀ r ∈ rs, 32 ≤ r.1 ∧ (r.2 ≤ 0xfffd ∨ 0x10000 ≤ r.1)) →
      Text.inRanges rs c.toNat = true → isLegal c = true := by
    intro rs hrs hc
    obtain ⟨r, hr, hfirst, hlast⟩ := Text.inRanges_sound hc
    have hbounds := hrs r hr
    rw [isLegal_iff]
    right
    omega
  rw [isNameChar, Bool.or_eq_true] at h
  exact h.elim (hrange nameStartRanges (by decide)) (hrange nameInnerRanges (by decide))

theorem IsName.legal {name : Text} (h : IsName name) : ∀ c ∈ name, isLegal c = true := fun c hc =>
  isLegal_of_isNameChar (h.forall_mem c hc)

theorem IsName.not_mem {name : Text} (h : IsName name) (hc : isNameChar c = false) : c ∉ name := by
  intro hmem
  rw [h.forall_mem c hmem] at hc
  exact Bool.noConfusion hc

/-- The text without the characters that no document can have. -/
def representable (t : Text) : Text := t.filter isLegal

@[simp] theorem representable_cons (h : isLegal c = true) :
    representable (c :: t) = c :: representable t :=
  List.filter_cons_of_pos h

@[simp] theorem representable_cons_of_illegal (h : isLegal c = false) :
    representable (c :: t) = representable t :=
  List.filter_cons_of_neg (by simp [h])

/-- How a text is written: each character as a reference, as itself, or not at all. White space is
written as itself. -/
inductive Escapes : Text → Text → Prop
  | nil : Escapes [] []
  | reference {c : Char} {name t w : Text} (hlegal : isLegal c = true) (hspace : isSpace c = false)
      (hname : IsName name) (hc : referent? name = some c) (h : Escapes t w) :
      Escapes (c :: t) ('&' :: (name ++ ';' :: w))
  | plain {c : Char} {t w : Text} (hlegal : isLegal c = true) (hc : c ∉ ['&', '<', '>', '"'])
      (h : Escapes t w) :
      Escapes (c :: t) (c :: w)
  | dropped {c : Char} {t w : Text} (hlegal : isLegal c = false) (h : Escapes t w) :
      Escapes (c :: t) w

theorem Escapes.entity (p : Text × Char) (hp : p ∈ entities) (h : Escapes t w) :
    Escapes (p.2 :: t) ('&' :: (p.1 ++ ';' :: w)) := by
  have hall : ∀ p ∈ entities, isLegal p.2 = true ∧ isSpace p.2 = false ∧ IsName p.1 ∧
      referent? p.1 = some p.2 := by
    decide
  obtain ⟨hlegal, hspace, hname, hc⟩ := hall p hp
  exact .reference hlegal hspace hname hc h

theorem Escapes.cons (c : Char) (h : Escapes t w) : Escapes (c :: t) (escapeChar c ++ w) := by
  rw [escapeChar]
  split_ifs with hamp hlt hgt hquot hapos hspace hillegal
  · subst hamp
    exact h.entity ("amp".toList, '&') (by decide)
  · subst hlt
    exact h.entity ("lt".toList, '<') (by decide)
  · subst hgt
    exact h.entity ("gt".toList, '>') (by decide)
  · subst hquot
    exact h.entity ("quot".toList, '"') (by decide)
  · subst hapos
    exact h.entity ("apos".toList, '\'') (by decide)
  · exact .plain ((isLegal_iff c).mpr (.inl hspace)) (by simp [hamp, hlt, hgt, hquot]) h
  · refine .dropped (Bool.eq_false_iff.mpr fun hlegal => ?_) h
    exact ((isLegal_iff c).mp hlegal).elim hspace fun hlegal => hlegal hillegal
  · exact .plain ((isLegal_iff c).mpr (.inr hillegal)) (by simp [hamp, hlt, hgt, hquot]) h

theorem escapes_escape (t : Text) : Escapes t (escape t) := by
  induction t with
  | nil => exact .nil
  | cons c t ih =>
    rw [escape, List.flatMap_cons]
    exact ih.cons c

theorem Escapes.forall_mem (h : Escapes t w) : ∀ c ∈ w, isLegal c = true ∧ c ∉ ['<', '>', '"'] := by
  induction h with
  | nil => exact List.forall_mem_nil _
  | @reference c name t w _ _ hname _ _ ih =>
    have hletters : ∀ c ∈ name, isLegal c = true ∧ c ∉ ['<', '>', '"'] := by
      intro c hc
      have hnone : ∀ d ∈ ['<', '>', '"'], (!isNameChar d) = true := List.all_eq_true.mp rfl
      have hchar : isNameChar c = true := hname.forall_mem c hc
      exact ⟨isLegal_of_isNameChar hchar, fun hmem => by simpa [hchar] using hnone c hmem⟩
    rw [List.forall_mem_cons, List.forall_mem_append, List.forall_mem_cons]
    exact ⟨by decide, hletters, by decide, ih⟩
  | plain hlegal hc _ ih =>
    exact List.forall_mem_cons.mpr ⟨⟨hlegal, fun hmem => hc (List.mem_cons_of_mem _ hmem)⟩, ih⟩
  | dropped _ _ ih => exact ih

def legible (t : Text) : Text := lineEnds (representable t)

theorem Escapes.head?_eq (h : Escapes t w) : w.head? = some '\n' ↔
    (representable t).head? = some '\n' := by
  induction h with
  | nil => rfl
  | @reference c _ _ _ hlegal hspace =>
    have hfeed : c ≠ '\n' := by
      rintro rfl
      exact absurd hspace (by decide)
    simp [representable_cons hlegal, hfeed]
  | plain hlegal => simp [representable_cons hlegal]
  | dropped hlegal _ ih => rw [representable_cons_of_illegal hlegal, ih]

/-- An escaped text stands for the text, also where white space is replaced in both. -/
theorem Escapes.stands (h : Escapes t w) {f : Char → Char} (hf : ∀ c, isSpace c = false → f c = c)
    (hamp : ∀ c, isSpace c = true → f c ≠ '&') :
    Stands ((lineEnds w).map f) ((legible t).map f) := by
  induction h with
  | nil => exact .nil
  | @reference c name t w hlegal hspace hname hc _ ih =>
    have hreturn : '\r' ∉ '&' :: (name ++ [';']) := by simp [hname.not_mem (c := '\r') (by decide)]
    have hwritten : lineEnds ('&' :: (name ++ ';' :: w)) = '&' :: (name ++ ';' :: lineEnds w) := by
      simpa using lineEnds_append_left (b := w) hreturn
    have hcr : c ≠ '\r' := by
      rintro rfl
      exact absurd hspace (by decide)
    have hlegible : legible (c :: t) = c :: legible t := by
      rw [legible, representable_cons hlegal, lineEnds_cons hcr, legible]
    have hmap : name.map f = name := by
      have hid : name.map f = name.map id :=
        List.map_congr_left fun d hd => hf d (isSpace_of_isNameChar (hname.forall_mem d hd))
      rw [hid, List.map_id]
    rw [hwritten, hlegible, List.map_cons, List.map_cons, List.map_append, List.map_cons, hmap,
      hf c hspace, hf '&' rfl, hf ';' rfl]
    exact .reference (hname.not_mem (by decide)) hc ih
  | @plain c t w hlegal hc h ih =>
    have hne : f c ≠ '&' := by
      cases hspace : isSpace c with
      | true => exact hamp c hspace
      | false =>
        rw [hf c hspace]
        exact fun h => hc (by simp [h])
    rw [legible] at ih ⊢
    rw [representable_cons hlegal]
    -- Whether a line feed follows is the same for the text and for its written form.
    simp only [lineEnds, h.head?_eq]
    split
    · split
      · exact ih
      · exact .plain (hamp '\n' rfl) ih
    · exact .plain hne ih
  | dropped hlegal _ ih =>
    rw [legible, representable_cons_of_illegal hlegal]
    exact ih

def legibleValue (t : Text) : Text := (legible t).map spaced

theorem stands_escape (t : Text) : Stands (lineEnds (escape t)) (legible t) := by
  have h := (escapes_escape t).stands (f := id) (fun _ _ => rfl) fun c hc => ?_
  · rwa [List.map_id, List.map_id] at h
  · rintro rfl
    exact absurd hc (by decide)

theorem stands_escape_value (t : Text) :
    Stands ((lineEnds (escape t)).map spaced) (legibleValue t) := by
  refine (escapes_escape t).stands (fun c hc => ?_) (fun c hc => ?_)
  · rw [spaced, hc, if_neg Bool.false_ne_true]
  · rw [spaced, hc, if_pos rfl]
    decide

theorem legal_escape (t : Text) : ∀ c ∈ escape t, isLegal c = true := fun c hc =>
  ((escapes_escape t).forall_mem c hc).1

theorem not_mem_lineEnds_escape (hc : c ∈ ['<', '>', '"']) : c ∉ lineEnds (escape t) := by
  intro hmem
  rcases (mem_lineEnds hmem).1 with h | rfl
  · exact ((escapes_escape t).forall_mem c h).2 hc
  · exact absurd hc (by decide)

theorem legible_eq_iff (t : Text) : legible t = representable t ↔ '\r' ∉ t := by
  constructor
  · intro h hmem
    have hread : '\r' ∈ representable t := List.mem_filter.mpr ⟨hmem, rfl⟩
    rw [← h] at hread
    exact (mem_lineEnds hread).2 rfl
  · intro h
    exact lineEnds_eq_self fun hmem => h (List.mem_of_mem_filter hmem)

theorem spaced_eq_self (hc : c ∉ ['\t', '\n', '\r']) : spaced c = c := by
  rw [spaced]
  split
  · next hspace =>
    simp only [isSpace, Bool.or_eq_true, decide_eq_true_eq] at hspace
    simp only [List.mem_cons, List.not_mem_nil, or_false, not_or] at hc
    tauto
  · rfl

theorem spaced_ne (d : Char) (hc : c ∈ ['\t', '\n', '\r']) : spaced d ≠ c := by
  have hspaces : ∀ c ∈ ['\t', '\n', '\r'], isSpace c = true ∧ ' ' ≠ c := by simp [isSpace]
  obtain ⟨hspace, hblank⟩ := hspaces c hc
  rw [spaced]
  split
  · exact hblank
  · next hd =>
    rintro rfl
    exact hd hspace

/-- The value of an attribute is read back unless it has a tab or a line break. -/
theorem legibleValue_eq_iff (t : Text) : legibleValue t = representable t ↔
    ∀ c ∈ t, c ∉ ['\t', '\n', '\r'] := by
  constructor
  · intro h c hc hspace
    have hlegal : ∀ c ∈ ['\t', '\n', '\r'], isLegal c = true := List.all_eq_true.mp rfl
    have hread : c ∈ representable t := List.mem_filter.mpr ⟨hc, hlegal c hspace⟩
    rw [← h] at hread
    obtain ⟨d, -, hd⟩ := List.mem_map.mp hread
    exact spaced_ne d hspace hd
  · intro h
    have hreturn : '\r' ∉ t := fun hmem => h '\r' hmem (by decide)
    have hspaced : ∀ c ∈ representable t, spaced c = id c := fun c hc =>
      spaced_eq_self (h c (List.mem_of_mem_filter hc))
    rw [legibleValue, (legible_eq_iff t).mpr hreturn, List.map_congr_left hspaced, List.map_id]

end Xml
end TestBench
