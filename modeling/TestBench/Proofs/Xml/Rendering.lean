import Mathlib.Algebra.GroupWithZero.Nat
import TestBench.Proofs.Xml.Escaped

/-! Written elements are well-formed documents, whatever their texts are, and what is read of them
are the same elements with their texts as far as these are legible. -/
namespace TestBench
namespace Xml

variable {t w name : Text} {ps : List (Text × Text)} {c : Char}

/-- A tag whose names are names. -/
structure SoundTag (name : Text) (attributes : List (Text × Text)) : Prop where
  name : IsName name
  keys : ∀ k ∈ attributes.map Prod.fst, IsName k
  nodup : (attributes.map Prod.fst).Nodup

def readAttributes (attributes : List (Text × Text)) : List (Text × Text) :=
  attributes.map fun p => (p.1, legibleValue p.2)

theorem attributes_written (h : ∀ k ∈ ps.map Prod.fst, IsName k) :
    Attributes (lineEnds (ps.flatMap fun (k, v) => ' ' :: k ++ "=\"".toList ++ escape v ++ ['"']))
      (readAttributes ps) := by
  induction ps with
  | nil => exact .last (fun c hc => absurd hc List.not_mem_nil)
  | cons p ps ih =>
    obtain ⟨k, v⟩ := p
    obtain ⟨hk, hps⟩ := List.forall_mem_cons.mp h
    have hattribute : Attribute (k ++ ([] ++ '=' :: ([] ++ '"' :: (lineEnds (escape v) ++ ['"']))))
        (k, legibleValue v) :=
      .mk hk (by simp) (by simp) (.inl rfl) (not_mem_lineEnds_escape (by decide))
        (not_mem_lineEnds_escape (by decide))
        (stands_escape_value v)
    have hreturn : '\r' ∉ ' ' :: k ++ "=\"".toList := by simp [hk.not_mem (c := '\r') (by decide)]
    have hmore := Attributes.more (s := [' ']) (by simp; decide) hattribute (ih hps)
    rw [List.flatMap_cons, List.append_assoc, List.append_assoc, lineEnds_append_left hreturn,
      List.singleton_append, lineEnds_append_cons (by decide) (by decide)]
    simpa [readAttributes] using hmore

theorem tag_written (h : SoundTag name ps) :
    Tag (lineEnds (tag name ps)) name (readAttributes ps) := by
  have hkeys : (readAttributes ps).map Prod.fst = ps.map Prod.fst := by simp [readAttributes]
  refine ⟨h.name, by rw [hkeys]; exact h.nodup, _, ?_, attributes_written h.keys⟩
  rw [tag, lineEnds_append_left (h.name.not_mem (by decide))]

def inner (depth : Nat) : Xml → Text
  | leaf name attributes => '<' :: (tag name attributes ++ "/>".toList)
  | textual name attributes text =>
    '<' :: (tag name attributes ++ '>' :: (escape text ++ closingTag name))
  | branch name attributes children =>
    '<' :: (tag name attributes ++
      '>' :: ('\n' :: (renderAll (depth + 1) children ++ Text.indentation depth) ++
        closingTag name))

theorem render_eq (depth : Nat) (x : Xml) :
    render depth x = Text.indentation depth ++ (inner depth x ++ ['\n']) := by
  cases x <;> simp [render, inner]

def margin (depth : Nat) : Text := '\n' :: Text.indentation depth

theorem not_mem_margin (hfeed : c ≠ '\n') (hblank : c ≠ ' ') (depth : Nat) : c ∉ margin depth := by
  rw [margin, Text.indentation, List.mem_cons, not_or]
  exact ⟨hfeed, fun hmem => hblank (List.eq_of_mem_replicate hmem)⟩

mutual

def node (depth : Nat) : Xml → Node
  | leaf name attributes => .element name (readAttributes attributes) []
  | textual name attributes text =>
    .element name (readAttributes attributes) (textNodes (legible text))
  | branch name attributes children =>
    .element name (readAttributes attributes) (nodes depth children)

/-- The white space before each of the elements and before the end tag, and the elements. -/
def nodes (depth : Nat) : List Xml → List Node
  | [] => [.text (margin depth)]
  | x :: xs => .text (margin (depth + 1)) :: node (depth + 1) x :: nodes depth xs

end

/-- An element whose names are names. -/
inductive Sound : Xml → Prop
  | leaf {name : Text} {attributes : List (Text × Text)} (htag : SoundTag name attributes) :
      Sound (.leaf name attributes)
  | textual {name text : Text} {attributes : List (Text × Text)} (htag : SoundTag name attributes) :
      Sound (.textual name attributes text)
  | branch {name : Text} {attributes : List (Text × Text)} {children : List Xml}
      (htag : SoundTag name attributes)
      (hchildren : ∀ x ∈ children, Sound x) : Sound (.branch name attributes children)

theorem inner_eq_append (depth : Nat) (x : Xml) : ∃ t, inner depth x = t ++ ['>'] := by
  cases x with
  | leaf name attributes => exact ⟨'<' :: (tag name attributes ++ ['/']), by simp [inner]⟩
  | textual name attributes text =>
    exact ⟨'<' :: (tag name attributes ++ '>' :: (escape text ++ ("</".toList ++ name))), by
      simp [inner, closingTag]⟩
  | branch name attributes children =>
    exact ⟨'<' :: (tag name attributes ++
      '>' :: ('\n' :: (renderAll (depth + 1) children ++ Text.indentation depth) ++
        ("</".toList ++ name))),
      by simp [inner, closingTag]⟩

theorem element_filled {content : List Node} (h : SoundTag name ps)
    (hc : Content (lineEnds t) content) :
    Element (lineEnds ('<' :: (tag name ps ++ '>' :: (t ++ closingTag name))))
      (.element name (readAttributes ps) content) := by
  have hend : lineEnds ('/' :: (name ++ ['>'])) = '/' :: (name ++ ['>']) :=
    lineEnds_eq_self (by simp [h.name.not_mem (c := '\r') (by decide)])
  have hwritten : lineEnds ('<' :: (tag name ps ++ '>' :: (t ++ closingTag name))) =
      '<' :: (lineEnds (tag name ps) ++
        '>' :: (lineEnds t ++ "</".toList ++ name ++ [] ++ ['>'])) := by
    have hclosing : closingTag name = '<' :: '/' :: (name ++ ['>']) := by simp [closingTag]
    rw [hclosing, lineEnds_cons (by decide), lineEnds_append_cons (by decide) (by decide),
      lineEnds_append_cons (by decide) (by decide), hend]
    simp
  rw [hwritten]
  exact .filled (tag_written h) hc (by simp)

theorem data_of_stands (hless : '<' ∉ w) (hgreater : '>' ∉ w) (h : Stands w t) :
    Data w (textNodes t) := by
  refine ⟨hless, fun hend => hgreater (hend.subset ?_), t, h, rfl⟩
  decide

theorem stands_self (h : '&' ∉ w) : Stands w w := by
  induction w with
  | nil => exact .nil
  | cons c w ih =>
    rw [List.mem_cons, not_or] at h
    exact .plain (Ne.symm h.1) (ih h.2)

theorem data_margin (depth : Nat) : Data (margin depth) [.text (margin depth)] :=
  data_of_stands (not_mem_margin (by decide) (by decide) depth)
    (not_mem_margin (by decide) (by decide) depth)
    (stands_self (not_mem_margin (by decide) (by decide) depth))

mutual

theorem element_inner (depth : Nat) :
    {x : Xml} → Sound x → Element (lineEnds (inner depth x)) (node depth x)
  | .leaf name attributes, h => by
    cases h with
    | leaf htag =>
      have hwritten : lineEnds (inner depth (.leaf name attributes)) =
          '<' :: (lineEnds (tag name attributes) ++ "/>".toList) := by
        rw [inner, lineEnds_cons (by decide)]
        exact congrArg _ (lineEnds_append_cons (by decide) (by decide))
      rw [hwritten]
      exact .empty (tag_written htag)
  | .textual name attributes text, h => by
    cases h with
    | textual htag =>
      have hdata : Data (lineEnds (escape text)) (textNodes (legible text)) :=
        data_of_stands (not_mem_lineEnds_escape (by decide)) (not_mem_lineEnds_escape (by decide))
          (stands_escape text)
      exact element_filled htag (.last hdata)
  | .branch name attributes children, h => by
    cases h with
    | branch htag hchildren => exact element_filled htag (content_nodes depth hchildren)

theorem content_nodes (depth : Nat) : {xs : List Xml} → (∀ x ∈ xs, Sound x) →
    Content (lineEnds ('\n' :: (renderAll (depth + 1) xs ++ Text.indentation depth)))
      (nodes depth xs)
  | [], _ => by
    have hwritten : lineEnds ('\n' :: (renderAll (depth + 1) [] ++ Text.indentation depth)) =
        margin depth :=
      lineEnds_eq_self (not_mem_margin (by decide) (by decide) depth)
    rw [hwritten]
    exact .last (data_margin depth)
  | x :: xs, h => by
    obtain ⟨hx, hxs⟩ := List.forall_mem_cons.mp h
    obtain ⟨t, ht⟩ := inner_eq_append (depth + 1) x
    -- The bracket at the end of the element keeps the line breaks before it apart from the one
    -- behind it.
    have hwritten : lineEnds ('\n' :: (renderAll (depth + 1) (x :: xs) ++ Text.indentation depth)) =
        margin (depth + 1) ++ (lineEnds (inner (depth + 1) x) ++
          lineEnds ('\n' :: (renderAll (depth + 1) xs ++ Text.indentation depth))) := by
      have happend : '\n' :: (renderAll (depth + 1) (x :: xs) ++ Text.indentation depth) =
          margin (depth + 1) ++
            (t ++ '>' :: ('\n' :: (renderAll (depth + 1) xs ++ Text.indentation depth))) := by
        rw [renderAll, render_eq, ht]
        simp [margin]
      rw [happend, lineEnds_append_left (not_mem_margin (by decide) (by decide) _),
        lineEnds_append_cons (by decide) (by decide), ht,
        lineEnds_append_cons (by decide) (by decide)]
      simp [lineEnds]
    rw [hwritten]
    exact .more (data_margin (depth + 1)) (element_inner (depth + 1) hx) (content_nodes depth hxs)

end

theorem legal_tag (h : SoundTag name ps) : ∀ c ∈ tag name ps, isLegal c = true := by
  rw [tag, List.forall_mem_append]
  refine ⟨h.name.legal, fun c hc => ?_⟩
  obtain ⟨⟨k, v⟩, hp, hc⟩ := List.mem_flatMap.mp hc
  have hwritten : ∀ c ∈ ' ' :: k ++ "=\"".toList ++ escape v ++ ['"'], isLegal c = true := by
    simp only [List.forall_mem_append, List.forall_mem_cons]
    exact ⟨⟨⟨⟨rfl, (h.keys _ (List.mem_map_of_mem hp)).legal⟩, List.all_eq_true.mp rfl⟩,
      legal_escape v⟩, rfl, List.forall_mem_nil _⟩
  exact hwritten c hc

theorem legal_closingTag (h : IsName name) : ∀ c ∈ closingTag name, isLegal c = true := by
  rw [closingTag, List.forall_mem_append, List.forall_mem_append]
  exact ⟨⟨List.all_eq_true.mp rfl, h.legal⟩, List.all_eq_true.mp rfl⟩

theorem legal_indentation (depth : Nat) : ∀ c ∈ Text.indentation depth, isLegal c = true :=
  fun c hc => by
  rw [List.eq_of_mem_replicate hc]
  rfl

mutual

theorem legal_render (depth : Nat) : {x : Xml} → Sound x → ∀ c ∈ render depth x, isLegal c = true
  | .leaf name attributes, h => by
    cases h with
    | leaf htag =>
      simp only [render, List.forall_mem_append, List.forall_mem_cons]
      exact ⟨⟨legal_indentation depth, rfl, legal_tag htag⟩, List.all_eq_true.mp rfl⟩
  | .textual name attributes text, h => by
    cases h with
    | textual htag =>
      simp only [render, List.cons_append, List.append_assoc, List.forall_mem_append,
        List.forall_mem_cons]
      exact ⟨legal_indentation depth, rfl, legal_tag htag, rfl, legal_escape text,
        legal_closingTag htag.name, rfl, List.forall_mem_nil _⟩
  | .branch name attributes children, h => by
    cases h with
    | branch htag hchildren =>
      have hall := legal_renderAll (depth + 1) hchildren
      simp only [render, List.cons_append, List.append_assoc, List.forall_mem_append,
        List.forall_mem_cons]
      exact ⟨legal_indentation depth, rfl, legal_tag htag, List.all_eq_true.mp rfl, hall,
        legal_indentation depth, legal_closingTag htag.name, rfl, List.forall_mem_nil _⟩

theorem legal_renderAll (depth : Nat) : {xs : List Xml} → (∀ x ∈ xs, Sound x) →
    ∀ c ∈ renderAll depth xs, isLegal c = true
  | [], _ => by simp [renderAll]
  | x :: xs, h => by
    obtain ⟨hx, hxs⟩ := List.forall_mem_cons.mp h
    rw [renderAll, List.forall_mem_append]
    exact ⟨legal_render depth hx, legal_renderAll depth hxs⟩

end

def declared : List (Text × Text) :=
  [("version".toList, "1.0".toList), ("encoding".toList, "UTF-8".toList)]

theorem declaration_declared : ∃ d, declaration = d ++ ['\n'] ∧ Declaration d := by
  have hattributes : Attributes " version=\"1.0\" encoding=\"UTF-8\"".toList declared :=
    @attributes_written declared (by decide)
  exact ⟨"<?xml".toList ++ (" version=\"1.0\" encoding=\"UTF-8\"".toList ++ "?>".toList), rfl,
    .inr ⟨_, declared, rfl, hattributes, by decide⟩⟩

/-- What is rendered is well-formed, and says what the element says as far as it is legible. -/
theorem isDocument_document {x : Xml} (h : Sound x) : IsDocument x.document (node 0 x) := by
  obtain ⟨d, hdeclaration, hd⟩ := declaration_declared
  obtain ⟨t, ht⟩ := inner_eq_append 0 x
  have hreturn : '\r' ∉ declaration := by decide
  have hwritten : lineEnds x.document = d ++ (['\n'] ++ (lineEnds (inner 0 x) ++ ['\n'])) := by
    have hrender : render 0 x = t ++ '>' :: ['\n'] := by
      rw [render_eq, ht]
      simp [Text.indentation]
    rw [document, lineEnds_append_left hreturn, hdeclaration, hrender, ht,
      lineEnds_append_cons (by decide) (by decide), lineEnds_append_cons (by decide) (by decide)]
    simp [lineEnds]
  have hlegal : ∀ c ∈ x.document, isLegal c = true := by
    rw [document, List.forall_mem_append]
    exact ⟨List.all_eq_true.mp rfl, legal_render 0 h⟩
  have hfeed : ['\n'] ∈ Shape.run isSpace := by simp; decide
  exact ⟨hlegal, d, ['\n'], lineEnds (inner 0 x), ['\n'], hwritten, hd, hfeed,
    element_inner 0 h, hfeed⟩

@[simp] theorem isElement_node (depth : Nat) (x : Xml) : (node depth x).isElement = true := by
  cases x <;> rfl

@[simp] theorem filter_nodes (depth : Nat) (xs : List Xml) :
    (nodes depth xs).filter Node.isElement = xs.map (node (depth + 1)) := by
  induction xs with
  | nil => rfl
  | cons x xs ih =>
    rw [nodes, List.filter_cons_of_neg (by simp [Node.isElement]),
      List.filter_cons_of_pos (isElement_node _ x), ih, List.map_cons]

theorem outlines_nodes (depth : Nat) (xs : List Xml) :
    outlines (nodes depth xs) = xs.flatMap fun x => (node (depth + 1) x).outline?.toList := by
  induction xs with
  | nil => rfl
  | cons x xs ih => simp [nodes, outlines, Node.outline?, ih]

theorem countAll_nodes (depth : Nat) (xs : List Xml) (tag : Text) :
    countAll tag (nodes depth xs) = (xs.map fun x => (node (depth + 1) x).count tag).sum := by
  induction xs with
  | nil => rfl
  | cons x xs ih => simp [nodes, countAll, Node.count, ih]

@[simp] theorem outlines_textNodes (t : Text) : outlines (textNodes t) = [] := by
  cases t <;> rfl

@[simp] theorem countAll_textNodes (tag t : Text) : countAll tag (textNodes t) = 0 := by
  cases t <;> rfl

@[simp] theorem filter_textNodes (t : Text) : (textNodes t).filter Node.isElement = [] := by
  cases t <;> rfl

@[simp] theorem characters_textNodes (t : Text) : (textNodes t).flatMap Node.ownText = t := by
  cases t <;> simp [textNodes, Node.ownText]

end Xml
end TestBench
