import TestBench.Json.Printer
import TestBench.Json.Reader
import TestBench.Proofs.Text.Basic

/-! Source text read as code and string literals. A literal runs from a quote to the next quote that
no backslash escapes. What a text is quoted as is one literal, which reads back as that text. -/
namespace TestBench
namespace Literals

/-- Where in a source the reading stands; what a literal has so far is kept, its last character
first. -/
inductive Place where
  | code
  | literal (raw : Text)
  | escape (raw : Text)
deriving DecidableEq

/-- Code, one character at a time, with the opening quote of a literal; and the content of a
literal, when its closing quote is reached. -/
inductive Token where
  | code (c : Char)
  | content (raw : Text)
deriving DecidableEq

def Place.next : Place → Char → Place
  | code, c => if c = '"' then literal [] else code
  | literal raw, c =>
    if c = '"' then code
    else if c = '\\' then escape raw
    else literal (c :: raw)
  | escape raw, c => literal (c :: '\\' :: raw)

def Place.token? : Place → Char → Option Token
  | code, c => some (.code c)
  | literal raw, c => if c = '"' then some (.content raw.reverse) else none
  | escape _, _ => none

def after (p : Place) (t : Text) : Place := t.foldl Place.next p

def tokensFrom : Place → Text → List Token
  | _, [] => []
  | p, c :: t => (p.token? c).toList ++ tokensFrom (p.next c) t

def tokens (t : Text) : List Token := tokensFrom .code t

/-- What stays of a token when the content of literals is left out: of a literal, its closing
quote. -/
def Token.blanked : Token → Char
  | code c => c
  | content _ => '"'

def Token.content? : Token → Option Text
  | code _ => none
  | content raw => some raw

def skeleton (t : Text) : Text := (tokens t).map Token.blanked

/-- The content of the literals, as it is written, in order. -/
def literals (t : Text) : List Text := (tokens t).filterMap Token.content?

/-- No literal is left open. -/
def Closed (t : Text) : Prop := after .code t = .code

instance (t : Text) : Decidable (Closed t) := inferInstanceAs (Decidable (_ = _))

@[simp] theorem after_append (p : Place) (s t : Text) : after p (s ++ t) = after (after p s) t :=
  List.foldl_append

@[simp] theorem tokensFrom_append (p : Place) (s t : Text) :
    tokensFrom p (s ++ t) = tokensFrom p s ++ tokensFrom (after p s) t := by
  induction s generalizing p with
  | nil => rfl
  | cons c s ih =>
    simp only [List.cons_append, tokensFrom, ih, List.append_assoc, after, List.foldl_cons]

theorem Closed.append {s t : Text} (hs : Closed s) (ht : Closed t) : Closed (s ++ t) := by
  rw [Closed, after_append, hs, ht]

theorem Closed.tokens_append {s : Text} (hs : Closed s) (t : Text) :
    tokens (s ++ t) = tokens s ++ tokens t := by
  rw [tokens, tokensFrom_append, hs]
  rfl

theorem Closed.skeleton_append {s : Text} (hs : Closed s) (t : Text) :
    skeleton (s ++ t) = skeleton s ++ skeleton t := by
  rw [skeleton, hs.tokens_append, List.map_append]
  rfl

theorem Closed.literals_append {s : Text} (hs : Closed s) (t : Text) :
    literals (s ++ t) = literals s ++ literals t := by
  rw [literals, hs.tokens_append, List.filterMap_append]
  rfl

variable {t : Text}

theorem closed_of_no_quote (h : '"' ∉ t) : Closed t := by
  induction t with
  | nil => rfl
  | cons c t ih =>
    rw [List.mem_cons, not_or] at h
    rw [Closed, after, List.foldl_cons, Place.next, if_neg (Ne.symm h.1)]
    exact ih h.2

theorem tokens_of_no_quote (h : '"' ∉ t) : tokens t = t.map .code := by
  induction t with
  | nil => rfl
  | cons c t ih =>
    rw [List.mem_cons, not_or] at h
    rw [tokens, tokensFrom, Place.next, if_neg (Ne.symm h.1), List.map_cons, ← ih h.2]
    rfl

theorem skeleton_of_no_quote (h : '"' ∉ t) : skeleton t = t := by
  rw [skeleton, tokens_of_no_quote h, List.map_map]
  exact List.map_id' _

theorem literals_of_no_quote (h : '"' ∉ t) : literals t = [] := by
  rw [literals, tokens_of_no_quote h, List.filterMap_map]
  exact List.filterMap_eq_nil_iff.mpr fun _ _ => rfl

@[simp] theorem skeleton_eq_nil : skeleton t = [] ↔ t = [] := by
  cases t with
  | nil => exact ⟨fun _ => rfl, fun _ => rfl⟩
  | cons c t => simp [skeleton, tokens, tokensFrom, Place.token?]

/-- The content of the literal that a text is quoted as. -/
def escaped (t : Text) : Text := t.flatMap Json.quotedChar

@[simp] theorem escaped_cons (c : Char) (t : Text) :
    escaped (c :: t) = Json.quotedChar c ++ escaped t :=
  rfl

theorem quoted_eq (t : Text) : Json.quoted t = '"' :: escaped t ++ ['"'] := rfl

theorem quotedChar_control : ∀ n < 32,
    (['n', 'r', 't', 'b', 'f'].any fun e => Json.shortEscape? e = some (Char.ofNat n) ∧
      Json.quotedChar (Char.ofNat n) = ['\\', e]) = true ∨
    (Json.hex4? '0' '0' (Json.hexDigit (n / 16)) (Json.hexDigit (n % 16)) = some n ∧
      Json.hexDigit (n / 16) ∉ ['"', '\\', '\n'] ∧ Json.hexDigit (n % 16) ∉ ['"', '\\', '\n'] ∧
      Json.quotedChar (Char.ofNat n) =
        ['\\', 'u', '0', '0', Json.hexDigit (n / 16), Json.hexDigit (n % 16)]) := by
  decide

/-- A character stands for itself, or behind a backslash its letter or its four digits do. -/
theorem quotedChar_cases (c : Char) :
    (c ≠ '"' ∧ c ≠ '\\' ∧ 32 ≤ c.toNat ∧ Json.quotedChar c = [c]) ∨
    (∃ e ∉ ['u', '\n'], Json.shortEscape? e = some c ∧ Json.quotedChar c = ['\\', e]) ∨
    (∃ a b, Json.hex4? '0' '0' a b = some c.toNat ∧ c.toNat < 32 ∧ a ∉ ['"', '\\', '\n'] ∧
      b ∉ ['"', '\\', '\n'] ∧ Json.quotedChar c = ['\\', 'u', '0', '0', a, b]) := by
  by_cases hcontrol : c.toNat < 32
  · have hchar : Char.ofNat c.toNat = c := Char.ofNat_toNat c
    rcases quotedChar_control c.toNat hcontrol with hletter | ⟨hread, ha, hb, hform⟩
    · obtain ⟨e, he, hform⟩ := List.any_eq_true.mp hletter
      rw [decide_eq_true_eq, hchar] at hform
      have hletters : ∀ e ∈ ['n', 'r', 't', 'b', 'f'], e ∉ ['u', '\n'] := by simp
      exact .inr (.inl ⟨e, hletters e he, hform.1, hform.2⟩)
    · rw [hchar] at hform
      exact .inr (.inr ⟨_, _, hread, hcontrol, ha, hb, hform⟩)
  · by_cases hquote : c = '"'
    · exact .inr (.inl ⟨'"', by decide, by subst hquote; rfl, by subst hquote; rfl⟩)
    · by_cases hslash : c = '\\'
      · exact .inr (.inl ⟨'\\', by decide, by subst hslash; rfl, by subst hslash; rfl⟩)
      · refine .inl ⟨hquote, hslash, by omega, ?_⟩
        have hn : c ≠ '\n' := by rintro rfl; exact hcontrol (by decide)
        have hr : c ≠ '\r' := by rintro rfl; exact hcontrol (by decide)
        have ht : c ≠ '\t' := by rintro rfl; exact hcontrol (by decide)
        rw [Json.quotedChar, if_neg hquote, if_neg hslash, if_neg hn, if_neg hr, if_neg ht,
          if_neg (by omega), if_neg (by omega), if_neg hcontrol]

theorem break_not_mem_quotedChar (c : Char) : '\n' ∉ Json.quotedChar c := by
  rcases quotedChar_cases c with ⟨-, -, hc, hform⟩ | ⟨e, he, -, hform⟩ | ⟨a, b, -, -, ha, hb, hform⟩
  · have hne : c ≠ '\n' := by rintro rfl; exact absurd hc (by decide)
    simp [hform, hne.symm]
  · simp only [List.mem_cons, not_or] at he
    simp [hform, Ne.symm he.2.1]
  · simp only [List.mem_cons, not_or] at ha hb
    simp [hform, Ne.symm ha.2.2.1, Ne.symm hb.2.2.1]

theorem after_quotedChar (raw : Text) (c : Char) :
    after (.literal raw) (Json.quotedChar c) = .literal ((Json.quotedChar c).reverse ++ raw) ∧
      tokensFrom (.literal raw) (Json.quotedChar c) = [] := by
  rcases quotedChar_cases c with ⟨hq, hs, -, hform⟩ | ⟨e, -, -, hform⟩ | ⟨a, b, -, -, ha, hb, hform⟩
  · rw [hform]
    simp [after, tokensFrom, Place.next, Place.token?, hq, hs]
  · rw [hform]
    simp [after, tokensFrom, Place.next, Place.token?]
  · simp only [List.mem_cons, List.not_mem_nil, or_false, not_or] at ha hb
    rw [hform]
    simp [after, tokensFrom, Place.next, Place.token?, ha, hb]

theorem break_not_mem_escaped (t : Text) : '\n' ∉ escaped t := fun h => by
  obtain ⟨c, -, hc⟩ := List.mem_flatMap.mp h
  exact break_not_mem_quotedChar c hc

theorem break_not_mem_quoted (t : Text) : '\n' ∉ Json.quoted t := by
  simp [quoted_eq, break_not_mem_escaped]

theorem after_escaped (raw t : Text) :
    after (.literal raw) (escaped t) = .literal ((escaped t).reverse ++ raw) ∧
      tokensFrom (.literal raw) (escaped t) = [] := by
  induction t generalizing raw with
  | nil => exact ⟨rfl, rfl⟩
  | cons c t ih =>
    obtain ⟨hafter, htokens⟩ := after_quotedChar raw c
    rw [escaped_cons, after_append, tokensFrom_append, hafter, htokens, (ih _).1, (ih _).2]
    simp

theorem closed_quoted (t : Text) : Closed (Json.quoted t) := by
  rw [quoted_eq, Closed, after_append]
  change Place.next (after (.literal []) (escaped t)) '"' = .code
  rw [(after_escaped [] t).1]
  rfl

theorem tokens_quoted (t : Text) : tokens (Json.quoted t) = [.code '"', .content (escaped t)] := by
  rw [quoted_eq, tokens, tokensFrom_append]
  change Token.code '"' :: tokensFrom (.literal []) (escaped t) ++
    tokensFrom (after (.literal []) (escaped t)) ['"'] = _
  rw [(after_escaped [] t).1, (after_escaped [] t).2]
  simp [tokensFrom, Place.token?]

@[simp] theorem skeleton_quoted (t : Text) : skeleton (Json.quoted t) = ['"', '"'] := by
  rw [skeleton, tokens_quoted]
  rfl

@[simp] theorem literals_quoted (t : Text) : literals (Json.quoted t) = [escaped t] := by
  rw [literals, tokens_quoted]
  rfl

/-- A part of a source that leaves no literal open: what it is without the content of its literals,
and that content. -/
structure Reads (source bare : Text) (raws : List Text) : Prop where
  closed : Closed source
  skeleton : skeleton source = bare
  literals : literals source = raws

theorem Closed.reads {t : Text} (h : Closed t) : Reads t (skeleton t) (literals t) := ⟨h, rfl, rfl⟩

theorem reads_of_no_quote {t : Text} (h : '"' ∉ t) : Reads t t [] :=
  ⟨closed_of_no_quote h, skeleton_of_no_quote h, literals_of_no_quote h⟩

theorem reads_quoted (t : Text) : Reads (Json.quoted t) (Json.quoted []) [escaped t] :=
  ⟨closed_quoted t, skeleton_quoted t, literals_quoted t⟩

theorem Reads.append {s s' t t' : Text} {as bs : List Text} (hs : Reads s s' as)
    (ht : Reads t t' bs) :
    Reads (s ++ t) (s' ++ t') (as ++ bs) :=
  ⟨hs.closed.append ht.closed, by rw [hs.closed.skeleton_append, hs.skeleton, ht.skeleton],
    by rw [hs.closed.literals_append, hs.literals, ht.literals]⟩

theorem Reads.cons {c : Char} (hc : c ≠ '"') {t t' : Text} {as : List Text} (h : Reads t t' as) :
    Reads (c :: t) (c :: t') as :=
  (reads_of_no_quote (t := [c]) (by simpa using hc.symm)).append h

theorem Reads.concat {c : Char} (hc : c ≠ '"') {t t' : Text} {as : List Text} (h : Reads t t' as) :
    Reads (t ++ [c]) (t' ++ [c]) as := by
  have hlast := h.append (reads_of_no_quote (t := [c]) (by simpa using hc.symm))
  rwa [List.append_nil] at hlast

theorem reads_joinWith_cons {s s' : Text} {ts ts' : List Text} {as bs : List Text}
    (hs : Reads s s' as) (hts : Reads (Text.joinWith [','] ts) (Text.joinWith [','] ts') bs)
    (hlen : ts.length = ts'.length) :
    Reads (Text.joinWith [','] (s :: ts)) (Text.joinWith [','] (s' :: ts')) (as ++ bs) := by
  match ts, ts', hlen with
  | [], [], _ =>
    have hb : bs = [] := hts.literals.symm
    rwa [hb, List.append_nil, Text.joinWith_singleton, Text.joinWith_singleton]
  | t :: ts, t' :: ts', _ =>
    rw [Text.joinWith_cons_cons, Text.joinWith_cons_cons, List.append_assoc, List.append_assoc]
    exact hs.append (hts.cons (by decide))

theorem readString_quotedChar (c : Char) (t : Text) :
    Json.readString (Json.quotedChar c ++ t) =
      (Json.readString t).map fun (s, r) => (c :: s, r) := by
  rcases quotedChar_cases c with
    ⟨hq, hs, hc, hform⟩ | ⟨e, he, hread, hform⟩ | ⟨a, b, hread, hc, -, -, hform⟩
  · rw [hform, List.singleton_append,
      Json.readString.eq_5 c t hq (fun _ _ _ _ _ h _ => hs h) (fun _ _ h _ => hs h),
      if_neg (by simp [hs, hc])]
  · rw [hform, List.cons_append, List.singleton_append,
      Json.readString.eq_4 e t (fun _ _ _ _ _ h _ => he (by simp [h])), hread]
  · have hlow : Json.isLowSurrogate c.toNat = false := by
      rw [Json.isLowSurrogate, Bool.and_eq_false_iff, decide_eq_false_iff_not]
      exact .inl (by omega)
    have hhigh : Json.isHighSurrogate c.toNat = false := by
      rw [Json.isHighSurrogate, Bool.and_eq_false_iff, decide_eq_false_iff_not]
      exact .inl (by omega)
    rw [hform]
    simp only [List.cons_append, List.nil_append]
    rw [Json.readString.eq_3, hread]
    simp only [hlow, hhigh, Bool.false_eq_true, if_false, Char.ofNat_toNat]

@[simp] theorem readString_escaped (t rest : Text) :
    Json.readString (escaped t ++ '"' :: rest) = .ok (t, rest) := by
  induction t with
  | nil => rfl
  | cons c t ih =>
    rw [escaped_cons, List.append_assoc, readString_quotedChar, ih]
    rfl

/-- The text that the content of a literal stands for as a JSON string. -/
def decoded? (raw : Text) : Option Text :=
  match Json.parse ('"' :: raw ++ ['"']) with
  | .ok (.string s) => some s
  | _ => none

@[simp] theorem decoded?_escaped (t : Text) : decoded? (escaped t) = some t := by
  -- How much fuel the reading has does not matter, as no value is nested in a string.
  have hvalue : ∀ fuel, Json.readValue (fuel + 1) Json.depthLimit ('"' :: escaped t ++ ['"']) =
      .ok (.string t, []) := by
    intro fuel
    rw [Json.readValue]
    change (Json.readString (escaped t ++ ['"'])).map _ = _
    rw [readString_escaped]
    rfl
  have hparse : Json.parse ('"' :: escaped t ++ ['"']) = .ok (.string t) := by
    rw [Json.parse, Json.read, hvalue]
    rfl
  rw [decoded?, hparse]

theorem quoted_append_inj {s t r r' : Text} (h : Json.quoted s ++ r = Json.quoted t ++ r') :
    s = t ∧ r = r' := by
  have hinner : escaped s ++ '"' :: r = escaped t ++ '"' :: r' := by simpa [quoted_eq] using h
  have hread := congrArg Json.readString hinner
  rw [readString_escaped, readString_escaped] at hread
  simpa using hread

end Literals
end TestBench
