import TestBench.Proofs.Scenario.Stable
import TestBench.Proofs.Text.Capital

/-! The grammar of raw requests. Exactly the non-empty lists of well-formed requests are accepted,
and read one for one; of any other list the first fault of the first request that has one is
reported, a bad verb before an empty path. -/
namespace TestBench

open Json (IsObject StandsFor)

namespace Text

theorem trimmed_enclosed {a b : Char} (ha : isBlank a = false) (hb : isBlank b = false) (t : Text) :
    Trimmed (a :: t ++ [b]) := by
  rintro c (hc | hc)
  · rw [List.cons_append, List.head?_cons, Option.some_inj] at hc
    exact hc ▸ ha
  · rw [List.getLast?_concat, Option.some_inj] at hc
    exact hc ▸ hb

theorem trimmed_of_forall {t : Text} (h : ∀ c ∈ t, isBlank c = false) : Trimmed t := by
  rintro c (hc | hc)
  · exact h c (List.mem_of_head? hc)
  · exact h c (List.mem_of_getLast? hc)

end Text

namespace Json

theorem trimmed_compact (v : Json) : Text.Trimmed v.compact := by
  cases v with
  | null => exact Text.trimmed_enclosed (a := 'n') (b := 'l') rfl rfl "ul".toList
  | bool b =>
    cases b with
    | false => exact Text.trimmed_enclosed (a := 'f') (b := 'e') rfl rfl "als".toList
    | true => exact Text.trimmed_enclosed (a := 't') (b := 'e') rfl rfl "ru".toList
  | number n => exact Text.trimmed_of_forall fun _ => Request.isBlank_of_mem_numberText
  | string s => exact Text.trimmed_enclosed (by decide) (by decide) _
  | array items => exact Text.trimmed_enclosed (by decide) (by decide) _
  | object members => exact Text.trimmed_enclosed (by decide) (by decide) _

/-- How a value is spelled: a text without the white space around it, any other value as JSON. -/
def SpelledAs (m : Json) (t : Text) : Prop :=
  StandsFor (some m) t ∨ ((∀ s, m ≠ .string s) ∧ t = m.compact)

theorem SpelledAs.trimmed {m : Json} {t : Text} (h : SpelledAs m t) : Text.Trimmed t := by
  rcases h with ⟨s, -, rfl⟩ | ⟨-, rfl⟩
  · exact Text.trimmed_trim s
  · exact trimmed_compact m

end Json

open Json (SpelledAs)

namespace Request

/-- The verb that a raw request asks for, in capital letters; GET if it does not say. -/
def VerbOf (v : Json) (verb : Text) : Prop :=
  (v.given? "method".toList = none ∧ verb = "GET".toList) ∨
    ∃ m t, v.given? "method".toList = some m ∧ SpelledAs m t ∧ verb = Text.toUpper t

def PathOf (v : Json) (path : Text) : Prop :=
  (v.given? "path".toList = none ∧ path = []) ∨ ∃ m, v.given? "path".toList = some m ∧
    SpelledAs m path

/-- The verb is one of those that are known, and the path is not empty. -/
structure WellFormed (v : Json) : Prop where
  object : v.IsObject
  verb : ∃ method : Method, VerbOf v method.name
  path : ∃ path, PathOf v path ∧ path ≠ []

/-- A path stands for itself, with a slash in front if it has none. -/
def Rooted (path rooted : Text) : Prop :=
  ((∃ rest, path = '/' :: rest) ∧ rooted = path) ∨
    ((¬ ∃ rest, path = '/' :: rest) ∧ rooted = '/' :: path)

/-- What a raw request stands for: its verb, its path from a slash on, and its body unless that is
null. -/
structure ReadAs (v : Json) (r : Request) : Prop where
  method : VerbOf v r.method.name
  path : ∃ path, PathOf v path ∧ Rooted path r.path
  slash : ∃ rest, r.path = '/' :: rest
  trimmed : Text.Trimmed r.path
  body : ∀ b, r.body = some b ↔ v.get? "body".toList = some b ∧ b ≠ .null

/-- The first check that the raw request of a number fails, and what is said about it. -/
inductive Violation (index : Nat) (v : Json) : Text → Prop
  | notObject (h : ¬ v.IsObject) :
      Violation index v ("Request ".toList ++ Text.ofNat index ++
        ": each request item must be an object".toList)
  | badMethod {verb path : Text} (h : v.IsObject) (hverb : VerbOf v verb)
      (hunknown : ∀ method : Method, method.name ≠ verb)
      (hpath : PathOf v path) :
      Violation index v ("Request ".toList ++ Text.ofNat index ++
        ": invalid method '".toList ++ verb ++
        "' for path '".toList ++ path ++ "'".toList)
  | emptyPath {method : Method} (h : v.IsObject) (hverb : VerbOf v method.name)
      (hpath : PathOf v []) :
      Violation index v ("Request ".toList ++ Text.ofNat index ++
        ": each request must have a non-empty 'path'".toList)

theorem rawMethod_eq {m : Json} (h : m.isNull = false) :
    rawMethod (some m) = Text.toUpper (rawPath (some m)) := by
  cases m with
  | null => cases h
  | _ => rfl

theorem spelledAs_iff {m : Json} (h : m.isNull = false) (t : Text) :
    SpelledAs m t ↔ t = rawPath (some m) := by
  cases m with
  | null => cases h
  | string s => simp [SpelledAs, StandsFor, rawPath]
  | _ => simp [SpelledAs, StandsFor, rawPath]

theorem given?_cases (key : Text) (ms : List (Text × Json)) :
    (Json.given? key (.object ms) = none ∧ (ms.lookup key = none ∨ ms.lookup key = some .null)) ∨
      ∃ m, Json.given? key (.object ms) = some m ∧ ms.lookup key = some m ∧ m.isNull = false := by
  rw [Json.given?_object]
  rcases ms.lookup key with _ | m
  · exact .inl ⟨rfl, .inl rfl⟩
  · cases m with
    | null => exact .inl ⟨rfl, .inr rfl⟩
    | _ => exact .inr ⟨_, rfl, rfl, rfl⟩

theorem pathOf_iff {ms : List (Text × Json)} {path : Text} :
    PathOf (.object ms) path ↔ path = rawPath (ms.lookup "path".toList) := by
  rcases given?_cases "path".toList ms with ⟨hnone, hlookup | hlookup⟩ | ⟨m, hm, hlookup, hnull⟩
  · rw [PathOf, hnone, hlookup]
    simp [rawPath]
  · rw [PathOf, hnone, hlookup]
    simp [rawPath]
  · rw [PathOf, hm, hlookup]
    simp [spelledAs_iff hnull]

theorem verbOf_iff {ms : List (Text × Json)} {verb : Text} :
    VerbOf (.object ms) verb ↔ verb = rawMethod (ms.lookup "method".toList) := by
  rcases given?_cases "method".toList ms with ⟨hnone, hlookup | hlookup⟩ | ⟨m, hm, hlookup, hnull⟩
  · rw [VerbOf, hnone, hlookup]
    simp [rawMethod]
  · rw [VerbOf, hnone, hlookup]
    simp [rawMethod]
  · rw [VerbOf, hm, hlookup]
    simp [spelledAs_iff hnull, rawMethod_eq hnull]

theorem PathOf.trimmed {v : Json} {path : Text} (h : PathOf v path) : Text.Trimmed path := by
  rcases h with ⟨-, rfl⟩ | ⟨m, -, h⟩
  · exact Text.trimmed_of_forall (by simp)
  · exact h.trimmed

theorem rooted_normalizePath {path : Text} (htrim : Text.Trimmed path) (hne : path ≠ []) :
    Rooted path (Address.normalizePath path) := by
  rcases Address.normalizePath_eq path with ⟨-, hnil⟩ | ⟨heq, rest, hrest⟩ | ⟨heq, -⟩
  all_goals rw [Text.trim_eq_self htrim] at *
  · exact absurd hnil hne
  · exact .inl ⟨⟨rest, hrest⟩, heq⟩
  · by_cases hslash : ∃ rest, path = '/' :: rest
    · obtain ⟨rest, rfl⟩ := hslash
      rw [Address.normalizePath, Text.trim_eq_self htrim] at heq
      simp at heq
    · exact .inr ⟨hslash, heq⟩

theorem Rooted.slash {path rooted : Text} (h : Rooted path rooted) :
    ∃ rest, rooted = '/' :: rest := by
  rcases h with ⟨hslash, rfl⟩ | ⟨-, rfl⟩
  · exact hslash
  · exact ⟨path, rfl⟩

theorem numbered_eq (index : Nat) {rest whole : Text} (h : whole = ": ".toList ++ rest) :
    RequestFault.numbered index rest = "Request ".toList ++ Text.ofNat index ++ whole := by
  rw [h, ← List.append_assoc]
  rfl

theorem message_notObject (index : Nat) : (RequestFault.notObject index).message =
    "Request ".toList ++ Text.ofNat index ++ ": each request item must be an object".toList :=
  numbered_eq index rfl

theorem message_emptyPath (index : Nat) : (RequestFault.emptyPath index).message =
    "Request ".toList ++ Text.ofNat index ++ ": each request must have a non-empty 'path'".toList :=
  numbered_eq index rfl

theorem message_badMethod (index : Nat) (verb path : Text) :
    (RequestFault.badMethod index verb path).message = "Request ".toList ++ Text.ofNat index ++
      ": invalid method '".toList ++ verb ++ "' for path '".toList ++ path ++ "'".toList := by
  have hassoc : ∀ start opening between close : Text,
    start ++ opening ++ verb ++ between ++ path ++ close =
      start ++ (opening ++ verb ++ between ++ path ++ close) := by simp
  rw [hassoc]
  exact numbered_eq index rfl

theorem capitalWord_name (method : Method) : Text.CapitalWord method.name where
  letters c hc := by
    have hall : method.name.all (fun c => decide (65 ≤ c.toNat ∧ c.toNat ≤ 90)) = true := by
      cases method <;> rfl
    exact of_decide_eq_true (List.all_eq_true.mp hall c hc)
  dotless := by cases method <;> decide
  expansions := by cases method <;> decide +kernel

@[simp] theorem ofName?_eq_some_iff {verb : Text} {method : Method} :
    Method.ofName? verb = some method ↔ method.name = verb := by
  constructor
  · intro h
    simpa using List.find?_some h
  · rintro rfl
    exact Method.ofName?_name method

theorem ofName?_eq_none_iff {verb : Text} : Method.ofName? verb = none ↔
    ∀ method : Method, method.name ≠ verb := by
  rw [Option.eq_none_iff_forall_ne_some]
  exact forall_congr' fun method => not_congr ofName?_eq_some_iff

/-- A raw request is well-formed and read as what it stands for, or its first violation is
reported. -/
theorem validate_cases (index : Nat) (v : Json) :
    (WellFormed v ∧ ∃ r, validate index v = .ok r ∧ ReadAs v r) ∨
      (¬ WellFormed v ∧ ∃ fault, validate index v = .error fault ∧
        Violation index v fault.message) := by
  by_cases hobject : v.IsObject
  case neg =>
    refine .inr ⟨fun h => hobject h.object, .notObject index, ?_, ?_⟩
    · cases v with
      | object ms => exact absurd ⟨ms, rfl⟩ hobject
      | _ => rfl
    · rw [message_notObject]
      exact .notObject hobject
  obtain ⟨ms, rfl⟩ := hobject
  have hpath : PathOf (.object ms) (rawPath (ms.lookup "path".toList)) := pathOf_iff.mpr rfl
  have hverb : VerbOf (.object ms) (rawMethod (ms.lookup "method".toList)) := verbOf_iff.mpr rfl
  cases hname : Method.ofName? (rawMethod (ms.lookup "method".toList)) with
  | none =>
    have hunknown := ofName?_eq_none_iff.mp hname
    refine .inr ⟨?_, .badMethod index (rawMethod (ms.lookup "method".toList))
      (rawPath (ms.lookup "path".toList)), by simp only [validate, hname], ?_⟩
    · rintro ⟨_, ⟨method, hmethod⟩, _⟩
      exact hunknown method (verbOf_iff.mp hmethod)
    · rw [message_badMethod]
      exact .badMethod ⟨ms, rfl⟩ hverb hunknown hpath
  | some method =>
    rw [← ofName?_eq_some_iff.mp hname] at hverb
    by_cases hempty : rawPath (ms.lookup "path".toList) = []
    · rw [hempty] at hpath
      refine .inr ⟨?_,
        .emptyPath index, by simp only [validate, hname, hempty, List.isEmpty_nil, if_true], ?_⟩
      · rintro ⟨_, _, path, hgiven, hne⟩
        exact hne ((pathOf_iff.mp hgiven).trans hempty)
      · rw [message_emptyPath]
        exact .emptyPath ⟨ms, rfl⟩ hverb hpath
    · have hrooted := rooted_normalizePath hpath.trimmed hempty
      refine .inl ⟨⟨⟨ms, rfl⟩, ⟨method, hverb⟩, _, hpath, hempty⟩,
        ⟨method, Address.normalizePath _, (ms.lookup "body".toList).filter fun v => !v.isNull⟩, ?_,
        hverb, ⟨_, hpath, hrooted⟩, hrooted.slash, ?_, ?_⟩
      · simp only [validate, hname, List.isEmpty_iff, hempty, if_false]
      · rw [← Address.trim_normalizePath]
        exact Text.trimmed_trim _
      · intro b
        have hnull : b.isNull = false ↔ b ≠ .null := by cases b <;> simp [Json.isNull]
        simp [Json.get?, Option.filter_eq_some_iff, hnull]

/-- Exactly the non-empty arrays of well-formed requests are accepted, and read one for one in
order. A verb is asked for by every text that spells it in letters of either case. Of any other
value the first violation of the first request that has one is reported. -/
theorem requests_follow_grammar (v : Json) :
    ((∃ requests, validateAll v = .ok requests) ↔
      ∃ items, v = .array items ∧ items ≠ [] ∧ ∀ item ∈ items, WellFormed item) ∧
    (∀ requests, validateAll v = .ok requests →
      ∃ items, v = .array items ∧ List.Forall₂ ReadAs items requests) ∧
    (∀ (method : Method) (t : Text), Text.toUpper t = method.name ↔ Text.Spells method.name t) ∧
    ∀ fault, validateAll v = .error fault →
      ((¬ ∃ items, v = .array items ∧ items ≠ []) ∧
        fault.message = "requests must be a non-empty array".toList) ∨
      ∃ before item after, v = .array (before ++ item :: after) ∧ (∀ i ∈ before, WellFormed i) ∧
        ¬ WellFormed item ∧ Violation (before.length + 1) item fault.message := by
  have hspells : ∀ (method : Method) (t : Text),
      Text.toUpper t = method.name ↔ Text.Spells method.name t :=
    fun method _ => Text.toUpper_eq_iff (capitalWord_name method)
  by_cases hlist : ∃ items, v = .array items ∧ items ≠ []
  case neg =>
    have hv : validateAll v = .error .notList := by
      rcases v with _ | _ | _ | _ | (_ | ⟨item, items⟩) | _
      case array.cons => exact absurd ⟨_, rfl, by simp⟩ hlist
      all_goals rfl
    rw [hv]
    refine ⟨⟨fun ⟨_, h⟩ => (nomatch h), fun ⟨items, h, hne, _⟩ => absurd ⟨items, h, hne⟩ hlist⟩,
      fun _ h => (nomatch h), hspells, ?_⟩
    rintro _ ⟨⟩
    exact .inl ⟨hlist, rfl⟩
  obtain ⟨items, rfl, hne⟩ := hlist
  have hv : validateAll (.array items) = mapNumbered validate 1 items := by
    obtain ⟨item, items, rfl⟩ := List.exists_cons_of_ne_nil hne
    rfl
  rw [hv]
  rcases mapNumbered_cases validate_cases 1 items with
    ⟨hall, requests, hmap, hread⟩ | ⟨before, item, after, fault, rfl, hbefore, hitem, hmap,
      hviolation⟩
  · rw [hmap]
    refine ⟨⟨fun _ => ⟨items, rfl, hne, hall⟩, fun _ => ⟨_, rfl⟩⟩, ?_, hspells,
      fun _ h => nomatch h⟩
    rintro _ ⟨⟩
    exact ⟨items, rfl, hread⟩
  · rw [hmap]
    refine ⟨⟨fun ⟨_, h⟩ => (nomatch h), fun ⟨_, h, _, hall⟩ => ?_⟩, fun _ h => (nomatch h), hspells,
      ?_⟩
    · cases h
      exact absurd (hall item (by simp)) hitem
    · rintro _ ⟨⟩
      rw [Nat.add_comm] at hviolation
      exact .inr ⟨before, item, after, rfl, hbefore, hitem, hviolation⟩

def smallPost : Json :=
  .array [.object [("method".toList, .string " post ".toList),
    ("path".toList, .string "users".toList)]]

theorem requests_follow_grammar_of_small_letters :
    (∃ items, smallPost = .array items ∧ items ≠ [] ∧ ∀ item ∈ items, WellFormed item) ∧
    validateAll smallPost = .ok [⟨.post, "/users".toList, none⟩] ∧
    Text.Spells "POST".toList "post".toList ∧ ¬ Text.Spells "POST".toList "pots".toList := by
  have hok : validateAll smallPost = .ok [⟨.post, "/users".toList, none⟩] := rfl
  obtain ⟨hiff, -, hspells, -⟩ := requests_follow_grammar smallPost
  exact ⟨hiff.mp ⟨_, hok⟩, hok, (hspells .post _).mp (by decide +kernel),
    fun h => absurd ((hspells .post _).mpr h) (by decide +kernel)⟩

end Request
end TestBench
