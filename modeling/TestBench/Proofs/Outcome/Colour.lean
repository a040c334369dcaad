import TestBench.Outcome.Normalize
import TestBench.Proofs.Json.Lookup
import TestBench.Proofs.Outcome.SuiteTree
import TestBench.Proofs.Text.Ansi

/-! Control sequences in results. The texts of errors are stripped on their way, apart from messages
that a report lists as plain texts and from the streams that are shown when nothing but the exit
code is known. -/
namespace TestBench

open Text.Ansi (HasSequence)

/-- No text, or one without a sequence. -/
def Text.Plain (o : Option Text) : Prop := ∀ t ∈ o, ¬HasSequence t

def TestResult.Uncoloured (r : TestResult) : Prop := Text.Plain r.error ∧ Text.Plain r.errorSummary

namespace Text

variable {o o' : Option Text} {s : Text}

theorem plain_none : Plain none := fun _ h => nomatch h

theorem plain_some (h : ¬HasSequence s) : Plain (some s) := fun _ ht => Option.some.inj ht ▸ h

theorem plain_of_not_mem (h : Ansi.escape ∉ s) : Plain (some s) :=
  plain_some (Ansi.not_hasSequence_of_not_mem h)

theorem Plain.or (h : Plain o) (h' : Plain o') : Plain (o.or o') := fun t ht => by
  rcases Option.or_eq_some_iff.mp ht with ht | ⟨-, ht⟩
  · exact h t ht
  · exact h' t ht

theorem plain_of_isInfix (hs : ¬HasSequence s) (h : ∀ t ∈ o, t <:+: s) : Plain o := fun t ht hseq =>
  hs (hseq.of_isInfix (h t ht))

theorem plain_firstLine? (hs : ¬HasSequence s) : Plain (firstLine? s) :=
  plain_of_isInfix hs fun _ => isInfix_of_firstLine?

theorem plain_trimmed? (hs : ¬HasSequence s) : Plain (trimmed? s) :=
  plain_of_isInfix hs fun _ => isInfix_of_trimmed?

theorem Plain.bind_firstLine? (h : Plain o) : Plain (o.bind firstLine?) := fun t ht => by
  obtain ⟨s, hs, ht⟩ := Option.bind_eq_some_iff.mp ht
  exact plain_firstLine? (h s hs) t ht

end Text

open Text (Plain plain_none plain_some plain_of_not_mem plain_firstLine? plain_trimmed?)

namespace Json

/-- A text is one of the strings of a value. -/
inductive HasText (s : Text) : Json → Prop
  | string : HasText s (.string s)
  | item {v : Json} {vs : List Json} (hv : v ∈ vs) (h : HasText s v) : HasText s (.array vs)
  | member {m : Text × Json} {ms : List (Text × Json)} (hm : m ∈ ms) (h : HasText s m.2) :
      HasText s (.object ms)

def Strippable (v : Json) : Prop := ∀ s, v.HasText s → ¬HasSequence (Text.Ansi.strip s)

theorem inherited_strippable : Inherited Strippable where
  item h hw := fun s hs => h s (.item hw hs)
  member h hm := fun s hs => h s (.member hm hs)

namespace Strippable

variable {v w : Json} {k : Text}

theorem item {vs : List Json} (h : (array vs).Strippable) (hw : w ∈ vs) : w.Strippable :=
  inherited_strippable.item h hw

theorem get? (h : v.Strippable) : ∀ w ∈ v.get? k, w.Strippable := inherited_strippable.get? h

theorem itemsAt? (h : v.Strippable) : ∀ vs ∈ v.itemsAt? k, ∀ w ∈ vs, w.Strippable :=
  inherited_strippable.itemsAt? h

theorem textAt? (h : v.Strippable) : ∀ s ∈ v.textAt? k, ¬HasSequence (Text.Ansi.strip s) := by
  intro s hs
  obtain ⟨a, ha, htext⟩ := Option.bind_eq_some_iff.mp hs
  cases a with
  | string s' =>
    obtain rfl : s' = s := Option.some.inj htext
    exact h.get? _ ha s' .string
  | _ => cases htext

theorem listAt {key : String} (h : v.Strippable) : ∀ w ∈ Structured.listAt key v, w.Strippable :=
  Structured.forall_mem_listAt inherited_strippable h

end Strippable
end Json

namespace Structured

variable {v : Json}

theorem plain_cleaned? {s : Text} (hs : ¬HasSequence (Text.Ansi.strip s)) : Plain (cleaned? s) :=
  plain_trimmed? hs

theorem plain_bind_cleaned? {o : Option Text} (h : ∀ s ∈ o, ¬HasSequence (Text.Ansi.strip s)) :
    Plain (o.bind cleaned?) := fun t ht => by
  obtain ⟨s, hs, ht⟩ := Option.bind_eq_some_iff.mp ht
  exact plain_cleaned? (h s hs) t ht

theorem plain_itemMessage? (h : v.Strippable) : Plain (itemMessage? v) := by
  have hmessage : Plain ((v.textAt? "message".toList).bind cleaned?) :=
    plain_bind_cleaned? h.textAt?
  cases v with
  | string s => exact plain_cleaned? (h s .string)
  | _ => exact hmessage

theorem plain_joined? {ts : List Text} (h : ∀ t ∈ ts, ¬HasSequence t) : Plain (joined? ts) := by
  cases ts with
  | nil => exact plain_none
  | cons t ts => exact plain_some (Text.Ansi.not_hasSequence_joinWith (by decide) h)

theorem plain_errorSources {error : Option Json} (h : ∀ v ∈ error, v.Strippable) :
    Plain (errorSources error).1 ∧ Plain (errorSources error).2 := by
  rcases error with _ | _ | _ | _ | s | vs | ms
  case some.string =>
    have hs := plain_cleaned? (h _ rfl s .string)
    exact ⟨hs, hs⟩
  case some.array =>
    have hjoined : Plain (joined? (vs.filterMap itemMessage?)) := plain_joined? fun t ht => by
      obtain ⟨w, hw, hmessage⟩ := List.mem_filterMap.mp ht
      exact plain_itemMessage? ((h _ rfl).item hw) t hmessage
    exact ⟨hjoined, hjoined⟩
  case some.object =>
    have htext : ∀ key, Plain (((Json.object ms).textAt? key).bind cleaned?) := fun key =>
      plain_bind_cleaned? (h _ rfl).textAt?
    have hmessage := htext "message".toList
    have hstack := htext "stack".toList
    exact ⟨hstack.or hmessage, hmessage⟩
  all_goals exact ⟨plain_none, plain_none⟩

theorem plain_errorParts {error : Option Json} (h : ∀ v ∈ error, v.Strippable) :
    Plain (errorParts error).trace ∧ Plain (errorParts error).headline := by
  obtain ⟨htrace, hsource⟩ := plain_errorSources h
  exact ⟨htrace, (hsource.or htrace).bind_firstLine?⟩

theorem uncoloured_entryResult (h : v.Strippable) (keys : List Text) (n : Nat) :
    (entryResult keys n v).Uncoloured := by
  refine plain_errorParts fun w hw => ?_
  rcases Option.or_eq_some_iff.mp hw with hw | ⟨-, hw⟩
  · exact h.get? w (Option.filter_eq_some_iff.mp hw).1
  · exact h.get? w hw

theorem uncoloured_outcomeResult {entry : Status × Json} (h : entry.2.Strippable) (n : Nat) :
    (outcomeResult n entry).Uncoloured := by
  obtain ⟨status, v⟩ := entry
  have herror : ∀ w ∈ v.get? "err".toList, w.Strippable := h.get?
  obtain ⟨htrace, hheadline⟩ := plain_errorParts herror
  rw [outcomeResult]
  cases status.isFailure with
  | true => exact ⟨htrace, hheadline.or (plain_of_not_mem (by decide))⟩
  | false => exact ⟨plain_none, plain_none⟩

theorem uncoloured_treeResult (h : v.Strippable) (title : Text) (several : Bool) :
    (treeResult title several v).Uncoloured := by
  refine plain_errorParts fun w hw => ?_
  obtain ⟨last, hlast, hw⟩ := Option.bind_eq_some_iff.mp hw
  obtain ⟨results, hresults, hlast⟩ := Option.bind_eq_some_iff.mp hlast
  have hstrip : last.Strippable := h.itemsAt? results hresults last (List.mem_of_getLast? hlast)
  rcases Option.or_eq_some_iff.mp hw with hw | ⟨-, hw⟩
  · exact hstrip.get? w (Option.filter_eq_some_iff.mp hw).1
  · exact hstrip.get? w (Option.filter_eq_some_iff.mp hw).1

theorem uncoloured_listing (h : v.Strippable) (n : Nat) (listing : Listing) :
    (listing.result n v).Uncoloured := by
  rw [Listing.result]
  split
  · exact uncoloured_outcomeResult h _
  · exact uncoloured_entryResult h _ _

theorem uncoloured_richTests (h : v.Strippable) {ts : List TestResult}
    (hts : richTests v = some ts) :
    ∀ r ∈ ts, r.Uncoloured := by
  by_cases hno : listedEntries v = []
  · rw [richTests_tree hno] at hts
    obtain ⟨-, rfl⟩ := nonEmpty?_eq_some_iff.mp hts
    refine List.forall_mem_map.mpr fun x hx => ?_
    have hentry := all_of_entryIn Json.inherited_strippable h (mem_entriesBelow_iff.mp hx).1
    exact uncoloured_treeResult hentry.test _ _
  · rw [richTests_eq, if_neg hno] at hts
    obtain rfl := Option.some.inj hts
    intro r hr
    obtain ⟨i, l, hl, rfl⟩ := mem_numberedMap hr
    exact uncoloured_listing (forall_mem_listedEntries Json.inherited_strippable h l hl) _ _

theorem not_hasSequence_unknownError : ¬HasSequence unknownError :=
  Text.Ansi.not_hasSequence_of_not_mem (by decide)

theorem not_hasSequence_splitMessage {message : Text} (h : ¬HasSequence message) :
    ¬HasSequence (splitMessage message).2 := by
  rw [splitMessage]
  split
  · next name rest hsplit =>
    cases htrim : Text.trimmed? rest with
    | none => exact not_hasSequence_unknownError
    | some error =>
      have hrest : rest <:+: message := by
        rw [(Text.splitOnce?_eq_some_iff.mp hsplit).1]
        exact ((List.suffix_cons ':' rest).trans (List.suffix_append name _)).isInfix
      exact fun hseq => h (hseq.of_isInfix ((Text.isInfix_of_trimmed? htrim).trans hrest))
  · exact not_hasSequence_unknownError

theorem uncoloured_listedFailure? (h : v.Strippable)
    (hmessage : ∀ m, v = .string m → ¬HasSequence m) (n : Nat) :
    ∀ r ∈ listedFailure? n v, r.Uncoloured := by
  intro r hr
  cases v with
  | string m =>
    obtain rfl := Option.some.inj hr
    have herror := not_hasSequence_splitMessage (hmessage m rfl)
    exact ⟨plain_some herror, plain_firstLine? herror⟩
  | object ms =>
    obtain rfl := Option.some.inj hr
    have herror :
      ∀ w ∈ failureErrorKeys.findSome? fun k => ((Json.object ms).get? k).filter fun e => !e.isNull,
        w.Strippable := fun w hw => by
      obtain ⟨k, -, hw⟩ := List.exists_of_findSome?_eq_some hw
      exact h.get? w (Option.filter_eq_some_iff.mp hw).1
    have hparts := plain_errorParts herror
    exact ⟨hparts.1.or (plain_some not_hasSequence_unknownError),
      hparts.2.or (plain_some not_hasSequence_unknownError)⟩
  | _ => cases hr

theorem uncoloured_passed (name : Text) : (TestResult.passed name).Uncoloured :=
  ⟨plain_none, plain_none⟩

theorem uncoloured_countedFailure (name : Text) : (countedFailure name).Uncoloured :=
  ⟨plain_none, plain_of_not_mem (by decide)⟩

end Structured

theorem uncoloured_placeholders {stem : Text} {first count : Nat} {make : Text → TestResult}
    (h : ∀ name, (make name).Uncoloured) :
    ∀ r ∈ placeholders stem first count make, r.Uncoloured := by
  intro r hr
  rw [placeholders] at hr
  split at hr
  · cases hr
  · split at hr
    · rw [List.mem_singleton.mp hr]
      exact h _
    · obtain ⟨i, -, rfl⟩ := List.mem_map.mp hr
      exact h _

namespace Structured

theorem uncoloured_legacyTests {v : Json} (h : v.Strippable)
    (hmessages : ∀ m, .string m ∈ listAt "failures" v → ¬HasSequence m) {ts : List TestResult}
    (hts : legacyTests v = some ts) : ∀ r ∈ ts, r.Uncoloured := by
  rw [legacyTests] at hts
  split at hts
  · cases hts
  · obtain ⟨-, rfl⟩ := nonEmpty?_eq_some_iff.mp hts
    intro r hr
    rcases List.mem_append.mp hr with hr | hr
    · rcases List.mem_append.mp hr with hr | hr
      · obtain ⟨o, ho, hr⟩ := List.mem_filterMap.mp hr
        obtain ⟨i, w, hw, rfl⟩ := mem_numberedMap ho
        exact uncoloured_listedFailure? (h.listAt w hw) (fun m hm => hmessages m (hm ▸ hw)) i r hr
      · exact uncoloured_placeholders uncoloured_countedFailure r hr
    · exact uncoloured_placeholders uncoloured_passed r hr

end Structured

namespace Console

theorem not_hasSequence_unlines {lines : List Text} (h : ∀ l ∈ lines, ¬HasSequence l) :
    ¬HasSequence (Text.unlines lines) :=
  Text.Ansi.not_hasSequence_joinWith (by decide) h

theorem not_hasSequence_trim {t : Text} (h : ¬HasSequence t) : ¬HasSequence (Text.trim t) :=
  fun hseq =>
  h (hseq.of_isInfix (Text.trim_isInfix t))

theorem plain_errorLine? {line : Text} (h : ¬HasSequence line) : Plain (errorLine? line) := by
  refine Text.plain_of_isInfix h fun t ht => ?_
  obtain ⟨rest, hrest, ht⟩ := Option.bind_eq_some_iff.mp ht
  rw [Text.eq_append_of_dropPrefix? hrest]
  exact (Text.isInfix_of_trimmed? ht).trans (List.suffix_append _ rest).isInfix

theorem not_hasSequence_of_mem_filterMap {f : Text → Option Text} {lines : List Text}
    (h : ∀ l ∈ lines, Plain (f l)) : ∀ t ∈ lines.filterMap f, ¬HasSequence t := fun t ht => by
  obtain ⟨l, hl, ht⟩ := List.mem_filterMap.mp ht
  exact h l hl t ht

namespace FailureDetail

def Uncoloured (b : FailureDetail) : Prop := ¬HasSequence b.summary ∧ ¬HasSequence b.trace

theorem uncoloured_ofLines {lines : List Text} (h : ∀ l ∈ lines, ¬HasSequence l) :
    (ofLines lines).Uncoloured := by
  refine ⟨?_, not_hasSequence_trim (not_hasSequence_unlines h)⟩
  have herrors := not_hasSequence_of_mem_filterMap fun l hl => plain_errorLine? (h l hl)
  have htexts := not_hasSequence_of_mem_filterMap fun l hl => plain_trimmed? (h l hl)
  rw [ofLines]
  dsimp only
  split
  · exact Text.Ansi.not_hasSequence_joinWith (by decide) fun t ht =>
      htexts t (List.mem_of_mem_drop ht)
  · exact not_hasSequence_unlines herrors

end FailureDetail

namespace Scan

def openLines : OpenBlock → List Text
  | .closed => []
  | .header _ lines => lines
  | .indented _ lines => lines

/-- What has been kept of the lines has no sequence. -/
structure Uncoloured (s : Scan) : Prop where
  details : ∀ e ∈ s.entries, Plain e.detail
  blocks : ∀ b ∈ s.blocks, b.2.Uncoloured
  lines : ∀ l ∈ openLines s.openBlock, ¬HasSequence l

namespace Uncoloured

variable {s : Scan} {line : Text}

theorem setOpenBlock (h : s.Uncoloured) {b : OpenBlock} (hb : ∀ l ∈ openLines b, ¬HasSequence l) :
    Uncoloured { s with openBlock := b } := ⟨h.details, h.blocks, hb⟩

theorem push (h : s.Uncoloured) {e : Entry} (he : Plain e.detail) : (s.push e).Uncoloured :=
  ⟨List.forall_mem_cons.mpr ⟨he, h.details⟩, h.blocks, h.lines⟩

theorem addBlock {blocks : List (Text × FailureDetail)} (h : ∀ b ∈ blocks, b.2.Uncoloured)
    {lines : List Text} (hlines : ∀ l ∈ lines, ¬HasSequence l) (name : Text) :
    ∀ b ∈ Scan.addBlock name lines blocks, b.2.Uncoloured := by
  rw [Scan.addBlock]
  split
  · exact h
  · exact List.forall_mem_cons.mpr ⟨FailureDetail.uncoloured_ofLines hlines, h⟩

theorem attach {es : List Entry} (h : ∀ e ∈ es, Plain e.detail) {lines : List Text}
    (hlines : ∀ l ∈ lines, ¬HasSequence l) : ∀ e ∈ Scan.attach lines es, Plain e.detail := by
  cases es with
  | nil => exact h
  | cons e es =>
    refine List.forall_mem_cons.mpr ⟨?_, (List.forall_mem_cons.mp h).2⟩
    dsimp only
    split
    · exact plain_none
    · refine plain_some (not_hasSequence_unlines (List.forall_mem_map.mpr fun l hl => ?_))
      exact not_hasSequence_trim (hlines l hl)

theorem close (h : s.Uncoloured) : s.close.Uncoloured := by
  have hlines := h.lines
  rw [Scan.close]
  cases hopen : s.openBlock with
  | closed => exact h
  | header name lines =>
    rw [hopen] at hlines
    exact ⟨h.details, addBlock h.blocks (fun l hl => hlines l (List.mem_reverse.mp hl)) name,
      fun _ hl => nomatch hl⟩
  | indented indent lines =>
    rw [hopen] at hlines
    exact ⟨attach h.details fun l hl => hlines l (List.mem_reverse.mp hl), h.blocks,
      fun _ hl => nomatch hl⟩

theorem readStatus (h : s.Uncoloured) (line : Text) : (s.readStatus line).Uncoloured := by
  rw [Scan.readStatus]
  cases ConsoleLine.named? line with
  | some named => exact h.push plain_none
  | none =>
    cases ConsoleLine.checkmark? line with
    | none => exact h
    | some mark =>
      dsimp only
      split
      · exact h.push plain_none
      · exact (h.push plain_none).setOpenBlock fun _ hl => nomatch hl

theorem step (h : s.Uncoloured) (hline : ¬HasSequence line) : (s.step line).Uncoloured := by
  have hlines := h.lines
  rw [Scan.step]
  cases ConsoleLine.blockHeader? line with
  | some name => exact h.close.setOpenBlock fun _ hl => nomatch hl
  | none =>
    dsimp only
    cases hopen : s.openBlock with
    | closed => exact h.readStatus line
    | header name lines =>
      rw [hopen] at hlines
      dsimp only
      split
      · exact h.close
      · exact h.setOpenBlock (List.forall_mem_cons.mpr ⟨hline, hlines⟩)
    | indented indent lines =>
      rw [hopen] at hlines
      dsimp only
      split
      · exact h.setOpenBlock (List.forall_mem_cons.mpr ⟨hline, hlines⟩)
      · exact h.close.readStatus line

theorem run (h : s.Uncoloured) {lines : List Text} (hlines : ∀ l ∈ lines, ¬HasSequence l) :
    (lines.foldl Scan.step s).Uncoloured := by
  induction lines generalizing s with
  | nil => exact h
  | cons l lines ih =>
    obtain ⟨hl, hlines⟩ := List.forall_mem_cons.mp hlines
    exact ih (h.step hl) hlines

theorem ofLines {lines : List Text} (hlines : ∀ l ∈ lines, ¬HasSequence l) :
    (Scan.ofLines lines).Uncoloured := by
  have hstart : start.Uncoloured :=
    ⟨(fun _ h => nomatch h), (fun _ h => nomatch h), fun _ h => nomatch h⟩
  exact (hstart.run hlines).close

theorem detailFor? (h : s.Uncoloured) {name : Text} {b : FailureDetail}
    (hb : s.detailFor? name = some b) :
    b.Uncoloured := by
  rcases Option.or_eq_some_iff.mp hb with hb | ⟨-, hb⟩
  · obtain ⟨before, after, hblocks, -⟩ := List.lookup_eq_some_iff.mp hb
    exact h.blocks (name, b) (by simp [hblocks])
  · obtain ⟨block, hblock, rfl⟩ := Option.map_eq_some_iff.mp hb
    exact h.blocks block (List.mem_reverse.mp (List.mem_of_find?_eq_some hblock))

theorem result (h : s.Uncoloured) {e : Entry} (he : e ∈ s.entries) : (s.result e).Uncoloured := by
  have hdetail := h.details e he
  rw [Scan.result]
  split
  · cases hd : e.detail with
    | some detail =>
      rw [hd] at hdetail
      have hplain := hdetail detail rfl
      exact ⟨plain_some hplain, plain_firstLine? hplain⟩
    | none =>
      cases hb : s.detailFor? e.name with
      | some b =>
        obtain ⟨hsummary, htrace⟩ := h.detailFor? hb
        refine ⟨?_, plain_some hsummary⟩
        change Plain (if b.trace.isEmpty then none else some b.trace)
        split
        · exact plain_none
        · exact plain_some htrace
      | none => exact ⟨plain_none, plain_of_not_mem (by decide)⟩
  · exact ⟨plain_none, plain_none⟩

end Uncoloured
end Scan

theorem uncoloured_consoleTests {text : Text} (h : ¬HasSequence text) {ts : List TestResult}
    (hts : consoleTests text = some ts) : ∀ r ∈ ts, r.Uncoloured := by
  have hlines : ∀ l ∈ Text.lines text, ¬HasSequence l := fun l hl hseq =>
    h (hseq.of_isInfix (Text.isInfix_of_mem_lines hl))
  have hscan := Scan.Uncoloured.ofLines hlines
  rw [consoleTests] at hts
  split at hts
  · obtain ⟨line, -, hts⟩ := Option.bind_eq_some_iff.mp hts
    dsimp only at hts
    split at hts
    · cases hts
    · obtain rfl := Option.some.inj hts
      intro r hr
      rcases List.mem_append.mp hr with hr | hr
      · exact uncoloured_placeholders Structured.uncoloured_passed r hr
      · refine uncoloured_placeholders (fun name => ?_) r hr
        exact ⟨plain_some (not_hasSequence_trim h), plain_of_not_mem (by decide)⟩
  · obtain rfl := Option.some.inj hts
    intro r hr
    obtain ⟨e, he, rfl⟩ := List.mem_map.mp hr
    exact hscan.result (List.mem_reverse.mp he)

end Console

theorem uncoloured_exitCodeTests {raw : RawOutput} {text : Text} (htext : ¬HasSequence text)
    (hstderr : ¬HasSequence raw.stderr) (hstdout : ¬HasSequence raw.stdout) :
    ∀ r ∈ exitCodeTests raw text, r.Uncoloured := by
  have houtput : Plain ((Text.trimmed? raw.stderr).or (Text.trimmed? raw.stdout)) :=
    (plain_trimmed? hstderr).or (plain_trimmed? hstdout)
  rw [exitCodeTests]
  split
  · exact List.forall_mem_singleton.mpr ⟨plain_trimmed? htext, plain_of_not_mem (by decide)⟩
  · dsimp only
    split
    · next code _ =>
      split
      · exact List.forall_mem_singleton.mpr (Structured.uncoloured_passed _)
      · refine List.forall_mem_singleton.mpr ⟨houtput, plain_of_not_mem fun hmem => ?_⟩
        rcases List.mem_append.mp hmem with hmem | hmem
        · exact absurd hmem (by decide)
        · have hdigits := Text.forall_mem_ofInt (p := fun c => c ≠ Text.Ansi.escape)
            (fun c hc heq => by rw [heq] at hc; exact absurd hc (by decide)) (by decide) code
          exact hdigits _ hmem rfl
    · exact List.forall_mem_singleton.mpr ⟨houtput, plain_of_not_mem (by decide)⟩

theorem not_hasSequence_combinedText {raw : RawOutput} (hout : Text.Ansi.Complete raw.stdout)
    (herr : Text.Ansi.Complete raw.stderr) : ¬HasSequence raw.combinedText := by
  rw [RawOutput.combinedText]
  split
  · exact Text.Ansi.not_hasSequence_strip hout
  · split
    · exact Text.Ansi.not_hasSequence_strip herr
    · exact Text.Ansi.not_hasSequence_strip (hout.append_cons herr (by decide))

theorem exists_leftover_of_not_strippable {data : Json} (h : ¬data.Strippable) :
    ∃ s, data.HasText s ∧ HasSequence (Text.Ansi.strip s) ∧ ¬Text.Ansi.Complete s := by
  simp only [Json.Strippable, not_forall, not_not] at h
  obtain ⟨s, hs, hseq⟩ := h
  exact ⟨s, hs, hseq, fun hcomplete => Text.Ansi.not_hasSequence_strip hcomplete hseq⟩

/-- A sequence reaches a result only in four ways: stripping leaves one in a string of the report or
in the text of the streams, which takes an escape character that begins no sequence; or it is in a
message that a report with counts lists as a plain text; or it is in a stream that is shown with the
exit code. -/
theorem ways_of_colour (raw : RawOutput) {r : TestResult} (hr : r ∈ (normalize raw).tests)
    (hcoloured : ¬r.Uncoloured) :
    (((normalize raw).tier = .structuredRich ∨ (normalize raw).tier = .structuredLegacy) ∧
      ∃ data s, raw.structured = some data ∧ data.HasText s ∧ HasSequence (Text.Ansi.strip s) ∧
      ¬Text.Ansi.Complete s) ∨
    (((normalize raw).tier = .consoleText ∨ (normalize raw).tier = .exitCode) ∧
      HasSequence raw.combinedText ∧
      ¬(Text.Ansi.Complete raw.stdout ∧ Text.Ansi.Complete raw.stderr)) ∨
    ((normalize raw).tier = .structuredLegacy ∧ ∃ data m, raw.structured = some data ∧
      .string m ∈ Structured.listAt "failures" data ∧ HasSequence m) ∨
    ((normalize raw).tier = .exitCode ∧ (HasSequence raw.stderr ∨ HasSequence raw.stdout)) := by
  have hleftover : ∀ data, raw.structured = some data → ¬data.Strippable →
      ∃ data s, raw.structured = some data ∧ data.HasText s ∧ HasSequence (Text.Ansi.strip s) ∧
        ¬Text.Ansi.Complete s :=
    fun data hdata hnot =>
      let ⟨s, hs⟩ := exists_leftover_of_not_strippable hnot
      ⟨data, s, hdata, hs⟩
  have htext : HasSequence raw.combinedText →
      HasSequence raw.combinedText ∧
        ¬(Text.Ansi.Complete raw.stdout ∧ Text.Ansi.Complete raw.stderr) :=
    fun hseq => ⟨hseq, fun hcomplete => not_hasSequence_combinedText hcomplete.1 hcomplete.2 hseq⟩
  rcases normalize_cases raw with ⟨ts, h, hn⟩ | ⟨-, ts, h, hn⟩ | ⟨-, -, ts, h, hn⟩ | ⟨-, -, -, hn⟩
  · rw [hn] at hr ⊢
    obtain ⟨data, hdata, hts⟩ := Option.bind_eq_some_iff.mp h
    have hstrip : ¬data.Strippable :=
      fun hstrip => hcoloured (Structured.uncoloured_richTests hstrip hts r hr)
    exact .inl ⟨.inl rfl, hleftover data hdata hstrip⟩
  · rw [hn] at hr ⊢
    obtain ⟨data, hdata, hts⟩ := Option.bind_eq_some_iff.mp h
    by_cases hstrip : data.Strippable
    · refine .inr (.inr (.inl ⟨rfl, ?_⟩))
      by_contra hnone
      refine hcoloured (Structured.uncoloured_legacyTests hstrip (fun m hm hseq => ?_) hts r hr)
      exact hnone ⟨data, m, hdata, hm, hseq⟩
    · exact .inl ⟨.inr rfl, hleftover data hdata hstrip⟩
  · rw [hn] at hr ⊢
    refine .inr (.inl ⟨.inl rfl, htext ?_⟩)
    by_contra hclean
    exact hcoloured (Console.uncoloured_consoleTests hclean h r hr)
  · rw [hn] at hr ⊢
    by_cases hclean : HasSequence raw.combinedText
    · exact .inr (.inl ⟨.inr rfl, htext hclean⟩)
    · refine .inr (.inr (.inr ⟨rfl, ?_⟩))
      by_contra hstreams
      rw [not_or] at hstreams
      exact hcoloured (uncoloured_exitCodeTests hclean hstreams.1 hstreams.2 r hr)

def redOutput : RawOutput := ⟨none, Text.Ansi.escape :: "[31mred".toList, [], some 1⟩

/-- The output is shown as it is with the exit code. -/
theorem ways_of_colour_of_stream :
    TestResult.failed "test_execution".toList (some redOutput.stdout)
      (some "Runner exited with code 1".toList) ∈
        (normalize redOutput).tests ∧
      ¬(TestResult.failed "test_execution".toList (some redOutput.stdout)
        (some "Runner exited with code 1".toList)).Uncoloured ∧
      ((normalize redOutput).tier = .exitCode ∧
        (HasSequence redOutput.stderr ∨ HasSequence redOutput.stdout)) := by
  have hmem : TestResult.failed "test_execution".toList (some redOutput.stdout)
      (some "Runner exited with code 1".toList) ∈ (normalize redOutput).tests := by decide +kernel
  have hcoloured : ¬(TestResult.failed "test_execution".toList (some redOutput.stdout)
      (some "Runner exited with code 1".toList)).Uncoloured := fun h => h.1 _ rfl ⟨[], _, rfl, rfl⟩
  have hclean : Text.Ansi.escape ∉ redOutput.combinedText := by decide +kernel
  refine ⟨hmem, hcoloured, ?_⟩
  rcases ways_of_colour redOutput hmem hcoloured with
    ⟨-, _, _, hdata, -⟩ | ⟨-, hseq, -⟩ | ⟨-, _, _, hdata, -⟩ | h
  · cases hdata
  · exact absurd hseq (Text.Ansi.not_hasSequence_of_not_mem hclean)
  · cases hdata
  · exact h

/-- A report that lists a red message, and one whose message has a sequence inside of another
one. -/
theorem colour_in_results :
    (normalize ⟨some (.object [("failures".toList, .array
      [.string ("a: ".toList ++ Text.Ansi.escape :: "[31mred".toList)])]), [], [], some 1⟩).tests =
        [.failed ['a'] (some (Text.Ansi.escape :: "[31mred".toList))
        (some (Text.Ansi.escape :: "[31mred".toList))] ∧
    (normalize ⟨some (.object [("tests".toList, .array [.object [("error".toList,
      .string ([Text.Ansi.escape, Text.Ansi.escape] ++ "[m[m".toList))]])]), [], [],
        some 1⟩).tests =
        [⟨"test_1".toList, .unknown, 0, some (Text.Ansi.escape :: "[m".toList),
          some (Text.Ansi.escape :: "[m".toList)⟩] ∧
    HasSequence (Text.Ansi.escape :: "[31mred".toList) ∧
    HasSequence (Text.Ansi.escape :: "[m".toList) :=
  ⟨by decide +kernel, by decide +kernel, ⟨[], _, rfl, rfl⟩, ⟨[], _, rfl, rfl⟩⟩

end TestBench
