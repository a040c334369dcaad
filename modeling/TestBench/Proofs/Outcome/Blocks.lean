import TestBench.Proofs.Outcome.Marks
import TestBench.Proofs.Text.Lines

/-! The failure blocks of a text. A header opens one wherever it stands, and its lines are those up
to the next header or rule, whatever is read around it. A failed test without a detail of its own is
told about by the first block with its name, or else by one with the name of a class before it. -/
namespace TestBench
namespace Console

/-- A failure block: the name in its header and the lines below. -/
structure Block where
  name : Text
  lines : List Text
deriving DecidableEq

/-- Whether a line below a header belongs to its block: it is neither a header nor a rule. -/
def goesOn (line : Text) : Bool :=
  (ConsoleLine.blockHeader? line).isNone && !ConsoleLine.isBlockEnd line

/-- The blocks of lines, one for each header. -/
def blocksOf : List Text → List Block
  | [] => []
  | line :: rest => match ConsoleLine.blockHeader? line with
    | some name => ⟨name, rest.takeWhile goesOn⟩ :: blocksOf rest
    | none => blocksOf rest

variable {line : Text} {rest : List Text}

theorem goesOn_eq_false_of_header {name : Text} (h : ConsoleLine.blockHeader? line = some name) :
    goesOn line = false := by
  simp [goesOn, h]

theorem blocksOf_cons_of_header {name : Text} (h : ConsoleLine.blockHeader? line = some name) :
    blocksOf (line :: rest) = ⟨name, rest.takeWhile goesOn⟩ :: blocksOf rest := by
  rw [blocksOf, h]

@[simp] theorem blocksOf_cons_of_none (h : ConsoleLine.blockHeader? line = none) :
    blocksOf (line :: rest) = blocksOf rest := by
  rw [blocksOf, h]

theorem map_name_blocksOf (lines : List Text) :
    (blocksOf lines).map Block.name = lines.filterMap ConsoleLine.blockHeader? := by
  induction lines with
  | nil => rfl
  | cons line rest ih =>
    cases h : ConsoleLine.blockHeader? line with
    | some name => rw [blocksOf_cons_of_header h, List.map_cons, ih, List.filterMap_cons_some h]
    | none => rw [blocksOf_cons_of_none h, ih, List.filterMap_cons_none h]

namespace Scan

/-- A line that is read outside of blocks with a header, and is no detail of the test before it. -/
structure Outside (s : Scan) (line : Text) : Prop where
  header : ConsoleLine.blockHeader? line = none
  openBlock : ∀ name held, s.openBlock ≠ .header name held
  detail : ∀ indent held, s.openBlock = .indented indent held → isDetail indent line = false

/-- The scan that comes out of a line. -/
inductive Move (s : Scan) (line : Text) : Scan → Prop where
  | header {name : Text} (hline : ConsoleLine.blockHeader? line = some name) :
      Move s line { s.close with openBlock := .header name [] }
  | body {name : Text} {held : List Text} (hopen : s.openBlock = .header name held)
      (hline : ConsoleLine.blockHeader? line = none) (hend : goesOn line = true) :
      Move s line { s with openBlock := .header name (line :: held) }
  | rule {name : Text} {held : List Text} (hopen : s.openBlock = .header name held)
      (hline : ConsoleLine.blockHeader? line = none) (hend : goesOn line = false) :
        Move s line s.close
  | detail {indent : Nat} {held : List Text} (hopen : s.openBlock = .indented indent held)
      (hline : ConsoleLine.blockHeader? line = none) (hdetail : isDetail indent line = true) :
      Move s line { s with openBlock := .indented indent (line :: held) }
  | nothing (h : s.Outside line) : Move s line s.close
  | entry (h : s.Outside line) {e : Entry} (he : e.detail = none) : Move s line (s.close.push e)
  | cross (h : s.Outside line) {e : Entry} (he : e.detail = none) (hfailed : e.status = .failed) :
      Move s line { s.close.push e with openBlock := .indented (indentOf line) [] }

theorem Outside.move {s : Scan} (h : s.Outside line) : Move s line (s.close.readStatus line) := by
  rw [readStatus]
  cases ConsoleLine.named? line with
  | some named => exact .entry h rfl
  | none =>
    cases ConsoleLine.checkmark? line with
    | none => exact .nothing h
    | some mark =>
      dsimp only
      split
      · exact .entry h rfl
      · exact .cross h rfl rfl

theorem move_step (s : Scan) (line : Text) : Move s line (s.step line) := by
  rw [step]
  cases hline : ConsoleLine.blockHeader? line with
  | some name => exact .header hline
  | none =>
    dsimp only
    cases hopen : s.openBlock with
    | closed =>
      have hclose : s.close = s := by rw [close, hopen]
      have hmove : Move s line (s.close.readStatus line) :=
        Outside.move ⟨hline, by simp [hopen], by simp [hopen]⟩
      rwa [hclose] at hmove
    | header name held =>
      dsimp only
      cases hend : ConsoleLine.isBlockEnd line with
      | true => exact .rule hopen hline (by simp [goesOn, hend])
      | false => exact .body hopen hline (by simp [goesOn, hline, hend])
    | indented indent held =>
      dsimp only
      cases hdetail : isDetail indent line with
      | true => exact .detail hopen hline hdetail
      | false =>
        refine Outside.move ⟨hline, by simp [hopen], fun indent' held' h => ?_⟩
        obtain ⟨rfl, rfl⟩ := OpenBlock.indented.inj (hopen.symm.trans h)
        exact hdetail

/-- The block that is open, with those of the next lines that belong to it. -/
def pending (lines : List Text) : OpenBlock → List Block
  | .header name held => [⟨name, held.reverse ++ lines.takeWhile goesOn⟩]
  | _ => []

def putAway (bs : List Block) (kept : List (Text × FailureDetail)) : List (Text × FailureDetail) :=
  bs.foldl (fun kept b => addBlock b.name b.lines kept) kept

@[simp] theorem putAway_cons (b : Block) (bs : List Block) (kept : List (Text × FailureDetail)) :
    putAway (b :: bs) kept = putAway bs (addBlock b.name b.lines kept) := rfl

theorem putAway_append (bs cs : List Block) (kept : List (Text × FailureDetail)) :
    putAway (bs ++ cs) kept = putAway cs (putAway bs kept) := List.foldl_append

theorem pending_cons_of_stop (h : goesOn line = false) (b : OpenBlock) :
    pending (line :: rest) b = pending [] b := by
  cases b <;> simp [pending, h]

theorem pending_eq_nil {b : OpenBlock} (h : ∀ name held, b ≠ .header name held)
    (lines : List Text) :
    pending lines b = [] := by
  cases b with
  | header name held => exact absurd rfl (h name held)
  | _ => rfl

theorem blocks_close (s : Scan) : s.close.blocks = putAway (pending [] s.openBlock) s.blocks := by
  rw [close]
  cases s.openBlock <;> simp [pending, putAway]

theorem Outside.blocks_close {s : Scan} (h : s.Outside line) : s.close.blocks = s.blocks := by
  rw [Scan.blocks_close, pending_eq_nil h.openBlock, putAway, List.foldl_nil]

/-- The blocks of the lines are put away in their order, whatever else is in the lines. -/
theorem blocks_run (s : Scan) (lines : List Text) :
    (lines.foldl step s).close.blocks =
      putAway (pending lines s.openBlock ++ blocksOf lines) s.blocks := by
  induction lines generalizing s with
  | nil => rw [List.foldl_nil, blocks_close, blocksOf, List.append_nil]
  | cons line rest ih =>
    rw [List.foldl_cons, ih]
    have hmove := s.move_step line
    generalize s.step line = t at hmove ⊢
    cases hmove with
    | header hline =>
      rw [pending_cons_of_stop (goesOn_eq_false_of_header hline), blocksOf_cons_of_header hline,
        putAway_append (pending [] _), ← blocks_close]
      rfl
    | body hopen hline hend =>
      rw [blocksOf_cons_of_none hline, hopen]
      simp only [pending, List.takeWhile_cons_of_pos hend, List.reverse_cons, List.append_assoc,
        List.singleton_append]
    | rule hopen hline hend =>
      rw [pending_cons_of_stop hend, blocksOf_cons_of_none hline, openBlock_close,
        putAway_append (pending [] _), ← blocks_close]
      rfl
    | detail hopen hline hdetail =>
      rw [blocksOf_cons_of_none hline, hopen]
      rfl
    | nothing h =>
      rw [h.blocks_close, openBlock_close, pending_eq_nil h.openBlock,
        blocksOf_cons_of_none h.header]
      rfl
    | entry h he =>
      rw [push, h.blocks_close, openBlock_close, pending_eq_nil h.openBlock,
        blocksOf_cons_of_none h.header]
      rfl
    | cross h he hfailed =>
      rw [push, h.blocks_close, pending_eq_nil h.openBlock, blocksOf_cons_of_none h.header]
      rfl

theorem blocks_ofLines (lines : List Text) : (ofLines lines).blocks = putAway (blocksOf lines) [] :=
  blocks_run start lines

theorem lookup_addBlock (name n : Text) (lines : List Text) (kept : List (Text × FailureDetail)) :
    (addBlock name lines kept).lookup n =
      (kept.lookup n).or (if name = n then some (FailureDetail.ofLines lines) else none) := by
  rw [addBlock]
  by_cases hn : name = n
  · subst hn
    rw [if_pos rfl]
    split
    · next h =>
      obtain ⟨d, hd⟩ := Option.isSome_iff_exists.mp h
      rw [hd, Option.some_or]
    · next h => rw [Option.not_isSome_iff_eq_none.mp h, List.lookup_cons_self, Option.none_or]
  · rw [if_neg hn, Option.or_none]
    split
    · rfl
    · rw [List.lookup_cons, beq_false_of_ne (Ne.symm hn)]

theorem lookup_putAway (bs : List Block) (n : Text) (kept : List (Text × FailureDetail)) :
    (putAway bs kept).lookup n =
      (kept.lookup n).or ((bs.find? fun b => b.name = n).map fun b => FailureDetail.ofLines
        b.lines) := by
  induction bs generalizing kept with
  | nil => rw [putAway, List.foldl_nil, List.find?_nil, Option.map_none, Option.or_none]
  | cons b bs ih =>
    rw [putAway_cons, ih, lookup_addBlock, Option.or_assoc]
    by_cases hn : b.name = n
    · rw [if_pos hn, Option.some_or, List.find?_cons_of_pos (by simpa using hn), Option.map_some]
    · rw [if_neg hn, Option.none_or, List.find?_cons_of_neg (by simpa using hn)]

theorem mem_putAway {bs : List Block} {kept : List (Text × FailureDetail)}
    {entry : Text × FailureDetail} (h : entry ∈ putAway bs kept) :
    entry ∈ kept ∨ ∃ b ∈ bs, entry = (b.name, FailureDetail.ofLines b.lines) := by
  induction bs generalizing kept with
  | nil => exact .inl h
  | cons b bs ih =>
    rw [putAway_cons] at h
    rcases ih h with h | ⟨c, hc, rfl⟩
    · rw [addBlock] at h
      split at h
      · exact .inl h
      · rcases List.mem_cons.mp h with rfl | h
        · exact .inr ⟨b, List.mem_cons_self, rfl⟩
        · exact .inl h
    · exact .inr ⟨c, List.mem_cons_of_mem _ hc, rfl⟩

theorem lookup_blocks (lines : List Text) (n : Text) :
    (ofLines lines).blocks.lookup n =
      ((blocksOf lines).find? fun b => b.name = n).map fun b => FailureDetail.ofLines b.lines := by
  rw [blocks_ofLines, lookup_putAway, List.lookup_nil, Option.none_or]

theorem exists_block_of_mem {lines : List Text} {entry : Text × FailureDetail}
    (h : entry ∈ (ofLines lines).blocks) :
    ∃ b ∈ blocksOf lines, entry = (b.name, FailureDetail.ofLines b.lines) := by
  rw [blocks_ofLines] at h
  exact (mem_putAway h).resolve_left List.not_mem_nil

theorem exists_mem_blocks {lines : List Text} {b : Block} (h : b ∈ blocksOf lines) :
    ∃ d, (b.name, d) ∈ (ofLines lines).blocks := by
  have hfound : ((blocksOf lines).find? fun c => c.name = b.name).isSome = true :=
    List.find?_isSome.mpr ⟨b, h, by simp⟩
  obtain ⟨c, hc⟩ := Option.isSome_iff_exists.mp hfound
  have hlookup : (ofLines lines).blocks.lookup b.name = some (FailureDetail.ofLines c.lines) := by
    rw [lookup_blocks, hc, Option.map_some]
  obtain ⟨before, after, hblocks, -⟩ := List.lookup_eq_some_iff.mp hlookup
  exact ⟨FailureDetail.ofLines c.lines, by simp [hblocks]⟩

end Scan

/-- The lines that are not blank, trimmed. -/
def shownTexts (lines : List Text) : List Text := (lines.map Text.trim).filter (· ≠ [])

/-- What is left of the lines that are marked as errors. -/
def errorTexts (lines : List Text) : List Text :=
  shownTexts (lines.filterMap (Text.dropPrefix? "E ".toList))

/-- The headline of a block: its error lines, or else its last two lines. -/
def headline (lines : List Text) : Text :=
  if errorTexts lines = [] then
    Text.joinWith [' '] (lastTwo (shownTexts lines)) else Text.unlines (errorTexts lines)

/-- A result whose error is the text of a block and whose headline is that of the block. -/
structure Tells (lines : List Text) (r : TestResult) : Prop where
  error : r.error = Text.trimmed? (Text.unlines lines)
  headline : r.errorSummary = some (headline lines)

theorem filterMap_trimmed? (lines : List Text) :
    lines.filterMap Text.trimmed? = shownTexts lines := by
  induction lines with
  | nil => rfl
  | cons line lines ih =>
    rw [shownTexts] at ih ⊢
    by_cases h : Text.trim line = []
    · have hnone : Text.trimmed? line = none := by rw [Text.trimmed?, h]
      rw [List.filterMap_cons_none hnone, ih, List.map_cons, List.filter_cons_of_neg (by simp [h])]
    · have hsome : Text.trimmed? line = some (Text.trim line) :=
        Text.trimmed?_eq_some_iff.mpr ⟨(Text.trim_ne_nil_iff line).mp h, rfl⟩
      rw [List.filterMap_cons_some hsome, ih, List.map_cons,
        List.filter_cons_of_pos (by simpa using h)]

theorem filterMap_errorLine? (lines : List Text) :
    lines.filterMap errorLine? = errorTexts lines := by
  rw [errorTexts, ← filterMap_trimmed?, List.filterMap_filterMap]
  rfl

theorem FailureDetail.ofLines_eq (lines : List Text) :
    FailureDetail.ofLines lines = ⟨Console.headline lines, Text.trim (Text.unlines lines)⟩ := by
  rw [ofLines, Console.headline, filterMap_errorLine?, filterMap_trimmed?]
  cases errorTexts lines <;> rfl

theorem tells_failed (name : Text) (millis : UInt64) (lines : List Text) :
    Tells lines { TestResult.failed name
      (if (FailureDetail.ofLines lines).trace.isEmpty then
        none else some (FailureDetail.ofLines lines).trace)
      (some (FailureDetail.ofLines lines).summary) with durationMs := millis } := by
  rw [FailureDetail.ofLines_eq]
  refine ⟨?_, rfl⟩
  dsimp only [TestResult.failed]
  rw [Text.trimmed?]
  cases Text.trim (Text.unlines lines) <;> rfl

/-- A header that names a test of a class. -/
def OfClass (name header : Text) : Prop := '.' :: name <:+ header

instance (name header : Text) : Decidable (OfClass name header) :=
  inferInstanceAs (Decidable ('.' :: name <:+ header))

@[simp] theorem endsWith_iff {s t : Text} : Text.endsWith s t = true ↔ s <:+ t := by
  rw [Text.endsWith, Text.startsWith_iff, List.reverse_prefix]

/-- Where a failed test without a detail of its own has its detail from: the first block with its
name, or else a block of a class, or else nowhere. -/
inductive Attributed (blocks : List Block) (r : TestResult) : Prop where
  | own {b : Block} (hb : blocks.find? (fun b => b.name = r.name) = some b) (h : Tells b.lines r)
  | ofClass {b : Block} (hnone : ∀ c ∈ blocks, c.name ≠ r.name) (hb : b ∈ blocks)
      (hclass : OfClass r.name b.name)
      (h : Tells b.lines r)
  | nowhere (hnone : ∀ c ∈ blocks, c.name ≠ r.name ∧ ¬OfClass r.name c.name)
      (herror : r.error = none)
      (hsummary : r.errorSummary = some genericSummary)

theorem attributed_result (lines : List Text) {e : Entry} (hfailed : e.status.isFailure = true)
    (hdetail : e.detail = none) :
    Attributed (blocksOf lines) ((Scan.ofLines lines).result e) := by
  set s := Scan.ofLines lines with hs
  have hname : (s.result e).name = e.name := s.name_result e
  rw [Scan.result, if_pos hfailed, hdetail] at hname ⊢
  cases hown : (blocksOf lines).find? fun b => b.name = e.name with
  | some b =>
    have hfound : s.detailFor? e.name = some (FailureDetail.ofLines b.lines) := by
      rw [Scan.detailFor?, hs, Scan.lookup_blocks, hown, Option.map_some, Option.some_or]
    rw [hfound] at hname ⊢
    exact .own (by rwa [hname]) (tells_failed _ _ _)
  | none =>
    have hnone : ∀ c ∈ blocksOf lines, c.name ≠ e.name := by simpa using hown
    have hlookup : s.blocks.lookup e.name = none := by
      rw [hs, Scan.lookup_blocks, hown, Option.map_none]
    have hfound :
        s.detailFor? e.name =
        (s.blocks.reverse.find? fun b => Text.endsWith ('.' :: e.name) b.1).map (·.2) := by
      rw [Scan.detailFor?, hlookup, Option.none_or]
    cases hclass : s.blocks.reverse.find? fun b => Text.endsWith ('.' :: e.name) b.1 with
    | some entry =>
      obtain ⟨b, hb, rfl⟩ :=
        Scan.exists_block_of_mem (List.mem_reverse.mp (List.mem_of_find?_eq_some hclass))
      have hends : Text.endsWith ('.' :: e.name) b.name = true := by
        simpa using List.find?_some hclass
      rw [hfound, hclass, Option.map_some] at hname ⊢
      exact .ofClass (by rwa [hname]) hb (by rw [hname]; exact endsWith_iff.mp hends)
        (tells_failed _ _ _)
    | none =>
      rw [hfound, hclass, Option.map_none] at hname ⊢
      refine .nowhere (fun c hc => ?_) rfl rfl
      obtain ⟨d, hd⟩ := Scan.exists_mem_blocks hc
      have hends := List.find?_eq_none.mp hclass _ (List.mem_reverse.mpr hd)
      rw [hname]
      exact ⟨hnone c hc, fun h => hends (endsWith_iff.mpr h)⟩

end Console
end TestBench
