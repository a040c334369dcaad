import Mathlib.Data.List.Chain
import TestBench.Proofs.Program.Structure
import TestBench.Proofs.Scenario.Stable

/-! Browser programs that throw nothing. The statement that stands for a wait without an object is
code around a literal, and so neither fixed code nor the content of literals can make it up. -/
namespace TestBench

open Literals

namespace Literals

/-- Code without a capital `E`, and with no `w` at its beginning or right after a quote. -/
structure Calm (t : Text) : Prop where
  noCapital : 'E' ∉ t
  head : t.head? ≠ some 'w'
  chain : t.IsChain fun a b => a = '"' → b ≠ 'w'

instance (t : Text) : Decidable (Calm t) :=
  decidable_of_iff ('E' ∉ t ∧ t.head? ≠ some 'w' ∧ t.IsChain fun a b => a = '"' → b ≠ 'w')
    ⟨fun ⟨h₁, h₂, h₃⟩ => ⟨h₁, h₂, h₃⟩, fun ⟨h₁, h₂, h₃⟩ => ⟨h₁, h₂, h₃⟩⟩

theorem Calm.append {s t : Text} (hs : Calm s) (ht : Calm t) : Calm (s ++ t) where
  noCapital := by simp [hs.noCapital, ht.noCapital]
  head := by
    cases s with
    | nil => exact ht.head
    | cons c s => exact hs.head
  chain := by
    refine List.isChain_append.mpr ⟨hs.chain, ht.chain, fun a _ b hb _ hw => ht.head ?_⟩
    rw [← hw]
    exact hb

theorem calm_of_no_quote {t : Text} (hquote : '"' ∉ t) (hcapital : 'E' ∉ t)
    (hhead : t.head? ≠ some 'w') : Calm t := by
  refine ⟨hcapital, hhead, (List.pairwise_of_forall_mem_list fun a ha b _ hquoted => ?_).isChain⟩
  exact absurd (hquoted ▸ ha) hquote

theorem calm_ofNat (n : Nat) : Calm (Text.ofNat n) := by
  refine calm_of_no_quote (Text.not_mem_ofNat rfl n) (Text.not_mem_ofNat rfl n) fun h => ?_
  exact Text.not_mem_ofNat (c := 'w') rfl n (List.mem_of_head? h)

theorem after_ne_code {p : Place} {t : Text} (hp : p ≠ .code) (ht : '"' ∉ t) :
    after p t ≠ .code := by
  induction t generalizing p with
  | nil => exact hp
  | cons c t ih =>
    rw [List.mem_cons, not_or] at ht
    refine ih ?_ ht.2
    cases p with
    | code => exact absurd rfl hp
    | literal raw =>
      rw [Place.next, if_neg (Ne.symm ht.1)]
      split <;> simp
    | escape raw => simp [Place.next]

/-- Where calm code is all there is besides literals, no text stands that is code with a capital `E`
before a quote and goes on with a `w`. -/
theorem not_infix_of_calm {source s t : Text} (h : Calm (skeleton source)) (hs : '"' ∉ s)
    (hcapital : 'E' ∈ s) :
    ¬s ++ '(' :: '"' :: 'w' :: t <:+: source := by
  rintro ⟨u, v, rfl⟩
  have htokens : tokens (u ++ (s ++ '(' :: '"' :: 'w' :: t) ++ v) =
      tokens u ++ (tokensFrom (after .code u) s ++ tokensFrom (after (after .code u) s)
        ('(' :: '"' :: 'w' :: (t ++ v))) := by
    rw [tokens, List.append_assoc, List.append_assoc, tokensFrom_append, tokensFrom_append]
    rfl
  by_cases hcode : after .code u = .code
  · refine h.noCapital ?_
    have hmap := tokens_of_no_quote hs
    rw [tokens] at hmap
    rw [skeleton, htokens, hcode, hmap]
    simp [Token.blanked, hcapital]
  · have hin := after_ne_code hcode hs
    obtain ⟨raw, hraw⟩ : ∃ raw, Place.next (after (after .code u) s) '(' = .literal raw := by
      cases hp : after (after .code u) s with
      | code => exact absurd hp hin
      | literal raw => exact ⟨_, rfl⟩
      | escape raw => exact ⟨_, rfl⟩
    have hclosing : ∃ ts ts', tokens (u ++ (s ++ '(' :: '"' :: 'w' :: t) ++ v) =
        ts ++ [.content raw.reverse, .code 'w'] ++ ts' := by
      refine ⟨tokens u ++ tokensFrom (after .code u) s ++
        ((after (after .code u) s).token? '(').toList, tokensFrom .code (t ++ v), ?_⟩
      rw [htokens, tokensFrom, hraw]
      simp [tokensFrom, Place.token?, Place.next]
    obtain ⟨ts, ts', hts⟩ := hclosing
    have hpair : ['"', 'w'] <:+: skeleton (u ++ (s ++ '(' :: '"' :: 'w' :: t) ++ v) :=
      ⟨ts.map Token.blanked, ts'.map Token.blanked, by rw [skeleton, hts]; simp [Token.blanked]⟩
    have hchain := h.chain.infix hpair
    simp at hchain

end Literals

namespace Instruction

def IsCalm (i : Instruction) : Prop := Calm (SourceLine.text (i.pieces.map Piece.blanked))

instance (i : Instruction) : Decidable i.IsCalm := inferInstanceAs (Decidable (Calm _))

theorem calm_lineText {t : Text} (h : Calm t) (depth : Nat) : Calm (lineText depth t) := by
  have hbreak : Calm ['\n'] := by decide
  have hindent : Calm (Text.indentation depth) := by
    refine calm_of_no_quote (fun hq => ?_) (fun hq => ?_) (fun hq => ?_)
    · exact absurd (List.eq_of_mem_replicate hq) (by decide)
    · exact absurd (List.eq_of_mem_replicate hq) (by decide)
    · exact absurd (List.eq_of_mem_replicate (List.mem_of_head? hq)) (by decide)
  rw [lineText]
  split
  · exact hbreak
  · exact (hindent.append h).append hbreak

theorem calm_text {i : Instruction} (h : i.IsCalm) (depth : Nat) : Calm (i.blanked.text depth) := by
  cases i with
  | blank => exact (by decide : Calm ['\n'])
  | line l => exact calm_lineText h depth
  | opening l => exact calm_lineText h depth
  | closing l => exact calm_lineText h (depth - 1)

theorem calm_render {is : List Instruction} (h : ∀ i ∈ is, i.IsCalm) (depth : Nat) :
    Calm (render depth (is.map blanked)) := by
  induction is generalizing depth with
  | nil => exact (by decide : Calm [])
  | cons i is ih =>
    obtain ⟨hi, his⟩ := List.forall_mem_cons.mp h
    exact (calm_text hi depth).append (ih his _)

end Instruction

namespace Browser

open Instruction

theorem calm_numbered {a : Text} (ha : Calm (skeleton a)) (n : Nat) {l : SourceLine}
    (hl : Calm (SourceLine.text (l.map Piece.blanked))) :
    Calm (SourceLine.text ((.code a :: .code (Text.ofNat n) :: l).map Piece.blanked)) := by
  have hn : skeleton (Text.ofNat n) = Text.ofNat n :=
    skeleton_of_no_quote (Text.not_mem_ofNat rfl n)
  simp only [List.map_cons, SourceLine.text, List.flatMap_cons, Piece.blanked, Piece.text, hn]
  exact ha.append ((calm_ofNat n).append hl)

theorem calm_statement {s : Statement} (h : s ≠ .refuseWait) : IsCalm (.line s.line) := by
  rw [IsCalm, Instruction.pieces]
  cases s with
  | pause ms => exact calm_numbered (by decide) _ (by decide)
  | refuseWait => exact absurd rfl h
  | _ =>
    rw [Statement.map_blanked_line, Statement.blanked]
    decide +kernel

theorem calm_comment (n : Nat) (k : StepKind) :
    IsCalm (.line [verbatim "// step ", .code (Text.ofNat n), verbatim ": ", .code k.name]) :=
  calm_numbered (by decide) n (by cases k <;> decide)

theorem calm_bodyLines {body : List (StepKind × Statement)} (h : ∀ b ∈ body, b.2 ≠ .refuseWait)
    (n : Nat) :
    ∀ i ∈ bodyLines n body, i.IsCalm := by
  induction body generalizing n with
  | nil => simp [bodyLines]
  | cons b body ih =>
    obtain ⟨hb, hbody⟩ := List.forall_mem_cons.mp h
    rw [bodyLines, List.forall_mem_cons, List.forall_mem_cons]
    exact ⟨calm_comment n b.1, calm_statement hb, ih hbody _⟩

theorem calm_timeoutLines (timeout : Option UInt64) : ∀ i ∈ timeoutLines timeout, i.IsCalm := by
  cases timeout with
  | none => simp [timeoutLines]
  | some ms =>
    rw [timeoutLines, List.forall_mem_singleton]
    exact calm_numbered (by decide) _ (by decide)

def Test.Waits (t : Test) : Prop := ∀ b ∈ t.body, b.2 ≠ .refuseWait

theorem calm_test {t : Test} (h : t.Waits) (timeout : Option UInt64) :
    ∀ i ∈ t.instructions timeout, i.IsCalm := by
  -- what is quoted is blanked, so the title does not matter
  have hopening : ∀ title, IsCalm (.opening [verbatim "test(", .quoted title,
      verbatim ", async (\x7b page \x7d) => \x7b"]) :=
    fun _ => (by decide +kernel : IsCalm (.opening [verbatim "test(", .quoted [],
      verbatim ", async (\x7b page \x7d) => \x7b"]))
  have hclosing : IsCalm (.closing [verbatim "\x7d);"]) := by decide
  have hstart : IsCalm (.line (Statement.goto t.start).line) := calm_statement (by simp)
  rw [Test.instructions]
  simp only [List.cons_append, List.forall_mem_cons, List.forall_mem_append]
  exact ⟨hopening t.title, ⟨calm_timeoutLines timeout, hstart, calm_bodyLines h 1⟩,
    hclosing, by simp⟩

theorem calm_instructions {ts : List Test} (h : ∀ t ∈ ts, t.Waits) (timeout : Option UInt64) :
    ∀ i ∈ instructions timeout ts, i.IsCalm := by
  induction ts with
  | nil => simp [instructions]
  | cons t ts ih =>
    obtain ⟨ht, hts⟩ := List.forall_mem_cons.mp h
    cases ts with
    | nil =>
      rw [instructions_singleton]
      exact calm_test ht timeout
    | cons u ts =>
      rw [instructions_cons_cons, List.forall_mem_append, List.forall_mem_cons]
      exact ⟨calm_test ht timeout, by decide, ih hts⟩

theorem ofStep_ne_refuseWait {st : Step} (h : st.Settled) (base : Text) :
    Statement.ofStep base st ≠ .refuseWait := by
  rcases st with _ | _ | _ | _ | ⟨_ | _, _ | _⟩ | _ | _ | _ | _ | _
  case waitFor.none.none => cases h
  all_goals exact fun heq => nomatch heq

theorem waits_tests {ss : List Scenario} (h : ∀ s ∈ ss, ∀ st ∈ s.steps, st.Settled) (base : Text) :
    ∀ t ∈ tests base ss, t.Waits := by
  intro t ht
  rw [tests_eq_map] at ht
  obtain ⟨⟨title, s⟩, hs, rfl⟩ := List.mem_map.mp ht
  intro b hb
  obtain ⟨st, hst, rfl⟩ := List.mem_map.mp hb
  exact ofStep_ne_refuseWait (h s (List.of_mem_zip hs).2 st hst) base

end Browser

namespace Program

/-- The statement that stands for a wait without an object. -/
def refusal : Text := "throw new Error(\"waitFor step needs a selector or ms\");".toList

theorem calm_header : ∀ i ∈ header, i.IsCalm := by
  simp only [header, noticeLine, List.forall_mem_cons, List.not_mem_nil, false_imp_iff,
    implies_true, and_true]
  decide +kernel

/-- If all steps have what they need, nowhere in the program is a wait refused, not even in a text
of the user. -/
theorem not_refusal_isInfix_sourceOf {ss : List Scenario} (h : ∀ s ∈ ss, ∀ st ∈ s.steps, st.Settled)
    (timeout : Option UInt64) (base : Text) : ¬refusal <:+: sourceOf timeout base (.ui ss) := by
  have hcalm : Calm (skeleton (sourceOf timeout base (.ui ss))) := by
    rw [(reads_sourceOf timeout base (.ui ss)).skeleton]
    refine Instruction.calm_render (List.forall_mem_append.mpr ⟨calm_header, ?_⟩) 0
    exact Browser.calm_instructions (Browser.waits_tests h base) timeout
  have hsplit : refusal = "throw new Error".toList ++ '(' :: '"' :: 'w' ::
      "aitFor step needs a selector or ms\");".toList := by decide +kernel
  rw [hsplit]
  exact not_infix_of_calm hcalm (by decide) (by decide)

end Program
end TestBench
