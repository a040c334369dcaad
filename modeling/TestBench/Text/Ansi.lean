import TestBench.Text.Basic

/-! Terminal control sequences: ESC, an opening bracket, any digits and semicolons, an ASCII letter.
`strip` removes them; what is left over from an incomplete one stays. -/
namespace TestBench
namespace Text
namespace Ansi

def escape : Char := Char.ofNat 0x1b

def isParameter (c : Char) : Bool := isDigit c || c = ';'

def isLetter (c : Char) : Bool := ('A' ≤ c && c ≤ 'Z') || ('a' ≤ c && c ≤ 'z')

/-- What follows the parameters and the final letter of a sequence. -/
def afterFinal? : Text → Option Text
  | [] => none
  | c :: t => if isLetter c then some t else if isParameter c then afterFinal? t else none

def afterSequence? : Text → Option Text
  | e :: b :: t => if e = escape ∧ b = '[' then afterFinal? t else none
  | _ => none

theorem afterFinal?_length {t r : Text} (h : afterFinal? t = some r) : r.length < t.length := by
  induction t with
  | nil => simp [afterFinal?] at h
  | cons c t ih =>
    rw [afterFinal?] at h
    split at h
    · simp_all
    · split at h
      · have := ih h
        simp only [List.length_cons]
        omega
      · simp at h

theorem afterSequence?_length {t r : Text} (h : afterSequence? t = some r) :
    r.length < t.length := by
  unfold afterSequence? at h
  split at h
  · split at h
    · have := afterFinal?_length h
      simp only [List.length_cons]
      omega
    · simp at h
  · simp at h

/-- The text without its control sequences, found from left to right. -/
def strip : Text → Text
  | [] => []
  | c :: t =>
    match _h : afterSequence? (c :: t) with
    | some r => strip r
    | none => c :: strip t
termination_by t => t.length
decreasing_by
  · exact afterSequence?_length _h
  · exact Nat.lt_succ_self t.length

def HasSequence (t : Text) : Prop := ∃ a b, t = a ++ b ∧ (afterSequence? b).isSome

end Ansi
end Text
end TestBench
