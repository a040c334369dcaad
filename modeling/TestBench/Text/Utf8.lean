import TestBench.Text.Basic

/-! The UTF-8 form of texts. Reading is either strict or puts the replacement character for every
longest part that cannot begin a valid character. -/
namespace TestBench
namespace Text
namespace Utf8

abbrev Bytes := List UInt8

def encode (t : Text) : Bytes := t.flatMap String.utf8EncodeChar

/-- How many continuation bytes a leading byte asks for, and the range of the first of them. -/
def lead? (b : UInt8) : Option (Nat × UInt8 × UInt8) :=
  if 0xc2 ≤ b && b ≤ 0xdf then some (1, 0x80, 0xbf)
  else if b = 0xe0 then some (2, 0xa0, 0xbf)
  else if b = 0xed then some (2, 0x80, 0x9f)
  else if 0xe1 ≤ b && b ≤ 0xef then some (2, 0x80, 0xbf)
  else if b = 0xf0 then some (3, 0x90, 0xbf)
  else if 0xf1 ≤ b && b ≤ 0xf3 then some (3, 0x80, 0xbf)
  else if b = 0xf4 then some (3, 0x80, 0x8f)
  else none

def leadBits (n : Nat) (b : UInt8) : Nat := b.toNat % (1 <<< (6 - n))

def follow : (n : Nat) → (low high : UInt8) → (value : Nat) → Bytes → Option Nat × Bytes
  | 0, _, _, value, bs => (some value, bs)
  | _ + 1, _, _, _, [] => (none, [])
  | n + 1, low, high, value, b :: bs =>
    if low ≤ b && b ≤ high then follow n 0x80 0xbf (value * 64 + b.toNat % 64) bs
    else (none, b :: bs)

/-- The first character, or none for a part that is no character, and the bytes after it. -/
def step (b : UInt8) (bs : Bytes) : Option Char × Bytes :=
  if b < 0x80 then (some (Char.ofNat b.toNat), bs)
  else match lead? b with
    | none => (none, bs)
    | some (n, low, high) =>
      let (value, rest) := follow n low high (leadBits n b) bs
      (value.map Char.ofNat, rest)

theorem follow_length (n : Nat) (low high : UInt8) (value : Nat) (bs : Bytes) :
    (follow n low high value bs).2.length ≤ bs.length := by
  induction n generalizing low high value bs with
  | zero => simp [follow]
  | succ n ih =>
    cases bs with
    | nil => simp [follow]
    | cons b bs =>
      rw [follow]
      split
      · exact Nat.le_succ_of_le (ih _ _ _ _)
      · simp

theorem step_length (b : UInt8) (bs : Bytes) : (step b bs).2.length ≤ bs.length := by
  unfold step
  split
  · simp
  · split
    · simp
    · exact follow_length _ _ _ _ _

/-- The characters of a byte sequence, none for each part that is no character. -/
def scan : Bytes → List (Option Char)
  | [] => []
  | b :: bs => (step b bs).1 :: scan (step b bs).2
termination_by bs => bs.length
decreasing_by
  have := step_length b bs
  simp only [List.length_cons]
  omega

/-- The text, provided that all bytes are valid. -/
def decode? (bs : Bytes) : Option Text := (scan bs).mapM id

/-- The text with the replacement character for every invalid part. -/
def decodeLossy (bs : Bytes) : Text := (scan bs).map fun c => c.getD (Char.ofNat 0xfffd)

end Utf8
end Text
end TestBench
