import TestBench.Text.Basic

/-! Titles made distinct. A title that is taken gets the least number from two on that makes it
new. -/
namespace TestBench
namespace Titles

def numbered (title : Text) (n : Nat) : Text :=
  title ++ " (#".toList ++ Text.ofNat n ++ [')']

/-- The first numbered title from `n` on that is not taken; after `fuel` of them the next is new. -/
def firstFree (taken : List Text) (title : Text) : (fuel n : Nat) → Text
  | 0, n => numbered title n
  | fuel + 1, n =>
    if taken.contains (numbered title n) then
      firstFree taken title fuel (n + 1) else numbered title n

/-- The title itself, or its first numbered form that is not taken: as many numbers as there are
titles taken always suffice. -/
def free (taken : List Text) (title : Text) : Text :=
  if taken.contains title then firstFree taken title taken.length 2 else title

/-- Titles made distinct from those taken and from each other, the earlier ones first. -/
def distinctFrom (taken : List Text) : List Text → List Text
  | [] => []
  | t :: ts => free taken t :: distinctFrom (free taken t :: taken) ts

def distinct (ts : List Text) : List Text := distinctFrom [] ts

@[simp] theorem length_distinctFrom (taken ts : List Text) :
    (distinctFrom taken ts).length = ts.length := by
  induction ts generalizing taken with
  | nil => rfl
  | cons t ts ih => simp [distinctFrom, ih]

@[simp] theorem length_distinct (ts : List Text) : (distinct ts).length = ts.length :=
  length_distinctFrom [] ts

end Titles
end TestBench
