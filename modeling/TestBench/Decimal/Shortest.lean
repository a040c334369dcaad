import TestBench.Decimal.Binary64
import TestBench.Text.Basic

/-! The shortest decimal digits that read back to the same binary64 number, and the layout in which
such a number is written. -/
namespace TestBench
namespace Binary64

/-- The decimals `digits * 10 ^ exponent`. -/
structure Decimal where
  digits : Nat
  exponent : Int
deriving DecidableEq, Repr

/-- `num / den` compared with a decimal, over a common denominator. -/
def Decimal.ratio (d : Decimal) : Nat × Nat :=
  if d.exponent ≥ 0 then (d.digits * tens d.exponent.toNat, 1)
  else (d.digits, tens (-d.exponent).toNat)

/-- The fractions between which every real number rounds to the magnitude of `x`. -/
def lowerEnd (x : Binary64) : Nat × Nat :=
  let (a, b) := x.ratio
  if x.significand = leastFull ∧ x.exponent ≠ -1074
  then (a * (4 * x.significand - 1), 4 * b * x.significand)
  else (a * (2 * x.significand - 1), 2 * b * x.significand)

def upperEnd (x : Binary64) : Nat × Nat :=
  let (a, b) := x.ratio
  (a * (2 * x.significand + 1), 2 * b * x.significand)

/-- Whether a decimal reads back to the magnitude of `x`: it lies between the ends, and on one of
them only if the significand is even. -/
def readsAs (x : Binary64) (d : Decimal) : Bool :=
  let (n, m) := d.ratio
  let (a, b) := lowerEnd x
  let (p, q) := upperEnd x
  if x.significand % 2 = 0 then a * m ≤ n * b && n * q ≤ p * m else a * m < n * b && n * q < p * m

/-- The exponent of the first decimal digit of a positive fraction. -/
def leadingExponent (num den : Nat) : Int :=
  if num ≥ den then ((Nat.toDigits 10 (num / den)).length : Int) - 1
  else
    let guess := (Nat.toDigits 10 (den / num)).length
    if num * tens (guess - 1) ≥ den then -((guess : Int) - 1) else -(guess : Int)

/-- The two neighbours of `x` on the grid of the given exponent, the nearer one first. -/
def neighbours (x : Binary64) (exponent : Int) : List Decimal :=
  let (a, b) := x.ratio
  let (n, d) :=
    if exponent ≥ 0 then (a, b * tens exponent.toNat) else (a * tens (-exponent).toNat, b)
  let low : Decimal := ⟨n / d, exponent⟩
  let high : Decimal := ⟨n / d + 1, exponent⟩
  let twice := 2 * (n % d)
  if twice < d || (twice == d && n / d % 2 == 0) then [low, high] else [high, low]

/-- The first grid, from coarse to fine, on which a neighbour of `x` reads back. -/
def shortestFrom (x : Binary64) (leading : Int) : (fuel : Nat) → (count : Nat) → Decimal
  | 0, count => ((neighbours x (leading - count + 1)).head?).getD ⟨0, 0⟩
  | fuel + 1, count =>
    match (neighbours x (leading - count + 1)).find? (readsAs x) with
    | some d => d
    | none => shortestFrom x leading fuel (count + 1)

/-- The shortest decimal that reads back to the magnitude of `x`, the nearest one of them; seventeen
digits always suffice. -/
def shortest (x : Binary64) : Decimal :=
  if x.significand = 0 then ⟨0, 0⟩
  else
    let (a, b) := x.ratio
    shortestFrom x (leadingExponent a b) 17 1

/-- How numbers with a fraction are written. -/
structure Layout where
  /-- The least and the greatest exponent of the first digit that is written without an exponent. -/
  plainFrom : Int
  plainTo : Int
  /-- What stands before an exponent that is not negative. -/
  mark : Text
  negativeMark : Text

/-- Digits without the zeros at their end, and the exponent of the last one left. -/
def dropZeros : Text → Int → Text × Int
  | ds, e =>
    let kept := (ds.reverse.dropWhile (· = '0')).reverse
    (kept, e + ((ds.length - kept.length : Nat) : Int))

/-- A fraction with at least one digit on both sides of the point. -/
def plainText (ds : Text) (exponent : Int) : Text :=
  if exponent ≥ 0 then ds ++ List.replicate exponent.toNat '0' ++ ".0".toList
  else
    let places := (-exponent).toNat
    if ds.length > places
    then ds.take (ds.length - places) ++ '.' :: ds.drop (ds.length - places)
    else "0.".toList ++ List.replicate (places - ds.length) '0' ++ ds

/-- One digit, a point with the others if there are any, and the exponent of the first. -/
def scientificText (layout : Layout) (ds : Text) (leading : Int) : Text :=
  let fraction := match ds.drop 1 with
    | [] => []
    | rest => '.' :: rest
  let exponent :=
    if leading ≥ 0 then layout.mark ++ Text.ofNat leading.natAbs
    else layout.negativeMark ++ Text.ofNat leading.natAbs
  ds.take 1 ++ fraction ++ exponent

def toText (layout : Layout) (x : Binary64) : Text :=
  let sign := if x.negative then ['-'] else []
  if x.significand = 0 then sign ++ "0.0".toList
  else
    let d := shortest x
    let (ds, e) := dropZeros (Text.ofNat d.digits) d.exponent
    let leading := e + ds.length - 1
    sign ++ (if layout.plainFrom ≤ leading ∧ leading ≤ layout.plainTo
      then plainText ds e else scientificText layout ds leading)

/-- The magnitude with the given number of places, a tie to the even digit. -/
def fixedText (places : Nat) (x : Binary64) : Text :=
  let (a, b) := x.ratio
  let ds := Text.ofNat (roundDiv (a * tens places) b)
  let padded := List.replicate (places + 1 - ds.length) '0' ++ ds
  let cut := padded.length - places
  (if x.negative then ['-'] else []) ++ padded.take cut ++ '.' :: padded.drop cut

end Binary64
end TestBench
