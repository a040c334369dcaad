/-! Finite binary64 numbers as a sign, a significand and a power of two, with rounding to the
nearest one, ties to an even significand. A result beyond the range is no finite number: the
operations then give none. -/
namespace TestBench

def tens (n : Nat) : Nat := Nat.pow 10 n

def leastFull : Nat := 4503599627370496

/-- Whether a significand and an exponent are the ones of a finite binary64 number: all 53 bits are
used unless the exponent is the least one. -/
def IsBinary64 (significand : Nat) (exponent : Int) : Prop :=
  significand < 2 * leastFull ∧ -1074 ≤ exponent ∧ exponent ≤ 971 ∧
    (exponent = -1074 ∨ leastFull ≤ significand)

instance (m : Nat) (e : Int) : Decidable (IsBinary64 m e) :=
  inferInstanceAs (Decidable (_ ∧ _ ∧ _ ∧ (_ ∨ _)))

/-- The number `significand * 2 ^ exponent`, negated if `negative`; zero has a sign. -/
structure Binary64 where
  negative : Bool
  significand : Nat
  exponent : Int
  canonical : IsBinary64 significand exponent
deriving DecidableEq

namespace Binary64

def zero (negative : Bool) : Binary64 := ⟨negative, 0, -1074, by decide⟩

instance : Inhabited Binary64 := ⟨zero false⟩

/-- The quotient rounded to the nearest natural number, a tie to the even one. -/
def roundDiv (num den : Nat) : Nat :=
  let q := num / den
  let twice := 2 * (num % den)
  if twice > den || (twice == den && q % 2 == 1) then q + 1 else q

/-- `num / (den * 2 ^ exponent)` as a fraction of natural numbers. -/
def scaled (num den : Nat) (exponent : Int) : Nat × Nat :=
  if exponent ≥ 0 then (num, den <<< exponent.toNat) else (num <<< (-exponent).toNat, den)

/-- The exponent at which the quotient has 53 bits before the point, or the least one. -/
def exponentFor (num den : Nat) : Int :=
  let guess : Int := (Nat.log2 num : Int) - Nat.log2 den - 52
  let (n, d) := scaled num den guess
  max (-1074) (if n / d < leastFull then guess - 1 else guess)

/-- The number with a sign, a significand and an exponent, if there is one. -/
def mk? (negative : Bool) (significand : Nat) (exponent : Int) : Option Binary64 :=
  if h : IsBinary64 significand exponent then some ⟨negative, significand, exponent, h⟩ else none

/-- The number nearest to `num / den`, for a positive `den`. -/
def ofRatio? (negative : Bool) (num den : Nat) : Option Binary64 :=
  if num = 0 then some (zero negative)
  else
    let e := exponentFor num den
    let (n, d) := scaled num den e
    let m := roundDiv n d
    if m = 2 * leastFull then mk? negative leastFull (e + 1) else mk? negative m e

def ratio (x : Binary64) : Nat × Nat :=
  if x.exponent ≥ 0 then (x.significand <<< x.exponent.toNat, 1)
  else (x.significand, 1 <<< (-x.exponent).toNat)

def ofNat? (n : Nat) : Option Binary64 := ofRatio? false n 1

/-- The number nearest to a decimal `digits * 10 ^ exponent`; what is certainly out of range, or
less than half the least number, is not worked out. -/
def ofDecimal? (negative : Bool) (digits : Nat) (exponent : Int) : Option Binary64 :=
  if digits = 0 then some (zero negative)
  else if exponent > 310 then none
  else if exponent ≥ 0 then ofRatio? negative (digits * tens exponent.toNat) 1
  else if 3 * (-exponent).toNat > Nat.log2 digits + 1081 then some (zero negative)
  else ofRatio? negative digits (tens (-exponent).toNat)

def mul? (x y : Binary64) : Option Binary64 :=
  let (a, b) := x.ratio
  let (c, d) := y.ratio
  ofRatio? (x.negative != y.negative) (a * c) (b * d)

/-- The quotient, for a `y` other than zero. -/
def div? (x y : Binary64) : Option Binary64 :=
  let (a, b) := x.ratio
  let (c, d) := y.ratio
  ofRatio? (x.negative != y.negative) (a * d) (b * c)

def neg (x : Binary64) : Binary64 := { x with negative := !x.negative }

/-- A number that is not below zero; both zeros are such. -/
def isNonnegative (x : Binary64) : Bool := !x.negative || x.significand == 0

/-- The magnitude rounded to the nearest natural number, a half upwards. -/
def roundHalfUp (x : Binary64) : Nat :=
  let (a, b) := x.ratio
  (2 * a + b) / (2 * b)

end Binary64
end TestBench
