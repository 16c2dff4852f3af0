/-! Numbers of 53 binary digits, as values: a finite one is a sign and a natural number times a
power of two. -/

namespace AppletPage.Number

/-- A finite value is `significand * 2 ^ exponent`; the significand has 53 binary digits unless the
exponent is the least one. -/
inductive Binary64 where
  | nan
  | infinite (negative : Bool)
  | finite (negative : Bool) (significand : Nat) (exponent : Int)
deriving DecidableEq

namespace Binary64

def leastExponent : Int := -1074

def greatestExponent : Int := 971

def isFinite : Binary64 → Bool
  | finite .. => true
  | _ => false

def roundQuotient (numerator denominator : Nat) : Nat :=
  let quotient := numerator / denominator
  let twice := 2 * (numerator % denominator)
  if twice < denominator then quotient
  else if denominator < twice then quotient + 1
  else if quotient % 2 = 0 then quotient
  else quotient + 1

/-- The quotient of two natural numbers divided by a power of two, as a quotient. -/
def scaleDown (numerator denominator : Nat) (exponent : Int) : Nat × Nat :=
  if 0 ≤ exponent then (numerator, denominator * Nat.pow 2 exponent.toNat)
  else (numerator * Nat.pow 2 (-exponent).toNat, denominator)

/-- The exponent with which a quotient has a significand of 53 binary digits, or the least. -/
def exponentOf (numerator denominator : Nat) : Int :=
  let guess : Int := (Nat.log2 numerator : Int) - Nat.log2 denominator - 52
  let (n, d) := scaleDown numerator denominator guess
  max leastExponent (if n / d < Nat.pow 2 52 then guess - 1 else guess)

def ofQuotient (negative : Bool) (numerator denominator : Nat) : Binary64 :=
  if numerator = 0 then
    finite negative 0 leastExponent
  else
    let exponent := exponentOf numerator denominator
    let (n, d) := scaleDown numerator denominator exponent
    let rounded := roundQuotient n d
    let (significand, exponent) :=
      if rounded = Nat.pow 2 53 then (Nat.pow 2 52, exponent + 1) else (rounded, exponent)
    if greatestExponent < exponent then infinite negative else finite negative significand exponent

/-- The value nearest to a decimal with the given digits and power of ten. Powers so large or so
small that every value is beyond the range are not computed. -/
def ofDecimal (negative : Bool) (digits : Nat) (digitCount : Nat) (power : Int) : Binary64 :=
  if digits = 0 then finite negative 0 leastExponent
  else if 400 < power then infinite negative
  else if power + digitCount < -400 then finite negative 0 leastExponent
  else if 0 ≤ power then ofQuotient negative (digits * Nat.pow 10 power.toNat) 1
  else ofQuotient negative digits (Nat.pow 10 (-power).toNat)

def toInt? : Binary64 → Option Int
  | finite negative significand exponent =>
      let (n, d) :=
        if 0 ≤ exponent then (significand * Nat.pow 2 exponent.toNat, 1)
        else (significand, Nat.pow 2 (-exponent).toNat)
      if n % d = 0 then
        some (if negative then -((n / d : Nat) : Int) else ((n / d : Nat) : Int))
      else
        none
  | _ => none

def magnitude (significand : Nat) (exponent : Int) : Nat × Nat :=
  if 0 ≤ exponent then (significand * Nat.pow 2 exponent.toNat, 1)
  else (significand, Nat.pow 2 (-exponent).toNat)

/-- Equality of numbers, with all that is no number equal to itself. -/
def sameNumber : Binary64 → Binary64 → Bool
  | nan, nan => true
  | infinite a, infinite b => a = b
  | finite s m e, finite t n f => (m = 0 && n = 0) || (s = t && m = n && e = f)
  | _, _ => false

end Binary64

end AppletPage.Number
