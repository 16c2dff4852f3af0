import AppletPage.Number.Binary64

/-! The shortest decimal that reads back as a given number. A decimal reads back when it lies in
the interval of reals that round to the number; the ends belong to the interval when the
significand is even. Of the decimals with the fewest digits the nearest is taken. -/

namespace AppletPage.Number

structure Decimal where
  digits : Nat
  power : Int
deriving DecidableEq

namespace Binary64

/-- The reals that round to a number, over one denominator: lower end, number, upper end. -/
structure Interval where
  low : Nat
  value : Nat
  high : Nat
  denominator : Nat
  closed : Bool

def Interval.contains (interval : Interval) (numerator denominator : Nat) : Bool :=
  let scaled := numerator * interval.denominator
  let low := interval.low * denominator
  let high := interval.high * denominator
  if interval.closed then low ≤ scaled && scaled ≤ high else low < scaled && scaled < high

def intervalOf (significand : Nat) (exponent : Int) : Interval :=
  let (n, d) := magnitude 1 exponent
  let below := if significand = Nat.pow 2 52 && leastExponent < exponent then 1 else 2
  { low := (4 * significand - below) * n
    value := 4 * significand * n
    high := (4 * significand + 2) * n
    denominator := 4 * d
    closed := significand % 2 = 0 }

def powerOfTen (power : Int) : Nat × Nat :=
  if 0 ≤ power then (Nat.pow 10 power.toNat, 1) else (1, Nat.pow 10 (-power).toNat)

/-- The two neighbours of a number on the grid of a power of ten, the nearer one first. -/
def neighbours (interval : Interval) (power : Int) : List Nat :=
  let (n, d) := powerOfTen power
  let numerator := interval.value * d
  let denominator := interval.denominator * n
  let below := numerator / denominator
  let twice := 2 * (numerator % denominator)
  if twice < denominator || (twice = denominator && below % 2 = 0) then [below, below + 1]
  else [below + 1, below]

def onGrid? (interval : Interval) (power : Int) : Option Decimal :=
  let (n, d) := powerOfTen power
  ((neighbours interval power).find? fun digits => interval.contains (digits * n) d).map
    fun digits => ⟨digits, power⟩

/-- The first grid that holds a decimal of the interval, from `power` on towards finer ones. -/
def coarsest? (interval : Interval) : (grids : Nat) → (power : Int) → Option Decimal
  | 0, _ => none
  | grids + 1, power =>
      match onGrid? interval power with
      | some decimal => some decimal
      | none => coarsest? interval grids (power - 1)

def leadingPower (interval : Interval) : Int :=
  ((Nat.log2 interval.value : Int) - Nat.log2 interval.denominator + 1) * 30103 / 100000 + 1

def shortest (significand : Nat) (exponent : Int) : Decimal :=
  if significand = 0 then ⟨0, 0⟩
  else
    let interval := intervalOf significand exponent
    (coarsest? interval 24 (leadingPower interval)).getD ⟨significand, 0⟩

end Binary64

/-- How a number is written: positionally for leading digits at these powers of ten, and with at
least one digit on either side of the point; else with a power, its sign and at least two digits. -/
structure NumberFormat where
  leastPositional : Int
  endPositional : Int
  powerDigits : Nat

def stripZeros : (fuel : Nat) → Decimal → Decimal
  | 0, decimal => decimal
  | fuel + 1, decimal =>
      if decimal.digits ≠ 0 ∧ decimal.digits % 10 = 0 then
        stripZeros fuel ⟨decimal.digits / 10, decimal.power + 1⟩
      else
        decimal

def zeros (count : Nat) : String := String.ofList (List.replicate count '0')

def NumberFormat.positional (digits : String) (power : Int) : String :=
  if 0 ≤ power then
    digits ++ zeros power.toNat ++ ".0"
  else
    let places := (-power).toNat
    if places < digits.length then
      String.ofList (digits.toList.take (digits.length - places)) ++ "."
        ++ String.ofList (digits.toList.drop (digits.length - places))
    else
      "0." ++ zeros (places - digits.length) ++ digits

def NumberFormat.scientific (format : NumberFormat) (digits : String) (leading : Int) : String :=
  let power := toString leading.natAbs
  let mantissa :=
    match digits.toList with
    | first :: second :: rest => String.ofList (first :: '.' :: second :: rest)
    | _ => digits
  mantissa ++ (if leading < 0 then "e-" else "e+") ++ zeros (format.powerDigits - power.length)
    ++ power

def NumberFormat.write (format : NumberFormat) (decimal : Decimal) : String :=
  let decimal := stripZeros 20 decimal
  let digits := toString decimal.digits
  let leading : Int := decimal.power + digits.length - 1
  if format.leastPositional ≤ leading ∧ leading < format.endPositional then
    NumberFormat.positional digits decimal.power
  else
    format.scientific digits leading

/-- Positional from one ten-thousandth to ten quadrillion. -/
def plainFormat : NumberFormat := { leastPositional := -4, endPositional := 16, powerDigits := 2 }

def Binary64.text : Binary64 → String
  | .nan => "nan"
  | .infinite negative => if negative then "-inf" else "inf"
  | .finite negative significand exponent =>
      let magnitude :=
        if significand = 0 then "0.0" else plainFormat.write (shortest significand exponent)
      if negative then "-" ++ magnitude else magnitude

end AppletPage.Number
