import ClusterConfig.Number.Double

/-!
# The shortest decimal form

A finite double precision number is the nearest one to a whole interval of reals. Its shortest form
is a decimal number in that interval with the fewest digits, the one nearest to the exact value if
there are several.

Main definitions:

- `Shortest.Interval`: the reals that round to a number.
- `Shortest.decimal`: the digits and the power of ten of the shortest form.
- `NumberFormat.render`: the text of a number in a given format.
-/

namespace ClusterConfig

namespace Shortest

/-- The reals `low / unit` to `high / unit` that round to the number `exact / unit`; the ends belong
to the interval if `closed`. -/
structure Interval where
  low : Nat
  exact : Nat
  high : Nat
  unit : Nat
  closed : Bool
  deriving Repr

/-- The interval of a positive number. Below a power of two its neighbour is half as far away. -/
def Interval.ofNumber (mantissa : Nat) (exponent : Int) : Interval :=
  let lowGap := if mantissa = Double.normalMantissa ∧ Double.leastExponent < exponent then 1 else 2
  let factor := Nat.pow 2 (exponent - 2).toNat
  { low := (4 * mantissa - lowGap) * factor
    exact := 4 * mantissa * factor
    high := (4 * mantissa + 2) * factor
    unit := Nat.pow 2 (2 - exponent).toNat
    closed := mantissa % 2 == 0 }

/-- The interval with all its numbers divided by `10 ^ power`. -/
def Interval.shift (i : Interval) (power : Int) : Interval :=
  let factor := Nat.pow 10 (-power).toNat
  { i with
    low := i.low * factor
    exact := i.exact * factor
    high := i.high * factor
    unit := i.unit * Nat.pow 10 power.toNat }

/-- Whether a natural number lies in the interval. -/
def Interval.holds (i : Interval) (n : Nat) : Bool :=
  if i.closed then i.low ≤ n * i.unit && n * i.unit ≤ i.high
  else i.low < n * i.unit && n * i.unit < i.high

/-- The natural number in the interval that is nearest to its exact value, if there is one; a tie
goes to the even number. -/
def Interval.nearest? (i : Interval) : Option Nat :=
  let below := i.exact / i.unit
  let above := below + 1
  match i.holds below, i.holds above with
  | true, false => some below
  | false, true => some above
  | true, true => some (Double.roundQuotient i.exact i.unit)
  | false, false => none

/-- Tries the powers of ten downward from `power`; the first grid with a hit has the fewest
digits. -/
def search (i : Interval) : (tries : Nat) → (power : Int) → Nat × Int
  | 0, power => (i.exact / i.unit, power)
  | tries + 1, power =>
    match (i.shift power).nearest? with
    | some digits => (digits, power)
    | none => search i tries (power - 1)

/-- A power of ten that is not less than the number. -/
def startPower (mantissa : Nat) (exponent : Int) : Int :=
  let bits : Int := (mantissa.log2 : Int) + 1 + exponent
  if bits < 0 then -((-bits) * 30 / 100) + 1 else bits * 31 / 100 + 1

/-- The digits and the power of ten of the shortest form of a positive number. -/
def decimal (mantissa : Nat) (exponent : Int) : Nat × Int :=
  search (Interval.ofNumber mantissa exponent) 60 (startPower mantissa exponent)

end Shortest

/-- The decisions that turn the digits of a number into text. -/
structure NumberFormat where
  /-- Numbers with a greater decimal exponent have an exponent part. -/
  lastPositional : Int
  /-- Numbers with a lesser decimal exponent have an exponent part. -/
  firstPositional : Int
  /-- What follows a whole number. -/
  wholeMark : String
  /-- The least number of digits of an exponent. -/
  exponentWidth : Nat
  /-- The text of infinity, which a minus may precede. -/
  infinity : String
  /-- The text of the undefined number. -/
  undefined : String

namespace NumberFormat

/-- The digit `0`, repeated. -/
def zeros (n : Nat) : String :=
  String.ofList (List.replicate n '0')

/-- Digits in positional notation: `point` of them stand before the decimal point. -/
def positional (f : NumberFormat) (digits : List Char) (point : Int) : String :=
  if point ≤ 0 then "0." ++ zeros (-point).toNat ++ String.ofList digits
  else if digits.length ≤ point.toNat then
    String.ofList digits ++ zeros (point.toNat - digits.length) ++ f.wholeMark
  else
    String.ofList (digits.take point.toNat) ++ "." ++ String.ofList (digits.drop point.toNat)

/-- Digits with an exponent part. -/
def scientific (f : NumberFormat) (digits : List Char) (power : Int) : String :=
  let shown := Nat.toDigits 10 power.natAbs
  let fraction := if digits.length ≤ 1 then "" else "." ++ String.ofList (digits.drop 1)
  String.ofList (digits.take 1) ++ fraction ++ "e" ++ (if power < 0 then "-" else "+") ++
    zeros (f.exponentWidth - shown.length) ++ String.ofList shown

/-- The text of a number: the digits of its shortest form, positional where the format says so. -/
def render (f : NumberFormat) : Double → String
  | .undefined => f.undefined
  | .infinite negative => (if negative then "-" else "") ++ f.infinity
  | .finite negative mantissa exponent =>
    let sign := if negative then "-" else ""
    if mantissa = 0 then sign ++ "0" ++ f.wholeMark
    else
      let (number, power) := Shortest.decimal mantissa exponent
      let digits := Nat.toDigits 10 number
      let leading := power + digits.length - 1
      if f.firstPositional ≤ leading ∧ leading ≤ f.lastPositional then
        sign ++ f.positional digits (leading + 1)
      else sign ++ f.scientific digits leading

end NumberFormat

end ClusterConfig
