import ClusterConfig.Number.Integer

/-!
# Double precision numbers

Binary floating point numbers of 53 significant bits as exact integers: a sign, a mantissa and a
power of two. Every operation computes the exact rational result and rounds it once, to the
nearest representable number, a tie going to the even mantissa.

Main definitions:

- `Double`: the numbers, with the infinities and the undefined number.
- `Double.ofRatio`: the nearest number to a quotient of naturals.
- `Double.read?`: the value of a written decimal number.
- `Double.value?`: the exact rational value of a finite number.
-/

namespace ClusterConfig

/-- A double precision number. A finite one is `mantissa * 2 ^ exponent`, up to sign, with the
mantissa below `2 ^ 53`, at least `2 ^ 52` unless the exponent is the least one, `-1074`. -/
inductive Double where
  | undefined
  | infinite (negative : Bool)
  | finite (negative : Bool) (mantissa : Nat) (exponent : Int)
  deriving DecidableEq, Repr, Inhabited

namespace Double

/-- The least exponent of a finite number. -/
def leastExponent : Int := -1074

/-- The greatest exponent of a finite number. -/
def greatestExponent : Int := 971

/-- The mantissas are below this number, `2 ^ 53`. -/
def mantissaLimit : Nat := 0x20000000000000

/-- A mantissa below this number, `2 ^ 52`, has the least exponent. -/
def normalMantissa : Nat := 0x10000000000000

/-- Zero, with a sign. -/
def signedZero (negative : Bool) : Double :=
  .finite negative 0 leastExponent

/-- The quotient of two naturals rounded to the nearest natural, a tie going to the even one. -/
def roundQuotient (num den : Nat) : Nat :=
  let q := num / den
  let r := num % den
  if den < 2 * r || (2 * r == den && q % 2 == 1) then q + 1 else q

/-- The quotient `num / den` divided by `2 ^ e`, as a pair of naturals. -/
def scaleDown (num den : Nat) (e : Int) : Nat × Nat :=
  if e < 0 then (num * Nat.pow 2 (-e).toNat, den) else (num, den * Nat.pow 2 e.toNat)

/-- The number with the given mantissa and exponent, infinite if the exponent is too great. -/
def pack (negative : Bool) (mantissa : Nat) (exponent : Int) : Double :=
  let (mantissa, exponent) :=
    if mantissa = mantissaLimit then (normalMantissa, exponent + 1) else (mantissa, exponent)
  if greatestExponent < exponent then .infinite negative
  else .finite negative mantissa exponent

/-- The number nearest to `num / den`, with a sign. -/
def ofRatio (negative : Bool) (num den : Nat) : Double :=
  if num = 0 then signedZero negative
  else
    let guess : Int := (num.log2 : Int) - (den.log2 : Int) - 52
    let scaled := scaleDown num den guess
    let exponent := if scaled.1 / scaled.2 < normalMantissa then guess - 1 else guess
    let exponent := if exponent < leastExponent then leastExponent else exponent
    let scaled := scaleDown num den exponent
    pack negative (roundQuotient scaled.1 scaled.2) exponent

/-- The exact value `num / den` of a finite number, without its sign. -/
def magnitude (mantissa : Nat) (exponent : Int) : Nat × Nat :=
  if exponent < 0 then (mantissa, Nat.pow 2 (-exponent).toNat)
  else (mantissa * Nat.pow 2 exponent.toNat, 1)

/-- The exact value of a finite number, as a numerator and a positive denominator. -/
def value? : Double → Option (Int × Nat)
  | .finite negative mantissa exponent =>
    let (num, den) := magnitude mantissa exponent
    some (if negative then -(num : Int) else (num : Int), den)
  | _ => none

/-- The number with the other sign. -/
def negate : Double → Double
  | .undefined => .undefined
  | .infinite negative => .infinite (!negative)
  | .finite negative mantissa exponent => .finite (!negative) mantissa exponent

/-- The number nearest to the quotient of an integer and a natural; zero has no minus sign. -/
def ofFraction (num : Int) (den : Nat) : Double :=
  ofRatio (num < 0) num.natAbs den

/-- The sum, rounded. -/
def add : Double → Double → Double
  | .finite true 0 e, .finite true 0 _ => .finite true 0 e
  | .finite s m e, .finite s' m' e' =>
    match value? (.finite s m e), value? (.finite s' m' e') with
    | some (n, d), some (n', d') => ofFraction (n * d' + n' * d) (d * d')
    | _, _ => .undefined
  | .undefined, _ => .undefined
  | _, .undefined => .undefined
  | .infinite s, .infinite s' => if s = s' then .infinite s else .undefined
  | .infinite s, _ => .infinite s
  | _, .infinite s => .infinite s

/-- The product, rounded. -/
def mul : Double → Double → Double
  | .finite s m e, .finite s' m' e' =>
    let (num, den) := magnitude m e
    let (num', den') := magnitude m' e'
    ofRatio (s != s') (num * num') (den * den')
  | .undefined, _ => .undefined
  | _, .undefined => .undefined
  | .infinite s, .infinite s' => .infinite (s != s')
  | .infinite s, .finite s' m _ => if m = 0 then .undefined else .infinite (s != s')
  | .finite s m _, .infinite s' => if m = 0 then .undefined else .infinite (s != s')

/-- Numbers compare by value: zero has one value, and the undefined number equals nothing. -/
def sameValue (x y : Double) : Bool :=
  match x, y with
  | .infinite s, .infinite s' => s == s'
  | x, y =>
    match value? x, value? y with
    | some (n, d), some (n', d') => n * d' == n' * d
    | _, _ => false

/-- Whether the number equals an integer. -/
def equalsInt (x : Double) (n : Int) : Bool :=
  match value? x with
  | some (num, den) => num == n * den
  | none => false

/-- Whether the number is a zero of either sign. -/
def isZero : Double → Bool
  | .finite _ 0 _ => true
  | _ => false

/-! ## Reading -/

/-- The number nearest to `digits * 10 ^ power`, with a sign. Powers that are out of reach of every
finite number are settled without computing them. -/
def ofDecimal (negative : Bool) (digits : Nat) (power : Int) : Double :=
  if digits = 0 then signedZero negative
  else
    let size : Int := (Nat.toDigits 10 digits).length + power
    if 400 < size then .infinite negative
    else if size < -400 then signedZero negative
    else if power < 0 then ofRatio negative digits (Nat.pow 10 (-power).toNat)
    else ofRatio negative (digits * Nat.pow 10 power.toNat) 1

/-- A run of decimal digits with single underscores between them, possibly empty, and what follows
it: the value, the number of digits, the rest. -/
def takeDigits : Nat → Nat → List Char → Nat × Nat × List Char
  | value, count, '_' :: c :: cs =>
    match Text.digit? c with
    | some d => if count = 0 then (value, count, '_' :: c :: cs)
        else takeDigits (value * 10 + d) (count + 1) cs
    | none => (value, count, '_' :: c :: cs)
  | value, count, c :: cs =>
    match Text.digit? c with
    | some d => takeDigits (value * 10 + d) (count + 1) cs
    | none => (value, count, c :: cs)
  | value, count, [] => (value, count, [])

/-- An exponent part: its value, zero if there is none; nothing may follow it. -/
def exponentPart? : List Char → Option Int
  | [] => some 0
  | c :: cs =>
    if c = 'e' ∨ c = 'E' then
      let (negative, digits) := Integer.takeSign cs
      match takeDigits 0 0 digits with
      | (_, 0, _) => none
      | (value, _, []) => some (if negative then -(value : Int) else value)
      | _ => none
    else none

/-- A number written with digits: a whole part, a fraction and an exponent, of which one digit
before or after the point is required. -/
def readDigits? (negative : Bool) (cs : List Char) : Option Double :=
  let (whole, wholeCount, rest) := takeDigits 0 0 cs
  match rest with
  | '.' :: rest =>
    let (fraction, fractionCount, rest) := takeDigits 0 0 rest
    if wholeCount + fractionCount = 0 then none
    else
      (exponentPart? rest).map fun power =>
        ofDecimal negative (whole * Nat.pow 10 fractionCount + fraction) (power - fractionCount)
  | rest =>
    if wholeCount = 0 then none
    else (exponentPart? rest).map fun power => ofDecimal negative whole power

/-- The value of a written number: digits, an infinity or the undefined number, with an optional
sign, letters in either case. -/
def read? (cs : List Char) : Option Double :=
  let (negative, body) := Integer.takeSign (Integer.unpad cs)
  let word := String.ofList (body.map Char.toLower)
  if word == "inf" || word == "infinity" then some (.infinite negative)
  else if word == "nan" then some .undefined
  else readDigits? negative body

@[simp]
theorem negate_negate (x : Double) : x.negate.negate = x := by
  cases x <;> simp [negate]

/-- The undefined number equals nothing, not even itself. -/
@[simp]
theorem sameValue_undefined (x : Double) : sameValue .undefined x = false := by
  cases x <;> rfl

end Double

end ClusterConfig
