import ClusterConfig.Value.Text
import ClusterConfig.Yaml.Schema

/-!
# Values of scalars

What the text of a scalar denotes under each of the standard tags, and how it can fail to denote
anything.

Main definitions:

- `Yaml.Scalar.int?`, `Yaml.Scalar.float?`: numbers.
- `Yaml.Scalar.time?`: days and moments.
- `Yaml.Scalar.bytes?`: bytes.
- `Yaml.Scalar.value?`: the value of a text under a tag.
-/

namespace ClusterConfig.Yaml.Scalar

/-! ## Numbers -/

/-- The characters of a number without the underscores, and its sign. -/
def unsigned? (cs : List Char) : Except Fault (Bool × List Char) :=
  match cs.filter (· ≠ '_') with
  | [] => .error .emptyNumber
  | cs => .ok (Integer.takeSign cs)

/-- A value or the fault of a number without one. -/
def orBadNumber {α : Type} : Option α → Except Fault α
  | some a => .ok a
  | none => .error .badNumber

/-- The value of parts between colons, each counting sixty times the next. -/
def sixties (parts : List Int) : Int :=
  parts.foldl (fun n part => n * 60 + part) 0

/-- The decimal integer that a text denotes; it must not have too many digits. -/
def decimal? (cs : List Char) : Option Int :=
  Integer.readWithin? (some Integer.digitLimit) cs

/-- The integer that a text denotes. By the rules of the legacy version a zero in front announces
base eight, and colons separate parts below sixty. -/
def int? (v : Version) (text : String) : Except Fault Int := do
  let (negative, cs) ← unsigned? text.toList
  let n ←
    match cs with
    | '0' :: 'b' :: cs => orBadNumber (Integer.readIn? 2 cs)
    | '0' :: 'x' :: cs => orBadNumber (Integer.readIn? 16 cs)
    | '0' :: 'o' :: cs => orBadNumber (Integer.readIn? 8 cs)
    | cs =>
      if v ≠ .legacy then orBadNumber (decimal? cs)
      else
        match cs with
        | [] => .error .emptyNumber
        | '0' :: _ => orBadNumber (Integer.readIn? 8 cs)
        | cs =>
          if cs.contains ':' then
            orBadNumber (((cs.splitOn ':').mapM decimal?).map sixties)
          else orBadNumber (decimal? cs)
  return if negative then -n else n

/-- The value of parts between colons, the last first, the first of them counting `unit` times. -/
def floatSixties : (unit : Nat) → Double → List Double → Except Fault Double
  | _, total, [] => .ok total
  | unit, total, part :: parts =>
    match Double.ofFraction unit 1 with
    | .infinite _ => .error .hugeUnit
    | factor => floatSixties (unit * 60) (total.add (part.mul factor)) parts

/-- Whether a text is how the undefined number is written, not just a text that denotes none. -/
def isUndefined (cs : List Char) : Bool :=
  String.ofList (cs.map Char.toLower) == ".nan"

/-- The floating point number that a text denotes. Outside of the current version colons separate
parts below sixty. An undefined number is the common one only if it is written as such. -/
def float? (v : Version) (mark : Nat) (text : String) : Except Fault Value := do
  let (negative, cs) ← unsigned? text.toList
  if isUndefined cs then return .float .undefined
  let x ←
    if cs.map Char.toLower = ".inf".toList then pure (Double.infinite false)
    else if v ≠ .current ∧ cs.contains ':' then do
      let parts ← orBadNumber ((cs.splitOn ':').mapM Double.read?)
      floatSixties 1 (Double.signedZero false) parts.reverse
    else orBadNumber (Double.read? cs)
  match x with
  | .undefined => return .undefined mark
  | x => return .float (if negative then x.negate else x)

/-! ## Truth values -/

/-- The truth value that a text denotes. -/
def flag? (text : String) : Except Fault Bool :=
  let word := String.ofList (text.toList.map Char.toLower)
  if ["yes", "y", "true", "on"].contains word then .ok true
  else if ["no", "n", "false", "off"].contains word then .ok false
  else .error .badFlag

/-! ## Days and moments -/

/-- The form of a day or a moment. -/
def timePattern : Pattern :=
  open Pattern in
  inOrder [digits 4, charOf "-", oneOrTwo, charOf "-", oneOrTwo,
    maybe (inOrder [either (charOf "Tt") (oneOrMore (charOf " \t")),
      oneOrTwo, charOf ":", digits 2, charOf ":", digits 2,
      maybe (both (charOf ".") (many digit)),
      maybe (both (many (charOf " \t")) Schema.zone)])]

/-- The number at the start of the characters, and the characters after the one that follows it. -/
def takeNumber (cs : List Char) : Nat × List Char :=
  let digits := cs.takeWhile Char.isDigit
  (digits.foldl (fun n d => n * 10 + (d.toNat - '0'.toNat)) 0, (cs.dropWhile Char.isDigit).drop 1)

/-- The zone that the characters after a time denote; it is less than a day away. -/
def zone? (cs : List Char) : Except Fault (Option Zone) :=
  match cs with
  | [] => .ok none
  | 'Z' :: _ => .ok (some ⟨0, "Z"⟩)
  | sign :: rest =>
    let (hours, rest) := takeNumber rest
    let (minutes, _) := takeNumber rest
    let seconds : Int := (hours * 60 + minutes) * 60
    if 86400 ≤ seconds then .error .badDate
    else .ok (some ⟨if sign = '-' then -seconds else seconds, String.ofList cs⟩)

/-- The microseconds that the digits of a fraction denote: six digits count, and the next one rounds
them. -/
def micros (digits : List Char) : Nat :=
  let six := (takeNumber ((digits ++ List.replicate 6 '0').take 6)).1
  match digits.drop 6 with
  | next :: _ => if '4' < next then six + 1 else six
  | [] => six

/-- The moment on a day that the characters after the day denote. -/
def moment? (day : Day) (cs : List Char) : Except Fault Moment := do
  let (hour, cs) := takeNumber (cs.dropWhile fun c => !c.isDigit)
  let (minute, cs) := takeNumber cs
  let seconds := cs.takeWhile Char.isDigit
  let cs := cs.dropWhile Char.isDigit
  let (fraction, cs) : List Char × List Char :=
    match cs with
    | '.' :: cs => (cs.takeWhile Char.isDigit, cs.dropWhile Char.isDigit)
    | cs => ([], cs)
  let zone ← zone? (cs.dropWhile fun c => c == ' ' || c == '\t')
  let micro := micros fraction
  let whole := if 1000000 ≤ micro then 0 else micro
  match Moment.ofParts? day hour minute (takeNumber seconds).1 whole zone with
  | none => throw .badDate
  | some m =>
    if micro < 1000000 then return m
    else
      match m.nextSecond? with
      | some m => return m
      | none => throw .lateDate

/-- The day or moment that a text denotes. -/
def time? (text : String) : Except Fault Value := do
  let cs := Schema.withoutLastBreak text.toList
  if !timePattern.accepts cs then throw .badTime
  let (year, cs) := takeNumber cs
  let (month, cs) := takeNumber cs
  let (dayNumber, _) := takeNumber cs
  let rest := cs.dropWhile Char.isDigit
  match Day.ofParts? year month dayNumber with
  | none => throw .badDate
  | some day => if rest.isEmpty then return .date day else return .moment (← moment? day rest)

/-! ## Bytes -/

/-- The value of a character that stands for six bits. -/
def sixBits? (c : Char) : Option Nat :=
  if 'A' ≤ c ∧ c ≤ 'Z' then some (c.toNat - 'A'.toNat)
  else if 'a' ≤ c ∧ c ≤ 'z' then some (c.toNat - 'a'.toNat + 26)
  else if '0' ≤ c ∧ c ≤ '9' then some (c.toNat - '0'.toNat + 52)
  else if c = '+' then some 62
  else if c = '/' then some 63
  else none

/-- The bytes that characters of six bits each denote. Other characters do not count; padding ends
the bytes once it completes a group of four. `place` is the place in the group, `pads` the number of
padding characters since the last other one, `left` the bits that are left over. -/
def decodeBits : (place pads left : Nat) → List Char → Option (List UInt8)
  | place, _, _, [] => if place = 0 then some [] else none
  | place, pads, left, c :: cs =>
    if c = '=' then
      if 2 ≤ place then
        if 4 ≤ place + (pads + 1) then some [] else decodeBits place (pads + 1) left cs
      else decodeBits place pads left cs
    else
      match sixBits? c with
      | none => decodeBits place pads left cs
      | some bits =>
        match place with
        | 0 => decodeBits 1 0 bits cs
        | 1 => (decodeBits 2 0 (bits % 16) cs).map (UInt8.ofNat (left * 4 + bits / 16) :: ·)
        | 2 => (decodeBits 3 0 (bits % 4) cs).map (UInt8.ofNat (left * 16 + bits / 4) :: ·)
        | _ => (decodeBits 0 0 0 cs).map (UInt8.ofNat (left * 64 + bits) :: ·)

/-- The bytes that a text denotes. -/
def bytes? (text : String) : Except Fault (List UInt8) :=
  if text.toList.all fun c => c.toNat < 128 then
    match decodeBits 0 0 0 text.toList with
    | some bytes => .ok bytes
    | none => .error .badBytes
  else .error .badBytes

/-! ## All tags -/

/-- The value of a text under a tag for scalars. An undefined number that is not the common one gets
the mark. -/
def value? (v : Version) (tag : Tag) (mark : Nat) (text : String) : Except Fault Value :=
  match tag with
  | .null => .ok .null
  | .bool => (flag? text).map .bool
  | .int => (int? v text).map .int
  | .float => float? v mark text
  | .binary => (bytes? text).map .bytes
  | .timestamp => time? text
  | .str => .ok (.text text)
  | .seq | .map | .set | .omap | .pairs => .error .wrongKind
  | .merge | .value | .other _ => .error .unknownTag

/-- A text without a tag never fails. -/
@[simp]
theorem value?_str (v : Version) (mark : Nat) (text : String) :
    value? v .str mark text = .ok (.text text) :=
  rfl

end ClusterConfig.Yaml.Scalar
