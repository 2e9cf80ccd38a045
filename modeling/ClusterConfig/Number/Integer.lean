import ClusterConfig.Text.Blank
import ClusterConfig.Text.Digit

/-!
# Reading whole numbers

The written form of a whole number: an optional sign and digits of any script, with single
underscores allowed between digits, in the base that the reader asks for.

Main definitions:

- `digitIn?`: the value of a digit in a base.
- `digits?`: the value of a run of digits with single underscores between them.
- `readIn?`: the value of a signed number in a base.
- `read?`: the value of a signed decimal number.
- `readWithin?`: the same for a number that is not too long.
-/

namespace ClusterConfig.Integer

open ClusterConfig.Text

/-- The value of a digit in a base; letters count on from ten. -/
def digitIn? (base : Nat) (c : Char) : Option Nat :=
  let value : Option Nat :=
    if 'a' ≤ c ∧ c ≤ 'z' then some (c.toNat - 'a'.toNat + 10)
    else if 'A' ≤ c ∧ c ≤ 'Z' then some (c.toNat - 'A'.toNat + 10)
    else digit? c
  value.filter (· < base)

/-- Continues a run of digits whose value so far is `value`; `afterDigit` says whether the last
character was a digit, so that an underscore may follow or the run may end. -/
def digitsFrom? (base value : Nat) (afterDigit : Bool) : List Char → Option Nat
  | [] => if afterDigit then some value else none
  | c :: cs =>
    if c = '_' then
      if afterDigit then digitsFrom? base value false cs else none
    else
      match digitIn? base c with
      | some d => digitsFrom? base (value * base + d) true cs
      | none => none

/-- The value of a run of digits with single underscores between them. -/
def digits? (base : Nat) (cs : List Char) : Option Nat :=
  digitsFrom? base 0 false cs

/-- Splits off a sign; the flag says whether it is a minus. -/
def takeSign : List Char → Bool × List Char
  | '-' :: cs => (true, cs)
  | '+' :: cs => (false, cs)
  | cs => (false, cs)

/-- The letter that announces a base after a zero. -/
def baseLetter? (base : Nat) : Option Char :=
  if base = 16 then some 'x' else if base = 8 then some 'o' else if base = 2 then some 'b' else none

/-- Removes the announcement of the base (such as `0x`) and one underscore after it. -/
def dropAnnouncement (base : Nat) : List Char → List Char
  | '0' :: c :: cs =>
    if baseLetter? base == some c.toLower then
      match cs with
      | '_' :: rest => rest
      | cs => cs
    else '0' :: c :: cs
  | cs => cs

/-- The blanks that may surround a number: all but the four information separators. -/
def isPadding (c : Char) : Bool :=
  isBlank c && !(28 ≤ c.toNat && c.toNat ≤ 31)

/-- The characters of a number without the blanks around it. -/
def unpad (cs : List Char) : List Char :=
  ((cs.dropWhile isPadding).reverse.dropWhile isPadding).reverse

/-- The value of a signed number in a base. -/
def readIn? (base : Nat) (cs : List Char) : Option Int :=
  let (negative, digits) := takeSign (unpad cs)
  (digits? base (dropAnnouncement base digits)).map fun (n : Nat) =>
    if negative then -(n : Int) else n

/-- The value of a signed decimal number. -/
def read? (cs : List Char) : Option Int :=
  readIn? 10 cs

/-- How many digits a decimal number usually may have. -/
def digitLimit : Nat := 4300

/-- How many digits a number has; zeros in front count, underscores do not. -/
def countDigits (cs : List Char) : Nat :=
  cs.countP fun c => (digit? c).isSome

/-- The value of a signed decimal number that has no more digits than the limit, if there is one. -/
def readWithin? (limit : Option Nat) (cs : List Char) : Option Int :=
  if limit.any (· < countDigits cs) then none else read? cs

/-- Without a limit every number is read. -/
@[simp]
theorem readWithin?_none (cs : List Char) : readWithin? none cs = read? cs := by
  simp [readWithin?]

@[simp]
theorem digits?_nil (base : Nat) : digits? base [] = none :=
  rfl

/-- Base ten has no announcement. -/
@[simp]
theorem dropAnnouncement_ten (cs : List Char) : dropAnnouncement 10 cs = cs := by
  unfold dropAnnouncement
  split <;> simp [baseLetter?]

end ClusterConfig.Integer
