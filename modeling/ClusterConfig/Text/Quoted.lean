import ClusterConfig.Text.Half
import ClusterConfig.Text.Printable

/-!
# Quoted text

How a text is shown inside a larger rendering, where its ends and its invisible characters must be
seen: between quotes, with a backslash form for whatever cannot stand for itself.

Main definitions:

- `quoteFor`: the kind of quote a text is put in.
- `escape`: the form of one character between quotes.
- `quoted`: the quoted text.
-/

namespace ClusterConfig.Text

/-- Single quotes, unless the text holds single quotes and no double quote. -/
def quoteFor (cs : List Char) : Char :=
  if cs.contains '\'' && !cs.contains '"' then '"' else '\''

/-- The last `width` hexadecimal digits of a number, in small letters. -/
def hexDigits : (width : Nat) → Nat → List Char
  | 0, _ => []
  | width + 1, n => hexDigits width (n / 16) ++ [Nat.digitChar (n % 16)]

@[simp]
theorem length_hexDigits (width n : Nat) : (hexDigits width n).length = width := by
  induction width generalizing n with
  | zero => rfl
  | succ width ih => simp [hexDigits, ih]

/-- The form of one character between the given quotes: the quote and the backslash take a
backslash, line feed, return and tab have a letter, halves of pairs and other characters that do not
print are written as hexadecimal code points of two, four or eight digits. -/
def escape (quote c : Char) : List Char :=
  if c == quote || c == '\\' then ['\\', c]
  else if c == '\n' then ['\\', 'n']
  else if c == '\r' then ['\\', 'r']
  else if c == '\t' then ['\\', 't']
  else if isPrintable c then [c]
  else
    let code := (halfCode? c).getD c.toNat
    if code < 0x100 then '\\' :: 'x' :: hexDigits 2 code
    else if code < 0x10000 then '\\' :: 'u' :: hexDigits 4 code
    else '\\' :: 'U' :: hexDigits 8 code

/-- The text between quotes. -/
def quoted (s : String) : String :=
  let quote := quoteFor s.toList
  String.ofList (quote :: s.toList.flatMap (escape quote) ++ [quote])

/-- No escaped character leaves nothing behind. -/
theorem escape_ne_nil (quote c : Char) : escape quote c ≠ [] := by
  unfold escape
  dsimp only
  repeat' split
  all_goals simp

end ClusterConfig.Text
