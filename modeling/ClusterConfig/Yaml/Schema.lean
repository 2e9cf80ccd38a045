import ClusterConfig.Yaml.Fault
import ClusterConfig.Yaml.Node
import ClusterConfig.Yaml.Pattern

/-!
# Schemas

What a scalar without a tag denotes: the first rule decides whose pattern its text has, and a text
that no rule knows denotes itself. Each version of the language has rules of its own.

Main definitions:

- `Yaml.Rule`: texts that denote one kind of value.
- `Yaml.Schema.rules`: the rules of a version.
- `Yaml.Schema.tag`: the tag of a scalar without one.
-/

namespace ClusterConfig.Yaml

open Pattern

/-- Texts that denote one kind of value: those of a pattern that start with one of some
characters. -/
structure Rule where
  tag : Tag
  starts : String
  pattern : Pattern

namespace Schema

/-- A point between a whole part and a fraction, each with underscores. -/
def pointed : Pattern :=
  inOrder [sign, digit, many digitOrBar, charOf ".", many digitOrBar,
    maybe (inOrder [charOf "eE", sign, oneOrMore digit])]

/-- A whole part and an exponent. -/
def raised : Pattern :=
  inOrder [sign, digit, many digitOrBar, charOf "eE", sign, oneOrMore digit]

/-- A fraction; its exponent has a sign. -/
def fraction : Pattern :=
  inOrder [charOf ".", oneOrMore digitOrBar,
    maybe (inOrder [charOf "eE", charOf "-+", oneOrMore digit])]

/-- An infinity. -/
def infinite : Pattern :=
  inOrder [sign, charOf ".", words ["inf", "Inf", "INF"]]

/-- The undefined number. -/
def undefined : Pattern :=
  inOrder [charOf ".", words ["nan", "NaN", "NAN"]]

/-- Parts below sixty after colons. -/
def sixties : Pattern :=
  oneOrMore (inOrder [charOf ":", maybe (charOf "012345"), digit])

/-- A binary number. -/
def binary : Pattern :=
  inOrder [sign, word "0b", oneOrMore (charOf "01_")]

/-- A hexadecimal number. -/
def hexadecimal : Pattern :=
  inOrder [sign, word "0x", oneOrMore (charOf "0123456789abcdefABCDEF_")]

/-- A day. -/
def day : Pattern :=
  inOrder [digits 4, charOf "-", digits 2, charOf "-", digits 2]

/-- A distance from universal time, or its sign. -/
def zone : Pattern :=
  either (charOf "Z") (inOrder [charOf "-+", oneOrTwo, maybe (both (charOf ":") (digits 2))])

/-- A time of day after a day. -/
def moment : Pattern :=
  inOrder [digits 4, charOf "-", oneOrTwo, charOf "-", oneOrTwo,
    either (charOf "Tt") (oneOrMore (charOf " \t")),
    oneOrTwo, charOf ":", digits 2, charOf ":", digits 2, maybe (both (charOf ".") (many digit)),
    maybe (both (many (charOf " \t")) zone)]

/-- The rules that all versions end with. -/
def shared : List Rule :=
  [⟨.merge, "<", word "<<"⟩,
    ⟨.null, "~nN", words ["~", "null", "Null", "NULL", ""]⟩,
    ⟨.timestamp, "0123456789", either day moment⟩,
    ⟨.value, "=", word "="⟩,
    ⟨.other (Tag.space ++ "yaml"), "!&*", charOf "!&*"⟩]

/-- The rules of the current version. -/
def current : List Rule :=
  [⟨.bool, "tTfF", words ["true", "True", "TRUE", "false", "False", "FALSE"]⟩,
    ⟨.float, "-+0123456789.", anyOf [pointed, raised, both sign fraction, infinite, undefined]⟩,
    ⟨.int, "-+0123456789",
      anyOf [binary, inOrder [sign, charOf "0", maybe (charOf "o"), oneOrMore (charOf "01234567_")],
        both sign (oneOrMore digitOrBar), hexadecimal]⟩] ++ shared

/-- The rules of the legacy version. -/
def legacy : List Rule :=
  [⟨.bool, "yYnNtTfFoO",
      words ["y", "Y", "yes", "Yes", "YES", "n", "N", "no", "No", "NO", "true", "True", "TRUE",
        "false", "False", "FALSE", "on", "On", "ON", "off", "Off", "OFF"]⟩,
    ⟨.float, "-+0123456789.",
      anyOf [pointed, raised, fraction,
        inOrder [sign, digit, many digitOrBar, sixties, charOf ".", many digitOrBar],
        infinite, undefined]⟩,
    ⟨.int, "-+0123456789",
      anyOf [binary, inOrder [sign, maybe (charOf "0"), oneOrMore (charOf "01234567_")],
        both sign (either (charOf "0") (both (charOf "123456789") (many digitOrBar))),
        hexadecimal, inOrder [sign, charOf "123456789", many digitOrBar, sixties]]⟩] ++ shared

/-- The rules of a version. -/
def rules (v : Version) : List Rule :=
  if v = .legacy then legacy else current

/-- The text that the rules look at: one line end at its end does not count. -/
def withoutLastBreak (cs : List Char) : List Char :=
  if cs.getLast? = some '\n' then cs.dropLast else cs

/-- Whether a rule knows a text. -/
def knows (cs : List Char) (rule : Rule) : Bool :=
  (match cs with
    | [] => rule.tag = .null
    | c :: _ => rule.starts.toList.contains c) &&
    rule.pattern.accepts (withoutLastBreak cs)

/-- The tag of a scalar without one. -/
def tag (v : Version) (text : String) : Tag :=
  match (rules v).find? (knows text.toList) with
  | some rule => rule.tag
  | none => .str

end Schema

end ClusterConfig.Yaml
