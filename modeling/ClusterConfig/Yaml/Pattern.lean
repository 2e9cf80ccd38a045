/-!
# Patterns

Regular patterns of texts, decided by their derivatives: what a pattern leaves to be matched after a
first character is again a pattern.

Main definitions:

- `Pattern`: the patterns.
- `Pattern.derive`: what is left after a character.
- `Pattern.accepts`: whether a text has a pattern.
-/

namespace ClusterConfig.Yaml

/-- A regular pattern of texts. -/
inductive Pattern where
  /-- No text. -/
  | nothing
  /-- The empty text. -/
  | empty
  /-- One character of a class. -/
  | one (p : Char → Bool)
  | either (a b : Pattern)
  | both (a b : Pattern)
  /-- Any number of texts of a pattern, one after the other. -/
  | many (a : Pattern)

namespace Pattern

/-- Whether the empty text has the pattern. -/
def acceptsEmpty : Pattern → Bool
  | nothing => false
  | empty => true
  | one _ => false
  | either a b => a.acceptsEmpty || b.acceptsEmpty
  | both a b => a.acceptsEmpty && b.acceptsEmpty
  | many _ => true

/-- The texts of either pattern, written without a part that has no text. -/
def join : Pattern → Pattern → Pattern
  | nothing, b => b
  | a, nothing => a
  | a, b => either a b

/-- A text of the first pattern and one of the second, written without needless parts. -/
def chain : Pattern → Pattern → Pattern
  | nothing, _ => nothing
  | _, nothing => nothing
  | empty, b => b
  | a, b => both a b

/-- What is left to be matched after a character. -/
def derive (c : Char) : Pattern → Pattern
  | nothing => nothing
  | empty => nothing
  | one p => if p c then empty else nothing
  | either a b => join (a.derive c) (b.derive c)
  | both a b =>
    if a.acceptsEmpty then join (chain (a.derive c) b) (b.derive c) else chain (a.derive c) b
  | many a => chain (a.derive c) (many a)

/-- Whether a text has the pattern. -/
def accepts (p : Pattern) : List Char → Bool
  | [] => p.acceptsEmpty
  | c :: cs => (p.derive c).accepts cs

/-! ## Building patterns -/

/-- Any of several patterns. -/
def anyOf (ps : List Pattern) : Pattern :=
  ps.foldr either nothing

/-- Several patterns one after the other. -/
def inOrder (ps : List Pattern) : Pattern :=
  ps.foldr both empty

/-- A pattern or the empty text. -/
def maybe (p : Pattern) : Pattern :=
  either p empty

/-- One or more texts of a pattern. -/
def oneOrMore (p : Pattern) : Pattern :=
  both p (many p)

/-- One of the given characters. -/
def charOf (chars : String) : Pattern :=
  one fun c => chars.toList.contains c

/-- The given text. -/
def word (text : String) : Pattern :=
  inOrder (text.toList.map fun c => one (· == c))

/-- One of the given texts. -/
def words (texts : List String) : Pattern :=
  anyOf (texts.map word)

/-- One digit. -/
def digit : Pattern :=
  one Char.isDigit

/-- One digit or underscore. -/
def digitOrBar : Pattern :=
  one fun c => c.isDigit || c == '_'

/-- A number of digits. -/
def digits (n : Nat) : Pattern :=
  inOrder (List.replicate n digit)

/-- One or two digits. -/
def oneOrTwo : Pattern :=
  both digit (maybe digit)

/-- A sign, if there is one. -/
def sign : Pattern :=
  maybe (charOf "-+")

@[simp]
theorem accepts_nil (p : Pattern) : p.accepts [] = p.acceptsEmpty :=
  rfl

@[simp]
theorem accepts_cons (p : Pattern) (c : Char) (cs : List Char) :
    p.accepts (c :: cs) = (p.derive c).accepts cs :=
  rfl

/-- No text has the pattern of no text. -/
@[simp]
theorem not_accepts_nothing (cs : List Char) : nothing.accepts cs = false := by
  induction cs with
  | nil => rfl
  | cons c cs ih => exact ih

end Pattern

end ClusterConfig.Yaml
