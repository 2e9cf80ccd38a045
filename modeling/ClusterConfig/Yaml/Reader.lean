import ClusterConfig.Yaml.Finished
import ClusterConfig.Yaml.Grammar
import ClusterConfig.Yaml.Meaning

/-!
# Readers of documents

A reader turns one text after the other into values. From one text to the next it keeps the version
that a directive put in force and, after a document with a fault, the work on it that was put off.

Main definitions:

- `Yaml.firstFault`: what happens first to works that go on together.
- `Yaml.Reader`: what a reader keeps.
- `Yaml.Reader.load`: the value of a text, and the reader after it.
-/

namespace ClusterConfig.Yaml

/-- Whether a document may have a character. -/
def isAllowed (c : Char) : Bool :=
  let n := c.toNat
  n == 9 || n == 10 || n == 13 || (0x20 ≤ n && n ≤ 0x7E) || n == 0x85 || (0xA0 ≤ n && n ≤ 0xD7FF) ||
    (0xE000 ≤ n && n ≤ 0xFFFD) || 0x10000 ≤ n

/-! ## Works that go on together -/

/-- The fault that comes first when several works go on together, a round of each in turn. -/
def firstFault (v : Version) : List Work → Option LateFault
  | [] => none
  | w :: ws =>
    match w.finish v, firstFault v ws with
    | .ok _, other => other
    | .error failed, some other => some (failed.earlier other)
    | .error failed, none => some failed

/-- What becomes of the last work when others go on before it. -/
def finishAfter (v : Version) (others : List Work) (w : Work) : Except LateFault Work :=
  match firstFault v others, w.finish v with
  | none, outcome => outcome
  | some failed, .ok _ => .error failed
  | some failed, .error other => .error (failed.earlier other)

/-- The works up to the one that fails in a round. Those after it lose what they had put off. -/
def brokenOff (v : Version) (rounds : Nat) : List Work → List Work
  | [] => []
  | w :: ws =>
    match w.finish v with
    | .error ⟨failed, _⟩ =>
      if failed = rounds then [w.after v (rounds + 1)]
      else w.after v (rounds + 1) :: brokenOff v rounds ws
    | .ok _ => w.after v (rounds + 1) :: brokenOff v rounds ws

/-! ## Readers -/

/-- What a reader keeps from one text to the next. -/
structure Reader where
  /-- The version in force. -/
  edition : Edition
  /-- The works on documents that a fault broke off while something was put off. -/
  left : List Work
  /-- Whether nothing more is put off. -/
  eager : Bool

namespace Reader

/-- A reader that has read nothing. -/
def fresh : Reader where
  edition := .current
  left := []
  eager := false

/-- The reader after a fault broke works off, the last of them by itself. -/
def keep (r : Reader) (works : List Work) : Reader :=
  { r with
    left := works.filter fun w => !w.isIdle
    eager := (works.getLast?.map Work.eager).getD r.eager }

/-- What is left of earlier documents, as it goes on with the next one. -/
def resumed (r : Reader) : List Work :=
  r.left.map fun w => w.resume r.eager

/-- The value of a node of a graph, and the reader after it. What is left of earlier documents goes
on together with the new one, and has to be finished with it. -/
def make (r : Reader) (graph : Graph) (n : NodeId) : Except Fault Value × Reader :=
  let v := r.edition.version
  match (Yaml.make v (graph.size + 2) false n).run (.start graph r.eager) with
  | (.error fault, w) => (.error fault, r.keep (r.resumed ++ [w]))
  | (.ok part, w) =>
    match finishAfter v r.resumed w with
    | .ok w => (.ok (w.value part), { r with left := [], eager := false })
    | .error failed => (.error failed.fault, r.keep (brokenOff v failed.rounds (r.resumed ++ [w])))

/-- The value of a text, null if it has no document, and the reader after it. -/
def load (r : Reader) (text : String) : Except Fault Value × Reader :=
  if !text.toList.all isAllowed then (.error .unprintable, r)
  else
    match (Builder.start r.edition text).document with
    | .error halt => (.error halt.fault, { r with edition := halt.edition })
    | .ok (found, b) =>
      let r := { r with edition := b.edition }
      match found with
      | none => (.ok .null, r)
      | some n => r.make b.graph n

/-- A text with a character that no document may have leaves the reader as it was. -/
theorem load_of_not_allowed {r : Reader} {text : String}
    (h : text.toList.all isAllowed = false) : r.load text = (.error .unprintable, r) := by
  simp [load, h]

end Reader

end ClusterConfig.Yaml
