import ClusterConfig.Calendar
import ClusterConfig.Number.Double

/-!
# Values

What a configuration document holds, and what a caller may give for a field: a value of any type.

Main definitions:

- `Value`: the values.
- `Value.same`: when two values are equal.
- `Value.isTrue`: which values count as true.
- `Value.opened`: a collection that holds itself, one step unfolded.
- `Value.member`: the value under a key of a mapping.
-/

namespace ClusterConfig

/-- A value of any type. A `record` is a mapping that was written as a list of its members. The
undefined number among the floating point numbers is the common one. -/
inductive Value where
  | null
  | bool (b : Bool)
  | int (n : Int)
  | float (x : Double)
  | text (s : String)
  | date (d : Day)
  | moment (m : Moment)
  | bytes (bs : List UInt8)
  | list (items : List Value)
  | tuple (items : List Value)
  | map (members : List (Value × Value))
  | record (members : List (Value × Value))
  | set (items : List Value)
  /-- An undefined number of its own, which its mark tells apart from all others. -/
  | undefined (mark : Nat)
  /-- A collection that holds itself somewhere inside, where its mark stands for it. -/
  | knot (mark : Nat) (body : Value)
  /-- The collection around this place that has the mark. -/
  | again (mark : Nat)
  deriving Inhabited, Repr

namespace Value

/-- Whether the value is the absent one. -/
def isNull : Value → Bool
  | null => true
  | _ => false

@[simp]
theorem isNull_iff {v : Value} : v.isNull = true ↔ v = null := by
  cases v <;> simp [isNull]

theorem isNull_eq_false {v : Value} (h : v ≠ null) : v.isNull = false := by
  simpa [← isNull_iff] using h

/-- Whether a value is the absent one can be decided. -/
instance (v : Value) : Decidable (v = null) :=
  decidable_of_iff (v.isNull = true) isNull_iff

/-- The value itself, or another one if it is null. -/
def orElse (v w : Value) : Value :=
  if v.isNull then w else v

@[simp]
theorem null_orElse (w : Value) : null.orElse w = w :=
  rfl

@[simp]
theorem orElse_null (v : Value) : v.orElse null = v := by
  cases v <;> rfl

theorem orElse_of_ne_null {v : Value} (h : v ≠ null) (w : Value) : v.orElse w = v := by
  cases v <;> simp_all [orElse, isNull]

/-- Nothing is left just where both values are null. -/
@[simp]
theorem orElse_eq_null_iff {v w : Value} : v.orElse w = null ↔ v = null ∧ w = null := by
  cases v <;> simp [orElse, isNull]

theorem orElse_assoc (u v w : Value) : (u.orElse v).orElse w = u.orElse (v.orElse w) := by
  cases u <;> rfl

/-- Which values count as true: all but null, false, the zeros and whatever is empty. -/
def isTrue : Value → Bool
  | null => false
  | bool b => b
  | int n => n != 0
  | float x => !x.isZero
  | text s => s != ""
  | bytes bs => !bs.isEmpty
  | list xs | tuple xs | set xs => !xs.isEmpty
  | map ms | record ms => !ms.isEmpty
  | knot _ v => v.isTrue
  | date _ | moment _ | undefined _ | again _ => true

/-! ## Collections that hold themselves -/

mutual

/-- The value with another one wherever a mark stands for the collection around. -/
def fill (mark : Nat) (w : Value) : Value → Value
  | again m => if m = mark then w else again m
  | knot m v => if m = mark then knot m v else knot m (fill mark w v)
  | list xs => list (fillItems mark w xs)
  | tuple xs => tuple (fillItems mark w xs)
  | set xs => set (fillItems mark w xs)
  | map ms => map (fillMembers mark w ms)
  | record ms => record (fillMembers mark w ms)
  | v => v

/-- The items with another value wherever a mark stands for the collection around. -/
def fillItems (mark : Nat) (w : Value) : List Value → List Value
  | [] => []
  | x :: xs => fill mark w x :: fillItems mark w xs

/-- The members with another value wherever a mark stands for the collection around. -/
def fillMembers (mark : Nat) (w : Value) : List (Value × Value) → List (Value × Value)
  | [] => []
  | (k, v) :: ms => (fill mark w k, fill mark w v) :: fillMembers mark w ms

end

/-- A collection that holds itself with the whole of it in the places of its mark; any other value
is itself. -/
def opened : Value → Value
  | knot mark v => fill mark (knot mark v) v
  | v => v

/-! ## Parts -/

/-- The text, if the value is one. -/
def text? : Value → Option String
  | text s => some s
  | _ => none

/-- A text or, if there is none, null. -/
def ofText? : Option String → Value
  | some s => text s
  | none => null

@[simp]
theorem ofText?_eq_null_iff {o : Option String} : ofText? o = null ↔ o = none := by
  cases o <;> simp [ofText?]

/-- The members of a mapping. -/
def members? (v : Value) : Option (List (Value × Value)) :=
  match v.opened with
  | map ms | record ms => some ms
  | _ => none

/-- The items of a list. -/
def items? (v : Value) : Option (List Value) :=
  match v.opened with
  | list xs => some xs
  | _ => none

/-- The elements that a value can be taken apart into: the characters of a text, the numbers of
bytes, the items of a collection, the keys of a mapping. -/
def elements? (v : Value) : Option (List Value) :=
  match v.opened with
  | text s => some (s.toList.map fun c => text (String.singleton c))
  | bytes bs => some (bs.map fun b => int b.toNat)
  | list xs | tuple xs | set xs => some xs
  | map ms | record ms => some (ms.map (·.1))
  | _ => none

/-! ## Equality -/

/-- A truth value counts as the number one or zero. -/
def ofBool (b : Bool) : Int :=
  if b then 1 else 0

/-- Equality of numbers, whatever their types. -/
def sameNumber : Value → Value → Bool
  | bool a, bool b => a == b
  | bool a, int n | int n, bool a => ofBool a == n
  | int m, int n => m == n
  | float x, float y => x.sameValue y
  | float x, int n | int n, float x => x.equalsInt n
  | float x, bool a | bool a, float x => x.equalsInt (ofBool a)
  | _, _ => false

mutual

/-- Equality of values that stand alone or, by the flag, inside others. -/
def sameIn (inside : Bool) : Value → Value → Bool
  | null, null => true
  | text s, text t => s == t
  | date d, date e => d == e
  | moment m, moment n => m.sameTime n
  | bytes a, bytes b => a == b
  | float .undefined, float .undefined => inside
  | undefined m, undefined n => inside && m == n
  | list xs, list ys => sameItems xs ys
  | tuple xs, tuple ys => sameItems xs ys
  | map ms, map ns | map ms, record ns | record ms, map ns =>
    ms.length == ns.length && coveredMembers ms ns
  | record ms, record ns => sameMembers ms ns
  | set xs, set ys => xs.length == ys.length && coveredItems xs ys
  | knot m v, knot n w => m == n || sameIn false v w
  | knot m _, again n | again m, knot n _ | again m, again n => m == n
  | v, w => sameNumber v w

/-- Equality item by item. -/
def sameItems : List Value → List Value → Bool
  | [], [] => true
  | x :: xs, y :: ys => sameIn true x y && sameItems xs ys
  | _, _ => false

/-- Equality member by member. -/
def sameMembers : List (Value × Value) → List (Value × Value) → Bool
  | [], [] => true
  | (k, v) :: ms, (l, w) :: ns => sameIn true k l && sameIn true v w && sameMembers ms ns
  | _, _ => false

/-- Every item of the first list equals one of the second. -/
def coveredItems : List Value → List Value → Bool
  | [], _ => true
  | x :: xs, ys => ys.any (fun y => sameIn true x y) && coveredItems xs ys

/-- Every member of the first mapping equals one of the second. -/
def coveredMembers : List (Value × Value) → List (Value × Value) → Bool
  | [], _ => true
  | (k, v) :: ms, ns =>
    ns.any (fun member => sameIn true k member.1 && sameIn true v member.2) && coveredMembers ms ns

end

/-- Values are equal if they have the same type and content, numbers if they have the same value.
The order of the members of a mapping or a set does not count, except between two records. A
collection that holds itself equals none that does not. -/
def same (v w : Value) : Bool :=
  sameIn false v w

/-- Equality inside a collection, where an undefined number equals itself. -/
def sameInside (v w : Value) : Bool :=
  sameIn true v w

/-- The value of the first member whose key equals the given one. -/
def lookup (key : Value) (members : List (Value × Value)) : Option Value :=
  (members.find? fun member => sameInside key member.1).map (·.2)

/-- The value under a text key of a mapping, null if the key is absent. -/
def member (members : List (Value × Value)) (key : String) : Value :=
  (lookup (text key) members).getD null

/-- The members with one more: a known key keeps its place and takes the new value. -/
def insert {α : Type} (key : Value) (a : α) : List (Value × α) → List (Value × α)
  | [] => [(key, a)]
  | (k, b) :: ms => if sameInside key k then (k, a) :: ms else (k, b) :: insert key a ms

@[simp]
theorem members?_map (ms : List (Value × Value)) : (map ms).members? = some ms :=
  rfl

@[simp]
theorem members?_record (ms : List (Value × Value)) : (record ms).members? = some ms :=
  rfl

@[simp]
theorem items?_list (xs : List Value) : (list xs).items? = some xs :=
  rfl

@[simp]
theorem elements?_list (xs : List Value) : (list xs).elements? = some xs :=
  rfl

@[simp]
theorem elements?_text (s : String) :
    (text s).elements? = some (s.toList.map fun c => text (String.singleton c)) :=
  rfl

@[simp]
theorem member_nil (key : String) : member [] key = null :=
  rfl

@[simp]
theorem same_text (s t : String) : same (text s) (text t) = (s == t) := by
  simp [same, sameIn]

end Value

end ClusterConfig
