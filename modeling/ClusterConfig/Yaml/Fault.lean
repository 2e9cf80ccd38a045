/-!
# Faults of YAML documents

Why a text gives no document. Most faults are faults of the document itself; a few belong to a
single part of it: a scalar that has the form of a number, a day or a truth value and no such value,
a key that cannot be one, a code without a character, a version that nobody knows.

Main definitions:

- `Yaml.Version`: versions of the language.
- `Yaml.Edition`: the versions that are known.
- `Yaml.Fault`: the faults.
- `Yaml.Fault.isOfDocument`: whether a fault makes the document invalid as a whole.
-/

namespace ClusterConfig.Yaml

/-- A version of the language. -/
structure Version where
  major : Nat
  minor : Nat
  deriving DecidableEq, Repr

namespace Version

/-- The version of documents that name none. -/
def current : Version := ⟨1, 2⟩

/-- The version before the current one. -/
def legacy : Version := ⟨1, 1⟩

/-- Whether a version comes after the legacy one. -/
def isModern (v : Version) : Bool :=
  1 < v.major || (v.major == 1 && 1 < v.minor)

end Version

/-- A version that is known. -/
inductive Edition where
  | current
  | legacy
  deriving DecidableEq, Repr

namespace Edition

/-- The version itself. -/
def version : Edition → Version
  | current => .current
  | legacy => .legacy

/-- The edition that a version is, if it is known. -/
def ofVersion? (v : Version) : Option Edition :=
  if v = .current then some current else if v = .legacy then some legacy else none

end Edition

/-- Why a text gives no document. -/
inductive Fault where
  /-- The text has a character that no document may have. -/
  | unprintable
  /-- Characters that form no token. -/
  | badToken
  /-- Tokens that form no document. -/
  | badStructure
  /-- An alias that names no node. -/
  | unknownAlias
  /-- A second document. -/
  | secondDocument
  /-- A tag that cannot stand on this kind of node. -/
  | wrongKind
  /-- A tag without a meaning. -/
  | unknownTag
  /-- A merge of something that is no mapping, or a second merge. -/
  | badMerge
  /-- Two members of a mapping with one key. -/
  | duplicateKey
  /-- A key that cannot be one. -/
  | badKey
  /-- Bytes that are not written as bytes. -/
  | badBytes
  /-- A time that is not written as a time. -/
  | badTime
  /-- A number without a value. -/
  | badNumber
  /-- A number without a single character besides its sign. -/
  | emptyNumber
  /-- A day, a time of day or a zone that does not exist. -/
  | badDate
  /-- A day after the last one. -/
  | lateDate
  /-- A truth value that is neither true nor false. -/
  | badFlag
  /-- A decimal number with more digits than are read. -/
  | longNumber
  /-- A number with so many parts between colons that the first of them counts beyond all bounds. -/
  | hugeUnit
  /-- A document of a version that is neither the current nor the legacy one. -/
  | unknownVersion
  /-- A code in a tag that is the code of no character. -/
  | badTagCode
  /-- Default values that lead back to where they started. -/
  | endless
  /-- A collection inside a key. -/
  | collectionInKey
  /-- Two members of a record with one key. -/
  | repeatedMember
  /-- The code of a character beyond the last one. -/
  | badCode
  /-- The code of a character beyond all bounds. -/
  | hugeCode
  deriving DecidableEq, Repr

namespace Fault

/-- Whether a fault makes the document invalid as a whole. -/
def isOfDocument : Fault → Bool
  | badNumber | emptyNumber | badDate | lateDate | badFlag | longNumber | hugeUnit
  | unknownVersion | badTagCode | endless | collectionInKey | repeatedMember | badCode
  | hugeCode => false
  | _ => true

end Fault

end ClusterConfig.Yaml
