/-!
# Reading text from bytes

The content of a text file: strict UTF-8 in which a carriage return, alone or before a line feed,
ends a line just as a line feed does.

Main definitions:

- `unifyNewlines`: writes every line end as a line feed.
- `dropMark`: removes one leading byte order mark.
- `decode?`: the text of a file, `none` if its bytes are not UTF-8.
- `decodeMarked?`: the same for a file that may start with a byte order mark.
-/

namespace ClusterConfig.Text

/-- Writes every line end (line feed, carriage return, or both in that order) as a line feed. -/
def unifyNewlines : List Char → List Char
  | '\r' :: '\n' :: cs => '\n' :: unifyNewlines cs
  | '\r' :: cs => '\n' :: unifyNewlines cs
  | c :: cs => c :: unifyNewlines cs
  | [] => []

/-- The characters without one leading byte order mark. -/
def dropMark : List Char → List Char
  | '\uFEFF' :: cs => cs
  | cs => cs

/-- The text of a file, `none` if its bytes are not UTF-8. -/
def decode? (bytes : ByteArray) : Option String :=
  (String.fromUTF8? bytes).map fun s => String.ofList (unifyNewlines s.toList)

/-- The first bytes of a byte order mark, without the last one. -/
def unfinishedMarks : List (List UInt8) :=
  [[0xEF], [0xEF, 0xBB]]

/-- The text of a file that may start with a byte order mark, which is not part of the text even if
the file ends before the mark does. -/
def decodeMarked? (bytes : ByteArray) : Option String :=
  if unfinishedMarks.contains bytes.data.toList then some ""
  else (String.fromUTF8? bytes).map fun s => String.ofList (unifyNewlines (dropMark s.toList))

end ClusterConfig.Text
