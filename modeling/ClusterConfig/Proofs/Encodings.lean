import ClusterConfig.Text.Decode

/-!
# Texts as bytes

A text can be written to a file in several ways: its line ends can have three forms, and a byte
order mark can stand in front. What is read from the file is the text again, whichever way it was
written. Only where a mark is not expected it counts as a part of the text.

Main definitions:

- `Text.LineEnd`: the forms of a line end.
- `Text.encoded`: the bytes of a text, with a form of line ends, with or without a mark.
- `Text.IsPlain`: texts that do not look as if they were written in another way.

Main results:

- Theorem `decode?_eq_some_iff`: which bytes are read as a text.
- Theorem `decode?_encoded`: reading without an expected mark.
- Theorem `decodeMarked?_encoded`: reading with one.
- Theorem `decodeMarked?_toUTF8`: reading a plain text from its own bytes.
-/

namespace ClusterConfig.Text

/-! ## Bytes of a text -/

/-- The bytes that are read as a text are those of the text. -/
theorem fromUTF8?_eq_some_iff {bytes : ByteArray} {s : String} :
    String.fromUTF8? bytes = some s ↔ bytes = s.toUTF8 := by
  constructor
  · intro h
    unfold String.fromUTF8? at h
    split at h
    · rw [← Option.some.inj h]
      rfl
    · cases h
  · rintro rfl
    exact dif_pos s.isValidUTF8

/-- A file is read as a text with all line ends written alike. -/
theorem decode?_eq_some_iff {bytes : ByteArray} {text : String} :
    decode? bytes = some text ↔
      ∃ s : String, bytes = s.toUTF8 ∧ String.ofList (unifyNewlines s.toList) = text := by
  rw [decode?, Option.map_eq_some_iff]
  simp only [fromUTF8?_eq_some_iff]

/-- A file is not read as a text just where its bytes are not those of any. -/
theorem decode?_eq_none_iff {bytes : ByteArray} :
    decode? bytes = none ↔ ∀ s : String, s.toUTF8 ≠ bytes := by
  rw [decode?, Option.map_eq_none_iff, Option.eq_none_iff_forall_ne_some]
  refine forall_congr' fun s => not_congr ?_
  rw [fromUTF8?_eq_some_iff]
  exact eq_comm

/-- The bytes of a text are more than the start of a byte order mark. -/
theorem not_unfinishedMarks_toUTF8 (s : String) :
    unfinishedMarks.contains s.toUTF8.data.toList = false := by
  have hread : String.fromUTF8? s.toUTF8 = some s := fromUTF8?_eq_some_iff.mpr rfl
  have hstarts : ∀ start ∈ unfinishedMarks, String.fromUTF8? ⟨start.toArray⟩ = none := by
    decide
  rw [Bool.eq_false_iff]
  intro hmem
  have hnone := hstarts _ (List.contains_iff_mem.mp hmem)
  rw [Array.toArray_toList, hread] at hnone
  cases hnone

/-! ## Ways to write a text -/

/-- The forms of a line end. -/
inductive LineEnd where
  | lineFeed
  /-- A carriage return and a line feed. -/
  | both
  | carriageReturn
  deriving DecidableEq, Repr

/-- The characters of a line end. -/
def LineEnd.chars : LineEnd → List Char
  | lineFeed => ['\n']
  | both => ['\r', '\n']
  | carriageReturn => ['\r']

/-- Characters with every line feed written as a line end of one form. -/
def written (lineEnd : LineEnd) (cs : List Char) : List Char :=
  cs.flatMap fun c => if c = '\n' then lineEnd.chars else [c]

/-- The byte order mark. -/
def mark : Char := '\uFEFF'

/-- Characters with a byte order mark in front of them, if it is wanted. -/
def withMark (marked : Bool) (cs : List Char) : List Char :=
  if marked then mark :: cs else cs

/-- The bytes of a text that is written with line ends of one form, with or without a byte order
mark. -/
def encoded (marked : Bool) (lineEnd : LineEnd) (text : String) : ByteArray :=
  (String.ofList (withMark marked (written lineEnd text.toList))).toUTF8

/-- A text is plain if it has no carriage returns and does not start with a byte order mark. -/
structure IsPlain (text : String) : Prop where
  no_return : '\r' ∉ text.toList
  no_mark : text.toList.head? ≠ some mark

instance (text : String) : Decidable (IsPlain text) :=
  decidable_of_iff ('\r' ∉ text.toList ∧ text.toList.head? ≠ some mark)
    ⟨fun ⟨hreturn, hmark⟩ => ⟨hreturn, hmark⟩, fun ⟨hreturn, hmark⟩ => ⟨hreturn, hmark⟩⟩

/-! ## Reading what was written -/

section Written

variable (lineEnd : LineEnd)

@[simp]
theorem written_nil : written lineEnd [] = [] :=
  rfl

@[simp]
theorem written_newline (cs : List Char) :
    written lineEnd ('\n' :: cs) = lineEnd.chars ++ written lineEnd cs := by
  simp [written]

theorem written_cons_of_ne {c : Char} (h : c ≠ '\n') (cs : List Char) :
    written lineEnd (c :: cs) = c :: written lineEnd cs := by
  simp [written, h]

end Written

/-- Line ends that are line feeds are written as they are. -/
theorem written_lineFeed (cs : List Char) : written .lineFeed cs = cs := by
  induction cs with
  | nil => rfl
  | cons c cs ih =>
    by_cases hc : c = '\n'
    · subst hc
      rw [written_newline, LineEnd.chars, ih, List.singleton_append]
    · rw [written_cons_of_ne _ hc, ih]

/-- Line ends that are carriage returns leave no line feed. -/
theorem head?_written_carriageReturn (cs : List Char) :
    (written .carriageReturn cs).head? ≠ some '\n' := by
  cases cs with
  | nil => exact nofun
  | cons c cs =>
    by_cases hc : c = '\n'
    · subst hc
      rw [written_newline, LineEnd.chars, List.singleton_append, List.head?_cons]
      decide
    · rw [written_cons_of_ne _ hc, List.head?_cons]
      exact fun heq => hc (Option.some.inj heq)

/-- A carriage return that no line feed follows is a line end of its own. -/
theorem unifyNewlines_return {cs : List Char} (h : cs.head? ≠ some '\n') :
    unifyNewlines ('\r' :: cs) = '\n' :: unifyNewlines cs := by
  cases cs with
  | nil => rfl
  | cons c cs =>
    have hc : c ≠ '\n' := fun heq => h (congrArg some heq)
    rw [unifyNewlines.eq_2]
    rintro rest heq
    exact hc (List.cons.inj heq).1

/-- Any other character is left alone. -/
theorem unifyNewlines_cons_of_ne {c : Char} (h : c ≠ '\r') (cs : List Char) :
    unifyNewlines (c :: cs) = c :: unifyNewlines cs :=
  unifyNewlines.eq_3 c cs (fun _ heq _ => h heq) h

/-- Characters without carriage returns are read as they are, whichever form their line ends were
written in. -/
theorem unifyNewlines_written (lineEnd : LineEnd) {cs : List Char} (h : '\r' ∉ cs) :
    unifyNewlines (written lineEnd cs) = cs := by
  induction cs with
  | nil => rfl
  | cons c cs ih =>
    rw [List.mem_cons, not_or] at h
    obtain ⟨hreturn, hrest⟩ := h
    by_cases hc : c = '\n'
    · subst hc
      rw [written_newline]
      cases lineEnd with
      | lineFeed =>
        rw [LineEnd.chars, List.singleton_append, unifyNewlines_cons_of_ne (by decide), ih hrest]
      | both =>
        rw [LineEnd.chars, List.cons_append, List.singleton_append, unifyNewlines.eq_1, ih hrest]
      | carriageReturn =>
        rw [LineEnd.chars, List.singleton_append,
          unifyNewlines_return (head?_written_carriageReturn cs), ih hrest]
    · rw [written_cons_of_ne _ hc, unifyNewlines_cons_of_ne (Ne.symm hreturn), ih hrest]

/-- A mark in front is no line end. -/
theorem unifyNewlines_withMark (marked : Bool) (cs : List Char) :
    unifyNewlines (withMark marked cs) = withMark marked (unifyNewlines cs) := by
  cases marked with
  | false => rfl
  | true => exact unifyNewlines_cons_of_ne (by decide) cs

/-- Characters that do not start with a mark do not do so in any other form of line ends. -/
theorem head?_written_ne_mark (lineEnd : LineEnd) {cs : List Char} (h : cs.head? ≠ some mark) :
    (written lineEnd cs).head? ≠ some mark := by
  cases cs with
  | nil => exact nofun
  | cons c cs =>
    by_cases hc : c = '\n'
    · subst hc
      rw [written_newline]
      cases lineEnd <;> exact fun heq => absurd (Option.some.inj heq) (by decide)
    · rw [written_cons_of_ne _ hc]
      exact h

/-- The mark that was put in front is dropped, and no other. -/
theorem dropMark_withMark (marked : Bool) {cs : List Char} (h : cs.head? ≠ some mark) :
    dropMark (withMark marked cs) = cs := by
  cases marked with
  | true => rfl
  | false =>
    cases cs with
    | nil => rfl
    | cons c cs => exact dropMark.eq_2 (c :: cs) fun rest heq => h (congrArg List.head? heq)

/-- What was written is read as the text, whichever form its line ends have; a mark in front of it
is read as well. -/
theorem decode?_encoded (marked : Bool) (lineEnd : LineEnd) {text : String}
    (h : '\r' ∉ text.toList) :
    decode? (encoded marked lineEnd text) =
      some (String.ofList (withMark marked text.toList)) := by
  rw [decode?_eq_some_iff]
  refine ⟨_, rfl, ?_⟩
  rw [String.toList_ofList, unifyNewlines_withMark, unifyNewlines_written lineEnd h]

/-- What was written is read as the text, whichever form its line ends have and whether or not there
is a mark in front of it. -/
theorem decodeMarked?_encoded (marked : Bool) (lineEnd : LineEnd) {text : String}
    (h : IsPlain text) : decodeMarked? (encoded marked lineEnd text) = some text := by
  have hread : String.fromUTF8? (encoded marked lineEnd text) =
      some (String.ofList (withMark marked (written lineEnd text.toList))) :=
    fromUTF8?_eq_some_iff.mpr rfl
  have hmark := dropMark_withMark marked (head?_written_ne_mark lineEnd h.no_mark)
  unfold decodeMarked?
  rw [hread, encoded, not_unfinishedMarks_toUTF8, if_neg (by decide), Option.map_some,
    String.toList_ofList, hmark, unifyNewlines_written lineEnd h.no_return, String.ofList_toList]

/-- A plain text is read from its own bytes. -/
theorem decodeMarked?_toUTF8 {text : String} (h : IsPlain text) :
    decodeMarked? text.toUTF8 = some text := by
  have hencoded : encoded false .lineFeed text = text.toUTF8 := by
    rw [encoded, withMark, if_neg Bool.false_ne_true, written_lineFeed, String.ofList_toList]
  rw [← hencoded, decodeMarked?_encoded false .lineFeed h]

end ClusterConfig.Text
