import ClusterConfig.Json.Parse
import ClusterConfig.Proofs.Numerals

/-!
# Printed documents that are read

What is printed of a document with one item a line reads back as the document, with two provisos:
numbers with a point or an exponent are left out here, and pairs of halves in a text come back as
the characters that they denote, since that is what is printed for them.

Main definitions:

- `Json.isWhole`: no number of a document has a point or an exponent.
- `Json.joined`: a document with all pairs of halves in its texts as characters.

Main results:

- Theorem `readText?_flatMap_escape`: escaped characters read back.
- Theorem `readsBack`: a printed document reads back, whatever comes after it.
- Theorem `parse?_pretty`: a printed document on its own is the document.
-/

namespace ClusterConfig.Json

/-! ## Documents -/

mutual

/-- Whether no number of a document has a point or an exponent. -/
def isWhole : Json → Bool
  | float _ => false
  | list xs => areWhole xs
  | object ms => areWholeMembers ms
  | _ => true

/-- Whether this holds of all items. -/
def areWhole : List Json → Bool
  | [] => true
  | x :: xs => isWhole x && areWhole xs

/-- Whether this holds of the documents of all members. -/
def areWholeMembers : List (String × Json) → Bool
  | [] => true
  | (_, v) :: ms => isWhole v && areWholeMembers ms

end

theorem areWhole_iff {xs : List Json} : areWhole xs = true ↔ ∀ x ∈ xs, isWhole x = true := by
  induction xs with
  | nil => simp [areWhole]
  | cons x xs ih => simp [areWhole, ih]

theorem areWholeMembers_iff {ms : List (String × Json)} :
    areWholeMembers ms = true ↔ ∀ m ∈ ms, isWhole m.2 = true := by
  induction ms with
  | nil => simp [areWholeMembers]
  | cons m ms ih => simp [areWholeMembers, ih]

/-- A text with all pairs of halves as characters. -/
def joinedText (s : String) : String :=
  String.ofList (Text.joinHalves s.toList)

mutual

/-- The document with all pairs of halves in its texts as characters. -/
def joined : Json → Json
  | text s => text (joinedText s)
  | list xs => list (joinedItems xs)
  | object ms => object (joinedMembers ms)
  | j => j

/-- The items with all pairs of halves as characters. -/
def joinedItems : List Json → List Json
  | [] => []
  | x :: xs => joined x :: joinedItems xs

/-- The members with all pairs of halves as characters, in the keys as well. -/
def joinedMembers : List (String × Json) → List (String × Json)
  | [] => []
  | (k, v) :: ms => (joinedText k, joined v) :: joinedMembers ms

end

/-! ## Texts -/

/-- The last four hexadecimal digits of a number that has no more read back. -/
theorem hexFour?_hexDigits {n : Nat} (h : n < 0x10000) (rest : List Char) :
    hexFour? (Text.hexDigits 4 n ++ rest) = some (n, rest) := by
  have hdigit : ∀ m : Nat, Integer.digitIn? 16 (Nat.digitChar (m % 16)) = some (m % 16) :=
    fun m => Integer.digitIn?_digitChar (by omega) (Nat.mod_lt m (by omega))
  have hvalue : ((n / 16 / 16 / 16 % 16 * 16 + n / 16 / 16 % 16) * 16 + n / 16 % 16) * 16 +
      n % 16 = n := by
    omega
  simp [Text.hexDigits, hexFour?, hdigit, hvalue]

/-- A code below all halves is that of its character, whatever comes after it. -/
theorem readCode?_hexDigits {n : Nat} (h : n < 0xD800) (rest : List Char) :
    readCode? (Text.hexDigits 4 n ++ rest) = some (Char.ofNat n, rest) := by
  have hcode : Text.ofCode n = Char.ofNat n := by
    simp [Text.ofCode, Text.isHalfCode]
    omega
  have hpair : ∀ m, Text.pair? n m = none := by
    intro m
    rw [Text.pair?, if_neg]
    omega
  unfold readCode?
  rw [hexFour?_hexDigits (by omega)]
  simp only [Option.bind_eq_bind, Option.bind_some, hcode, hpair]
  split
  · split <;> rfl
  · rfl

/-- A letter after a backslash reads as the character that it denotes. -/
theorem readText?_letter {letter c : Char} (h : unescape? letter = some c) (fuel : Nat)
    (cs : List Char) :
    readText? (fuel + 1) ('\\' :: letter :: cs) =
      (readText? fuel cs).map fun read => (c :: read.1, read.2) := by
  have hletter : letter ≠ 'u' := by
    rintro rfl
    cases h
  cases hrest : readText? fuel cs <;> simp [readText?, h, hrest]

/-- The form of a character reads back as the character. -/
theorem readText?_escape (c : Char) (fuel : Nat) (cs : List Char) :
    readText? (fuel + 1) (escape c ++ cs) =
      (readText? fuel cs).map fun read => (c :: read.1, read.2) := by
  unfold escape
  split
  · subst c
    exact readText?_letter rfl fuel cs
  split
  · subst c
    exact readText?_letter rfl fuel cs
  split
  · subst c
    exact readText?_letter rfl fuel cs
  split
  · subst c
    exact readText?_letter rfl fuel cs
  split
  · subst c
    exact readText?_letter rfl fuel cs
  split
  · rename_i hc
    obtain rfl : c = Char.ofNat 8 := by rw [← hc, Char.ofNat_toNat]
    exact readText?_letter rfl fuel cs
  split
  · rename_i hc
    obtain rfl : c = Char.ofNat 12 := by rw [← hc, Char.ofNat_toNat]
    exact readText?_letter rfl fuel cs
  split
  · rename_i hc
    have hcode := readCode?_hexDigits (n := c.toNat) (by omega) cs
    simp only [List.cons_append, readText?, hcode, Char.ofNat_toNat, Option.bind_eq_bind,
      Option.bind_some]
    cases readText? fuel cs <;> rfl
  · rename_i hquote hslash _ _ _ _ _ hc
    cases hrest : readText? fuel cs <;> simp [readText?, hslash, hrest, hc]

/-- Escaped characters read back up to the closing quote, if there is fuel for each of them. -/
theorem readText?_flatMap_escape (cs rest : List Char) {fuel : Nat} (h : cs.length < fuel) :
    readText? fuel (cs.flatMap escape ++ '"' :: rest) = some (cs, rest) := by
  induction cs generalizing fuel with
  | nil =>
    obtain ⟨fuel, rfl⟩ := Nat.exists_eq_succ_of_ne_zero (Nat.ne_of_gt h)
    rfl
  | cons c cs ih =>
    obtain ⟨fuel, rfl⟩ := Nat.exists_eq_succ_of_ne_zero (Nat.ne_zero_of_lt h)
    have hlength : cs.length < fuel := by simpa using h
    rw [List.flatMap_cons, List.append_assoc, readText?_escape, ih hlength]
    rfl

/-- Escaping makes no text shorter. -/
theorem length_le_length_flatMap_escape (cs : List Char) :
    cs.length ≤ (cs.flatMap escape).length := by
  induction cs with
  | nil => simp
  | cons c cs ih =>
    have hpos := List.length_pos_iff.mpr (escape_ne_nil c)
    simp only [List.length_cons, List.flatMap_cons, List.length_append]
    omega

/-- What follows the opening quote of a text. -/
def afterQuote (s : String) (rest : List Char) : List Char :=
  (Text.joinHalves s.toList).flatMap escape ++ '"' :: rest

theorem quotedJoined_append (s : String) (rest : List Char) :
    quotedJoined s ++ rest = '"' :: afterQuote s rest := by
  simp [quotedJoined, afterQuote]

/-- A text between quotes reads back with all pairs of halves as characters. -/
theorem readText?_afterQuote (s : String) (rest : List Char) :
    readText? ((afterQuote s rest).length + 1) (afterQuote s rest) =
      some (Text.joinHalves s.toList, rest) := by
  refine readText?_flatMap_escape _ _ ?_
  have hle := length_le_length_flatMap_escape (Text.joinHalves s.toList)
  simp only [afterQuote, List.length_append]
  omega

/-! ## Leaves -/

/-- Whether no number goes on with these characters. -/
def EndsNumber (rest : List Char) : Prop :=
  ∀ c ∈ rest.head?, isNumberChar c = false

/-- A run of characters that all have a property stops before one that has not. -/
theorem span_append {p : Char → Bool} {cs rest : List Char} (hcs : ∀ c ∈ cs, p c = true)
    (hrest : ∀ c ∈ rest.head?, p c = false) :
    (cs ++ rest).takeWhile p = cs ∧ (cs ++ rest).dropWhile p = rest := by
  rw [List.takeWhile_append_of_pos hcs, List.dropWhile_append_of_pos hcs]
  cases rest with
  | nil => simp
  | cons c rest =>
    have hc := hrest c rfl
    simp [hc]

/-- A whole number reads back. -/
theorem readNumber?_intText (n : Int) {rest : List Char} (h : EndsNumber rest) :
    readNumber? ((Value.intText n).toList ++ rest) = some (int n, rest) := by
  have hchars : ∀ c ∈ (Value.intText n).toList, isNumberChar c = true := by
    intro c hc
    rcases Integer.eq_minus_or_isDigit hc with rfl | hdigit
    · decide
    · simp [isNumberChar, hdigit]
  have hplain : ((Value.intText n).toList.any fun c => c == '.' || c == 'e' || c == 'E') =
      false := by
    rw [List.any_eq_false]
    intro c hc
    rcases Integer.eq_minus_or_isDigit hc with rfl | hdigit
    · decide
    · rintro hpoint
      simp only [Bool.or_eq_true, beq_iff_eq] at hpoint
      rcases hpoint with (rfl | rfl) | rfl <;> exact absurd hdigit (by decide)
  obtain ⟨htake, hdrop⟩ := span_append hchars h
  simp only [readNumber?, htake, hdrop, hplain, Integer.read?_intText]
  rfl

/-- A text does not start with a word if it starts with another character than the word. -/
theorem afterWord?_eq_none {word : String} {c d : Char} {cs ds : List Char}
    (hword : word.toList = c :: cs) (h : c ≠ d) : afterWord? word (d :: ds) = none := by
  simp [afterWord?, hword, h]

/-- What starts with a digit is a number. -/
theorem readLeaf?_of_digit {d : Char} (h : d.isDigit = true) (cs : List Char) :
    readLeaf? (d :: cs) = readNumber? (d :: cs) := by
  have hne : ∀ c : Char, c.isDigit = false → c ≠ d := by
    rintro c hc rfl
    rw [h] at hc
    cases hc
  have hword : ∀ (word : String) {c : Char} {ds : List Char}, word.toList = c :: ds →
      c.isDigit = false → afterWord? word (d :: cs) = none :=
    fun _ _ _ hword hc => afterWord?_eq_none hword (hne _ hc)
  unfold readLeaf?
  split
  · rename_i heq
    exact absurd (List.cons.inj heq).1.symm (hne '"' (by decide))
  · rw [hword "null" rfl (by decide), hword "true" rfl (by decide),
      hword "false" rfl (by decide), hword "NaN" rfl (by decide),
      hword "Infinity" rfl (by decide), hword "-Infinity" rfl (by decide)]

/-- What starts with a minus before a digit is a number. -/
theorem readLeaf?_of_minus {d : Char} (h : d.isDigit = true) (cs : List Char) :
    readLeaf? ('-' :: d :: cs) = readNumber? ('-' :: d :: cs) := by
  have hword : ∀ (word : String) {c : Char} {ds : List Char}, word.toList = c :: ds →
      c ≠ '-' → afterWord? word ('-' :: d :: cs) = none :=
    fun _ _ _ hword hc => afterWord?_eq_none hword hc
  have hinfinity : afterWord? "-Infinity" ('-' :: d :: cs) = none := by
    have hd : 'I' ≠ d := by
      rintro rfl
      exact absurd h (by decide)
    have hchars : "-Infinity".toList = '-' :: 'I' :: "nfinity".toList := rfl
    simp [afterWord?, hchars, hd]
  unfold readLeaf?
  split
  · rename_i heq
    exact absurd (List.cons.inj heq).1 (by decide)
  · rw [hword "null" rfl (by decide), hword "true" rfl (by decide),
      hword "false" rfl (by decide), hword "NaN" rfl (by decide),
      hword "Infinity" rfl (by decide), hinfinity]

/-- The text of a number reads as the number. -/
theorem readLeaf?_intText (n : Int) {rest : List Char} (h : EndsNumber rest) :
    readLeaf? ((Value.intText n).toList ++ rest) = some (int n, rest) := by
  rw [← readNumber?_intText n h]
  have hne : Nat.toDigits 10 n.natAbs ≠ [] := Nat.toDigits_ne_nil
  obtain ⟨d, ds, hdigits⟩ := List.exists_cons_of_ne_nil hne
  have hmem : d ∈ Nat.toDigits 10 n.natAbs := by simp [hdigits]
  have hd : d.isDigit = true := Nat.isDigit_of_mem_toDigits (by omega) (by omega) hmem
  rw [Integer.toList_intText, hdigits]
  split
  · exact readLeaf?_of_minus hd (ds ++ rest)
  · exact readLeaf?_of_digit hd (ds ++ rest)

/-! ## Blanks -/

/-- A line end and its indentation are skipped. -/
theorem skipSpace_newline (depth : Nat) (cs : List Char) :
    skipSpace (newline depth ++ cs) = skipSpace cs := by
  unfold skipSpace
  refine List.dropWhile_append_of_pos ?_
  intro c hc
  rw [newline, List.mem_cons, List.mem_replicate] at hc
  rcases hc with rfl | ⟨-, rfl⟩ <;> decide

theorem skipSpace_cons {c : Char} (h : isSpace c = false) (cs : List Char) :
    skipSpace (c :: cs) = c :: cs := by
  simp [skipSpace, h]

theorem readJson?_newline (fuel depth : Nat) (cs : List Char) :
    readJson? fuel (newline depth ++ cs) = readJson? fuel cs := by
  cases fuel with
  | zero => simp [readJson?]
  | succ fuel => simp only [readJson?, skipSpace_newline]

theorem readJson?_space (fuel : Nat) (cs : List Char) :
    readJson? fuel (' ' :: cs) = readJson? fuel cs := by
  have hskip : skipSpace (' ' :: cs) = skipSpace cs := by simp [skipSpace, isSpace]
  cases fuel with
  | zero => simp [readJson?]
  | succ fuel => simp only [readJson?, hskip]

theorem readItems?_newline (fuel depth : Nat) (cs : List Char) :
    readItems? fuel (newline depth ++ cs) = readItems? fuel cs := by
  cases fuel with
  | zero => simp [readItems?]
  | succ fuel => simp only [readItems?, readJson?_newline]

theorem readMembers?_newline (fuel depth : Nat) (cs : List Char) :
    readMembers? fuel (newline depth ++ cs) = readMembers? fuel cs := by
  cases fuel with
  | zero => simp [readMembers?]
  | succ fuel => simp only [readMembers?, skipSpace_newline]

/-! ## Printed forms -/

theorem endsNumber_cons {c : Char} (h : isNumberChar c = false) (cs : List Char) :
    EndsNumber (c :: cs) := by
  simpa [EndsNumber] using h

/-- What starts with no bracket and no brace has no parts. -/
theorem readJson?_of_leaf {c : Char} (hspace : isSpace c = false) (hlist : c ≠ '[')
    (hobject : c ≠ '\x7b') (fuel : Nat) (cs : List Char) :
    readJson? (fuel + 1) (c :: cs) = readLeaf? (c :: cs) := by
  simp [readJson?, skipSpace_cons hspace, hlist, hobject]

/-- Whether a document has parts. -/
def isLeaf : Json → Bool
  | list _ | object _ => false
  | _ => true

/-- A number starts with no blank and opens or closes nothing. -/
theorem not_mem_of_mem_intText {n : Int} {c : Char} (h : c ∈ (Value.intText n).toList) :
    isSpace c = false ∧ c ∉ ['[', ']', '\x7b'] := by
  rcases Integer.eq_minus_or_isDigit h with rfl | hdigit
  · decide
  · have hne : ∀ d : Char, d.isDigit = false → c ≠ d := by
      rintro d hd rfl
      rw [hdigit] at hd
      cases hd
    simp [isSpace, hne ' ' (by decide), hne '\n' (by decide), hne '\r' (by decide),
      hne '\t' (by decide), hne '[' (by decide), hne ']' (by decide), hne '\x7b' (by decide)]

/-- A document without parts starts with no blank and with nothing that opens or closes parts. -/
theorem exists_prettyAt_eq_cons_of_isLeaf {j : Json} (hleaf : j.isLeaf = true)
    (hwhole : j.isWhole = true) (depth : Nat) :
    ∃ c cs, prettyAt depth j = c :: cs ∧ isSpace c = false ∧ c ∉ ['[', ']', '\x7b'] := by
  cases j with
  | null => exact ⟨'n', _, rfl, by decide⟩
  | bool b => cases b <;> exact ⟨_, _, rfl, by decide⟩
  | int n =>
    obtain ⟨c, cs, hcs⟩ := List.exists_cons_of_ne_nil (Integer.intText_ne_nil n)
    exact ⟨c, cs, hcs, not_mem_of_mem_intText (n := n) (by simp [hcs])⟩
  | float x => cases hwhole
  | text s => exact ⟨'"', _, rfl, by decide⟩
  | list xs => cases hleaf
  | object ms => cases hleaf

/-- A printed document starts with no blank and with nothing that closes a list. -/
theorem exists_prettyAt_eq_cons {j : Json} (h : j.isWhole = true) (depth : Nat) :
    ∃ c cs, prettyAt depth j = c :: cs ∧ isSpace c = false ∧ c ≠ ']' := by
  cases hleaf : j.isLeaf with
  | true =>
    obtain ⟨c, cs, hcs, hspace, hc⟩ := exists_prettyAt_eq_cons_of_isLeaf hleaf h depth
    refine ⟨c, cs, hcs, hspace, ?_⟩
    rintro rfl
    exact hc (by decide)
  | false =>
    cases j with
    | list xs => cases xs <;> exact ⟨'[', _, rfl, by decide, by decide⟩
    | object ms => cases ms <;> exact ⟨'\x7b', _, rfl, by decide, by decide⟩
    | null | bool _ | int _ | float _ | text _ => cases hleaf

/-- A document without parts reads back. -/
theorem readLeaf?_prettyAt {j : Json} (hleaf : j.isLeaf = true) (hwhole : j.isWhole = true)
    (depth : Nat) {rest : List Char} (hrest : EndsNumber rest) :
    readLeaf? (prettyAt depth j ++ rest) = some (joined j, rest) := by
  cases j with
  | null => rfl
  | bool b => cases b <;> rfl
  | int n => exact readLeaf?_intText n hrest
  | float x => cases hwhole
  | text s =>
    have hquoted : prettyAt depth (text s) ++ rest = '"' :: afterQuote s rest :=
      quotedJoined_append s rest
    rw [hquoted, readLeaf?, readText?_afterQuote]
    rfl
  | list xs => cases hleaf
  | object ms => cases hleaf

/-! ## Documents that read back -/

/-- A printed document reads back, whatever comes after it, with its pairs of halves as
characters. -/
def ReadsBack (j : Json) : Prop :=
  ∀ (depth fuel : Nat) (rest : List Char), EndsNumber rest →
    2 * (prettyAt depth j).length ≤ fuel →
      readJson? fuel (prettyAt depth j ++ rest) = some (joined j, rest)

/-- Items that read back do so one after the other, up to the bracket after the last. -/
theorem readItems?_prettyItems {x : Json} {xs : List Json} (h : ∀ y ∈ x :: xs, ReadsBack y)
    (depth outer : Nat) (rest : List Char) {fuel : Nat}
    (hfuel : 2 * (prettyAt depth x ++ prettyItems depth xs).length < fuel) :
    readItems? fuel
        (prettyAt depth x ++ (prettyItems depth xs ++ (newline outer ++ ']' :: rest))) =
      some (joined x :: joinedItems xs, rest) := by
  induction xs generalizing x fuel with
  | nil =>
    obtain ⟨fuel, rfl⟩ := Nat.exists_eq_succ_of_ne_zero (Nat.ne_zero_of_lt hfuel)
    have hends : EndsNumber (newline outer ++ ']' :: rest) := endsNumber_cons (by decide) _
    have hx := h x List.mem_cons_self depth fuel _ hends (by
      simp only [prettyItems, List.append_nil] at hfuel
      omega)
    simp only [readItems?, prettyItems, List.nil_append, hx, Option.bind_eq_bind,
      Option.bind_some, skipSpace_newline, skipSpace_cons (c := ']') (by decide), joinedItems]
  | cons y ys ih =>
    obtain ⟨fuel, rfl⟩ := Nat.exists_eq_succ_of_ne_zero (Nat.ne_zero_of_lt hfuel)
    have hends : EndsNumber (prettyItems depth (y :: ys) ++ (newline outer ++ ']' :: rest)) :=
      endsNumber_cons (by decide) _
    simp only [prettyItems, List.length_append, List.length_cons] at hfuel
    have hx := h x List.mem_cons_self depth fuel _ hends (by omega)
    have hlength : 2 * (prettyAt depth y ++ prettyItems depth ys).length < fuel := by
      simp only [List.length_append]
      omega
    have hys := ih (fun z hz => h z (List.mem_cons_of_mem x hz)) hlength
    simp only [readItems?, hx, Option.bind_eq_bind, Option.bind_some]
    simp only [prettyItems, List.cons_append, List.append_assoc,
      skipSpace_cons (c := ',') (by decide), readItems?_newline, hys, joinedItems,
      Option.bind_some]

/-- What is printed of a key, with the mark after it. -/
def keyAnd (key : String) (rest : List Char) : List Char :=
  quotedJoined key ++ ([':', ' '] ++ rest)

/-- Members whose documents read back do so one after the other, up to the brace after the last. -/
theorem readMembers?_prettyMembers {k : String} {v : Json} {ms : List (String × Json)}
    (h : ∀ m ∈ (k, v) :: ms, ReadsBack m.2) (depth outer : Nat) (rest : List Char) {fuel : Nat}
    (hfuel : 2 * (prettyAt depth v ++ prettyMembers depth ms).length < fuel) :
    readMembers? fuel
        (keyAnd k
          (prettyAt depth v ++ (prettyMembers depth ms ++ (newline outer ++ '\x7d' :: rest)))) =
      some ((joinedText k, joined v) :: joinedMembers ms, rest) := by
  induction ms generalizing k v fuel with
  | nil =>
    obtain ⟨fuel, rfl⟩ := Nat.exists_eq_succ_of_ne_zero (Nat.ne_zero_of_lt hfuel)
    have hends : EndsNumber (newline outer ++ '\x7d' :: rest) := endsNumber_cons (by decide) _
    have hback : ReadsBack v := h (k, v) List.mem_cons_self
    have hv := hback depth fuel _ hends (by
      simp only [prettyMembers, List.append_nil] at hfuel
      omega)
    simp only [keyAnd, readMembers?, prettyMembers, List.nil_append, quotedJoined_append,
      skipSpace_cons (c := '"') (by decide), readText?_afterQuote, Option.bind_eq_bind,
      Option.bind_some, List.cons_append, skipSpace_cons (c := ':') (by decide), readJson?_space,
      hv, skipSpace_newline, skipSpace_cons (c := '\x7d') (by decide), joinedMembers, joinedText]
  | cons m ms ih =>
    obtain ⟨fuel, rfl⟩ := Nat.exists_eq_succ_of_ne_zero (Nat.ne_zero_of_lt hfuel)
    have hends : EndsNumber (prettyMembers depth (m :: ms) ++ (newline outer ++ '\x7d' :: rest)) :=
      endsNumber_cons (by decide) _
    simp only [prettyMembers, List.length_append, List.length_cons] at hfuel
    have hback : ReadsBack v := h (k, v) List.mem_cons_self
    have hv := hback depth fuel _ hends (by omega)
    have hlength : 2 * (prettyAt depth m.2 ++ prettyMembers depth ms).length < fuel := by
      simp only [List.length_append]
      omega
    have hms := ih (k := m.1) (fun z hz => h z (List.mem_cons_of_mem (k, v) hz)) hlength
    simp only [keyAnd, readMembers?, quotedJoined_append, skipSpace_cons (c := '"') (by decide),
      readText?_afterQuote, Option.bind_eq_bind, Option.bind_some, List.cons_append,
      skipSpace_cons (c := ':') (by decide), List.nil_append, readJson?_space, hv]
    simp only [prettyMembers, List.cons_append, List.append_assoc,
      skipSpace_cons (c := ',') (by decide), readMembers?_newline]
    simp only [keyAnd, List.cons_append, List.nil_append] at hms
    simp only [List.nil_append, hms, joinedMembers, joinedText, Option.bind_some]

/-- A list whose items read back does. -/
theorem readsBack_list {xs : List Json} (hwhole : areWhole xs = true)
    (h : ∀ x ∈ xs, ReadsBack x) : ReadsBack (list xs) := by
  intro depth fuel rest _ hfuel
  cases xs with
  | nil =>
    simp only [prettyAt, List.length_cons, List.length_nil] at hfuel
    obtain ⟨fuel, rfl⟩ := Nat.exists_eq_succ_of_ne_zero (n := fuel) (by omega)
    rfl
  | cons x xs =>
    simp only [prettyAt, List.length_append, List.length_cons] at hfuel
    obtain ⟨fuel, rfl⟩ := Nat.exists_eq_succ_of_ne_zero (n := fuel) (by omega)
    have hlength : 2 * (prettyAt (depth + 1) x ++ prettyItems (depth + 1) xs).length < fuel := by
      simp only [List.length_append]
      omega
    have hitems := readItems?_prettyItems h (depth + 1) depth rest hlength
    -- the list is not taken for an empty one
    obtain ⟨c, cs, hcs, hspace, hc⟩ :=
      exists_prettyAt_eq_cons (areWhole_iff.mp hwhole x List.mem_cons_self) (depth + 1)
    have hskip : ∀ more, skipSpace (prettyAt (depth + 1) x ++ more) =
        prettyAt (depth + 1) x ++ more := by
      intro more
      rw [hcs]
      exact skipSpace_cons hspace (cs ++ more)
    simp only [prettyAt, List.cons_append, List.nil_append, List.append_assoc, readJson?,
      skipSpace_cons (c := '[') (by decide), skipSpace_newline, hskip]
    split
    · rename_i heq
      rw [hcs] at heq
      exact absurd (List.cons.inj heq).1 hc
    · rw [hitems]
      rfl

/-- An object whose members' documents read back does. -/
theorem readsBack_object {ms : List (String × Json)} (h : ∀ m ∈ ms, ReadsBack m.2) :
    ReadsBack (object ms) := by
  intro depth fuel rest _ hfuel
  cases ms with
  | nil =>
    simp only [prettyAt, List.length_cons, List.length_nil] at hfuel
    obtain ⟨fuel, rfl⟩ := Nat.exists_eq_succ_of_ne_zero (n := fuel) (by omega)
    rfl
  | cons m ms =>
    obtain ⟨k, v⟩ := m
    simp only [prettyAt, List.length_append, List.length_cons] at hfuel
    obtain ⟨fuel, rfl⟩ := Nat.exists_eq_succ_of_ne_zero (n := fuel) (by omega)
    have hlength : 2 * (prettyAt (depth + 1) v ++ prettyMembers (depth + 1) ms).length < fuel := by
      simp only [List.length_append]
      omega
    have hmembers := readMembers?_prettyMembers h (depth + 1) depth rest hlength
    simp only [keyAnd, List.cons_append, List.nil_append, quotedJoined_append] at hmembers
    simp only [prettyAt, List.cons_append, List.nil_append, List.append_assoc, readJson?,
      skipSpace_cons (c := '\x7b') (by decide), skipSpace_newline]
    simp only [quotedJoined_append, skipSpace_cons (c := '"') (by decide)]
    split
    · rename_i heq
      exact absurd (List.cons.inj heq).1 (by decide)
    · rw [hmembers]
      rfl

/-- A document without parts reads back. -/
theorem readsBack_of_isLeaf {j : Json} (hleaf : j.isLeaf = true) (hwhole : j.isWhole = true) :
    ReadsBack j := by
  intro depth fuel rest hrest hfuel
  obtain ⟨c, cs, hcs, hspace, hc⟩ := exists_prettyAt_eq_cons_of_isLeaf hleaf hwhole depth
  obtain ⟨fuel, rfl⟩ := Nat.exists_eq_succ_of_ne_zero (n := fuel) (by
    rw [hcs, List.length_cons] at hfuel
    omega)
  simp only [List.mem_cons, List.not_mem_nil, or_false, not_or] at hc
  rw [← readLeaf?_prettyAt hleaf hwhole depth hrest, hcs, List.cons_append]
  exact readJson?_of_leaf hspace hc.1 hc.2.2 fuel (cs ++ rest)

/-- A printed document without points and exponents reads back. -/
theorem readsBack {j : Json} (h : j.isWhole = true) : ReadsBack j := by
  match j with
  | list xs =>
    have hwhole : areWhole xs = true := h
    exact readsBack_list hwhole fun x hx => readsBack (areWhole_iff.mp hwhole x hx)
  | object ms =>
    have hwhole : areWholeMembers ms = true := h
    exact readsBack_object fun m hm => readsBack (areWholeMembers_iff.mp hwhole m hm)
  | null | bool _ | int _ | text _ =>
    exact readsBack_of_isLeaf rfl h
termination_by sizeOf j
decreasing_by
  · have hlt := List.sizeOf_lt_of_mem hx
    simp only [list.sizeOf_spec]
    omega
  · have hlt := List.sizeOf_lt_of_mem hm
    obtain ⟨k, v⟩ := m
    simp only [object.sizeOf_spec, Prod.mk.sizeOf_spec] at hlt ⊢
    omega

/-- The text of a document without points and exponents, with a line end after it, is the document
with its pairs of halves as characters. -/
theorem parse?_pretty {j : Json} (h : j.isWhole = true) :
    parse? (j.pretty ++ "\n") = some j.joined := by
  have hends : EndsNumber ['\n'] := endsNumber_cons (by decide) []
  have hchars : (j.pretty ++ "\n").toList = prettyAt 0 j ++ ['\n'] := by
    rw [String.toList_append, pretty, String.toList_ofList]
    rfl
  have hread := readsBack h 0 (2 * (prettyAt 0 j ++ ['\n']).length + 2) ['\n'] hends (by
    simp only [List.length_append]
    omega)
  simp only [parse?, hchars, hread]
  rfl

end ClusterConfig.Json
