import ClusterConfig.CommandLine.Invocation
import ClusterConfig.Value.Text
import Mathlib.Tactic.IntervalCases

/-!
# Numerals

The text of a whole number is its decimal digits after a sign. What reads numbers reads it back,
with one exception: a command line turns down a status of more digits than a number usually may
have.

Main results:

- Theorem `Integer.read?_intText`: the text of a number reads back as the number.
- Theorem `CommandLine.Scope.readStatus?_intText`: on a command line it does so unless it is too
  long.
-/

namespace ClusterConfig

namespace Text

/-- Where the digits of the first script stand. -/
theorem toNat_of_isDigit {c : Char} (h : c.isDigit = true) : 48 ≤ c.toNat ∧ c.toNat ≤ 57 := by
  simpa [Char.isDigit, UInt32.le_iff_toNat_le] using h

/-- The digits of the first script are digits. -/
theorem isSome_digit? {c : Char} (h : c.isDigit = true) : (digit? c).isSome = true := by
  obtain ⟨hle, hge⟩ := toNat_of_isDigit h
  simp [digit?, digitZeros, hle, Nat.lt_succ_of_le hge]

end Text

namespace Integer

/-! ## Digits -/

/-- A digit below a base has its own value in that base. -/
theorem digitIn?_digitChar {base d : Nat} (hbase : base ≤ 16) (hd : d < base) :
    digitIn? base (Nat.digitChar d) = some d := by
  have hdigit : ∀ d < 16, digitIn? 16 (Nat.digitChar d) = some d := by decide
  have hvalue := hdigit d (by omega)
  simp only [digitIn?, Option.filter_eq_some_iff, decide_eq_true_eq] at hvalue ⊢
  exact ⟨hvalue.1, hd⟩

/-- No digit is an underscore. -/
theorem digitChar_ne_underscore {d : Nat} (h : d < 10) : Nat.digitChar d ≠ '_' := by
  interval_cases d <;> decide

/-- One more digit at the end of a run makes its value ten times as much, and adds the digit's. -/
theorem digitsFrom?_append_digit {value d n : Nat} {afterDigit : Bool} {cs : List Char}
    (h : digitsFrom? 10 value afterDigit cs = some n) (hd : d < 10) :
    digitsFrom? 10 value afterDigit (cs ++ [Nat.digitChar d]) = some (n * 10 + d) := by
  have hdigit : digitIn? 10 (Nat.digitChar d) = some d := digitIn?_digitChar (by omega) hd
  induction cs generalizing value afterDigit with
  | nil =>
    cases afterDigit with
    | false => cases h
    | true =>
      obtain rfl : value = n := by simpa [digitsFrom?] using h
      simp [digitsFrom?, digitChar_ne_underscore hd, hdigit]
  | cons c cs ih =>
    simp only [digitsFrom?, List.cons_append] at h ⊢
    by_cases hc : c = '_'
    · cases afterDigit with
      | false => simp [hc] at h
      | true =>
        simp only [hc, if_true] at h ⊢
        exact ih h
    · simp only [hc, if_false] at h ⊢
      cases hvalue : digitIn? 10 c with
      | none => simp [hvalue] at h
      | some e =>
        simp only [hvalue] at h ⊢
        exact ih h

/-- The decimal digits of a number have its value. -/
theorem digits?_toDigits (n : Nat) : digits? 10 (Nat.toDigits 10 n) = some n := by
  induction n using Nat.strong_induction_on with
  | _ n ih =>
    rw [Nat.toDigits_eq_if (by omega)]
    split
    · rename_i hn
      have hdigit : digitIn? 10 (Nat.digitChar n) = some n := digitIn?_digitChar (by omega) hn
      simp [digits?, digitsFrom?, digitChar_ne_underscore hn, hdigit]
    · rename_i hn
      have hlast : n % 10 < 10 := Nat.mod_lt n (by omega)
      have hwhole : n / 10 * 10 + n % 10 = n := by omega
      have happend := digitsFrom?_append_digit (ih (n / 10) (by omega)) hlast
      rwa [hwhole] at happend

/-! ## Signed numbers -/

/-- The characters of a number: a minus if it is negative, and its digits. -/
theorem toList_intText (n : Int) :
    (Value.intText n).toList =
      (if n < 0 then ['-'] else []) ++ Nat.toDigits 10 n.natAbs := by
  unfold Value.intText
  rw [String.toList_append, String.toList_ofList]
  split <;> rfl

/-- What a character of a number can be. -/
theorem eq_minus_or_isDigit {n : Int} {c : Char} (h : c ∈ (Value.intText n).toList) :
    c = '-' ∨ c.isDigit = true := by
  rw [toList_intText, List.mem_append] at h
  rcases h with hsign | hdigits
  · split at hsign
    · exact .inl (by simpa using hsign)
    · cases hsign
  · exact .inr (Nat.isDigit_of_mem_toDigits (by omega) (by omega) hdigits)

/-- No text of a number is empty. -/
theorem intText_ne_nil (n : Int) : (Value.intText n).toList ≠ [] := by
  rw [toList_intText]
  exact List.append_ne_nil_of_right_ne_nil _ Nat.toDigits_ne_nil

/-- No digit and no minus is a blank around a number. -/
theorem isPadding_of_mem {n : Int} {c : Char} (h : c ∈ (Value.intText n).toList) :
    isPadding c = false := by
  rcases eq_minus_or_isDigit h with rfl | hdigit
  · decide
  · have hrange := Text.toNat_of_isDigit hdigit
    simp only [isPadding, Text.isBlank]
    grind

/-- What starts and ends with other characters than blanks stays as it is. -/
theorem unpad_eq_self {cs : List Char} (hhead : ∀ c ∈ cs.head?, isPadding c = false)
    (hlast : ∀ c ∈ cs.getLast?, isPadding c = false) : unpad cs = cs := by
  have hdrop : ∀ ds : List Char, (∀ c ∈ ds.head?, isPadding c = false) →
      ds.dropWhile isPadding = ds := by
    intro ds hds
    cases ds with
    | nil => rfl
    | cons d ds => exact List.dropWhile_cons_of_neg (by simp [hds d rfl])
  unfold unpad
  rw [hdrop cs hhead, hdrop cs.reverse (by rwa [List.head?_reverse]), List.reverse_reverse]

/-- The sign of a number is told from its digits. -/
theorem takeSign_intText (n : Int) :
    takeSign (Value.intText n).toList = (decide (n < 0), Nat.toDigits 10 n.natAbs) := by
  rw [toList_intText]
  by_cases hn : n < 0
  · simp [hn, takeSign]
  · -- a digit is neither sign
    have hhead : ∀ c ∈ Nat.toDigits 10 n.natAbs, c ≠ '-' ∧ c ≠ '+' := by
      intro c hc
      have hdigit := Nat.isDigit_of_mem_toDigits (by omega) (by omega) hc
      constructor <;> (rintro rfl; exact absurd hdigit (by decide))
    simp only [hn, if_false, List.nil_append, decide_false]
    cases hdigits : Nat.toDigits 10 n.natAbs with
    | nil => exact absurd hdigits Nat.toDigits_ne_nil
    | cons c cs =>
      have hc := hhead c (by simp [hdigits])
      unfold takeSign
      split
      · rename_i heq
        exact absurd (List.cons.inj heq).1 hc.1
      · rename_i heq
        exact absurd (List.cons.inj heq).1 hc.2
      · rfl

/-- The text of a number reads back as the number. -/
theorem read?_intText (n : Int) : read? (Value.intText n).toList = some n := by
  unfold read? readIn?
  rw [unpad_eq_self (fun _ hc => isPadding_of_mem (List.mem_of_mem_head? hc))
    (fun _ hc => isPadding_of_mem (List.mem_of_mem_getLast? hc)), takeSign_intText]
  simp only [dropAnnouncement_ten, digits?_toDigits, Option.map_some, Option.some.injEq]
  by_cases hn : n < 0
  · simp only [hn, decide_true, if_true]
    omega
  · simp only [hn, decide_false, Bool.false_eq_true, if_false]
    omega

/-- The text of a number has as many digits as the number without its sign. -/
theorem countDigits_intText (n : Int) :
    countDigits (Value.intText n).toList = (Nat.toDigits 10 n.natAbs).length := by
  have hdigits : ∀ c ∈ Nat.toDigits 10 n.natAbs, (Text.digit? c).isSome = true :=
    fun c hc => Text.isSome_digit? (Nat.isDigit_of_mem_toDigits (by omega) (by omega) hc)
  unfold countDigits
  rw [toList_intText, List.countP_append, List.countP_eq_length.mpr hdigits]
  split
  · have hminus : (Text.digit? '-').isSome = false := by decide
    simp [hminus]
  · simp

/-- A number has no more digits than the limit just if it is short enough to be written. -/
theorem countDigits_le_iff (n : Int) :
    countDigits (Value.intText n).toList ≤ digitLimit ↔ n.natAbs < Value.writingLimit := by
  have hlength : ∀ limit, 0 < limit →
      ((Nat.toDigits 10 n.natAbs).length ≤ limit ↔ n.natAbs < Nat.pow 10 limit) :=
    fun limit hlimit => Nat.length_toDigits_le_iff (by omega) hlimit
  unfold Value.writingLimit
  rw [countDigits_intText, hlength digitLimit (by decide)]

end Integer

namespace CommandLine.Scope

/-- A status on a command line reads back unless it is too long. -/
theorem readStatus?_intText (status : Int) :
    readStatus? (Value.intText status) =
      if status.natAbs < Value.writingLimit then some status else none := by
  unfold readStatus? Integer.readWithin?
  have hlimit := Integer.countDigits_le_iff status
  simp only [Option.any_some, decide_eq_true_eq, Integer.read?_intText]
  split <;> split <;> grind

end CommandLine.Scope

end ClusterConfig
