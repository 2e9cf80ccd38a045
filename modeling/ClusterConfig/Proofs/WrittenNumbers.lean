import ClusterConfig.Proofs.Lookups
import ClusterConfig.Proofs.Numerals
import ClusterConfig.Proofs.Trimming
import Mathlib.Data.Nat.Digits.Lemmas

/-!
# Numbers as they may be written

A setting can hold a whole number. It need not be the usual text of the number: there may be blanks
around it, a plus, zeros in front, single underscores between digits, and the digits may be of any
script. These are all the ways to write a number, and the number is read from each of them; what is
written in no such way is reported and does not count.

Main definitions:

- `Integer.Spells`: the characters that spell digits.
- `Integer.IsSign`: the signs that a number may have.
- `Integer.Writes`: the ways to write a number.
- `Integer.IsNumeral`: the same with blanks around.

Main results:

- Theorem `Integer.digits?_eq_some_iff`: a run of digits has the value of the digits that it spells.
- Theorem `Integer.read?_trimChars_iff`: a number is read just where it is written.
- Theorem `Settings.number_exact`: how a setting is read as a number.
-/

namespace ClusterConfig

namespace Text

/-- Digits stand apart from the blanks, the letters of the first script and the signs. -/
theorem toNat_of_digit? {c : Char} {d : Nat} (h : digit? c = some d) :
    (48 ≤ c.toNat ∧ c.toNat ≤ 57) ∨ (0xA0 < c.toNat ∧ c.toNat < 0x1680) ∨
      (0x1680 < c.toNat ∧ c.toNat < 0x2000) ∨ 0x3000 < c.toNat := by
  have hscripts : ∀ first ∈ digitZeros, first = 48 ∨ (0xA0 < first ∧ first + 10 ≤ 0x1680) ∨
      (0x1680 < first ∧ first + 10 ≤ 0x2000) ∨ 0x3000 < first := by decide
  obtain ⟨first, hfind, -⟩ := Option.map_eq_some_iff.mp h
  have hscript := hscripts first (List.mem_of_find?_eq_some hfind)
  have hrange := List.find?_some hfind
  simp only [Bool.and_eq_true, decide_eq_true_eq] at hrange
  omega

/-- No digit is blank. -/
theorem not_isBlank_of_digit? {c : Char} {d : Nat} (h : digit? c = some d) :
    isBlank c = false := by
  have hrange := toNat_of_digit? h
  simp only [isBlank, Bool.or_eq_false_iff, Bool.and_eq_false_iff, decide_eq_false_iff_not,
    beq_eq_false_iff_ne]
  omega

/-- No digit is an underscore or a sign. -/
theorem ne_of_digit? {c : Char} {d : Nat} (h : digit? c = some d) :
    c ≠ '_' ∧ c ≠ '+' ∧ c ≠ '-' := by
  have hother : ∀ other, digit? other = none → c ≠ other := by
    rintro other hnone rfl
    rw [hnone] at h
    cases h
  exact ⟨hother '_' (by decide), hother '+' (by decide), hother '-' (by decide)⟩

end Text

namespace Integer

open Text

/-! ## Digits that are spelled -/

/-- The characters that spell digits: one for each of them, of any script, and at most one
underscore between any two. -/
inductive Spells : List Nat → List Char → Prop
  | last {c : Char} {d : Nat} (h : digit? c = some d) : Spells [d] [c]
  | next {c : Char} {d : Nat} {ds : List Nat} {cs : List Char} (h : digit? c = some d)
      (hrest : Spells ds cs) : Spells (d :: ds) (c :: cs)
  | gap {c : Char} {d : Nat} {ds : List Nat} {cs : List Char} (h : digit? c = some d)
      (hrest : Spells ds cs) : Spells (d :: ds) (c :: '_' :: cs)

/-- In base ten the digits are those of the scripts: letters have greater values. -/
theorem digitIn?_ten (c : Char) : digitIn? 10 c = digit? c := by
  have hletter : ∀ first last : Char, 57 < first.toNat → last.toNat ≤ 0xA0 →
      first ≤ c ∧ c ≤ last → digit? c = none := by
    intro first last hfirst hlast hc
    have hleft := UInt32.le_iff_toNat_le.mp hc.1
    have hright := UInt32.le_iff_toNat_le.mp hc.2
    rw [Option.eq_none_iff_forall_ne_some]
    intro d hd
    have hrange := toNat_of_digit? hd
    simp only [Char.toNat] at hrange hfirst hlast
    omega
  unfold digitIn?
  split
  · rename_i hc
    rw [hletter 'a' 'z' (by decide) (by decide) hc]
    simp
  · split
    · rename_i hc
      rw [hletter 'A' 'Z' (by decide) (by decide) hc]
      simp
    · cases hdigit : digit? c with
      | none => rfl
      | some d => simp [digit?_lt hdigit]

/-- A digit makes the value of a run ten times as much, and adds its own. -/
theorem digitsFrom?_cons_digit {c : Char} {d : Nat} (h : digit? c = some d) (value : Nat)
    (afterDigit : Bool) (cs : List Char) :
    digitsFrom? 10 value afterDigit (c :: cs) = digitsFrom? 10 (value * 10 + d) true cs := by
  rw [digitsFrom?, if_neg (ne_of_digit? h).1, digitIn?_ten, h]

/-- The value of a run in which digits are spelled. -/
theorem Spells.digitsFrom?_eq {ds : List Nat} {cs : List Char} (h : Spells ds cs) (value : Nat)
    (afterDigit : Bool) :
    digitsFrom? 10 value afterDigit cs =
      some (value * 10 ^ ds.length + Nat.ofDigits 10 ds.reverse) := by
  have hstep : ∀ value d ds, (value * 10 + d) * 10 ^ ds.length + Nat.ofDigits 10 ds.reverse =
      value * 10 ^ (d :: ds).length + Nat.ofDigits 10 (d :: ds).reverse := by
    intro value d ds
    rw [Nat.ofDigits_reverse_cons, List.length_cons, pow_succ]
    ring
  induction h generalizing value afterDigit with
  | last h =>
    rw [digitsFrom?_cons_digit h, ← hstep]
    simp [digitsFrom?]
  | next h _ ih => rw [digitsFrom?_cons_digit h, ih, hstep]
  | gap h _ ih =>
    rw [digitsFrom?_cons_digit h, digitsFrom?, if_pos rfl, if_pos rfl, ih, hstep]

/-- A run that has a value spells digits. -/
theorem exists_spells : ∀ {value n : Nat} {cs : List Char},
    digitsFrom? 10 value false cs = some n → ∃ ds, Spells ds cs
  | _, _, [], h => nomatch h
  | value, n, c :: cs, h => by
    have hc : c ≠ '_' := by
      rintro rfl
      cases h
    cases hdigit : digit? c with
    | none => simp [digitsFrom?, hc, digitIn?_ten, hdigit] at h
    | some d =>
      rw [digitsFrom?_cons_digit hdigit] at h
      cases cs with
      | nil => exact ⟨[d], .last hdigit⟩
      | cons next cs =>
        by_cases hgap : next = '_'
        · rw [digitsFrom?, if_pos hgap] at h
          obtain ⟨ds, hds⟩ := exists_spells h
          subst hgap
          exact ⟨d :: ds, .gap hdigit hds⟩
        · -- after a digit and at the start a run goes on alike unless an underscore follows
          have h' : digitsFrom? 10 (value * 10 + d) false (next :: cs) = some n := by
            rw [digitsFrom?, if_neg hgap] at h ⊢
            exact h
          obtain ⟨ds, hds⟩ := exists_spells h'
          exact ⟨d :: ds, .next hdigit hds⟩

/-- A list of digits consists of zeros and the decimal digits of its value. -/
theorem exists_zeros_append {ds : List Nat} (h : ∀ d ∈ ds, d < 10) :
    ∃ zeros, ds =
      List.replicate zeros 0 ++ (Nat.digits 10 (Nat.ofDigits 10 ds.reverse)).reverse := by
  have hmem : ds.reverse ∈ {ds' : List Nat | ds'.length = ds.length ∧ ∀ d ∈ ds', d < 10} :=
    ⟨List.length_reverse, fun d hd => h d (List.mem_reverse.mp hd)⟩
  have hpadded := (Nat.setInvOn_digitsAppend_ofDigits (by omega : 1 < 10) ds.length).1 hmem
  rw [Nat.digitsAppend] at hpadded
  have hreversed := congrArg List.reverse hpadded
  rw [List.reverse_append, List.reverse_replicate, List.reverse_reverse] at hreversed
  exact ⟨_, hreversed.symm⟩

/-- What spells digits is made of digits and underscores, none of them blank. -/
theorem Spells.not_isBlank {ds : List Nat} {cs : List Char} (h : Spells ds cs) :
    ∀ c ∈ cs, isBlank c = false := by
  induction h with
  | last h => exact List.forall_mem_singleton.mpr (not_isBlank_of_digit? h)
  | next h _ ih => exact List.forall_mem_cons.mpr ⟨not_isBlank_of_digit? h, ih⟩
  | gap h _ ih =>
    exact List.forall_mem_cons.mpr ⟨not_isBlank_of_digit? h, List.forall_mem_cons.mpr
      ⟨by decide, ih⟩⟩

/-- Digits that are spelled are below ten. -/
theorem Spells.lt_ten {ds : List Nat} {cs : List Char} (h : Spells ds cs) : ∀ d ∈ ds, d < 10 := by
  induction h with
  | last h => exact List.forall_mem_singleton.mpr (digit?_lt h)
  | next h _ ih | gap h _ ih => exact List.forall_mem_cons.mpr ⟨digit?_lt h, ih⟩

/-- A run of digits has a value just where it spells the decimal digits of that, after any number
of zeros. -/
theorem digits?_eq_some_iff {n : Nat} {cs : List Char} :
    digits? 10 cs = some n ↔
      ∃ zeros, Spells (List.replicate zeros 0 ++ (Nat.digits 10 n).reverse) cs := by
  constructor
  · intro h
    obtain ⟨ds, hds⟩ := exists_spells h
    have hvalue : Nat.ofDigits 10 ds.reverse = n := by
      rw [digits?, hds.digitsFrom?_eq] at h
      simpa using h
    obtain ⟨zeros, hzeros⟩ := exists_zeros_append hds.lt_ten
    rw [hvalue] at hzeros
    exact ⟨zeros, hzeros ▸ hds⟩
  · rintro ⟨zeros, hspells⟩
    rw [digits?, hspells.digitsFrom?_eq, List.reverse_append, List.reverse_reverse,
      List.reverse_replicate, Nat.ofDigits_append_replicate_zero, Nat.ofDigits_digits,
      Nat.zero_mul, Nat.zero_add]

/-! ## Signs -/

/-- The signs that a number may have: zero may have both, and a plus may be left out. -/
inductive IsSign (n : Int) : List Char → Prop
  | none (h : 0 ≤ n) : IsSign n []
  | plus (h : 0 ≤ n) : IsSign n ['+']
  | minus (h : n ≤ 0) : IsSign n ['-']

/-- The ways to write a number: a sign that it may have, then its decimal digits after any number
of zeros. -/
inductive Writes (n : Int) : List Char → Prop
  | intro {sign digits : List Char} {zeros : Nat} (hsign : IsSign n sign)
      (hdigits : Spells (List.replicate zeros 0 ++ (Nat.digits 10 n.natAbs).reverse) digits) :
      Writes n (sign ++ digits)

/-- What writes a number is not blank anywhere. -/
theorem Writes.not_isBlank {n : Int} {cs : List Char} (h : Writes n cs) :
    ∀ c ∈ cs, isBlank c = false := by
  obtain ⟨hsign, hdigits⟩ := h
  intro c hc
  rcases List.mem_append.mp hc with hc | hc
  · cases hsign with
    | none => cases hc
    | plus | minus =>
      obtain rfl := List.mem_singleton.mp hc
      decide
  · exact hdigits.not_isBlank c hc

/-- A sign is split off, and nothing else is. -/
theorem takeSign_cases (cs : List Char) :
    (∃ digits, cs = '-' :: digits ∧ takeSign cs = (true, digits)) ∨
      (∃ digits, cs = '+' :: digits ∧ takeSign cs = (false, digits)) ∨
        takeSign cs = (false, cs) := by
  unfold takeSign
  split <;> simp

/-- Digits have no sign. -/
theorem Spells.takeSign_eq {ds : List Nat} {cs : List Char} (h : Spells ds cs) :
    takeSign cs = (false, cs) := by
  rcases takeSign_cases cs with ⟨digits, rfl, -⟩ | ⟨digits, rfl, -⟩ | hsign
  · cases h <;> exact absurd rfl (ne_of_digit? ‹_›).2.2
  · cases h <;> exact absurd rfl (ne_of_digit? ‹_›).2.1
  · exact hsign

/-- A number is read just where it is written, if there is nothing around it. -/
theorem read?_eq_some_iff {n : Int} {cs : List Char} (hhead : ∀ c ∈ cs.head?, isBlank c = false)
    (hlast : ∀ c ∈ cs.getLast?, isBlank c = false) : read? cs = some n ↔ Writes n cs := by
  have hunpad : unpad cs = cs :=
    unpad_eq_self (fun c hc => by simp [isPadding, hhead c hc])
      (fun c hc => by simp [isPadding, hlast c hc])
  unfold read? readIn?
  rw [hunpad]
  simp only [dropAnnouncement_ten, Option.map_eq_some_iff]
  constructor
  · rintro ⟨m, hm, rfl⟩
    obtain ⟨zeros, hspells⟩ := digits?_eq_some_iff.mp hm
    rcases takeSign_cases cs with ⟨digits, rfl, hsign⟩ | ⟨digits, rfl, hsign⟩ | hsign
    · rw [hsign] at hspells ⊢
      exact .intro (.minus (by simp)) (by simpa using hspells)
    · rw [hsign] at hspells ⊢
      exact .intro (.plus (by simp)) (by simpa using hspells)
    · rw [hsign] at hspells ⊢
      exact .intro (.none (by simp)) (by simpa using hspells)
  · rintro ⟨hsign, hdigits⟩
    have hvalue := digits?_eq_some_iff.mpr ⟨_, hdigits⟩
    refine ⟨n.natAbs, ?_⟩
    cases hsign with
    | none h =>
      rw [List.nil_append, hdigits.takeSign_eq]
      exact ⟨hvalue, Int.natAbs_of_nonneg h⟩
    | plus h => exact ⟨hvalue, Int.natAbs_of_nonneg h⟩
    | minus h =>
      refine ⟨hvalue, ?_⟩
      change -(n.natAbs : Int) = n
      omega

/-! ## Blanks around -/

/-- The ways to write a number with any blanks around it. -/
inductive IsNumeral (n : Int) : List Char → Prop
  | intro {before core after : List Char} (hbefore : ∀ c ∈ before, isBlank c = true)
      (hcore : Writes n core) (hafter : ∀ c ∈ after, isBlank c = true) :
      IsNumeral n (before ++ core ++ after)

/-- A number is read just where it is written. -/
theorem read?_trimChars_iff {n : Int} {cs : List Char} :
    read? (trimChars cs) = some n ↔ IsNumeral n cs := by
  obtain ⟨⟨before, after, hwhole, hbefore, hafter⟩, hhead, hlast⟩ := isCore_trimChars cs
  rw [read?_eq_some_iff hhead hlast]
  constructor
  · intro hwrites
    rw [hwhole]
    exact .intro hbefore hwrites hafter
  · rintro ⟨hbefore', hcore, hafter'⟩
    have his : IsCore _ _ := ⟨⟨_, _, rfl, hbefore', hafter'⟩,
      fun c hc => hcore.not_isBlank c (List.mem_of_mem_head? hc),
      fun c hc => hcore.not_isBlank c (List.mem_of_mem_getLast? hc)⟩
    rw [his.trimChars_eq]
    exact hcore

/-- Nothing has more digits without the blanks around it. -/
theorem countDigits_trimChars_le (cs : List Char) :
    countDigits (trimChars cs) ≤ countDigits cs := by
  obtain ⟨⟨before, after, hwhole, -, -⟩, -, -⟩ := isCore_trimChars cs
  calc
    countDigits (trimChars cs) ≤ countDigits (before ++ trimChars cs ++ after) := by
      unfold countDigits
      rw [List.countP_append, List.countP_append]
      omega
    _ = countDigits cs := by rw [← hwhole]

/-- A limit makes no difference to what has no more digits. -/
theorem readWithin?_eq_read? {limit : Option Nat} {cs : List Char}
    (h : ∀ most ∈ limit, countDigits cs ≤ most) : readWithin? limit cs = read? cs := by
  unfold readWithin?
  cases limit with
  | none => rfl
  | some most => simp [h most rfl]

/-- Nothing is read within a limit that is not read without. -/
theorem readWithin?_eq_none {limit : Option Nat} {cs : List Char} (h : read? cs = none) :
    readWithin? limit cs = none := by
  unfold readWithin?
  rw [h, ite_self]

end Integer

namespace Settings

/-! ## Settings that are numbers -/

/-- A setting is read as the number that its text is, and reported if this is none. -/
theorem number_of_hasText {s : Settings} {name text : String} (h : s.HasText name text)
    (hne : text ≠ "") :
    s.number name =
      match Integer.readWithin? s.digitLimit (Text.trimChars text.toList) with
      | some n => .quiet (some n)
      | none => ⟨[.notNumber name text], none⟩ := by
  unfold number
  rw [get_of_hasText h, if_neg hne]
  rfl

/-- How a setting is read as a number, where `usual` is taken if it is none. If its text writes a
number, this is read and nothing is reported, unless there is a limit that the text exceeds. If its
text writes no number, there is one warning, and if that is the text of a property, this is so
whatever the environment holds. -/
theorem number_exact (s : Settings) (name text : String) (usual : Option Int)
    (htext : s.HasText name text) (hne : text ≠ "") :
    (∀ n, Integer.IsNumeral n text.toList →
      (∀ limit ∈ s.digitLimit, Integer.countDigits text.toList ≤ limit) →
        (s.number name).map (Option.or · usual) = .quiet (some n)) ∧
    ((∀ n, ¬Integer.IsNumeral n text.toList) →
      (s.number name).map (Option.or · usual) = ⟨[.notNumber name text], usual⟩ ∧
      (Note.notNumber name text).level = .warning ∧
      (s.properties.lookup name = some (.text text) → ∀ environ,
        ({ s with environ := environ }.number name).map (Option.or · usual) =
          ⟨[.notNumber name text], usual⟩)) := by
  constructor
  · intro n hnumeral hlimit
    have hshort : ∀ limit ∈ s.digitLimit,
        Integer.countDigits (Text.trimChars text.toList) ≤ limit :=
      fun limit hmem => (Integer.countDigits_trimChars_le text.toList).trans (hlimit limit hmem)
    rw [number_of_hasText htext hne, Integer.readWithin?_eq_read? hshort,
      Integer.read?_trimChars_iff.mpr hnumeral]
    rfl
  · intro hnone
    have hread : Integer.read? (Text.trimChars text.toList) = none := by
      rw [Option.eq_none_iff_forall_ne_some]
      exact fun n hn => hnone n (Integer.read?_trimChars_iff.mp hn)
    have hreported : ∀ s : Settings, s.HasText name text →
        (s.number name).map (Option.or · usual) = ⟨[.notNumber name text], usual⟩ := by
      intro s htext
      rw [number_of_hasText htext hne, Integer.readWithin?_eq_none hread]
      rfl
    refine ⟨hreported s htext, rfl, ?_⟩
    intro hproperty environ
    exact hreported { s with environ := environ } (.ofProperty hproperty hne)

/-- Zeros, an underscore and blanks in the environment, and a property that doubles an
underscore. -/
def sampleWritten : Settings where
  properties := [("kubernetes.request.timeout", .text "1__0")]
  environ := [("KUBERNETES_WATCH_RECONNECTLIMIT", "\t+0_07\u3000")]

/-- One setting is read as the number that it writes; another one writes none, and a variable that
does is not read in its place. -/
theorem number_exact_sample :
    (sampleWritten.number "kubernetes.watch.reconnectLimit").map (Option.or · (some 3)) =
      .quiet (some 7) ∧
    ({ sampleWritten with environ := [("KUBERNETES_REQUEST_TIMEOUT", "10")] }.number
      "kubernetes.request.timeout").map (Option.or · (some 3)) =
        ⟨[.notNumber "kubernetes.request.timeout" "1__0"], some 3⟩ := by
  have hspells : Integer.Spells (List.replicate 2 0 ++ (Nat.digits 10 7).reverse)
      ['0', '_', '0', '7'] :=
    .gap (by decide) (.next (by decide) (.last (by decide)))
  have hseven : Integer.IsNumeral 7 (['\t'] ++ (['+'] ++ ['0', '_', '0', '7']) ++ ['\u3000']) :=
    .intro (by simp [Text.isBlank]) (.intro (.plus (by omega)) hspells) (by simp [Text.isBlank])
  have hdoubled : ∀ n, ¬Integer.IsNumeral n "1__0".toList := by
    intro n hn
    have hread := Integer.read?_trimChars_iff.mpr hn
    have hnone : Integer.read? (Text.trimChars "1__0".toList) = none := by decide
    rw [hnone] at hread
    cases hread
  have hwritten := number_exact sampleWritten "kubernetes.watch.reconnectLimit" "\t+0_07\u3000"
    (some 3) (.ofVariable rfl (by decide)) (by decide)
  have hhidden := number_exact sampleWritten "kubernetes.request.timeout" "1__0" (some 3)
    (.ofProperty rfl (by decide)) (by decide)
  exact ⟨hwritten.1 7 hseven (by decide), (hhidden.2 hdoubled).2.2 rfl _⟩

end Settings

end ClusterConfig
