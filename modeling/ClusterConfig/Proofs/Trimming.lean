import ClusterConfig.Text.Blank
import ClusterConfig.Text.Decode
import Mathlib.Data.List.TakeWhile

/-!
# What splitting and trimming keep

The pieces of a text between separators are made of its other characters. A text without the blanks
at its two ends is told apart by what it is part of: nothing but blanks stands around it, and it
neither starts nor ends with one. Line ends are blanks in every form, so it makes no difference to
what is blank in which form they are written.

Main definition:

- `Text.IsCore`: what is left of characters without the blanks at their two ends.

Main results:

- Theorem `exists_mem_splitOnP_iff`: what the pieces between separators are made of.
- Theorem `trimChars_eq_iff`: trimming gives the core and nothing else does.
- Theorem `trimChars_eq_nil_iff`: nothing is left just of blanks.
-/

namespace ClusterConfig.Text

/-- What is left of characters without the blanks at their two ends: it stands unchanged among them
with nothing but blanks around it, and neither its first nor its last character is blank. -/
structure IsCore (core cs : List Char) : Prop where
  exists_around : ∃ before after, cs = before ++ core ++ after ∧
    (∀ c ∈ before, isBlank c = true) ∧ ∀ c ∈ after, isBlank c = true
  head : ∀ c ∈ core.head?, isBlank c = false
  last : ∀ c ∈ core.getLast?, isBlank c = false

/-! ## Pieces -/

/-- The characters of the pieces between separators are those of the whole that do not separate. -/
theorem exists_mem_splitOnP_iff {separates : Char → Bool} {cs : List Char} {c : Char} :
    (∃ piece ∈ cs.splitOnP separates, c ∈ piece) ↔ c ∈ cs ∧ separates c = false := by
  induction cs with
  | nil => simp
  | cons d cs ih =>
    rw [List.splitOnP_cons_eq_if_modifyHead, List.mem_cons]
    split
    · rename_i hd
      have hne : separates c = false → c ≠ d := by
        rintro hc rfl
        rw [hd] at hc
        cases hc
      have hpieces : (∃ piece ∈ [] :: cs.splitOnP separates, c ∈ piece) ↔
          ∃ piece ∈ cs.splitOnP separates, c ∈ piece := by
        simp
      rw [hpieces, ih]
      exact and_congr_left fun hc => (or_iff_right (hne hc)).symm
    · rename_i hd
      obtain ⟨first, pieces, hpieces⟩ :=
        List.exists_cons_of_ne_nil (List.splitOnP_ne_nil separates cs)
      have hinside : c = d → separates c = false := by
        rintro rfl
        simpa using hd
      rw [hpieces] at ih ⊢
      simp only [List.modifyHead_cons, List.mem_cons, exists_eq_or_imp] at ih ⊢
      rw [or_assoc, ih, or_and_right, and_iff_left_of_imp hinside]

/-! ## Blanks at one end -/

/-- Blanks in front are dropped. -/
theorem dropBlanks_append {blanks : List Char} (h : ∀ c ∈ blanks, isBlank c = true)
    (cs : List Char) : dropBlanks (blanks ++ cs) = dropBlanks cs :=
  List.dropWhile_append_of_pos h

/-- Nothing else is dropped. -/
theorem exists_append_dropBlanks (cs : List Char) :
    ∃ blanks, cs = blanks ++ dropBlanks cs ∧ ∀ c ∈ blanks, isBlank c = true :=
  ⟨cs.takeWhile isBlank, List.takeWhile_append_dropWhile.symm,
    fun _ hc => List.mem_takeWhile_imp hc⟩

/-- What remains does not start with a blank. -/
theorem not_isBlank_head_dropBlanks (cs : List Char) :
    ∀ c ∈ (dropBlanks cs).head?, isBlank c = false := by
  intro c hc
  have hnot := List.head?_dropWhile_not isBlank cs
  rw [dropBlanks] at hc
  rw [Option.mem_def.mp hc] at hnot
  simpa using hnot

/-- Characters that do not start with a blank are kept. -/
theorem dropBlanks_eq_self {cs : List Char} (h : ∀ c ∈ cs.head?, isBlank c = false) :
    dropBlanks cs = cs := by
  cases cs with
  | nil => rfl
  | cons c cs => exact dropBlanks_cons_of_not_blank (h c rfl)

/-! ## Blanks at both ends -/

/-- Trimming gives the core of characters. -/
theorem isCore_trimChars (cs : List Char) : IsCore (trimChars cs) cs := by
  obtain ⟨before, hbefore, hblank⟩ := exists_append_dropBlanks cs
  obtain ⟨after, hafter, hblank'⟩ := exists_append_dropBlanks (dropBlanks cs).reverse
  have hrest : dropBlanks cs = trimChars cs ++ after.reverse := by
    have hreverse := congrArg List.reverse hafter
    rwa [List.reverse_reverse, List.reverse_append] at hreverse
  refine ⟨⟨before, after.reverse, ?_, hblank, ?_⟩, ?_, ?_⟩
  · rw [List.append_assoc, ← hrest]
    exact hbefore
  · intro c hc
    exact hblank' c (List.mem_reverse.mp hc)
  · intro c hc
    apply not_isBlank_head_dropBlanks cs c
    rw [hrest, List.head?_append, Option.mem_def.mp hc]
    rfl
  · intro c hc
    apply not_isBlank_head_dropBlanks (dropBlanks cs).reverse c
    rwa [trimChars, List.getLast?_reverse] at hc

/-- The core of characters is what trimming gives. -/
theorem IsCore.trimChars_eq {core cs : List Char} (h : IsCore core cs) : trimChars cs = core := by
  obtain ⟨⟨before, after, rfl, hbefore, hafter⟩, hhead, hlast⟩ := h
  have hafter' : ∀ c ∈ after.reverse, isBlank c = true :=
    fun c hc => hafter c (List.mem_reverse.mp hc)
  rw [trimChars, List.append_assoc, dropBlanks_append hbefore]
  cases core with
  | nil =>
    have hnone : dropBlanks after = [] := by
      have hdropped := dropBlanks_append hafter []
      rwa [List.append_nil] at hdropped
    rw [List.nil_append, hnone]
    rfl
  | cons c core =>
    have hkept : dropBlanks ((c :: core) ++ after) = (c :: core) ++ after :=
      dropBlanks_eq_self hhead
    have hkept' : dropBlanks (c :: core).reverse = (c :: core).reverse := by
      apply dropBlanks_eq_self
      rwa [List.head?_reverse]
    rw [hkept, List.reverse_append, dropBlanks_append hafter', hkept', List.reverse_reverse]

/-- A character that is not blank stands in the core as often as in the whole. -/
theorem IsCore.count_eq {core cs : List Char} (h : IsCore core cs) {c : Char}
    (hc : isBlank c = false) : core.count c = cs.count c := by
  have hnone : ∀ {blanks : List Char}, (∀ b ∈ blanks, isBlank b = true) → blanks.count c = 0 := by
    intro blanks hblank
    apply List.count_eq_zero_of_not_mem
    intro hmem
    rw [hblank c hmem] at hc
    cases hc
  obtain ⟨⟨before, after, rfl, hbefore, hafter⟩, -, -⟩ := h
  rw [List.count_append, List.count_append, hnone hbefore, hnone hafter, Nat.zero_add, Nat.add_zero]

/-- Trimming gives the core of characters, and nothing else is their core. -/
theorem trimChars_eq_iff {core cs : List Char} : trimChars cs = core ↔ IsCore core cs := by
  constructor
  · rintro rfl
    exact isCore_trimChars cs
  · exact IsCore.trimChars_eq

/-- Nothing is left just of blanks. -/
theorem trimChars_eq_nil_iff {cs : List Char} : trimChars cs = [] ↔ ∀ c ∈ cs, isBlank c = true := by
  rw [trimChars_eq_iff]
  constructor
  · rintro ⟨⟨before, after, rfl, hbefore, hafter⟩, -, -⟩ c hc
    rw [List.append_nil] at hc
    rcases List.mem_append.mp hc with hmem | hmem
    · exact hbefore c hmem
    · exact hafter c hmem
  · intro h
    refine ⟨⟨cs, [], ?_, h, nofun⟩, nofun, nofun⟩
    rw [List.append_nil, List.append_nil]

/-! ## Line ends -/

/-- A text is blank just where it is with all line ends written alike. -/
theorem blank_unifyNewlines_iff (cs : List Char) :
    (∀ c ∈ unifyNewlines cs, isBlank c = true) ↔ ∀ c ∈ cs, isBlank c = true := by
  have hfeed : isBlank '\n' = true := by decide
  have hreturn : isBlank '\r' = true := by decide
  fun_induction unifyNewlines cs with
  | case1 cs ih => simp [hfeed, hreturn, ih]
  | case2 cs _ ih => simp [hfeed, hreturn, ih]
  | case3 c cs _ _ ih => simp [ih]
  | case4 => simp

end ClusterConfig.Text
