import ClusterConfig.Proofs.Numerals
import Mathlib.Data.List.TakeWhile

/-!
# Command lines that are read

A command line that is written out plainly: the name of a command, then switches in their full
spelling, each with its value after an equals sign if it takes one, and for an explanation the
status somewhere among them. What such a line asks for can be told without the reading of arguments.

Main definitions:

- `Given`: a switch as it stands on such a line.
- `Options.given`: what several of them say, one after the other.

Main results:

- Theorem `ofArguments_show`: what a line that shows the configuration asks for.
- Theorem `ofArguments_explain`: what a line that explains a status asks for.
- Theorem `ofArguments_explain_tooLong`: a status of too many digits is turned down.
-/

namespace ClusterConfig.CommandLine

/-! ## Switches on a line -/

/-- A switch as it stands on a command line: alone, or with its value after an equals sign. -/
inductive Given where
  | alone (s : Switch)
  | assigned (s : Switch) (value : String)
  deriving DecidableEq, Repr

/-- The full spelling of a switch. -/
def Switch.fullName : Switch → String
  | help => "--help"
  | version => "--version"
  | verbose => "--verbose"
  | kubeconfig => "--kubeconfig"
  | noServiceAccount => "--no-service-account"
  | noKubeconfig => "--no-kubeconfig"
  | master => "--master"
  | namespaceName => "--namespace"
  | json => "--json"
  | showSecrets => "--show-secrets"

namespace Given

/-- The argument that gives a switch. -/
def argument : Given → String
  | alone s => s.fullName
  | assigned s value => String.ofList (s.fullName.toList ++ '=' :: value.toList)

/-- What the argument is taken for. -/
def word : Given → Word
  | alone s => .flags [s]
  | assigned s value => .assigned s value

/-- Whether a part of a command line knows the switch, which has a value just if it takes one. What
asks for help or for the version is left out. -/
def fits (scope : Scope) : Given → Bool
  | alone s => scope.switches.contains s && !s.takesValue && s ≠ .help && s ≠ .version
  | assigned s _ => scope.switches.contains s && s.takesValue

/-- What the switch changes; two hyphens alone are no value. -/
def effect (o : Options) : Given → Options
  | alone s => o.turnOn s
  | assigned s value => o.assign s (if value = "--" then "" else value)

end Given

/-- What switches say, one after the other. -/
def Options.given (switches : List Given) : Options :=
  switches.foldl Given.effect .none

namespace Scope

/-! ## Words of a line -/

variable {scope : Scope}

/-- A part finds the switches that it knows under their full spellings. -/
theorem find?_fullName {s : Switch} (h : scope.switches.contains s = true) :
    scope.find? s.fullName = some s := by
  cases scope <;> cases s <;> first | rfl | cases h

/-- What is no spelling finds no switch. -/
theorem find?_eq_none {spelling : String} (h : ∀ entry ∈ scope.spellings, entry.1 ≠ spelling) :
    scope.find? spelling = none := by
  rw [find?, List.lookup_eq_none_iff]
  intro entry hentry
  simpa using (h entry hentry).symm

/-- No spelling has an equals sign. -/
theorem find?_eq_none_of_equals {spelling : String} (h : '=' ∈ spelling.toList) :
    scope.find? spelling = none := by
  have hspellings : ∀ entry ∈ scope.spellings, '=' ∉ entry.1.toList := by
    cases scope <;> decide
  refine find?_eq_none ?_
  rintro entry hentry rfl
  exact hspellings entry hentry h

/-- No spelling has a digit after its first character. -/
theorem find?_eq_none_of_isDigit {spelling : String} {c d : Char} {cs : List Char}
    (hspelling : spelling.toList = c :: d :: cs) (h : d.isDigit = true) :
    scope.find? spelling = none := by
  have hspellings : ∀ entry ∈ scope.spellings,
      (entry.1.toList.drop 1).head?.any Char.isDigit = false := by
    cases scope <;> decide
  refine find?_eq_none ?_
  rintro entry hentry rfl
  have hdigit := hspellings entry hentry
  simp [hspelling, h] at hdigit

theorem equals_not_mem_fullName (s : Switch) : '=' ∉ s.fullName.toList := by
  cases s <;> decide

/-- The characters of a switch with its value. -/
theorem toList_assigned (s : Switch) (value : String) :
    (Given.assigned s value).argument.toList = s.fullName.toList ++ '=' :: value.toList := by
  rw [Given.argument, String.toList_ofList]

/-- The argument as a whole is no spelling of a switch. -/
theorem find?_assigned (s : Switch) (value : String) :
    scope.find? (Given.assigned s value).argument = none :=
  find?_eq_none_of_equals (by simp [toList_assigned])

/-- A switch that a part knows is taken for what it is. -/
theorem word_argument {g : Given} (h : g.fits scope = true) :
    scope.word g.argument = .ok g.word := by
  cases g with
  | alone s =>
    simp only [Given.fits, Bool.and_eq_true, Bool.not_eq_true'] at h
    obtain ⟨⟨⟨hknown, hvalue⟩, -⟩, -⟩ := h
    have hstarts : startsLikeSwitch s.fullName.toList = true := by
      cases s <;> rfl
    simp [Given.argument, Given.word, word, hstarts, hyphenWord_of_find? (find?_fullName hknown),
      alone, hvalue]
  | assigned s value =>
    simp only [Given.fits, Bool.and_eq_true] at h
    obtain ⟨hknown, hvalue⟩ := h
    have hstarts : startsLikeSwitch (s.fullName.toList ++ '=' :: value.toList) = true := by
      cases s <;> rfl
    rw [word, toList_assigned, if_pos hstarts, hyphenWord, find?_assigned, toList_assigned,
      splitEquals_append _ _ (equals_not_mem_fullName s)]
    simp only [String.ofList_toList, find?_fullName hknown, withValue, hvalue, if_true, Given.word]

/-- Before the name of a command a switch with its value is nothing in particular. -/
theorem general_word_assigned {s : Switch} (h : s.takesValue = true) (value : String) :
    general.word (Given.assigned s value).argument =
      .ok (strange (Given.assigned s value).argument) := by
  have hname : ∃ cs, s.fullName.toList = '-' :: '-' :: cs := by
    cases s <;> exact ⟨_, rfl⟩
  have hcandidates : general.candidates s.fullName.toList = [] := by
    cases s <;> first | rfl | cases h
  have hunknown : general.find? s.fullName = none := by
    cases s <;> first | rfl | cases h
  have hstarts : startsLikeSwitch (s.fullName.toList ++ '=' :: value.toList) = true := by
    cases s <;> rfl
  have hsplit := splitEquals_append _ value.toList (equals_not_mem_fullName s)
  have hshort : general.shortened (Given.assigned s value).argument =
      .ok (strange (Given.assigned s value).argument) := by
    obtain ⟨cs, hcs⟩ := hname
    unfold shortened
    rw [toList_assigned, hcs]
    rw [hcs] at hsplit hcandidates
    simp only [List.cons_append] at hsplit ⊢
    rw [hsplit]
    simp only [hcandidates]
  rw [word, toList_assigned, if_pos hstarts, hyphenWord, find?_assigned, toList_assigned, hsplit]
  simp only [String.ofList_toList, hunknown, hshort]

/-- Before the name of a command the switches of commands are nothing in particular. -/
theorem exists_general_word {g : Given} (h : g.fits scope = true) :
    ∃ word, general.word g.argument = .ok word := by
  cases g with
  | assigned s value =>
    simp only [Given.fits, Bool.and_eq_true] at h
    exact ⟨_, general_word_assigned h.2 value⟩
  | alone s => cases s <;> exact ⟨_, rfl⟩

/-- Digits alone are a number. -/
theorem isNumber_of_isDigit {cs : List Char} (hne : cs ≠ []) (h : ∀ c ∈ cs, c.isDigit = true) :
    isNumber cs = true := by
  have hdigits : ∀ c ∈ cs, (Text.digit? c).isSome = true := fun c hc => Text.isSome_digit? (h c hc)
  have hdrop : cs.dropWhile (fun c => (Text.digit? c).isSome) = [] :=
    List.dropWhile_eq_nil_iff.mpr hdigits
  have hlast : cs.getLast? ≠ some '\n' := by
    intro hlast
    exact absurd (h '\n' (List.mem_of_getLast? hlast)) (by decide)
  unfold isNumber areDigits
  simpa [hdrop, hlast, hne] using hdigits

/-- A text without an equals sign has nothing after one. -/
theorem splitEquals_of_not_mem {cs : List Char} (h : '=' ∉ cs) : splitEquals cs = (cs, none) := by
  have hdrop : cs.dropWhile (· ≠ '=') = [] := by
    rw [List.dropWhile_eq_nil_iff]
    rintro c hc
    have hne : c ≠ '=' := by
      rintro rfl
      exact h hc
    simpa using hne
  rw [splitEquals, hdrop]

/-- A minus and digits are no switch. -/
theorem hyphenWord_of_isDigit {argument : String} {d : Char} {ds : List Char}
    (hchars : argument.toList = '-' :: d :: ds) (h : ∀ c ∈ d :: ds, c.isDigit = true) :
    scope.hyphenWord argument = .ok .plain := by
  have hd : d.isDigit = true := h d List.mem_cons_self
  have hhyphen : d ≠ '-' := by
    rintro rfl
    exact absurd hd (by decide)
  have hequals : '=' ∉ argument.toList := by
    rw [hchars, List.mem_cons]
    rintro (heq | hmem)
    · exact absurd heq (by decide)
    · exact absurd (h '=' hmem) (by decide)
  have hletter : scope.find? (String.ofList ['-', d]) = none :=
    find?_eq_none_of_isDigit String.toList_ofList hd
  have hstrange : strange argument = .plain := by
    simp [strange, hchars, isNumber_of_isDigit (List.cons_ne_nil d ds) h]
  have hshort : scope.shortened argument = .ok .plain := by
    unfold shortened
    rw [hchars]
    split
    · rename_i heq
      exact absurd (List.cons.inj (List.cons.inj heq).2).1 hhyphen
    · rename_i heq
      obtain ⟨rfl, -⟩ := List.cons.inj (List.cons.inj heq).2
      rw [hletter]
      exact congrArg _ hstrange
    · exact congrArg _ hstrange
  rw [hyphenWord, find?_eq_none_of_isDigit hchars hd, splitEquals_of_not_mem hequals]
  exact hshort

/-- The text of a number is no switch, with a sign as well. -/
theorem word_intText (n : Int) : scope.word (Value.intText n) = .ok .plain := by
  have hne : Nat.toDigits 10 n.natAbs ≠ [] := Nat.toDigits_ne_nil
  have hdigits : ∀ c ∈ Nat.toDigits 10 n.natAbs, c.isDigit = true :=
    fun c => Nat.isDigit_of_mem_toDigits (by omega) (by omega)
  have hchars := Integer.toList_intText n
  obtain ⟨d, ds, hds⟩ := List.exists_cons_of_ne_nil hne
  rw [hds] at hchars hdigits
  by_cases hn : n < 0
  · rw [if_pos hn, List.singleton_append] at hchars
    have hstarts : startsLikeSwitch (Value.intText n).toList = true := by
      rw [hchars]
      rfl
    rw [word, if_pos hstarts]
    exact hyphenWord_of_isDigit hchars hdigits
  · rw [if_neg hn, List.nil_append] at hchars
    refine word_of_not_startsLikeSwitch ?_
    rw [hchars]
    unfold startsLikeSwitch
    split
    · rename_i heq
      obtain ⟨rfl, -⟩ := List.cons.inj heq
      exact absurd (hdigits '-' List.mem_cons_self) (by decide)
    · rfl

/-! ## Parts of a line -/

/-- One more argument that is not two hyphens alone. -/
theorem words_cons {argument : String} {arguments : List String} {word : Word}
    {words : List (String × Word)} (hargument : argument ≠ "--")
    (hword : scope.word argument = .ok word) (hwords : scope.words arguments = .ok words) :
    scope.words (argument :: arguments) = .ok ((argument, word) :: words) := by
  rw [Scope.words, if_neg hargument, hword, hwords]

/-- No switch is given by two hyphens alone. -/
theorem argument_ne_separator (g : Given) : g.argument ≠ "--" := by
  cases g with
  | alone s => cases s <;> decide
  | assigned s value =>
    intro heq
    have hequals : '=' ∈ "--".toList := by
      rw [← heq, Given.argument, String.toList_ofList]
      simp
    exact absurd hequals (by decide)

/-- No number is two hyphens alone. -/
theorem intText_ne_separator (n : Int) : Value.intText n ≠ "--" := by
  intro heq
  have hread := Integer.read?_intText n
  have hnone : Integer.read? "--".toList = none := by decide
  rw [heq, hnone] at hread
  cases hread

/-- The switches that a part knows are taken for what they are. -/
theorem words_given {switches : List Given} (h : ∀ g ∈ switches, g.fits scope = true)
    {arguments : List String} {words : List (String × Word)}
    (hwords : scope.words arguments = .ok words) :
    scope.words (switches.map Given.argument ++ arguments) =
      .ok (switches.map (fun g => (g.argument, g.word)) ++ words) := by
  induction switches with
  | nil => exact hwords
  | cons g switches ih =>
    exact words_cons (argument_ne_separator g) (word_argument (h g List.mem_cons_self))
      (ih fun other hother => h other (List.mem_cons_of_mem g hother))

/-- The switches that a part knows have their effects, one after the other. -/
theorem take_given {switches : List Given} (h : ∀ g ∈ switches, g.fits scope = true)
    (rest : List (String × Word)) (t : Taken) :
    scope.take (switches.map (fun g => (g.argument, g.word)) ++ rest) t =
      scope.take rest { t with options := switches.foldl Given.effect t.options } := by
  induction switches generalizing t with
  | nil => rfl
  | cons g switches ih =>
    have hrest := fun t => ih (fun other hother => h other (List.mem_cons_of_mem g hother)) t
    have hfits := h g List.mem_cons_self
    cases g with
    | alone s =>
      have hturn : scope.turnOn [s] t = .ok { t with options := t.options.turnOn s } := by
        simp only [Given.fits, Bool.and_eq_true, decide_eq_true_eq] at hfits
        cases s <;> simp_all [turnOn]
      have hword : (Given.alone s).word = .flags [s] := rfl
      simp only [List.map_cons, List.cons_append, hword, take, hturn, hrest, List.foldl_cons]
      rfl
    | assigned s value =>
      have hword : (Given.assigned s value).word = .assigned s value := rfl
      simp only [List.map_cons, List.cons_append, hword, take_assigned, hrest, List.foldl_cons]
      rfl

/-- The first argument of an explanation that is no switch is its status. -/
theorem take_status {t : Taken} (ht : t.status = none) (argument : String)
    {rest : List (String × Word)} (hrest : ∀ next ∈ rest.head?, next.2 ≠ .separator) :
    explaining.take ((argument, .plain) :: rest) t =
      match readStatus? argument with
      | none => .error (.misused .explaining (.notStatus argument))
      | some n => explaining.take rest { t with status := some n } := by
  have hoperand : explaining.operand t = .status := by
    simp [operand, ht]
  rw [take, hoperand]
  cases readStatus? argument with
  | none => rfl
  | some n =>
    dsimp only
    split
    · rename_i next rest
      exact absurd rfl (hrest _ rfl)
    · rfl

/-- Arguments that can each be taken for something can be so together. -/
theorem exists_words {arguments : List String}
    (h : ∀ a ∈ arguments, a ≠ "--" ∧ ∃ word, scope.word a = .ok word) :
    ∃ words, scope.words arguments = .ok words ∧ words.map (·.1) = arguments := by
  induction arguments with
  | nil => exact ⟨[], rfl, rfl⟩
  | cons argument arguments ih =>
    obtain ⟨hargument, word, hword⟩ := h argument List.mem_cons_self
    obtain ⟨words, hwords, hmap⟩ := ih fun other hother => h other (List.mem_cons_of_mem _ hother)
    exact ⟨_, words_cons hargument hword hwords, by rw [List.map_cons, hmap]⟩

/-- The name of a command ends the first part of a line. -/
theorem read_general {name : String} {inner : Scope} (hname : (name, inner) ∈ commands)
    {arguments : List String} (h : ∀ a ∈ arguments, a ≠ "--" ∧ ∃ word, general.word a = .ok word)
    (o : Options) :
    general.read (name :: arguments) o =
      .ok { Taken.start o with handed := name :: arguments } := by
  have hplain : name ≠ "--" ∧ general.word name = .ok .plain := by
    simp only [commands, List.mem_cons, Prod.mk.injEq, List.not_mem_nil, or_false] at hname
    rcases hname with ⟨rfl, -⟩ | ⟨rfl, -⟩ <;> exact ⟨by decide, rfl⟩
  obtain ⟨words, hwords, hmap⟩ := exists_words h
  rw [read, words_cons hplain.1 hplain.2 hwords]
  simp [take, operand, hmap]

end Scope

namespace Invocation

/-- The name of a command hands the rest of the line to the part of the command. -/
theorem ofArguments_command {name : String} {scope : Scope} (hname : (name, scope) ∈ Scope.commands)
    {arguments : List String}
    (h : ∀ a ∈ arguments, a ≠ "--" ∧ ∃ word, Scope.general.word a = .ok word) :
    ofArguments (name :: arguments) =
      match scope.read arguments .none with
      | .error stop => .error stop
      | .ok t => ofTaken scope t t.extras := by
  have hlookup : Scope.commands.lookup name = some scope := by
    simp only [Scope.commands, List.mem_cons, Prod.mk.injEq, List.not_mem_nil, or_false] at hname
    rcases hname with ⟨rfl, rfl⟩ | ⟨rfl, rfl⟩ <;> rfl
  rw [ofArguments, Scope.read_general hname h]
  cases hread : scope.read arguments Options.none <;>
    simp only [hlookup, Taken.start, List.nil_append, hread]

/-- A line that shows the configuration asks for that with the switches that stand on it. -/
theorem ofArguments_show {switches : List Given} (h : ∀ g ∈ switches, g.fits .showing = true) :
    ofArguments ("show" :: switches.map Given.argument) = .ok ⟨.given switches, .showing⟩ := by
  have hgeneral : ∀ a ∈ switches.map Given.argument,
      a ≠ "--" ∧ ∃ word, Scope.general.word a = .ok word := by
    intro a ha
    obtain ⟨g, hg, rfl⟩ := List.mem_map.mp ha
    exact ⟨Scope.argument_ne_separator g, Scope.exists_general_word (h g hg)⟩
  have hcommand : ("show", Scope.showing) ∈ Scope.commands := by decide
  have hnil : Scope.showing.words [] = .ok [] := rfl
  have hwords := Scope.words_given h hnil
  rw [List.append_nil] at hwords
  rw [ofArguments_command hcommand hgeneral, Scope.read, hwords]
  simp only [Scope.take_given h [] (.start .none), Scope.take_nil]
  rfl

section Explain

variable {before after : List Given} (h : ∀ g ∈ before ++ after, g.fits .explaining = true)
  (status : Int)

/-- What stands on a line that explains a status, after the name of the command. -/
def explainArguments (before : List Given) (status : Int) (after : List Given) : List String :=
  before.map Given.argument ++ Value.intText status :: after.map Given.argument

include h

/-- Before the name of the command none of it ends a line, and all of it is some word. -/
theorem exists_general_word_explainArguments :
    ∀ a ∈ explainArguments before status after,
      a ≠ "--" ∧ ∃ word, Scope.general.word a = .ok word := by
  have hgiven : ∀ g ∈ before ++ after,
      g.argument ≠ "--" ∧ ∃ word, Scope.general.word g.argument = .ok word :=
    fun g hg => ⟨Scope.argument_ne_separator g, Scope.exists_general_word (h g hg)⟩
  intro a ha
  simp only [explainArguments, List.mem_append, List.mem_cons, List.mem_map] at ha
  rcases ha with ⟨g, hg, rfl⟩ | rfl | ⟨g, hg, rfl⟩
  · exact hgiven g (List.mem_append_left after hg)
  · exact ⟨Scope.intText_ne_separator status, _, Scope.word_intText status⟩
  · exact hgiven g (List.mem_append_right before hg)

/-- A line that explains a status is read up to the status, and then the status is read. -/
theorem ofArguments_explain_eq :
    ofArguments ("explain" :: explainArguments before status after) =
      match Scope.readStatus? (Value.intText status) with
      | none => .error (.misused .explaining (.notStatus (Value.intText status)))
      | some n => .ok ⟨.given (before ++ after), .explaining n⟩ := by
  have hbefore : ∀ g ∈ before, g.fits .explaining = true :=
    fun g hg => h g (List.mem_append_left after hg)
  have hafter : ∀ g ∈ after, g.fits .explaining = true :=
    fun g hg => h g (List.mem_append_right before hg)
  have hgeneral := exists_general_word_explainArguments h status
  have hcommand : ("explain", Scope.explaining) ∈ Scope.commands := by decide
  have hnil : Scope.explaining.words [] = .ok [] := rfl
  have hlast := Scope.words_given hafter hnil
  have hwords := Scope.words_given hbefore
    (Scope.words_cons (Scope.intText_ne_separator status) (Scope.word_intText status) hlast)
  rw [List.append_nil] at hwords
  rw [ofArguments_command hcommand hgeneral, Scope.read, explainArguments, hwords]
  -- no switch that stands alone or has its value is taken for two hyphens
  have hrest : ∀ next ∈ (after.map fun g => (g.argument, g.word)).head?,
      next.2 ≠ .separator := by
    intro next hnext
    obtain ⟨g, -, rfl⟩ := List.mem_map.mp (List.mem_of_mem_head? hnext)
    cases g <;> simp [Given.word]
  simp only [Scope.take_given hbefore, List.append_nil]
  rw [Scope.take_status rfl _ hrest]
  cases Scope.readStatus? (Value.intText status) with
  | none => rfl
  | some n =>
    have htake := Scope.take_given hafter []
      { Taken.start (.given before) with status := some n }
    rw [List.append_nil, Scope.take_nil] at htake
    have hoptions : after.foldl Given.effect (.given before) = .given (before ++ after) := by
      rw [Options.given, Options.given, List.foldl_append]
    rw [← hoptions]
    simp only [Taken.start, Options.given] at htake ⊢
    rw [htake]
    rfl

/-- A line that explains a status asks for that with the switches that stand before and after the
status. -/
theorem ofArguments_explain (hstatus : status.natAbs < Value.writingLimit) :
    ofArguments ("explain" :: explainArguments before status after) =
      .ok ⟨.given (before ++ after), .explaining status⟩ := by
  rw [ofArguments_explain_eq h, Scope.readStatus?_intText, if_pos hstatus]

/-- A status of too many digits is turned down. -/
theorem ofArguments_explain_tooLong (hstatus : ¬status.natAbs < Value.writingLimit) :
    ofArguments ("explain" :: explainArguments before status after) =
      .error (.misused .explaining (.notStatus (Value.intText status))) := by
  rw [ofArguments_explain_eq h, Scope.readStatus?_intText, if_neg hstatus]

end Explain

end Invocation

end ClusterConfig.CommandLine
