import ClusterConfig.Proofs.CommandLines
import ClusterConfig.Proofs.Failures

/-!
# Arguments one after the other

The arguments of a command line are told and taken from left to right. What was taken before has no
part in what is taken after, so a line can be read in two pieces, and it can be said what one more
argument between the two comes to. Only a switch whose value has to follow binds two arguments
together, and only the name of a command ends a part.

Main definitions:

- `Taken.preceded`: what is taken if notes were asked for before, or something was left.
- `Scope.Reads`: the arguments of a part are read.
- `Scope.ShowingTakes`: how words are taken that others follow, where the configuration is shown.

Main results:

- Theorem `take_preceded`: what was left before and the asking for notes have no part in the rest.
- Theorem `reads_general_cases`: a place on a line is before the name of the command or after it.
- Theorem `reads_showing_insert`: what one more argument after the name comes to.
- Theorem `ofArguments_eq_showing_iff`: which lines show the configuration.
-/

namespace ClusterConfig.CommandLine

/-! ## Words -/

/-- Whether what a word means has nothing to do with the words after it. -/
def Word.standsAlone : Word → Bool
  | plain | separator | wanting _ => false
  | _ => true

namespace Scope

section StandsAlone

variable (scope : Scope)

/-- Letters that share a hyphen stand alone. -/
theorem standsAlone_cluster (before : List Switch) (s : Switch) (cs : List Char) :
    (scope.cluster before s cs).standsAlone = true := by
  induction cs generalizing before s with
  | nil => rfl
  | cons letter cs ih =>
    unfold cluster
    split
    · exact ih _ _
    · rfl

/-- So does what has its value after an equals sign. -/
theorem standsAlone_withValue (spelling : List Char) (s : Switch) (value : List Char) :
    (scope.withValue spelling s value).standsAlone = true := by
  unfold withValue
  split
  · rfl
  · split
    · exact standsAlone_cluster _ _ _ _
    · rfl

/-- What spells no switch is plain or stands alone. -/
theorem plain_or_standsAlone_strange (argument : String) :
    strange argument = .plain ∨ (strange argument).standsAlone = true := by
  unfold strange
  split
  · exact .inl rfl
  · exact .inr rfl

end StandsAlone

/-- No switch before the name of a command takes a value. -/
theorem standsAlone_alone {spelling : String} {s : Switch}
    (h : (spelling, s) ∈ general.spellings) : (alone s).standsAlone = true := by
  have hall : ∀ entry ∈ general.spellings, (alone entry.2).standsAlone = true := by
    decide
  exact hall _ h

/-- Neither does one that is cut short. -/
theorem plain_or_standsAlone_shortened {argument : String} {word : Word}
    (h : general.shortened argument = .ok word) : word = .plain ∨ word.standsAlone = true := by
  unfold shortened at h
  split at h
  · split at h
    split at h
    · cases h
      exact plain_or_standsAlone_strange _
    · rename_i hcandidates _
      cases h
      have hmem := hcandidates ▸ List.mem_singleton_self _
      exact .inr (standsAlone_alone (List.mem_filter.mp hmem).1)
    · cases h
      exact .inr (standsAlone_withValue _ _ _ _)
    · cases h
  · split at h
    · cases h
      exact .inr (standsAlone_cluster _ _ _ _)
    · cases h
      exact plain_or_standsAlone_strange _
  · cases h
    exact plain_or_standsAlone_strange _

/-- Before the name of a command every argument is plain or stands alone. -/
theorem plain_or_standsAlone {argument : String} {word : Word}
    (h : general.word argument = .ok word) : word = .plain ∨ word.standsAlone = true := by
  unfold Scope.word at h
  split at h
  · unfold hyphenWord at h
    split at h
    · rename_i hfind
      cases h
      exact .inr (standsAlone_alone (mem_of_lookup_eq_some hfind))
    · split at h
      · split at h
        · cases h
          exact .inr (standsAlone_withValue _ _ _ _)
        · exact plain_or_standsAlone_shortened h
      · exact plain_or_standsAlone_shortened h
  · cases h
    exact .inl rfl

/-! ## Arguments that are read -/

variable {scope : Scope} {argument : String} {arguments before after : List String}

/-- Words are told one after the other, up to two hyphens alone. -/
theorem words_cons_iff (h : argument ≠ "--") {words : List (String × Word)} :
    scope.words (argument :: arguments) = .ok words ↔
      ∃ word rest, scope.word argument = .ok word ∧ scope.words arguments = .ok rest ∧
        words = (argument, word) :: rest := by
  rw [Scope.words, if_neg h]
  cases scope.word argument <;> cases scope.words arguments <;> simp [eq_comm]

/-- Words stand for the arguments that they are told from. -/
theorem map_fst_words {words : List (String × Word)} (h : scope.words arguments = .ok words) :
    words.map (·.1) = arguments := by
  induction arguments generalizing words with
  | nil =>
    cases h
    rfl
  | cons argument arguments ih =>
    by_cases hargument : argument = "--"
    · subst hargument
      rw [words_separator] at h
      cases h
      simp [Function.comp_def]
    · obtain ⟨word, rest, -, hrest, rfl⟩ := (words_cons_iff hargument).mp h
      rw [List.map_cons, ih hrest]

/-- The words of arguments without two hyphens alone are told part by part. -/
theorem words_append_iff (h : "--" ∉ before) {words : List (String × Word)} :
    scope.words (before ++ after) = .ok words ↔
      ∃ first second, scope.words before = .ok first ∧ scope.words after = .ok second ∧
        words = first ++ second := by
  induction before generalizing words with
  | nil =>
    rw [List.nil_append]
    constructor
    · intro hwords
      exact ⟨[], words, rfl, hwords, rfl⟩
    · rintro ⟨first, second, hfirst, hsecond, rfl⟩
      cases hfirst
      exact hsecond
  | cons argument before ih =>
    obtain ⟨hargument, hbefore⟩ : argument ≠ "--" ∧ "--" ∉ before := by
      simpa [eq_comm] using h
    simp only [List.cons_append, words_cons_iff hargument, ih hbefore]
    constructor
    · rintro ⟨word, _, hword, ⟨first, second, hfirst, hsecond, rfl⟩, rfl⟩
      exact ⟨_, second, ⟨word, first, hword, hfirst, rfl⟩, hsecond, rfl⟩
    · rintro ⟨_, second, ⟨word, first, hword, hfirst, rfl⟩, hsecond, rfl⟩
      exact ⟨word, _, hword, ⟨first, second, hfirst, hsecond, rfl⟩, rfl⟩

end Scope

/-! ## What goes before -/

/-- What has been taken if notes were asked for before, or arguments without a meaning were left. -/
def Taken.preceded (t : Taken) (loud : Bool) (left : List String) : Taken :=
  { t with
    options := { t.options with verbose := loud || t.options.verbose }
    extras := left ++ t.extras }

namespace Scope

variable (scope : Scope) (loud : Bool) (left : List String)

/-- A switch that asks for nothing has its effect. -/
theorem turnOn_cons {s : Switch} (hhelp : s ≠ .help) (hversion : s ≠ .version)
    (switches : List Switch) (t : Taken) :
    scope.turnOn (s :: switches) t =
      scope.turnOn switches { t with options := t.options.turnOn s } := by
  cases s <;> first | exact absurd rfl hhelp | exact absurd rfl hversion | simp [turnOn]

/-- Neither has a part in the effect of switches. -/
theorem turnOn_preceded (switches : List Switch) (t : Taken) :
    scope.turnOn switches (t.preceded loud left) =
      (scope.turnOn switches t).map (·.preceded loud left) := by
  induction switches generalizing t with
  | nil => rfl
  | cons s switches ih =>
    by_cases hhelp : s = .help
    · subst hhelp
      rfl
    · by_cases hversion : s = .version
      · subst hversion
        rfl
      · rw [turnOn_cons scope hhelp hversion, turnOn_cons scope hhelp hversion, ← ih]
        congr 1
        cases s <;> simp [Taken.preceded, Options.turnOn]

@[simp]
theorem operand_preceded (t : Taken) :
    scope.operand (t.preceded loud left) = scope.operand t := by
  cases scope <;> rfl

/-- Neither has a part in what else is taken. -/
theorem take_preceded (words : List (String × Word)) (t : Taken) :
    scope.take words (t.preceded loud left) =
      (scope.take words t).map (·.preceded loud left) := by
  have hleave : ∀ (t : Taken) (argument : String),
      (t.preceded loud left).leave argument = (t.leave argument).preceded loud left := by
    intro t argument
    simp [Taken.leave, Taken.preceded]
  have hassign : ∀ (t : Taken) (s : Switch) (value : String),
      (t.preceded loud left).assign s value = (t.assign s value).preceded loud left := by
    intro t s value
    cases s <;> rfl
  fun_induction take scope words t
  -- the name of a command is handed on with what follows it
  case case9 | case15 =>
    simp_all [take, Except.map]
    rfl
  -- a status is taken
  case case12 ih | case13 ih =>
    simp_all [take, Except.map]
    exact ih
  all_goals simp_all [take, turnOn_preceded, Except.map]

/-- Switches have no part in what is handed on. -/
theorem handed_turnOn {switches : List Switch} {t t' : Taken}
    (h : scope.turnOn switches t = .ok t') : t'.handed = t.handed := by
  induction switches generalizing t t' with
  | nil =>
    cases h
    rfl
  | cons s switches ih =>
    by_cases hhelp : s = .help
    · subst hhelp
      cases h
    · by_cases hversion : s = .version
      · subst hversion
        cases h
      · rw [turnOn_cons scope hhelp hversion] at h
        rw [ih h]

/-- A word that stands alone stops the reading, or it has its effect and the reading goes on. -/
theorem take_cons_cases {word : Word} (hword : word.standsAlone = true) (argument : String)
    (t : Taken) :
    (∃ stop, ∀ rest, scope.take ((argument, word) :: rest) t = .error stop) ∨
      ∃ t₁, t₁.handed = t.handed ∧
        ∀ rest, scope.take ((argument, word) :: rest) t = scope.take rest t₁ := by
  cases word with
  | flags switches =>
    cases hswitches : scope.turnOn switches t with
    | error stop => exact .inl ⟨stop, fun rest => by simp [take, hswitches]⟩
    | ok t₁ => exact .inr ⟨t₁, handed_turnOn scope hswitches, fun rest => by simp [take, hswitches]⟩
  | assigned s value => exact .inr ⟨t.assign s value, rfl, fun rest => by simp [take]⟩
  | overfull s value => exact .inl ⟨_, fun rest => by rw [take]⟩
  | unknown => exact .inr ⟨t.leave argument, rfl, fun rest => by rw [take]⟩
  | _ => cases hword

/-! ## Reading -/

/-- The arguments of a part are read, from what was taken before to what is taken after them. -/
def Reads (arguments : List String) (t t' : Taken) : Prop :=
  ∃ words, scope.words arguments = .ok words ∧ scope.take words t = .ok t'

variable {scope} {argument : String} {arguments before after : List String} {t t' : Taken}

theorem read_eq_ok_iff {o : Options} :
    scope.read arguments o = .ok t ↔ scope.Reads arguments (.start o) t := by
  unfold read Reads
  cases scope.words arguments <;> simp

theorem Reads.preceded (h : scope.Reads arguments t t') :
    scope.Reads arguments (t.preceded loud left) (t'.preceded loud left) := by
  obtain ⟨words, hwords, htake⟩ := h
  refine ⟨words, hwords, ?_⟩
  rw [take_preceded, htake]
  rfl

/-- Nothing is forgotten that was left before. -/
theorem extras_eq_nil_of_take {words : List (String × Word)} (h : scope.take words t = .ok t')
    (hnil : t'.extras = []) : t.extras = [] := by
  have hsplit : t = { t with extras := [] }.preceded false t.extras := by
    simp [Taken.preceded]
  rw [hsplit, take_preceded] at h
  cases hrest : scope.take words { t with extras := [] } with
  | error stop =>
    rw [hrest] at h
    cases h
  | ok t₁ =>
    rw [hrest] at h
    cases h
    exact (List.append_eq_nil_iff.mp hnil).1

/-- An argument whose word has its effect is read before those that follow. -/
theorem reads_cons_iff (hargument : argument ≠ "--") {word : Word}
    (hword : scope.word argument = .ok word) {t₁ : Taken}
    (htake : ∀ rest, scope.take ((argument, word) :: rest) t = scope.take rest t₁) :
    scope.Reads (argument :: arguments) t t' ↔ scope.Reads arguments t₁ t' := by
  unfold Reads
  simp only [words_cons_iff hargument, hword, Except.ok.injEq]
  constructor
  · rintro ⟨_, ⟨_, rest, rfl, hrest, rfl⟩, htaken⟩
    exact ⟨rest, hrest, (htake rest).symm.trans htaken⟩
  · rintro ⟨rest, hrest, htaken⟩
    exact ⟨_, ⟨word, rest, rfl, hrest, rfl⟩, (htake rest).trans htaken⟩

/-! ## Before and after the name of a command -/

/-- Arguments that are read can be told with one more among them. -/
theorem exists_words_insert {word : Word} (hargument : argument ≠ "--")
    (hword : scope.word argument = .ok word)
    (h : ∃ words, scope.words (before ++ after) = .ok words) :
    ∃ words, scope.words (before ++ argument :: after) = .ok words := by
  induction before with
  | nil =>
    obtain ⟨words, hwords⟩ := h
    exact ⟨_, words_cons hargument hword hwords⟩
  | cons first before ih =>
    by_cases hfirst : first = "--"
    · subst hfirst
      exact ⟨_, words_separator scope _⟩
    · obtain ⟨words, hwords⟩ := h
      obtain ⟨word₁, rest, hword₁, hrest, rfl⟩ := (words_cons_iff hfirst).mp hwords
      obtain ⟨rest', hrest'⟩ := ih ⟨rest, hrest⟩
      exact ⟨_, words_cons hfirst hword₁ hrest'⟩

/-- Two hyphens alone name no command. -/
theorem head?_handed_separator {words : List (String × Word)}
    (h : general.take (("--", .separator) :: words) t = .ok t') (hnone : t.handed = []) :
    t'.handed.head? ≠ some "show" := by
  cases words with
  | nil =>
    rw [take] at h
    cases h
    simp [Taken.leave, hnone]
  | cons next words =>
    unfold take at h
    simp only [operand] at h
    cases h
    simp

/-- A line that shows the configuration is read up to some place before the name of the command, or
the place is after the name, and then all that follows the name is handed on. -/
theorem reads_general_cases {rest : List String} (h : general.Reads (before ++ after) t t')
    (hnone : t.handed = []) (hhanded : t'.handed = "show" :: rest) :
    ("show" ∉ before ∧ ∃ t₁, general.Reads after t₁ t' ∧
        ∀ arguments t₂, general.Reads arguments t₁ t₂ → general.Reads (before ++ arguments) t t₂) ∨
      ("show" ∈ before ∧ ∃ more, rest = more ++ after ∧
        (∃ words, general.words (more ++ after) = .ok words) ∧
          ∀ arguments, (∃ words, general.words (more ++ arguments) = .ok words) →
            general.Reads (before ++ arguments) t
              { t' with handed := "show" :: (more ++ arguments) }) := by
  induction before generalizing t with
  | nil => exact .inl ⟨List.not_mem_nil, t, h, fun _ _ hreads => hreads⟩
  | cons first before ih =>
    have hshow : general.word "show" = .ok .plain := rfl
    by_cases hfirst : first = "--"
    · subst hfirst
      obtain ⟨words, hwords, htake⟩ := h
      rw [List.cons_append, words_separator] at hwords
      cases hwords
      exact absurd (congrArg List.head? hhanded) (head?_handed_separator htake hnone)
    · obtain ⟨words, hwords, htake⟩ := h
      rw [List.cons_append] at hwords
      obtain ⟨word, tail, hword, htail, rfl⟩ := (words_cons_iff hfirst).mp hwords
      rcases plain_or_standsAlone hword with rfl | halone
      · right
        have hmap := map_fst_words htail
        rw [take] at htake
        simp only [operand, hmap] at htake
        cases htake
        obtain ⟨rfl, rfl⟩ := List.cons.inj hhanded
        refine ⟨List.mem_cons_self, before, rfl, ⟨tail, htail⟩, ?_⟩
        rintro arguments ⟨words, hwords⟩
        refine ⟨_, words_cons hfirst hshow hwords, ?_⟩
        rw [take]
        simp only [operand, map_fst_words hwords]
      · rcases take_cons_cases general halone first t with ⟨stop, hstop⟩ | ⟨t₁, hsame, hgoes⟩
        · rw [hstop] at htake
          cases htake
        · have hcons : ∀ {arguments t'},
              general.Reads (first :: arguments) t t' ↔ general.Reads arguments t₁ t' :=
            reads_cons_iff hfirst hword hgoes
          have hne : "show" ≠ first := by
            rintro rfl
            rw [hshow] at hword
            cases hword
            cases halone
          have hreads : general.Reads (before ++ after) t₁ t' :=
            ⟨tail, htail, (hgoes tail).symm.trans htake⟩
          rcases ih hreads (hsame.trans hnone) with
            ⟨hbefore, t₂, hafter, hrest⟩ | ⟨hbefore, more, hmore, hwords, hrest⟩
          · refine .inl ⟨?_, t₂, hafter, fun arguments t₃ h₃ => hcons.mpr (hrest arguments t₃ h₃)⟩
            simp [hne, hbefore]
          · exact .inr ⟨List.mem_cons_of_mem first hbefore, more, hmore, hwords,
              fun arguments h₃ => hcons.mpr (hrest arguments h₃)⟩

/-! ## After the name of the command -/

/-- How words are taken that others follow, where the configuration is shown. -/
inductive ShowingTakes (first : List (String × Word)) (t : Taken) : Prop where
  /-- They are taken, and the others after them. -/
  | whole (t₁ : Taken) (h : ∀ second, showing.take (first ++ second) t = showing.take second t₁)
  /-- They end with a switch whose value is the first of the others. -/
  | unfinished (s : Switch) (h : ∀ argument word second, word ≠ .plain →
      showing.take (first ++ (argument, word) :: second) t =
        .error (.misused .showing (.noValue s)))
  /-- They stop the reading. -/
  | stopped (stop : Stop) (h : ∀ second, showing.take (first ++ second) t = .error stop)

/-- Words that are taken go before others. -/
theorem ShowingTakes.append (front : List (String × Word)) {first : List (String × Word)}
    {t₁ : Taken} (hfront : ∀ second, showing.take (front ++ second) t = showing.take second t₁)
    (h : ShowingTakes first t₁) : ShowingTakes (front ++ first) t := by
  cases h with
  | whole t₂ h =>
    refine .whole t₂ fun second => ?_
    rw [List.append_assoc, hfront, h]
  | unfinished s h =>
    refine .unfinished s fun argument word second hword => ?_
    rw [List.append_assoc, hfront, h _ _ _ hword]
  | stopped stop h =>
    refine .stopped stop fun second => ?_
    rw [List.append_assoc, hfront, h]

/-- A word that stands alone goes before others. -/
theorem ShowingTakes.cons {word : Word} (hword : word.standsAlone = true) {argument : String}
    {first : List (String × Word)} (h : ∀ t₁, ShowingTakes first t₁) :
    ShowingTakes ((argument, word) :: first) t := by
  rcases take_cons_cases showing hword argument t with ⟨stop, hstop⟩ | ⟨t₁, -, hgoes⟩
  · exact .stopped stop fun second => hstop (first ++ second)
  · exact (h t₁).append [(argument, word)] hgoes

/-- What is no switch is left where the configuration is shown, even two hyphens alone. -/
theorem take_showing_leave {argument : String} {word : Word}
    (hword : word = .plain ∨ word = .separator) (second : List (String × Word)) (t : Taken) :
    showing.take ((argument, word) :: second) t = showing.take second (t.leave argument) := by
  rcases hword with rfl | rfl
  · rw [take]
    rfl
  · cases second with
    | nil => rw [take, take]
    | cons next second =>
      conv_lhs => unfold take
      rfl

/-- Words are taken in one of the three ways. -/
theorem showingTakes (first : List (String × Word)) (t : Taken) : ShowingTakes first t := by
  match first with
  | [] => exact .whole t fun _ => rfl
  | [(argument, .wanting s)] =>
    refine .unfinished s fun next word second hword => ?_
    rw [List.singleton_append, take]
    simp [hword]
  | (argument, .wanting s) :: (value, word) :: first =>
    by_cases hword : word = .plain
    · subst hword
      exact (showingTakes first (t.assign s value)).append [(argument, .wanting s), (value, .plain)]
        fun second => by simp [take]
    · refine .stopped (.misused .showing (.noValue s)) fun second => ?_
      simp [take, hword]
  | (argument, .plain) :: first =>
    exact (showingTakes first (t.leave argument)).append [_]
      fun second => take_showing_leave (.inl rfl) second t
  | (argument, .separator) :: first =>
    exact (showingTakes first (t.leave argument)).append [_]
      fun second => take_showing_leave (.inr rfl) second t
  | (argument, .flags switches) :: first | (argument, .assigned s value) :: first
  | (argument, .overfull s value) :: first | (argument, .unknown) :: first =>
    exact .cons rfl (showingTakes first)

/-- Two hyphens alone would be left. -/
theorem separator_not_mem (h : showing.Reads arguments t t') (hnil : t'.extras = []) :
    "--" ∉ arguments := by
  intro hmem
  obtain ⟨before, after, rfl, hbefore⟩ := List.eq_append_cons_of_mem hmem
  obtain ⟨words, hwords, htake⟩ := h
  obtain ⟨first, second, -, hsecond, rfl⟩ := (words_append_iff hbefore).mp hwords
  rw [words_separator] at hsecond
  cases hsecond
  cases showingTakes first t with
  | whole t₁ htakes =>
    rw [htakes, take_showing_leave (.inr rfl)] at htake
    have hleft := extras_eq_nil_of_take htake hnil
    simp [Taken.leave] at hleft
  | unfinished s htakes =>
    have hne : Word.separator ≠ .plain := by
      rintro ⟨⟩
    rw [htakes "--" .separator _ hne] at htake
    cases htake
  | stopped stop htakes =>
    rw [htakes] at htake
    cases htake

/-- One more argument that is unknown where the configuration is shown is left, or stands in the
place of a value. -/
theorem reads_showing_insert (hargument : argument ≠ "--")
    (hword : showing.word argument = .ok .unknown) (h : showing.Reads (before ++ after) t t')
    (hnil : t'.extras = []) :
    showing.Reads (before ++ argument :: after) t (t'.preceded false [argument]) ∨
      ∃ s words, showing.words (before ++ argument :: after) = .ok words ∧
        showing.take words t = .error (.misused .showing (.noValue s)) := by
  have hseparator : "--" ∉ before := fun hmem =>
    separator_not_mem h hnil (List.mem_append_left after hmem)
  obtain ⟨words, hwords, htake⟩ := h
  obtain ⟨first, second, hfirst, hsecond, rfl⟩ := (words_append_iff hseparator).mp hwords
  have hinserted : showing.words (before ++ argument :: after) =
      .ok (first ++ (argument, .unknown) :: second) :=
    (words_append_iff hseparator).mpr ⟨first, _, hfirst, words_cons hargument hword hsecond, rfl⟩
  cases showingTakes first t with
  | whole t₁ htakes =>
    left
    refine ⟨_, hinserted, ?_⟩
    rw [htakes] at htake ⊢
    have hnone : t₁.extras = [] := extras_eq_nil_of_take htake hnil
    have hleave : t₁.leave argument = t₁.preceded false [argument] := by
      simp [Taken.leave, Taken.preceded, hnone]
    rw [take, hleave, take_preceded, htake]
    rfl
  | unfinished s htakes =>
    refine .inr ⟨s, _, hinserted, htakes _ _ _ ?_⟩
    rintro ⟨⟩
  | stopped stop htakes =>
    rw [htakes] at htake
    cases htake

end Scope

namespace Invocation

variable {arguments : List String} {o : Options}

/-- What was taken shows the configuration where nothing is left of the part for that. -/
theorem ofTaken_eq_showing_iff {scope : Scope} {t : Taken} {extras : List String} :
    ofTaken scope t extras = .ok ⟨o, .showing⟩ ↔
      scope = .showing ∧ extras = [] ∧ t.options = o := by
  unfold ofTaken Scope.command
  cases scope with
  | general => cases extras <;> simp
  | showing => cases extras <;> simp
  | explaining => cases t.status <;> cases extras <;> simp

/-- A line that shows the configuration is read in two parts that leave nothing. -/
theorem ofArguments_eq_showing_iff :
    ofArguments arguments = .ok ⟨o, .showing⟩ ↔
      ∃ t rest inner, Scope.general.Reads arguments (.start .none) t ∧ t.handed = "show" :: rest ∧
        t.extras = [] ∧ Scope.showing.Reads rest (.start t.options) inner ∧ inner.extras = [] ∧
        inner.options = o := by
  simp only [← Scope.read_eq_ok_iff]
  unfold ofArguments
  constructor
  · intro h
    split at h
    · cases h
    · rename_i t hread
      split at h
      · cases (ofTaken_eq_showing_iff.mp h).1
      · rename_i name rest hhanded
        split at h
        · cases h
        · rename_i scope hlookup
          split at h
          · cases h
          · rename_i inner hinner
            obtain ⟨rfl, hextras, hoptions⟩ := ofTaken_eq_showing_iff.mp h
            obtain ⟨hleft, hnil⟩ := List.append_eq_nil_iff.mp hextras
            have hname : name = "show" := by
              simpa [Scope.commands] using mem_of_lookup_eq_some hlookup
            subst hname
            exact ⟨t, rest, inner, hread, hhanded, hleft, hinner, hnil, hoptions⟩
  · rintro ⟨t, rest, inner, hread, hhanded, hextras, hinner, hnil, hoptions⟩
    have hlookup : Scope.commands.lookup "show" = some .showing := rfl
    rw [hread]
    simp only [hhanded, hlookup, hinner]
    rw [ofTaken_eq_showing_iff, hextras, hnil]
    exact ⟨rfl, rfl, hoptions⟩

end Invocation

end ClusterConfig.CommandLine
