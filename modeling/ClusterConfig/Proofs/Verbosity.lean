import ClusterConfig.Proofs.Arguments
import ClusterConfig.Proofs.Renderings

/-!
# Asking for notes

The program shows the notes of a resolution if it is asked to. That changes nothing else: it ends in
the same way, shows and prints the same, and the notes that warn of something are shown anyway. But
notes can be asked for before the name of a command only. After the name the switch is not known,
and the line is turned down.

Main definitions:

- `Options.loud`: what the switches of a line say with notes asked for.
- `Invocation.TurnsDown`: the ways to turn down a switch that is not known.
- `Report.IsQuieter`: a run says the same as another one and shows fewer notes.

Main results:

- Theorem `isQuieter_inspect`: asking for notes changes nothing but which of them are shown.
- Theorem `verbose_accepted_iff`: where notes can be asked for, and what comes of it.
-/

namespace ClusterConfig.CommandLine

/-- The same options, but notes are asked for. -/
def Options.loud (o : Options) : Options :=
  { o with verbose := true }

/-! ## The switch on a line -/

namespace Invocation

variable {before after : List String} {o : Options}

/-- The ways to turn down a switch that the part for showing does not know: it is left, or it stands
in the place of a value. -/
inductive TurnsDown (argument : String) : Stop → Prop where
  | left : TurnsDown argument (.misused .general (.unrecognized [argument]))
  | noValue (s : Switch) : TurnsDown argument (.misused .showing (.noValue s))

/-- Asked for before the name of the command, notes are shown. -/
theorem ofArguments_verbose (h : ofArguments (before ++ after) = .ok ⟨o, .showing⟩)
    (hbefore : "show" ∉ before) :
    ofArguments (before ++ "-v" :: after) = .ok ⟨o.loud, .showing⟩ := by
  obtain ⟨t, rest, inner, hread, hhanded, hextras, hinner, hnil, rfl⟩ :=
    ofArguments_eq_showing_iff.mp h
  rcases Scope.reads_general_cases hread rfl hhanded with
    ⟨-, t₁, hafter, hgoes⟩ | ⟨hmem, -⟩
  · have hword : Scope.general.word "-v" = .ok (.flags [.verbose]) := by decide
    have hgoesOn : ∀ rest, Scope.general.take (("-v", .flags [.verbose]) :: rest) t₁ =
        Scope.general.take rest (t₁.preceded true []) := by
      intro rest
      simp [Scope.take, Scope.turnOn, Options.turnOn, Taken.preceded]
    have hverbose : Scope.general.Reads ("-v" :: after) t₁ (t.preceded true []) :=
      (Scope.reads_cons_iff (by decide) hword hgoesOn).mpr (hafter.preceded true [])
    refine ofArguments_eq_showing_iff.mpr
      ⟨t.preceded true [], rest, inner.preceded true [], hgoes _ _ hverbose, hhanded, ?_,
        hinner.preceded true [], ?_, rfl⟩
    · exact hextras
    · exact hnil
  · exact absurd hmem hbefore

/-- Asked for after the name of the command, they are not. -/
theorem ofArguments_verbose_turnsDown (h : ofArguments (before ++ after) = .ok ⟨o, .showing⟩)
    (hbefore : "show" ∈ before) :
    ∃ stop, TurnsDown "-v" stop ∧ ofArguments (before ++ "-v" :: after) = .error stop := by
  obtain ⟨t, rest, inner, hread, hhanded, hextras, hinner, hnil, rfl⟩ :=
    ofArguments_eq_showing_iff.mp h
  rcases Scope.reads_general_cases hread rfl hhanded with
    ⟨hnot, -⟩ | ⟨-, more, rfl, hwords, hgoes⟩
  · exact absurd hbefore hnot
  · have hgeneral : Scope.general.word "-v" = .ok (.flags [.verbose]) := by decide
    have hshowing : Scope.showing.word "-v" = .ok .unknown := by decide
    have hread' := hgoes _ (Scope.exists_words_insert (by decide) hgeneral hwords)
    have hlookup : Scope.commands.lookup "show" = some .showing := rfl
    unfold ofArguments
    rw [Scope.read_eq_ok_iff.mpr hread']
    simp only [hlookup]
    rcases Scope.reads_showing_insert (by decide) hshowing hinner hnil with
      hreads | ⟨s, words, hinserted, htake⟩
    · refine ⟨_, .left, ?_⟩
      rw [Scope.read_eq_ok_iff.mpr hreads]
      simp [ofTaken, Scope.command, Taken.preceded, hextras, hnil]
    · refine ⟨_, .noValue s, ?_⟩
      rw [Scope.read, hinserted]
      simp only [htake]

end Invocation

/-! ## Notes -/

namespace Report

/-- A run says the same as another one and shows fewer notes: those that warn are the same. -/
structure IsQuieter (quiet loud : Report) : Prop where
  ending : quiet.ending = loud.ending
  items : quiet.items = loud.items
  printed : quiet.printed = loud.printed
  complaint : quiet.complaint = loud.complaint
  fewer : quiet.notes.Sublist loud.notes
  warnings : quiet.notes.filter (Note.isShownFrom .warning) =
    loud.notes.filter (Note.isShownFrom .warning)

end Report

section Inspection

variable (o : Options) (w : World) (command : Command)

/-- The notes of a run are those of the resolution, from some level on. -/
theorem notes_inspect :
    (inspect o w command).notes = (o.resolve w).notes.filter (Note.isShownFrom o.leastLevel) := by
  unfold inspect
  dsimp only
  split <;> rfl

/-- Asked for, all notes are shown. -/
theorem notes_inspect_loud : (inspect o.loud w command).notes = (o.resolve w).notes := by
  have hleast : o.loud.leastLevel = .debug := rfl
  have hresolve : o.loud.resolve w = o.resolve w := o.resolve_verbose w true
  rw [notes_inspect, hleast, hresolve]
  exact List.filter_eq_self.mpr fun n _ => n.isShownFrom_debug

/-- Asking for notes changes nothing but which of them are shown. -/
theorem isQuieter_inspect :
    (inspect o w command).IsQuieter (inspect o.loud w command) := by
  have hact : ∀ c, act o.loud w c command = act o w c command := by
    intro c
    cases command <;> rfl
  have hsame : (inspect o w command).ending = (inspect o.loud w command).ending ∧
      (inspect o w command).items = (inspect o.loud w command).items ∧
      (inspect o w command).printed = (inspect o.loud w command).printed ∧
      (inspect o w command).complaint = (inspect o.loud w command).complaint := by
    have hresolve : o.loud.resolve w = o.resolve w := o.resolve_verbose w true
    unfold inspect
    rw [hresolve]
    dsimp only
    cases (o.resolve w).outcome with
    | error failure => exact ⟨rfl, rfl, rfl, rfl⟩
    | ok c =>
      dsimp only
      rw [hact]
      exact ⟨rfl, rfl, rfl, rfl⟩
  obtain ⟨hending, hitems, hprinted, hcomplaint⟩ := hsame
  refine ⟨hending, hitems, hprinted, hcomplaint, ?_, ?_⟩
  · rw [notes_inspect, notes_inspect_loud]
    exact List.filter_sublist
  · have hlevel : ∀ n : Note, (n.isShownFrom .warning && n.isShownFrom o.leastLevel) =
        n.isShownFrom .warning := by
      intro n
      unfold Options.leastLevel
      cases o.verbose <;> simp
    rw [notes_inspect, notes_inspect_loud, List.filter_filter]
    simp only [hlevel]

end Inspection

/-! ## Where notes can be asked for -/

/-- A run that turns an unknown switch down ends with the exit code for that. -/
theorem ending_ofStop {argument : String} {stop : Stop}
    (h : Invocation.TurnsDown argument stop) : (Report.ofStop stop).ending = .exit 2 := by
  cases h <;> rfl

/-- Where a command line shows the configuration, notes can be asked for before the name of the
command and nowhere else. There the run says the same in all respects but for the notes that warn of
nothing, which are shown as well. After the name of the command the line is turned down. -/
theorem verbose_accepted_iff {before after : List String} {o : Options}
    (h : Invocation.ofArguments (before ++ after) = .ok ⟨o, .showing⟩) (w : World) :
    ((∃ i, Invocation.ofArguments (before ++ "-v" :: after) = .ok i) ↔ "show" ∉ before) ∧
      ("show" ∉ before →
        (run w (before ++ after)).IsQuieter (run w (before ++ "-v" :: after))) ∧
      ("show" ∈ before →
        ∃ stop, Invocation.TurnsDown "-v" stop ∧
          run w (before ++ "-v" :: after) = .ofStop stop ∧
            (run w (before ++ "-v" :: after)).ending = .exit 2) := by
  refine ⟨⟨?_, ?_⟩, ?_, ?_⟩
  · rintro ⟨i, hi⟩ hbefore
    obtain ⟨stop, -, hstop⟩ := Invocation.ofArguments_verbose_turnsDown h hbefore
    rw [hstop] at hi
    cases hi
  · intro hbefore
    exact ⟨_, Invocation.ofArguments_verbose h hbefore⟩
  · intro hbefore
    rw [run_of_showing h, run_of_showing (Invocation.ofArguments_verbose h hbefore)]
    exact isQuieter_inspect o w .showing
  · intro hbefore
    obtain ⟨stop, hturns, hstop⟩ := Invocation.ofArguments_verbose_turnsDown h hbefore
    have hrun : run w (before ++ "-v" :: after) = .ofStop stop := by
      obtain ⟨first, rest, hline⟩ :=
        List.exists_cons_of_ne_nil (List.append_ne_nil_of_right_ne_nil before
          (List.cons_ne_nil "-v" after))
      rw [hline] at hstop ⊢
      exact run_of_error hstop
    refine ⟨stop, hturns, hrun, ?_⟩
    rw [hrun]
    exact ending_ofStop hturns

/-- A world without settings and files. -/
def bareWorld : World where
  settings := { properties := [], environ := [] }
  files := fun _ => .missing
  home := "home"
  mount := ⟨"sa/token", "sa/ca.crt"⟩

/-- Notes are shown if they are asked for before the command, and the line is turned down if they
are asked for after it. -/
theorem verbose_accepted_iff_sample :
    (run bareWorld ["show", "--json"]).IsQuieter (run bareWorld ["-v", "show", "--json"]) ∧
      (run bareWorld ["show", "-v", "--json"]).ending = .exit 2 := by
  have hline : Invocation.ofArguments ["show", "--json"] =
      .ok ⟨{ Options.none with json := true }, .showing⟩ := by
    decide
  have hfirst : Invocation.ofArguments ([] ++ ["show", "--json"]) = _ := hline
  have hsecond : Invocation.ofArguments (["show"] ++ ["--json"]) = _ := hline
  obtain ⟨-, hquieter, -⟩ := verbose_accepted_iff hfirst bareWorld
  obtain ⟨-, -, hturned⟩ := verbose_accepted_iff hsecond bareWorld
  obtain ⟨stop, -, -, hending⟩ := hturned List.mem_cons_self
  exact ⟨hquieter List.not_mem_nil, hending⟩

/-- A line that shows the configuration is turned down with a switch for notes at its end. -/
theorem verbose_turned_down :
    (run bareWorld ["show"]).ending = .exit 0 ∧
      (run bareWorld ["show", "-v"]).ending = .exit 2 ∧
      (run bareWorld ["show", "-v"]).complaint = "kubeconf: error: unrecognized arguments: -v" := by
  decide +kernel

end ClusterConfig.CommandLine
