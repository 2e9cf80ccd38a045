import ClusterConfig.Proofs.CommandLines
import ClusterConfig.Proofs.Environments
import ClusterConfig.Proofs.JsonReading
import ClusterConfig.Proofs.Precedence

/-!
# The program as resolution

A run of the program on a plain command line is a resolution in an environment that says what the
switches say. With a configuration the program shows it as a document, or explains a status with it;
without one it ends for the reason for which there is none.

Main results:

- Theorem `isWhole_document`: a configuration that is made of texts has no numbers with a point or
  an exponent, so that its document reads back.
- Theorem `run_refines_resolve`: the program shows and explains what resolution comes to.
- Theorem `run_refines_resolve_limits`: a status of too many digits, two hyphens as a value and
  pairs of halves are exceptions.
-/

namespace ClusterConfig

/-! ## Values that documents show -/

namespace Value

/-- Whether the document that shows a value has no number with a point or an exponent. -/
def IsWhole (v : Value) : Prop :=
  (Json.ofValue v).isWhole = true

theorem isWhole_null : null.IsWhole := rfl

theorem isWhole_bool (b : Bool) : (bool b).IsWhole := rfl

theorem isWhole_int (n : Int) : (int n).IsWhole := rfl

theorem isWhole_text (s : String) : (text s).IsWhole := rfl

theorem isWhole_ofText? (o : Option String) : (ofText? o).IsWhole := by
  cases o <;> rfl

theorem isWhole_list_texts (items : List String) : (list (items.map text)).IsWhole := by
  induction items with
  | nil => rfl
  | cons item items ih => exact ih

/-- A value that gives way to another one only where it is null shows one of the two. -/
theorem IsWhole.orElse {v w : Value} (hv : v.IsWhole) (hw : w.IsWhole) : (v.orElse w).IsWhole := by
  unfold Value.orElse
  split
  · exact hw
  · exact hv

end Value

/-- Settings that are texts supply values without points and exponents. -/
theorem Settings.isWhole_field {s : Settings} (h : s.IsText) (f : Field) :
    (s.field f).value.IsWhole := by
  have hget : ∀ name, (s.get name).IsWhole := by
    intro name
    rcases s.get_of_isText h name with hnull | ⟨text, htext⟩
    · rw [hnull]
      exact Value.isWhole_null
    · rw [htext]
      exact Value.isWhole_text text
  have hfirst : ∀ names, (s.first names).IsWhole := by
    intro names
    induction names with
    | nil => exact Value.isWhole_null
    | cons name names ih => exact (hget name).orElse ih
  unfold field readAs
  split
  · exact hfirst _
  · rename_i name _ _ _
    dsimp only [Noted.quiet]
    cases s.parts name with
    | none => exact Value.isWhole_null
    | some items => exact Value.isWhole_list_texts items
  · rename_i name _ _ _
    dsimp only [Noted.map]
    cases (s.flag name).value with
    | none => exact Value.isWhole_null
    | some b => exact Value.isWhole_bool b
  · rename_i name _ _ _
    dsimp only [Noted.map]
    cases (s.number name).value with
    | none => exact Value.isWhole_null
    | some n => exact Value.isWhole_int n
  · exact Value.isWhole_null

namespace World

/-- The sources after the settings supply texts, truth values, lists of texts and whole numbers. -/
theorem isWhole_supplied {w : World} (h : w.settings.IsText) (reader : Yaml.Reader) (f : Field) :
    (w.supplied reader [] f).IsWhole := by
  have haccount : (w.offer reader [] f .serviceAccount).IsWhole := by
    unfold World.offer ServiceAccount.offer
    dsimp only
    split
    · exact Value.isWhole_ofText? _
    · split
      · exact Value.isWhole_ofText? _
      · exact Value.isWhole_null
    · exact Value.isWhole_null
  have hcluster : (w.clusterOffer reader f).IsWhole := by
    unfold World.clusterOffer Snapshot.clusterOffer Cluster.offer
    repeat' split
    all_goals first | exact Value.isWhole_ofText? _ | rfl
  have huser : (w.userOffer reader f).IsWhole := by
    unfold World.userOffer Snapshot.userOffer User.offerOf User.offer
    repeat' split
    all_goals first | exact Value.isWhole_ofText? _ | rfl
  have hdefault : f.default.IsWhole := by
    cases f <;> rfl
  rw [World.supplied_eq]
  exact Value.isWhole_null.orElse ((Settings.isWhole_field h f).orElse
    (haccount.orElse (hcluster.orElse (huser.orElse hdefault))))

end World

namespace CommandLine

/-! ## Documents of configurations -/

/-- A configuration that is made of texts has no values with points and exponents. -/
theorem isWhole_values {w : World} {reader : Yaml.Reader} {c : Config} (h : w.settings.IsText)
    (hc : (resolve w reader []).outcome = .ok c) (f : Field) : (c.values f).IsWhole := by
  obtain ⟨d₀, d₁, d₂, h₀, h₁, h₂, hfinish⟩ := Resolve.resolve_eq_ok_iff.mp hc
  obtain ⟨⟨url, -, hmaster⟩, hprotocols, hfields⟩ := Resolve.values_finish hfinish
  have hnodup : (([] : List (String × Value)).map Prod.fst).Nodup := List.nodup_nil
  have hsupplied := Resolve.supplied_of_stages hnodup h₀ h₁ h₂
  by_cases hf : f = .masterUrl
  · rw [hf, hmaster]
    exact Value.isWhole_text _
  by_cases henabled : f = .enabledProtocols
  · have hlist : Draft.given [] .enabledProtocols = .null ∨
        ∃ items, Draft.given [] .enabledProtocols = .list items := .inl rfl
    obtain ⟨items, hitems⟩ := Resolve.exists_list_supplied w reader hlist
    have hwhole := World.isWhole_supplied h reader .enabledProtocols
    rw [hitems] at hwhole
    rw [henabled, hprotocols, hsupplied, hitems]
    exact hwhole
  · rw [hfields f hf henabled, hsupplied]
    exact World.isWhole_supplied h reader f

/-- Diagnostics are numbers with texts. -/
theorem isWhole_messagesValue (c : Config) : c.messagesValue.IsWhole := by
  have hmembers : ∀ messages : List (Int × String),
      Json.areWholeMembers (Json.ofMembers
        (messages.map fun m => (Value.int m.1, Value.text m.2))) = true := by
    intro messages
    induction messages with
    | nil => rfl
    | cons m messages ih => exact ih
  exact hmembers c.messages

/-- A configuration that is made of texts is shown as a document without points and exponents. -/
theorem isWhole_document {w : World} {reader : Yaml.Reader} {c : Config} (h : w.settings.IsText)
    (hc : (resolve w reader []).outcome = .ok c) (masked : Bool) :
    (Item.document c masked).isWhole = true := by
  have hshown : ∀ f, (c.shown masked f).IsWhole := by
    intro f
    unfold Config.shown
    split
    · exact Value.isWhole_text mask
    · exact isWhole_values h hc f
  refine Json.areWholeMembers_iff.mpr ?_
  intro m hm
  obtain ⟨entry, hentry, rfl⟩ := List.mem_map.mp hm
  rcases List.mem_append.mp hentry with hfield | hlast
  · obtain ⟨f, -, rfl⟩ := List.mem_map.mp hfield
    exact hshown f
  · obtain rfl := List.mem_singleton.mp hlast
    exact isWhole_messagesValue c

/-! ## What a run comes to -/

namespace Report

/-- A run follows a resolution if it fails just where that does, for the same reason, and answers
with the configuration where there is one. -/
def Follows (r : Report) (outcome : Except Failure Config) (answers : Config → Prop) : Prop :=
  (∀ failure, r.ending = .failed failure ↔ outcome = .error failure) ∧
    ∀ c, outcome = .ok c → answers c

/-- A run shows a configuration as a document if it ends well and what it shows is a text that reads
as the document, with pairs of halves as characters. -/
def ShowsDocument (r : Report) (masked : Bool) (c : Config) : Prop :=
  r.ending = .exit 0 ∧
    ∃ text, r.items = [.json text] ∧ Json.parse? text = some (Item.document c masked).joined

/-- A run explains a status with a configuration if it shows the diagnostic for the status and ends
well, or ends otherwise where there is none. -/
def Explains (r : Report) (status : Int) (c : Config) : Prop :=
  match c.message status with
  | some message => r.items = [.explanation status message] ∧ r.ending = .exit 0
  | none => r.ending = .exit 1

end Report

theorem run_of_ok {w : World} {argument : String} {arguments : List String} {i : Invocation}
    (h : Invocation.ofArguments (argument :: arguments) = .ok i) :
    run w (argument :: arguments) = i.run w := by
  unfold run
  simp only [h]

theorem run_of_error {w : World} {argument : String} {arguments : List String} {stop : Stop}
    (h : Invocation.ofArguments (argument :: arguments) = .error stop) :
    run w (argument :: arguments) = .ofStop stop := by
  unfold run
  simp only [h]

section Inspection

variable {o : Options} {w : World} (command : Command)

theorem inspect_of_ok {c : Config} (h : (o.resolve w).outcome = .ok c) :
    (inspect o w command).items = (act o w c command).1 ∧
      (inspect o w command).ending = (act o w c command).2 := by
  unfold inspect
  simp only [h, Report.silent, and_self]

theorem ending_inspect_of_error {failure : Failure} (h : (o.resolve w).outcome = .error failure) :
    (inspect o w command).ending = .failed failure := by
  unfold inspect
  simp only [h, Report.silent]

/-- An inspection follows the resolution if what is done with a configuration has an exit code. -/
theorem follows_inspect {command : Command} {answers : Config → Prop}
    (hexit : ∀ c, ∃ code, (act o w c command).2 = .exit code)
    (hanswers : ∀ c, (o.resolve w).outcome = .ok c → answers c) :
    (inspect o w command).Follows (o.resolve w).outcome answers := by
  refine ⟨?_, hanswers⟩
  intro failure
  cases houtcome : (o.resolve w).outcome with
  | ok c =>
    obtain ⟨code, hcode⟩ := hexit c
    rw [(inspect_of_ok command houtcome).2, hcode]
    simp
  | error other =>
    rw [ending_inspect_of_error command houtcome]
    simp

end Inspection

/-! ## Runs on plain command lines -/

/-- An environment alone gives settings that are texts. -/
theorem isText_asEnvironment (o : Options) (w : World) :
    (o.asEnvironment w).settings.IsText := by
  intro entry hentry
  rw [Options.asEnvironment, Settings.properties_withVariables] at hentry
  cases hentry

namespace Options

/-- An option that one switch turns on and that no other argument changes is on just if it was on
before or the switch is there. -/
theorem foldl_effect_eq {option : Options → Bool} {s : Switch}
    (hself : ∀ o, option (Given.effect o (.alone s)) = true)
    (hother : ∀ (g : Given) (o), g ≠ .alone s → option (g.effect o) = option o)
    (switches : List Given) (o : Options) :
    option (switches.foldl Given.effect o) = (option o || decide (.alone s ∈ switches)) := by
  induction switches generalizing o with
  | nil => simp
  | cons g switches ih =>
    rw [List.foldl_cons, ih]
    by_cases hg : g = .alone s
    · subst hg
      simp [hself]
    · simp [hother g o hg, Ne.symm hg]

/-- A document is asked for just if the switch for it is there. -/
theorem json_foldl_effect (switches : List Given) (o : Options) :
    (switches.foldl Given.effect o).json = (o.json || decide (.alone .json ∈ switches)) := by
  refine foldl_effect_eq (fun _ => rfl) ?_ switches o
  rintro (s | ⟨s, value⟩) o hg <;> cases s <;> first | rfl | exact absurd rfl hg

/-- Secrets are shown just if the switch for it is there. -/
theorem showSecrets_foldl_effect (switches : List Given) (o : Options) :
    (switches.foldl Given.effect o).showSecrets =
      (o.showSecrets || decide (.alone .showSecrets ∈ switches)) := by
  refine foldl_effect_eq (fun _ => rfl) ?_ switches o
  rintro (s | ⟨s, value⟩) o hg <;> cases s <;> first | rfl | exact absurd rfl hg

end Options

section Lines

variable {w : World} {shown before after : List Given} {status : Int}

/-- A plain line that shows the configuration as a document follows the resolution. -/
theorem show_follows (hshown : ∀ g ∈ shown, g.fits .showing = true) (hjson : .alone .json ∈ shown) :
    let r := run w ("show" :: shown.map Given.argument)
    r.Follows (resolve ((Options.given shown).asEnvironment w) .fresh []).outcome
      (r.ShowsDocument (decide (.alone .showSecrets ∉ shown))) := by
  have hrun : run w ("show" :: shown.map Given.argument) =
      inspect (.given shown) w .showing :=
    run_of_ok (Invocation.ofArguments_show hshown)
  have hact : ∀ c, act (.given shown) w c .showing =
      ([.documentText c (decide (.alone .showSecrets ∉ shown))], .exit 0) := by
    intro c
    have hdocument : (Options.given shown).json = true := by
      rw [Options.given, Options.json_foldl_effect]
      simp [hjson]
    have hmasked : (!(Options.given shown).showSecrets) = decide (.alone .showSecrets ∉ shown) := by
      rw [Options.given, Options.showSecrets_foldl_effect]
      simp [Options.none]
    unfold act showConfig
    rw [if_pos hdocument, hmasked]
  have hsame := (Options.given shown).resolve_asEnvironment w
  rw [hrun, ← hsame]
  refine follows_inspect (fun c => ⟨0, by rw [hact]⟩) ?_
  intro c hc
  obtain ⟨hitems, hending⟩ := inspect_of_ok .showing hc
  rw [hact] at hitems hending
  refine ⟨hending, _, hitems, Json.parse?_pretty ?_⟩
  rw [hsame] at hc
  exact isWhole_document (isText_asEnvironment _ w) hc _

/-- A plain line that explains a status follows the resolution. -/
theorem explain_follows (hasked : ∀ g ∈ before ++ after, g.fits .explaining = true)
    (hstatus : status.natAbs < Value.writingLimit) :
    let r := run w ("explain" :: Invocation.explainArguments before status after)
    r.Follows (resolve ((Options.given (before ++ after)).asEnvironment w) .fresh []).outcome
      (r.Explains status) := by
  have hrun : run w ("explain" :: Invocation.explainArguments before status after) =
      inspect (.given (before ++ after)) w (.explaining status) :=
    run_of_ok (Invocation.ofArguments_explain hasked status hstatus)
  have hexit : ∀ c, ∃ code,
      (act (.given (before ++ after)) w c (.explaining status)).2 = .exit code := by
    intro c
    cases hmessage : c.message status <;> simp [act, explainStatus, hmessage]
  rw [hrun, ← (Options.given (before ++ after)).resolve_asEnvironment w]
  refine follows_inspect hexit ?_
  intro c hc
  obtain ⟨hitems, hending⟩ := inspect_of_ok (.explaining status) hc
  unfold Report.Explains
  rw [hitems, hending]
  cases hmessage : c.message status <;> simp [act, explainStatus, hmessage]

/-- The program refines resolution. On a plain line with switches, a run follows the resolution
without a caller's values and properties in the environment that says what the switches say: it
shows the configuration as a document, masked unless secrets are to be shown, or explains a status
with it. -/
theorem run_refines_resolve (hshown : ∀ g ∈ shown, g.fits .showing = true)
    (hjson : .alone .json ∈ shown) (hasked : ∀ g ∈ before ++ after, g.fits .explaining = true)
    (hstatus : status.natAbs < Value.writingLimit) :
    let shows := run w ("show" :: shown.map Given.argument)
    let explains := run w ("explain" :: Invocation.explainArguments before status after)
    shows.Follows (resolve ((Options.given shown).asEnvironment w) .fresh []).outcome
        (shows.ShowsDocument (decide (.alone .showSecrets ∉ shown))) ∧
      explains.Follows
        (resolve ((Options.given (before ++ after)).asEnvironment w) .fresh []).outcome
        (explains.Explains status) :=
  ⟨show_follows hshown hjson, explain_follows hasked hstatus⟩

end Lines

/-! ## Single lines -/

/-- A world whose only file is the token of a service account. -/
def worldOfToken : World where
  settings := { properties := [], environ := [] }
  files := fun path => if path = .ofText "sa/token" then .file "secret".toUTF8 else .missing
  home := "home"
  mount := ⟨"sa/token", "sa/ca.crt"⟩

/-- What switches come to can be told from the switches as from the environment that says the
same. -/
theorem exists_resolve_asEnvironment (o : Options) (w : World) {α : Type} (view : Config → α)
    {a : α} (h : (o.resolve w).outcome.toOption.map view = some a) :
    ∃ c, (resolve (o.asEnvironment w) .fresh []).outcome = .ok c ∧ view c = a := by
  rw [o.resolve_asEnvironment w] at h
  obtain ⟨c, hc, hview⟩ := Option.map_eq_some_iff.mp h
  refine ⟨c, ?_, hview⟩
  cases houtcome : (resolve (o.asEnvironment w) .fresh []).outcome with
  | error failure => simp [houtcome, Except.toOption] at hc
  | ok other =>
    rw [houtcome] at hc
    exact congrArg _ (Option.some.inj hc)

/-- Switches that ask for a document, for a namespace and for the usual kubeconfig file. -/
def sampleSwitches : List Given :=
  [.assigned .namespaceName "dev", .assigned .kubeconfig "", .alone .json]

/-- The namespace is shown, and the diagnostic for a token that the server turns down. -/
theorem run_refines_resolve_sample :
    (∃ c, (c.values .namespaceName).text? = some "dev" ∧
      (run worldOfToken ["show", "--namespace=dev", "--kubeconfig=", "--json"]).ShowsDocument
        true c) ∧
      (run worldOfToken ["explain", "--no-kubeconfig", "401"]).ending = .exit 0 := by
  have hstatus : (401 : Int).natAbs < Value.writingLimit :=
    (Integer.countDigits_le_iff 401).mp (by decide)
  obtain ⟨⟨-, hshows⟩, -, hexplains⟩ := @run_refines_resolve worldOfToken sampleSwitches
    [.alone .noKubeconfig] [] 401 (by decide) (by decide) (by decide) hstatus
  obtain ⟨c, hc, hname⟩ := exists_resolve_asEnvironment (.given sampleSwitches) worldOfToken
    (fun c => (c.values .namespaceName).text?) (a := some "dev")
    (by rw [Options.outcome_resolve]; decide)
  obtain ⟨e, he, hmessage⟩ := exists_resolve_asEnvironment (.given [.alone .noKubeconfig])
    worldOfToken (fun c => (c.message 401).isSome) (a := true)
    (by rw [Options.outcome_resolve]; decide)
  have hshow : "show" :: sampleSwitches.map Given.argument =
      ["show", "--namespace=dev", "--kubeconfig=", "--json"] := by decide
  have hexplain : "explain" :: Invocation.explainArguments [.alone .noKubeconfig] 401 [] =
      ["explain", "--no-kubeconfig", "401"] := by decide
  refine ⟨⟨c, hname, ?_⟩, ?_⟩
  · rw [← hshow]
    exact hshows c hc
  · rw [← hexplain]
    have hexplained := hexplains e he
    obtain ⟨message, hsome⟩ := Option.isSome_iff_exists.mp hmessage
    simp only [Report.Explains, hsome] at hexplained
    exact hexplained.2

/-- The third member of an object, which is the namespace where it shows a configuration. -/
def thirdMember : Json → Json
  | .object (_ :: _ :: member :: _) => member.2
  | _ => .null

theorem thirdMember_document {c : Config} {name : String}
    (h : (c.values .namespaceName).text? = some name) (masked : Bool) :
    thirdMember (Item.document c masked) = .text name ∧
      thirdMember (Item.document c masked).joined = .text (Json.joinedText name) := by
  have hshown : c.shown masked .namespaceName = .text name := by
    rw [Config.shown_of_not_secret c masked rfl]
    cases hvalue : c.values .namespaceName with
    | text s =>
      rw [hvalue] at h
      exact congrArg _ (Option.some.inj h)
    | _ =>
      rw [hvalue] at h
      cases h
  have hmember : thirdMember (Item.document c masked) =
      Json.ofValue (c.shown masked .namespaceName) := rfl
  have hjoined : thirdMember (Item.document c masked).joined =
      (Json.ofValue (c.shown masked .namespaceName)).joined := rfl
  rw [hmember, hjoined, hshown]
  exact ⟨rfl, rfl⟩

/-- A namespace that is shown reads as itself with its pairs of halves as characters. -/
theorem joinedText_eq_of_showsDocument {r : Report} {masked : Bool} {c c' : Config}
    {shown wanted text : String} (h : r.ShowsDocument masked c)
    (hshown : (c.values .namespaceName).text? = some shown)
    (hwanted : (c'.values .namespaceName).text? = some wanted) (hitems : r.items = [.json text])
    (hparse : Json.parse? text = some (Item.document c' masked)) :
    Json.joinedText shown = wanted := by
  obtain ⟨-, text', hitems', hparse'⟩ := h
  obtain rfl : text = text' := by
    rw [hitems] at hitems'
    simpa using hitems'
  have hsame : (Item.document c masked).joined = Item.document c' masked :=
    Option.some.inj (hparse'.symm.trans hparse)
  have hthird := congrArg thirdMember hsame
  rw [(thirdMember_document hshown masked).2, (thirdMember_document hwanted masked).1] at hthird
  exact Json.text.inj hthird

/-- The namespace that a configuration has, if it is a text. -/
def namespaceText (c : Config) : Option String :=
  (c.values .namespaceName).text?

/-- What is shown with a namespace among the switches reads as the configuration of an environment
with that namespace. -/
def ShowsNamespace (name : String) : Prop :=
  ∀ c, (resolve ({ Options.none with namespaceName := name }.asEnvironment worldOfToken) .fresh
      []).outcome = .ok c →
    ∃ text, (run worldOfToken ["show", "--namespace=" ++ name, "--json"]).items = [.json text] ∧
      Json.parse? text = some (Item.document c true)

/-- It does not so read if another namespace is shown. -/
theorem not_showsNamespace {name shown : String}
    (hshown : ((Options.given [.assigned .namespaceName name, .alone .json]).resolve
      worldOfToken).outcome.toOption.map namespaceText = some (some shown))
    (hwanted : ({ Options.none with namespaceName := name }.resolve
      worldOfToken).outcome.toOption.map namespaceText = some (some name))
    (hne : Json.joinedText shown ≠ name) : ¬ShowsNamespace name := by
  intro hshows
  obtain ⟨c, hc, hcname⟩ := exists_resolve_asEnvironment _ worldOfToken namespaceText hshown
  obtain ⟨c', hc', hcname'⟩ := exists_resolve_asEnvironment _ worldOfToken namespaceText hwanted
  obtain ⟨text, hitems, hparse⟩ := hshows c' hc'
  have hline : "show" :: [Given.assigned .namespaceName name, .alone .json].map Given.argument =
      ["show", "--namespace=" ++ name, "--json"] := by
    have hargument : (Given.assigned .namespaceName name).argument = "--namespace=" ++ name := by
      apply String.toList_injective
      rw [Given.argument, String.toList_ofList, String.toList_append]
      rfl
    rw [List.map_cons, hargument]
    rfl
  have hfits : ∀ g ∈ [Given.assigned .namespaceName name, .alone .json],
      g.fits .showing = true := by
    simp [Given.fits, Scope.switches, Scope.sources, Switch.takesValue]
  obtain ⟨-, hdocument⟩ := show_follows (w := worldOfToken) hfits (by simp)
  rw [hline] at hdocument
  exact hne (joinedText_eq_of_showsDocument (hdocument c hc) hcname hcname' hitems hparse)

/-- A first and a second half of a pair, not joined. -/
def pairText : String :=
  String.ofList [Text.ofCode 0xD83D, Text.ofCode 0xDE00]

/-- The program does not do what resolution does where a status has too many digits, which is turned
down although there is a configuration without a diagnostic for it; where two hyphens are given as a
value, which counts as none; and where a text holds a pair of halves, which is shown joined. -/
theorem run_refines_resolve_limits :
    (∃ c, (resolve (Options.none.asEnvironment worldOfToken) .fresh []).outcome = .ok c ∧
      c.message Value.writingLimit = none ∧
      (run worldOfToken ["explain", Value.intText Value.writingLimit]).ending ≠ .exit 1) ∧
    ¬ShowsNamespace "--" ∧ ¬ShowsNamespace pairText := by
  have hhyphens : ¬ShowsNamespace "--" := by
    have hdefault : Json.joinedText "default" ≠ "--" := by decide
    exact not_showsNamespace (by rw [Options.outcome_resolve]; decide)
      (by rw [Options.outcome_resolve]; decide) hdefault
  have hpair : ¬ShowsNamespace pairText := by
    have hjoined : Json.joinedText pairText ≠ pairText := by decide
    exact not_showsNamespace (by rw [Options.outcome_resolve]; decide)
      (by rw [Options.outcome_resolve]; decide) hjoined
  obtain ⟨c, hc, hstatuses⟩ := exists_resolve_asEnvironment .none worldOfToken
    (fun c => c.messages.map Prod.fst) (a := [401, 403]) (by rw [Options.outcome_resolve]; decide)
  refine ⟨⟨c, hc, ?_, ?_⟩, hhyphens, hpair⟩
  · have hlarge : (403 : Int).natAbs < Value.writingLimit :=
      (Integer.countDigits_le_iff 403).mp (by decide)
    rw [Config.message, List.lookup_eq_none_iff]
    intro message hmessage
    have hmem : message.1 ∈ c.messages.map Prod.fst := List.mem_map_of_mem hmessage
    rw [hstatuses, List.mem_cons, List.mem_singleton] at hmem
    rw [bne_iff_ne]
    omega
  · have hlong : ¬(Value.writingLimit : Int).natAbs < Value.writingLimit := by
      rw [Int.natAbs_natCast]
      exact lt_irrefl _
    have hnone : ∀ g ∈ ([] ++ [] : List Given), g.fits .explaining = true := by simp
    have hline : Invocation.explainArguments [] Value.writingLimit [] =
        [Value.intText Value.writingLimit] := rfl
    have hstop := Invocation.ofArguments_explain_tooLong hnone _ hlong
    rw [hline] at hstop
    rw [run_of_error hstop]
    change Ending.exit 2 ≠ .exit 1
    simp

end CommandLine

end ClusterConfig
