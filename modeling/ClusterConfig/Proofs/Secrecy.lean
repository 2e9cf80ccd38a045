import ClusterConfig.CommandLine.Inspection
import ClusterConfig.Proofs.Likeness
import ClusterConfig.Proofs.LongNumbers
import ClusterConfig.Proofs.Lookups

/-!
# Secrets are not shown

The program shows a configuration with its secrets masked, unless it is told not to, and explains
statuses. Neither tells apart two worlds that differ in secrets alone: in the variables of secret
settings, in the token of a mounted service account, and in the tokens, passwords and keys of the
users of a kubeconfig file. What is reported on the way, what is printed and how the run ends is the
same. Only a number that is too long for a text shows, because it ends the run.

Main definitions:

- `Settings.Alike`, `World.Alike`: settings and worlds that differ in secrets alone.
- `Invocation.IsDiscreet`: invocations that show no secrets.
- `Invocation.MeetsLongNumber`: invocations that end because of a number that is too long.

Main results:

- Theorems `seed_alike`, `mergeServiceAccount_alike`, `mergeKubeconfig_alike`: each source leaves
  drafts alike, and with the same notes.
- Theorem `resolve_alike`: so do all of them.
- Theorem `endsTooLong_inspect_iff`: which runs end because of a number.
- Theorem `run_eq_iff_of_alike`: the runs in two such worlds are the same, unless just one of them
  ends because of a number.
-/

namespace ClusterConfig

/-! ## Settings -/

namespace Settings

/-- The names in the environment of the settings of secret fields. -/
def secretVariables : List String :=
  ((Field.all.filter Field.isSecret).flatMap Field.settings).map variableName

/-- Two settings look alike if they differ in the variables of secret settings alone, none of which
is empty then. -/
structure Alike (s s' : Settings) : Prop where
  properties : s.properties = s'.properties
  digitLimit : s.digitLimit = s'.digitLimit
  environ : ∀ name, s.environ.lookup name = s'.environ.lookup name ∨
    (name ∈ secretVariables ∧ ∃ text text', s.environ.lookup name = some text ∧
      s'.environ.lookup name = some text' ∧ text ≠ "" ∧ text' ≠ "")

variable {s s' : Settings}

/-- A setting that is not secret has the same value. -/
theorem Alike.get_eq (h : s.Alike s') {name : String}
    (hopen : variableName name ∉ secretVariables) : s.get name = s'.get name := by
  refine get_congr (by rw [h.properties]) ?_
  rcases h.environ (variableName name) with hsame | ⟨hsecret, -⟩
  · exact hsame
  · exact absurd hsecret hopen

/-- A secret setting has a value in both or in neither. -/
theorem Alike.get_alike (h : s.Alike s') (name : String) :
    s.get name = s'.get name ∨ (s.get name ≠ .null ∧ s'.get name ≠ .null) := by
  rcases h.environ (variableName name) with hsame | ⟨-, text, text', htext, htext', hne, hne'⟩
  · exact .inl (get_congr (by rw [h.properties]) hsame)
  · unfold get
    rw [h.properties, htext, htext']
    simp only [if_neg hne, if_neg hne']
    split
    · exact .inr ⟨by simp, by simp⟩
    · exact .inl rfl

/-- A setting that is the setting of no secret field is not secret. -/
theorem variableName_not_mem {name : String} (hname : name ∈ names)
    (hopen : ∀ f : Field, f.isSecret = true → name ∉ f.settings) :
    variableName name ∉ secretVariables := by
  intro hsecret
  obtain ⟨other, hother, heq⟩ := List.mem_map.mp hsecret
  obtain ⟨f, hf, hmem⟩ := List.mem_flatMap.mp hother
  obtain rfl := eq_of_variableName_eq hname (mem_names_of_mem_settings hmem) heq.symm
  exact hopen f (List.mem_filter.mp hf).2 hmem

/-- The settings of a field that is not secret are not secret. -/
theorem variableName_not_mem_of_field {f : Field} (h : f.isSecret = false) {name : String}
    (hname : name ∈ f.settings) : variableName name ∉ secretVariables := by
  refine variableName_not_mem (mem_names_of_mem_settings hname) ?_
  intro g hsecret hmem
  obtain rfl := eq_of_mem_settings hname hmem
  rw [h] at hsecret
  cases hsecret

/-- The settings that say where to look are not secret. -/
theorem variableName_not_mem_of_place {name : String}
    (h : name ∈ [tryServiceAccount, tryKubeconfig, kubeconfig]) :
    variableName name ∉ secretVariables := by
  refine variableName_not_mem (List.mem_append_right _ h) ?_
  intro f _ hmem
  exact not_mem_of_mem_settings hmem h

/-- Settings that look alike have values for every field that do, and the same notes about them. -/
theorem Alike.field (h : s.Alike s') (f : Field) :
    (s.field f).notes = (s'.field f).notes ∧ f.Alike (s.field f).value (s'.field f).value := by
  cases hsecret : f.isSecret with
  | false =>
    have hopen : ∀ name ∈ f.settings, s.get name = s'.get name :=
      fun name hname => h.get_eq (variableName_not_mem_of_field hsecret hname)
    have hsame : s.field f = s'.field f := field_congr h.digitLimit hopen
    rw [hsame]
    exact ⟨rfl, .refl f _⟩
  | true =>
    obtain ⟨name, hvalue⟩ : ∃ name, ∀ t : Settings, t.field f = .quiet (t.get name) := by
      cases f
      case clientKeyPassphrase | password | oauthToken | clientKeyData =>
        exact ⟨_, fun t => congrArg Noted.quiet (Value.orElse_null _)⟩
      all_goals cases hsecret
    rw [hvalue, hvalue]
    refine ⟨rfl, ?_⟩
    rcases h.get_alike name with hsame | ⟨hthere, hthere'⟩
    · exact .inl hsame
    · exact .inr ⟨hsecret, hthere, hthere'⟩

theorem Alike.flag_eq (h : s.Alike s') {name : String}
    (hopen : variableName name ∉ secretVariables) : s.flag name = s'.flag name :=
  flag_congr (h.get_eq hopen)

end Settings

/-! ## Worlds -/

/-- There is a token that can be used in the file at a path. -/
def Files.HasToken (files : Files) (path : Path) : Prop :=
  ∃ text, files.readText path = .ok text ∧ (ServiceAccount.usable? text).isSome = true

/-- Whether there is such a token can be computed. -/
theorem Files.hasToken_of_any {files : Files} {path : Path}
    (h : (files.readText path).toOption.any (fun text => (ServiceAccount.usable? text).isSome) =
      true) : files.HasToken path := by
  cases hread : files.readText path with
  | error fault =>
    rw [hread] at h
    cases h
  | ok text =>
    rw [hread] at h
    exact ⟨text, hread, h⟩

/-- The files at a path hold documents that look alike. -/
def Files.DocumentsAlike (files files' : Files) (path : Path) : Prop :=
  ∃ doc doc', (Kubeconfig.load files .fresh path).1 = .ok doc ∧
    (Kubeconfig.load files' .fresh path).1 = .ok doc' ∧ Kubeconfig.DocumentsAlike doc doc'

/-- Two worlds look alike if they differ in secrets alone: in variables of secret settings, in the
token of the service account, if there is one in both, and in the secrets of the kubeconfig file. -/
structure World.Alike (w w' : World) : Prop where
  settings : w.settings.Alike w'.settings
  home : w.home = w'.home
  mount : w.mount = w'.mount
  token : w.files (.ofText w.mount.tokenPath) = w'.files (.ofText w.mount.tokenPath) ∨
    (w.files.HasToken (.ofText w.mount.tokenPath) ∧
      w'.files.HasToken (.ofText w.mount.tokenPath))
  kubeconfig : ∀ path, Resolve.kubeconfigPath w.settings w.home = .ok path →
    w.files path = w'.files path ∨ w.files.DocumentsAlike w'.files path
  others : ∀ path, path ≠ .ofText w.mount.tokenPath →
    Resolve.kubeconfigPath w.settings w.home ≠ .ok path → w.files path = w'.files path

/-- What gives a text is a file. -/
theorem Files.isFile_of_readWith {decode : ByteArray → Option String} {files : Files} {path : Path}
    {text : String} (h : files.readWith decode path = .ok text) : files.isFile path = true := by
  unfold readWith readBytes at h
  unfold isFile
  cases hgood : path.hasBadName with
  | true => simp [hgood] at h
  | false =>
    cases hfound : files path with
    | file bytes => rfl
    | _ => simp [hgood, hfound, Found.content] at h

/-- What gives a document is a file. -/
theorem Kubeconfig.isFile_of_load {files : Files} {reader : Yaml.Reader} {path : Path} {doc : Value}
    (h : (load files reader path).1 = .ok doc) : files.isFile path = true := by
  cases htext : files.readMarkedText path with
  | ok text => exact Files.isFile_of_readWith htext
  | error cause =>
    unfold load readText at h
    rw [htext] at h
    cases cause <;> cases h

theorem Files.isFile_congr {files files' : Files} {path : Path} (h : files path = files' path) :
    files.isFile path = files'.isFile path := by
  unfold isFile
  rw [h]

namespace World

variable {w w' : World}

/-- The same paths lead to files. -/
theorem Alike.isFile_eq (h : w.Alike w') (path : Path) :
    w.files.isFile path = w'.files.isFile path := by
  by_cases htoken : path = .ofText w.mount.tokenPath
  · subst htoken
    rcases h.token with hsame | ⟨⟨text, htext, -⟩, ⟨text', htext', -⟩⟩
    · exact Files.isFile_congr hsame
    · rw [Files.isFile_of_readWith htext, Files.isFile_of_readWith htext']
  · by_cases hkubeconfig : Resolve.kubeconfigPath w.settings w.home = .ok path
    · rcases h.kubeconfig path hkubeconfig with hsame | ⟨doc, doc', hload, hload', -⟩
      · exact Files.isFile_congr hsame
      · rw [Kubeconfig.isFile_of_load hload, Kubeconfig.isFile_of_load hload']
    · exact Files.isFile_congr (h.others path htoken hkubeconfig)

/-- The kubeconfig file is at the same path. -/
theorem Alike.kubeconfigPath_eq (h : w.Alike w') :
    Resolve.kubeconfigPath w.settings w.home = Resolve.kubeconfigPath w'.settings w'.home := by
  have hget : w.settings.get Settings.kubeconfig = w'.settings.get Settings.kubeconfig :=
    h.settings.get_eq (Settings.variableName_not_mem_of_place (by simp))
  unfold Resolve.kubeconfigPath
  rw [hget, h.home]

end World

/-! ## The sources -/

namespace Resolve

variable {w w' : World} {d d' : Draft}

/-- Settings that look alike leave drafts alike, and with the same notes. -/
theorem seed_alike {s s' : Settings} (hs : s.Alike s') (h : d.Alike d') :
    (seed s d).notes = (seed s' d').notes ∧ (seed s d).value.Alike (seed s' d').value := by
  have hnotes : (seeds s seedOrder).notes = (seeds s' seedOrder).notes := by
    unfold seeds
    dsimp only
    rw [funext fun f => (hs.field f).1]
  have hcandidates :
      List.Forall₂ Draft.CandidateAlike (seeds s seedOrder).value (seeds s' seedOrder).value := by
    unfold seeds
    rw [List.forall₂_map_left_iff, List.forall₂_map_right_iff, List.forall₂_same]
    intro f _
    exact ⟨rfl, (hs.field f).2⟩
  obtain ⟨hfilled, hfields⟩ := h.fill hcandidates
  unfold seed
  dsimp only
  rw [hnotes, hfields]
  exact ⟨rfl, hfilled⟩

/-- A token that is there makes no difference to the notes, and neither does what it is. -/
theorem readToken_alike (h : w.Alike w') :
    (ServiceAccount.readToken w.files w.mount.tokenPath).notes =
        (ServiceAccount.readToken w'.files w.mount.tokenPath).notes ∧
      OutcomesAlike (fun token token' => token.isSome = token'.isSome)
        (ServiceAccount.readToken w.files w.mount.tokenPath).value
        (ServiceAccount.readToken w'.files w.mount.tokenPath).value := by
  unfold ServiceAccount.readToken
  rcases h.token with hsame | ⟨⟨text, htext, husable⟩, ⟨text', htext', husable'⟩⟩
  · have hread : w.files.readText (.ofText w.mount.tokenPath) =
        w'.files.readText (.ofText w.mount.tokenPath) := Files.readWith_congr hsame
    rw [hread]
    exact ⟨rfl, .of_eq (fun token => Eq.refl token.isSome) rfl⟩
  · rw [htext, htext']
    refine ⟨rfl, .ok ?_⟩
    rw [husable, husable']

/-- Service accounts leave drafts alike, and with the same notes. -/
theorem mergeServiceAccount_alike (h : w.Alike w') (hd : d.Alike d') :
    (mergeServiceAccount w d).notes = (mergeServiceAccount w' d').notes ∧
      OutcomesAlike Draft.Alike (mergeServiceAccount w d).value
        (mergeServiceAccount w' d').value := by
  have hca : ServiceAccount.caFile? w.files w.mount.caPath =
      ServiceAccount.caFile? w'.files w.mount.caPath := by
    unfold ServiceAccount.caFile?
    rw [h.isFile_eq]
  obtain ⟨hnotes, htokens⟩ := readToken_alike h
  simp only [notes_mergeServiceAccount, value_mergeServiceAccount, ← h.mount, ← hca]
  rw [hnotes]
  generalize (ServiceAccount.readToken w.files w.mount.tokenPath).value = read at htokens
  generalize (ServiceAccount.readToken w'.files w.mount.tokenPath).value = read' at htokens
  cases htokens with
  | error fault => exact ⟨rfl, .error _⟩
  | @ok token token' hsome =>
    obtain ⟨hadopted, hdraft⟩ :=
      adoptAccount_alike hd hsome (ServiceAccount.caFile? w.files w.mount.caPath)
    have hnone : token = none ↔ token' = none := by
      cases token <;> cases token' <;> simp_all
    simp only [hnone, hadopted]
    exact ⟨trivial, .ok hdraft⟩

/-- A source that is asked in both worlds or in neither leaves drafts alike if it does so where it
is asked. -/
theorem unlessOff_alike (h : w.Alike w') (hd : d.Alike d') :
    (unlessOff w.settings Settings.tryServiceAccount d (mergeServiceAccount w)).notes =
        (unlessOff w'.settings Settings.tryServiceAccount d' (mergeServiceAccount w')).notes ∧
      OutcomesAlike Draft.Alike
        (unlessOff w.settings Settings.tryServiceAccount d (mergeServiceAccount w)).value
        (unlessOff w'.settings Settings.tryServiceAccount d' (mergeServiceAccount w')).value := by
  have hflag : w.settings.flag Settings.tryServiceAccount =
      w'.settings.flag Settings.tryServiceAccount :=
    h.settings.flag_eq (Settings.variableName_not_mem_of_place (by simp))
  obtain ⟨hnotes, hdraft⟩ := mergeServiceAccount_alike h hd
  unfold unlessOff
  dsimp only
  rw [hflag]
  split
  · rw [hnotes]
    exact ⟨rfl, hdraft⟩
  · exact ⟨rfl, .ok hd⟩

/-- What is read of a kubeconfig file looks alike, unless a number in just one of the documents is
too long. -/
theorem parse_alike (h : w.Alike w') {path : Path}
    (hpath : kubeconfigPath w.settings w.home = .ok path) (given : String) :
    (Kubeconfig.parse w.files .fresh given path).1.notes =
        (Kubeconfig.parse w'.files .fresh given path).1.notes ∧
      AlikeUnless (.access .longNumber) Snapshot.Alike
        (Kubeconfig.parse w.files .fresh given path).1.value
        (Kubeconfig.parse w'.files .fresh given path).1.value := by
  rcases h.kubeconfig path hpath with hsame | ⟨doc, doc', hload, hload', hdocs⟩
  · rw [Kubeconfig.parse_congr hsame]
    exact ⟨rfl, .inl (.of_eq Snapshot.Alike.refl rfl)⟩
  · obtain ⟨hfound, hsnapshots⟩ := Kubeconfig.snapshot_alike hdocs
    rw [Kubeconfig.parse_of_load given hload, Kubeconfig.parse_of_load given hload']
    unfold Kubeconfig.snapshotNoted
    dsimp only
    rw [hfound]
    exact ⟨rfl, hsnapshots.mapError fun e he => LoadFault.access.inj he⟩

/-- What is adopted of a kubeconfig file leaves drafts alike, and with the same notes. -/
theorem adoptOutcome_alike (hd : d.Alike d') (path : String)
    {parsed parsed' : Except LoadFault Snapshot}
    (h : OutcomesAlike Snapshot.Alike parsed parsed') :
    (adoptOutcome path parsed d).notes = (adoptOutcome path parsed' d').notes ∧
      OutcomesAlike Draft.Alike (adoptOutcome path parsed d).value
        (adoptOutcome path parsed' d').value := by
  cases h with
  | ok hs =>
    obtain ⟨hnotes, hdraft⟩ := adoptSnapshot_alike hd hs path
    exact ⟨hnotes, .ok hdraft⟩
  | error fault =>
    cases fault with
    | unusable fault => exact ⟨rfl, .ok hd⟩
    | _ => exact ⟨rfl, .error _⟩

/-- Kubeconfig files leave drafts alike, and with the same notes, unless a number in just one of
them is too long. -/
theorem mergeKubeconfig_alike (h : w.Alike w') (hd : d.Alike d') :
    ((mergeKubeconfig w .fresh d).1.notes = (mergeKubeconfig w' .fresh d').1.notes ∧
        OutcomesAlike Draft.Alike (mergeKubeconfig w .fresh d).1.value
          (mergeKubeconfig w' .fresh d').1.value) ∨
      ¬((mergeKubeconfig w .fresh d).1.value = .error tooLong ↔
        (mergeKubeconfig w' .fresh d').1.value = .error tooLong) := by
  rw [mergeKubeconfig_eq, mergeKubeconfig_eq]
  cases hpath : kubeconfigPath w.settings w.home with
  | error failure =>
    rw [look_of_error hpath, look_of_error (h.kubeconfigPath_eq.symm.trans hpath)]
    exact .inl ⟨rfl, .error failure⟩
  | ok path =>
    have hpath' := h.kubeconfigPath_eq.symm.trans hpath
    have hsame := (h.isFile_eq path).symm
    cases hfile : w.files.isFile path with
    | false =>
      rw [look_of_absent hpath hfile, look_of_absent hpath' (hsame.trans hfile)]
      exact .inl ⟨rfl, .ok hd⟩
    | true =>
      rw [look_of_file hpath hfile, look_of_file hpath' (hsame.trans hfile)]
      obtain ⟨hnotes, hparsed⟩ := parse_alike h hpath path.toText
      dsimp only [Finding.adopt]
      rcases hparsed with hsame | hdiffer
      · obtain ⟨hadopted, hdraft⟩ := adoptOutcome_alike hd path.toText hsame
        left
        rw [hnotes, hadopted]
        exact ⟨rfl, hdraft⟩
      · right
        rwa [adoptOutcome_eq_tooLong_iff, adoptOutcome_eq_tooLong_iff]

/-- Resolutions of drafts that look alike, in worlds that do, report the same and come to
configurations that look alike, unless just one of them ends because of a number that is too
long. -/
theorem resolveSeeded_alike (h : w.Alike w') {seeded seeded' : Noted Draft}
    (hnotes : seeded.notes = seeded'.notes) (hd : seeded.value.Alike seeded'.value) :
    ((resolveSeeded w .fresh seeded).notes = (resolveSeeded w' .fresh seeded').notes ∧
        OutcomesAlike Config.Alike (resolveSeeded w .fresh seeded).outcome
          (resolveSeeded w' .fresh seeded').outcome) ∨
      ¬((resolveSeeded w .fresh seeded).outcome = .error tooLong ↔
        (resolveSeeded w' .fresh seeded').outcome = .error tooLong) := by
  have hflag : w.settings.flag Settings.tryKubeconfig = w'.settings.flag Settings.tryKubeconfig :=
    h.settings.flag_eq (Settings.variableName_not_mem_of_place (by simp))
  obtain ⟨hmounted, hdraft⟩ := unlessOff_alike h hd
  unfold resolveSeeded
  dsimp only
  rw [hnotes, hmounted, hflag]
  cases hvalue : (unlessOff w.settings Settings.tryServiceAccount seeded.value
      (mergeServiceAccount w)).value with
  | error failure =>
    rw [hvalue] at hdraft
    generalize (unlessOff w'.settings Settings.tryServiceAccount seeded'.value
      (mergeServiceAccount w')).value = value' at hdraft
    cases hdraft
    exact .inl ⟨rfl, .error failure⟩
  | ok d =>
    rw [hvalue] at hdraft
    generalize (unlessOff w'.settings Settings.tryServiceAccount seeded'.value
      (mergeServiceAccount w')).value = value' at hdraft
    cases hdraft with
    | @ok _ d' hd' =>
      dsimp only
      split
      · rcases mergeKubeconfig_alike h hd' with ⟨hfilled, hvalues⟩ | hdiffer
        · left
          refine ⟨congrArg (_ ++ ·) hfilled, hvalues.bind ?_⟩
          intro e e' he
          exact finish_alike he
        · right
          simpa only [bind_finish_eq_tooLong_iff] using hdiffer
      · exact .inl ⟨rfl, finish_alike hd'⟩

/-- Resolutions in worlds that look alike report the same and come to configurations that look
alike, unless just one of them ends because of a number that is too long. -/
theorem resolve_alike (h : w.Alike w') (explicit : List (String × Value)) :
    ((resolve w .fresh explicit).notes = (resolve w' .fresh explicit).notes ∧
        OutcomesAlike Config.Alike (resolve w .fresh explicit).outcome
          (resolve w' .fresh explicit).outcome) ∨
      ¬((resolve w .fresh explicit).outcome = .error tooLong ↔
        (resolve w' .fresh explicit).outcome = .error tooLong) := by
  unfold resolve
  cases accept explicit with
  | error failure => exact .inl ⟨rfl, .error failure⟩
  | ok d =>
    obtain ⟨hnotes, hseeded⟩ := seed_alike h.settings (Draft.Alike.refl d)
    exact resolveSeeded_alike h hnotes hseeded

end Resolve

/-! ## The program -/

namespace CommandLine

/-- An invocation shows no secrets if it shows a masked configuration or explains a status. -/
def Invocation.IsDiscreet (i : Invocation) : Prop :=
  (i.command = .showing ∧ i.options.showSecrets = false) ∨
    ∃ status, i.command = .explaining status

section Runs

variable {w w' : World} {c c' : Config}

/-- Masked configurations that look alike are the same document. -/
theorem document_eq_of_alike (h : c.Alike c') :
    Item.document c true = Item.document c' true := by
  unfold Item.document
  rw [h.toRecord_eq]

/-- Masked configurations that look alike are the same table. -/
theorem table_eq_of_alike (h : c.Alike c') : Item.table c true = Item.table c' true := by
  unfold Item.table
  simp only [h.shown_eq]

/-- What a discreet invocation does with configurations that look alike is the same. -/
theorem act_eq_of_alike {i : Invocation} (hi : i.IsDiscreet)
    (h : (i.options.world w).Alike (i.options.world w')) (hc : c.Alike c') :
    act i.options w c i.command = act i.options w' c' i.command := by
  have hmessage : ∀ status, c.message status = c'.message status := by
    intro status
    unfold Config.message
    rw [hc.messages]
  rcases hi with ⟨hcommand, hmasked⟩ | ⟨status, hcommand⟩
  · have hpath : Resolve.kubeconfigPath (i.options.world w).settings w.home =
        Resolve.kubeconfigPath (i.options.world w').settings w'.home := h.kubeconfigPath_eq
    rw [hcommand]
    unfold act showConfig Item.documentText
    simp only [hmasked, Bool.not_false, document_eq_of_alike hc, table_eq_of_alike hc, hc.messages,
      hpath]
  · rw [hcommand]
    unfold act explainStatus
    simp only [hmessage]

/-- A run ends because of a number that is too long. -/
def EndsTooLong (r : Report) : Prop :=
  r.ending = .failed Resolve.tooLong

/-- An invocation meets a number that is too long if its resolution gets as far as a kubeconfig file
that holds one. -/
def Invocation.MeetsLongNumber (i : Invocation) (w : World) : Prop :=
  (i.options.world w).Asks i.options.explicit ∧
    ∃ path, Resolve.kubeconfigPath (i.options.world w).settings w.home = .ok path ∧
      (i.options.world w).HoldsLongNumber .fresh path

/-- What is done with a configuration does not end because of a number. -/
theorem act_ending_ne_tooLong (o : Options) (w : World) (c : Config) (command : Command) :
    (act o w c command).2 ≠ .failed Resolve.tooLong := by
  cases command with
  | unnamed => simp [act]
  | explaining status =>
    unfold act explainStatus
    dsimp only
    split <;> simp
  | showing =>
    unfold act showConfig
    dsimp only
    split
    · simp
    · split
      · simp
      · split
        · simp
        · rename_i failure hpath
          intro hending
          obtain rfl := Ending.failed.inj hending
          exact Resolve.kubeconfigPath_ne_tooLong _ _ hpath

/-- The run of an invocation ends because of a number that is too long just where it meets one. -/
theorem endsTooLong_inspect_iff (i : Invocation) (w : World) (command : Command) :
    EndsTooLong (inspect i.options w command) ↔ i.MeetsLongNumber w := by
  have hresolve : (i.options.resolve w).outcome = .error Resolve.tooLong ↔
      i.MeetsLongNumber w := Resolve.outcome_eq_tooLong_iff
  rw [← hresolve]
  unfold EndsTooLong inspect
  dsimp only
  cases houtcome : (i.options.resolve w).outcome with
  | error failure => simp [Report.silent]
  | ok c =>
    refine iff_of_false ?_ (by simp)
    exact act_ending_ne_tooLong i.options w c command

/-- A discreet invocation does the same in worlds that look alike, unless it meets a number that is
too long in just one of them. -/
theorem inspect_alike {i : Invocation} (hi : i.IsDiscreet)
    (h : (i.options.world w).Alike (i.options.world w')) :
    inspect i.options w i.command = inspect i.options w' i.command ∨
      ¬(i.MeetsLongNumber w ↔ i.MeetsLongNumber w') := by
  rcases Resolve.resolve_alike h i.options.explicit with ⟨hnotes, houtcomes⟩ | hdiffer
  · left
    have hnotes' : (i.options.resolve w).notes = (i.options.resolve w').notes := hnotes
    have houtcomes' : OutcomesAlike Config.Alike (i.options.resolve w).outcome
        (i.options.resolve w').outcome := houtcomes
    unfold inspect
    dsimp only
    rw [hnotes']
    cases houtcome : (i.options.resolve w).outcome with
    | error failure =>
      rw [houtcome] at houtcomes'
      generalize (i.options.resolve w').outcome = outcome' at houtcomes'
      cases houtcomes'
      rfl
    | ok c =>
      rw [houtcome] at houtcomes'
      generalize (i.options.resolve w').outcome = outcome' at houtcomes'
      cases houtcomes' with
      | ok hc => simp only [act_eq_of_alike hi h hc]
  · right
    rwa [Resolve.outcome_eq_tooLong_iff, Resolve.outcome_eq_tooLong_iff] at hdiffer

/-- A discreet invocation inspects. -/
theorem run_of_isDiscreet {i : Invocation} (hi : i.IsDiscreet) {arguments : List String}
    (h : Invocation.ofArguments arguments = .ok i) (w : World) :
    run w arguments = inspect i.options w i.command := by
  cases arguments with
  | nil =>
    have hnone : Invocation.ofArguments [] = .ok ⟨.none, .unnamed⟩ := rfl
    rw [hnone] at h
    obtain rfl := Except.ok.inj h
    rcases hi with ⟨hcommand, -⟩ | ⟨status, hcommand⟩ <;> cases hcommand
  | cons argument arguments =>
    unfold run
    dsimp only
    rw [h]
    dsimp only
    unfold Invocation.run
    rcases hi with ⟨hcommand, -⟩ | ⟨status, hcommand⟩ <;> rw [hcommand]

end Runs

/-- The program does not leak secrets. Whatever its arguments are, if they ask for a masked
configuration or for the explanation of a status, then its runs in two worlds that differ in secrets
alone are the same: what is shown and printed, the notes and the ending. The exception is a number
that is too long for a text and is met in just one of the two worlds. -/
theorem run_eq_iff_of_alike {w w' : World} {arguments : List String}
    (h : ∀ i, Invocation.ofArguments arguments = .ok i →
      i.IsDiscreet ∧ (i.options.world w).Alike (i.options.world w')) :
    run w arguments = run w' arguments ↔
      ∀ i, Invocation.ofArguments arguments = .ok i →
        (i.MeetsLongNumber w ↔ i.MeetsLongNumber w') := by
  cases hread : Invocation.ofArguments arguments with
  | error stop =>
    refine iff_of_true ?_ (by simp)
    cases arguments with
    | nil => rfl
    | cons argument arguments =>
      unfold run
      simp only [hread]
  | ok i =>
    obtain ⟨hi, hworlds⟩ := h i hread
    rw [run_of_isDiscreet hi hread, run_of_isDiscreet hi hread]
    constructor
    · intro hsame j hj
      obtain rfl := Except.ok.inj hj
      rw [← endsTooLong_inspect_iff i w i.command, hsame, endsTooLong_inspect_iff]
    · intro hmeets
      rcases inspect_alike hi hworlds with hsame | hdiffer
      · exact hsame
      · exact absurd (hmeets i rfl) hdiffer

/-! ## Two worlds with other secrets -/

/-- A world with a password among the variables and a mounted token. -/
def worldOfSecrets (password token : String) : World where
  settings := { properties := [], environ := [("KUBERNETES_AUTH_BASIC_PASSWORD", password)] }
  files := fun path => if path = .ofText "sa/token" then .file token.toUTF8 else .missing
  home := "home"
  mount := ⟨"sa/token", "sa/ca.crt"⟩

/-- The switches that ask for a document and for a kubeconfig file that is not there. -/
def sampleOptions : Options :=
  { Options.none with kubeconfig := "none", json := true }

theorem kubeconfigPath_worldOfSecrets (password token : String) :
    Resolve.kubeconfigPath (sampleOptions.world (worldOfSecrets password token)).settings "home" =
      .ok (.ofText "none") :=
  Resolve.kubeconfigPath_of_get rfl (by decide) rfl

/-- In such a world only the token is a file. -/
theorem files_worldOfSecrets (password token : String) {path : Path}
    (h : path ≠ .ofText "sa/token") : (worldOfSecrets password token).files path = .missing :=
  if_neg h

/-- Two such worlds look alike if neither the password nor the token is missing in one of them. -/
theorem alike_worldOfSecrets {password password' token token' : String} (hne : password ≠ "")
    (hne' : password' ≠ "")
    (htoken : (worldOfSecrets password token).files.HasToken (.ofText "sa/token"))
    (htoken' : (worldOfSecrets password' token').files.HasToken (.ofText "sa/token")) :
    (sampleOptions.world (worldOfSecrets password token)).Alike
      (sampleOptions.world (worldOfSecrets password' token')) where
  settings :=
    { properties := rfl
      digitLimit := rfl
      environ := by
        intro name
        by_cases hname : name = "KUBERNETES_AUTH_BASIC_PASSWORD"
        · subst hname
          exact .inr ⟨by decide, password, password', rfl, rfl, hne, hne'⟩
        · left
          have hbeq : (name == "KUBERNETES_AUTH_BASIC_PASSWORD") = false :=
            beq_false_of_ne hname
          simp [Options.world, worldOfSecrets, List.lookup_cons, hbeq] }
  home := rfl
  mount := rfl
  token := .inr ⟨htoken, htoken'⟩
  kubeconfig := by
    intro path hpath
    obtain rfl := Except.ok.inj ((kubeconfigPath_worldOfSecrets password token).symm.trans hpath)
    have hother : Path.ofText "none" ≠ .ofText "sa/token" := by
      decide
    left
    exact (files_worldOfSecrets password token hother).trans
      (files_worldOfSecrets password' token' hother).symm
  others := by
    intro path hother _
    exact (files_worldOfSecrets password token hother).trans
      (files_worldOfSecrets password' token' hother).symm

/-- No number that is too long is met in such a world. -/
theorem not_meetsLongNumber_worldOfSecrets (password token : String) :
    ¬(Invocation.mk sampleOptions .showing).MeetsLongNumber (worldOfSecrets password token) := by
  rintro ⟨-, path, hpath, hfile, -⟩
  obtain rfl := Except.ok.inj ((kubeconfigPath_worldOfSecrets password token).symm.trans hpath)
  have hmissing : (worldOfSecrets password token).files.isFile (.ofText "none") = false := by
    unfold Files.isFile
    rw [files_worldOfSecrets password token (by decide)]
    exact Bool.and_false _
  have hfound : (worldOfSecrets password token).files.isFile (.ofText "none") = true := hfile
  rw [hmissing] at hfound
  cases hfound

/-- What is shown does not depend on what the password and the token are. -/
theorem run_eq_iff_of_alike_sample :
    run (worldOfSecrets "one" "two") ["show", "--kubeconfig=none", "--json"] =
      run (worldOfSecrets "three" "four") ["show", "--kubeconfig=none", "--json"] := by
  have htoken : (worldOfSecrets "one" "two").files.HasToken (.ofText "sa/token") :=
    Files.hasToken_of_any (by decide)
  have htoken' : (worldOfSecrets "three" "four").files.HasToken (.ofText "sa/token") :=
    Files.hasToken_of_any (by decide)
  have hread : ∀ i,
      Invocation.ofArguments ["show", "--kubeconfig=none", "--json"] = .ok i →
        i = ⟨sampleOptions, .showing⟩ := by
    intro i hi
    have hsome : (Invocation.ofArguments ["show", "--kubeconfig=none", "--json"]).toOption =
        some ⟨sampleOptions, .showing⟩ := by
      decide
    rw [hi] at hsome
    exact Option.some.inj hsome
  refine (run_eq_iff_of_alike ?_).mpr ?_
  · intro i hi
    obtain rfl := hread i hi
    exact ⟨.inl ⟨rfl, rfl⟩, alike_worldOfSecrets (by decide) (by decide) htoken htoken'⟩
  · intro i hi
    obtain rfl := hread i hi
    exact iff_of_false (not_meetsLongNumber_worldOfSecrets _ _)
      (not_meetsLongNumber_worldOfSecrets _ _)

end CommandLine

end ClusterConfig
