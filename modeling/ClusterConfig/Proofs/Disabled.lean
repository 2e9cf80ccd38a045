import ClusterConfig.Proofs.Documents
import ClusterConfig.Proofs.Lookups

/-!
# Sources that are turned off

A setting can turn off the service account, and another one the kubeconfig file. What is turned off
is not looked at: two worlds that differ there alone have the same answer, with all that is reported
on the way and with the same reader of documents after it.

Main definitions:

- `Files.SameFile`: two states of the files have the same file at a path, or both have none.
- `World.SameBesidesAccount`, `World.SameBesidesKubeconfig`: worlds that differ in one source alone.

Main results:

- Theorem `mergeKubeconfig_congr`: the kubeconfig stage looks at no file but the one at its path.
- Theorem `mergeServiceAccount_congr`: the service account stage looks at no files but its two.
- Theorem `resolve_of_disabled`: a source that is turned off has no part in resolution.
-/

namespace ClusterConfig

/-! ## The files that a stage looks at -/

/-- Two states of the files have the same file at a path, or both have none there. -/
def Files.SameFile (files files' : Files) (path : Path) : Prop :=
  ∀ bytes, files path = .file bytes ↔ files' path = .file bytes

namespace Files.SameFile

variable {files files' : Files} {path : Path}

/-- What leads to a file in one state leads to the same file in the other. -/
theorem eq_of_isFile (h : files.SameFile files' path) (hfile : files.isFile path = true) :
    files path = files' path := by
  unfold isFile at hfile
  cases hfound : files path with
  | file bytes => exact ((h bytes).mp hfound).symm
  | _ => simp [hfound, Found.isFile] at hfile

theorem isFile_eq (h : files.SameFile files' path) : files.isFile path = files'.isFile path := by
  unfold isFile
  cases hfound : files path with
  | file bytes => rw [(h bytes).mp hfound]
  | _ =>
    cases hfound' : files' path with
    | file bytes => cases hfound.symm.trans ((h bytes).mpr hfound')
    | _ => rfl

end Files.SameFile

/-- The token of a service account is read by what its path leads to. -/
theorem ServiceAccount.readToken_congr {files files' : Files} {path : String}
    (h : files (.ofText path) = files' (.ofText path)) :
    readToken files path = readToken files' path := by
  have htext : files.readText (.ofText path) = files'.readText (.ofText path) :=
    Files.readWith_congr h
  unfold readToken
  rw [htext]

namespace Resolve

variable {w w' : World}

/-- The stage of the kubeconfig file looks at no file but the one at the path of the kubeconfig
file. -/
theorem mergeKubeconfig_congr
    (hpath : kubeconfigPath w.settings w.home = kubeconfigPath w'.settings w'.home)
    (hfiles : ∀ path, kubeconfigPath w.settings w.home = .ok path →
      w.files.SameFile w'.files path) (reader : Yaml.Reader) (d : Draft) :
    mergeKubeconfig w reader d = mergeKubeconfig w' reader d := by
  have hlook : look w reader = look w' reader := by
    refine look_congr hpath fun path hknown => ?_
    have hsame := hfiles path hknown
    exact ⟨hsame.isFile_eq, fun hfile => Kubeconfig.parse_congr (hsame.eq_of_isFile hfile) _ _⟩
  rw [mergeKubeconfig_eq, mergeKubeconfig_eq, hlook]

/-- The stage of the service account looks at no files but the token and the certificate
authority. -/
theorem mergeServiceAccount_congr (hmount : w.mount = w'.mount)
    (htoken : w.files (.ofText w.mount.tokenPath) = w'.files (.ofText w.mount.tokenPath))
    (hca : w.files (.ofText w.mount.caPath) = w'.files (.ofText w.mount.caPath)) (d : Draft) :
    mergeServiceAccount w d = mergeServiceAccount w' d := by
  have hfile : ServiceAccount.caFile? w.files w.mount.caPath =
      ServiceAccount.caFile? w'.files w.mount.caPath := by
    unfold ServiceAccount.caFile? Files.isFile
    rw [hca]
  unfold mergeServiceAccount ServiceAccount.read
  rw [← hmount, ← hfile, ServiceAccount.readToken_congr htoken]

/-- A source that is turned off leaves a draft as it is, and makes no notes of its own. -/
theorem unlessOff_of_not_wants {name : String} (h : w.wants name = false) (d : Draft)
    (source : Draft → Noted (Except Failure Draft)) :
    unlessOff w.settings name d source = ⟨(w.settings.flag name).notes, .ok d⟩ := by
  rw [unlessOff_eq, h]
  rfl

/-- Worlds whose stages are the same give the same answers. -/
theorem resolve_congr (hseed : ∀ d, seed w.settings d = seed w'.settings d)
    (hmounted : ∀ d, unlessOff w.settings Settings.tryServiceAccount d (mergeServiceAccount w) =
      unlessOff w'.settings Settings.tryServiceAccount d (mergeServiceAccount w'))
    (hflag : w.settings.flag Settings.tryKubeconfig = w'.settings.flag Settings.tryKubeconfig)
    {reader : Yaml.Reader} (hconsulted : w.wants Settings.tryKubeconfig = true →
      ∀ d, mergeKubeconfig w reader d = mergeKubeconfig w' reader d)
    (explicit : List (String × Value)) :
    resolve w reader explicit = resolve w' reader explicit := by
  unfold resolve
  cases accept explicit with
  | error failure => rfl
  | ok d =>
    dsimp only
    unfold resolveSeeded
    rw [hseed, hmounted, ← hflag]
    dsimp only
    split
    · rfl
    · split
      · rename_i hwants
        rw [hconsulted hwants]
      · rfl

end Resolve

/-! ## Worlds that differ in one source -/

namespace World

/-- Two worlds differ in the service account alone: they have the same settings, and the same file,
or none, at the path of the kubeconfig file. What any other path leads to does not count. -/
structure SameBesidesAccount (w w' : World) : Prop where
  settings : w.settings = w'.settings
  home : w.home = w'.home
  kubeconfig : ∀ path, Resolve.kubeconfigPath w.settings w.home = .ok path →
    w.files.SameFile w'.files path

/-- Two worlds differ in the kubeconfig file alone: in the setting that names it, in the home
directory, and in what is at any path but the two of the service account. -/
structure SameBesidesKubeconfig (w w' : World) : Prop where
  mount : w.mount = w'.mount
  token : w.files (.ofText w.mount.tokenPath) = w'.files (.ofText w.mount.tokenPath)
  authority : w.files (.ofText w.mount.caPath) = w'.files (.ofText w.mount.caPath)
  digitLimit : w.settings.digitLimit = w'.settings.digitLimit
  properties : ∀ name, name ≠ Settings.kubeconfig →
    w.settings.properties.lookup name = w'.settings.properties.lookup name
  environ : ∀ name, name ≠ variableName Settings.kubeconfig →
    w.settings.environ.lookup name = w'.settings.environ.lookup name

variable {w w' : World}

/-- Worlds whose files differ at the two paths of the service account alone differ in nothing else,
if the kubeconfig file is at neither of the two. -/
theorem SameBesidesAccount.of_files (hsettings : w.settings = w'.settings)
    (hhome : w.home = w'.home)
    (hfiles : ∀ path, path ≠ .ofText w.mount.tokenPath → path ≠ .ofText w.mount.caPath →
      w.files path = w'.files path)
    (hother : ∀ path, Resolve.kubeconfigPath w.settings w.home = .ok path →
      path ≠ .ofText w.mount.tokenPath ∧ path ≠ .ofText w.mount.caPath) :
    w.SameBesidesAccount w' := by
  refine ⟨hsettings, hhome, ?_⟩
  intro path hpath bytes
  rw [hfiles path (hother path hpath).1 (hother path hpath).2]

/-- Every setting but the one that names the kubeconfig file has the same value. -/
theorem SameBesidesKubeconfig.get_eq (h : w.SameBesidesKubeconfig w') {name : String}
    (hname : name ∈ Settings.names) (hne : name ≠ Settings.kubeconfig) :
    w.settings.get name = w'.settings.get name := by
  have hkubeconfig : Settings.kubeconfig ∈ Settings.names := by
    simp [Settings.names]
  refine Settings.get_congr (h.properties name hne) (h.environ _ ?_)
  intro hvariable
  exact hne (Settings.eq_of_variableName_eq hname hkubeconfig hvariable)

/-- The settings fill a draft alike. -/
theorem SameBesidesKubeconfig.seed_eq (h : w.SameBesidesKubeconfig w') (d : Draft) :
    Resolve.seed w.settings d = Resolve.seed w'.settings d := by
  refine Resolve.seed_congr ?_ d
  intro f
  refine Settings.field_congr h.digitLimit ?_
  intro name hname
  refine h.get_eq (Settings.mem_names_of_mem_settings hname) ?_
  rintro rfl
  exact Settings.not_mem_of_mem_settings hname (by simp)

/-- Both sources are asked, or turned off, alike. -/
theorem SameBesidesKubeconfig.flag_eq (h : w.SameBesidesKubeconfig w') {name : String}
    (hname : name ∈ [Settings.tryServiceAccount, Settings.tryKubeconfig]) :
    w.settings.flag name = w'.settings.flag name := by
  refine Settings.flag_congr (h.get_eq ?_ ?_)
  · simp only [List.mem_cons, List.not_mem_nil, or_false] at hname
    rcases hname with rfl | rfl <;> simp [Settings.names]
  · rintro rfl
    exact absurd hname (by decide)

end World

/-! ## Resolution without a source -/

namespace Resolve

variable {w w' : World}

/-- Without the service account, worlds that differ in it alone give the same answers. -/
theorem resolve_of_not_wants_account (hoff : w.wants Settings.tryServiceAccount = false)
    (h : w.SameBesidesAccount w') (reader : Yaml.Reader) (explicit : List (String × Value)) :
    resolve w reader explicit = resolve w' reader explicit := by
  have hoff' : w'.wants Settings.tryServiceAccount = false := by
    unfold World.wants
    rw [← h.settings]
    exact hoff
  refine resolve_congr ?_ ?_ ?_ ?_ explicit
  · intro d
    rw [h.settings]
  · intro d
    rw [unlessOff_of_not_wants hoff, unlessOff_of_not_wants hoff', h.settings]
  · rw [h.settings]
  · intro _ d
    exact mergeKubeconfig_congr (by rw [h.settings, h.home]) h.kubeconfig reader d

/-- Without the kubeconfig file, worlds that differ in it alone give the same answers. -/
theorem resolve_of_not_wants_kubeconfig (hoff : w.wants Settings.tryKubeconfig = false)
    (h : w.SameBesidesKubeconfig w') (reader : Yaml.Reader) (explicit : List (String × Value)) :
    resolve w reader explicit = resolve w' reader explicit := by
  refine resolve_congr h.seed_eq ?_ (h.flag_eq (by simp)) ?_ explicit
  · intro d
    have hmerge : mergeServiceAccount w = mergeServiceAccount w' :=
      funext (mergeServiceAccount_congr h.mount h.token h.authority)
    unfold unlessOff
    rw [hmerge, h.flag_eq (by simp)]
  · intro hwants
    rw [hoff] at hwants
    cases hwants

/-- A source that is turned off has no part in resolution. Where the service account is, the whole
answer is the same in worlds that differ in it alone: the configuration or the failure, every note,
and the reader after it. Where the kubeconfig file is, the same holds of worlds that differ in it
alone, whatever its setting names, wherever the home directory is and whatever files there are
besides the two of the service account. -/
theorem resolve_of_disabled (w w' : World) (reader : Yaml.Reader)
    (explicit : List (String × Value)) :
    (w.wants Settings.tryServiceAccount = false → w.SameBesidesAccount w' →
        resolve w reader explicit = resolve w' reader explicit) ∧
      (w.wants Settings.tryKubeconfig = false → w.SameBesidesKubeconfig w' →
        resolve w reader explicit = resolve w' reader explicit) :=
  ⟨fun hoff h => resolve_of_not_wants_account hoff h reader explicit,
    fun hoff h => resolve_of_not_wants_kubeconfig hoff h reader explicit⟩

/-! ## Worlds with a source turned off -/

/-- A world in which a setting is off and another one names the kubeconfig file, with one file. -/
def worldWithout (off kubeconfig home path text : String) : World where
  settings :=
    { properties := [(off, .text "false"), (Settings.kubeconfig, .text kubeconfig)], environ := [] }
  files := fun p => if p = .ofText path then .file text.toUTF8 else .missing
  home := home
  mount := ⟨"sa/token", "sa/ca.crt"⟩

/-- A token and a certificate authority do not tell such worlds apart where the service account is
off; neither do two kubeconfig files where these are off, one of them at a path that is not
known. -/
theorem resolve_of_disabled_samples :
    resolve (worldWithout Settings.tryServiceAccount "config" "home" "sa/token" "one") .fresh [] =
        resolve (worldWithout Settings.tryServiceAccount "config" "home" "sa/ca.crt" "two") .fresh
          [] ∧
      resolve (worldWithout Settings.tryKubeconfig "~nobody/config" "home" "config" "[") .fresh [] =
        resolve (worldWithout Settings.tryKubeconfig "other" "~" "other" "a: 1") .fresh [] := by
  have hpath : ∀ path text, kubeconfigPath
      (worldWithout Settings.tryServiceAccount "config" "home" path text).settings "home" =
        .ok (.ofText "config") :=
    fun _ _ => kubeconfigPath_of_get rfl (by decide) rfl
  have hmissing : ∀ {off kubeconfig home path text : String} {p : Path}, p ≠ .ofText path →
      (worldWithout off kubeconfig home path text).files p = .missing :=
    fun hp => if_neg hp
  constructor
  · refine (resolve_of_disabled _ _ .fresh []).1 (by decide) (.of_files rfl rfl ?_ ?_)
    · intro path htoken hca
      exact (hmissing htoken).trans (hmissing hca).symm
    · intro path hconfig
      obtain rfl := Except.ok.inj ((hpath _ _).symm.trans hconfig)
      decide
  · refine (resolve_of_disabled _ _ .fresh []).2 (by decide) ?_
    refine ⟨rfl, ?_, ?_, rfl, ?_, fun _ _ => rfl⟩
    · exact (hmissing (by decide)).trans (hmissing (by decide)).symm
    · exact (hmissing (by decide)).trans (hmissing (by decide)).symm
    · intro name hname
      simp [worldWithout, List.lookup_cons, beq_false_of_ne hname]

end Resolve

end ClusterConfig
