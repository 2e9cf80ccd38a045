import ClusterConfig.Proofs.LongNumbers
import ClusterConfig.Proofs.Lookups
import ClusterConfig.Proofs.Reports

/-!
# Kubeconfig files of no use

A kubeconfig file that is not there, that gives no document, or whose current context has no cluster
supplies nothing at all: neither its namespace, nor its user, nor a diagnostic. Resolution then goes
on as if no kubeconfig file were asked. The exception is a document without a cluster that has a
number too long for a text where a snapshot needs it, which ends the resolution.

Main definitions:

- `World.IsUnusable`: the kubeconfig file at a path is of no use.
- `World.withoutKubeconfig`: the world in which no kubeconfig file is asked.
- `Note.errors`: the notes that report an error.

Main results:

- Theorem `consulted_of_unusable`: a file of no use leaves a draft as it is, or ends the resolution.
- Theorem `errors_resolve`: a resolution reports an error just where it finds a file of no use.
- Theorem `unusable_as_without_iff`: when a file of no use is the same as none asked.
-/

namespace ClusterConfig

/-! ## Documents without a cluster -/

namespace Kubeconfig

/-- The body of the cluster that the current context names. There is none if the current context is
missing or unknown, or if it names no cluster that is known. -/
def currentCluster (doc : Value) : Except AccessFault (Option Value) :=
  match currentContext doc with
  | .error fault => .error fault
  | .ok none => .ok none
  | .ok (some context) =>
    (get context "cluster").bind fun name => referredEntry doc "clusters" name "cluster"

/-- A context that names no known cluster has none. -/
theorem clusterFor_of_unknown {doc context : Value}
    (h : ((get context "cluster").bind fun name => referredEntry doc "clusters" name "cluster") =
      .ok none) : clusterFor doc context = .ok none := by
  obtain ⟨name, hname, hunknown⟩ := Resolve.bind_eq_ok_iff.mp h
  change (get context "cluster").bind (fun name =>
    (referredEntry doc "clusters" name "cluster").bind (describe clusterKeys clusterOf name)) = _
  rw [hname]
  change (referredEntry doc "clusters" name "cluster").bind
    (describe clusterKeys clusterOf name) = _
  rw [hunknown]
  rfl

/-- The cluster of a snapshot is the one that its context names. -/
theorem cluster_of_snapshotOf {doc context : Value} {name : Option String} {s : Snapshot}
    (h : snapshotOf doc name context = .ok s) : clusterFor doc context = .ok s.cluster := by
  unfold snapshotOf at h
  split at h
  · cases h
  · obtain ⟨cluster, hcluster, h⟩ := Resolve.bind_eq_ok_iff.mp h
    obtain ⟨user, -, h⟩ := Resolve.bind_eq_ok_iff.mp h
    cases h
    exact hcluster

/-- The snapshot of a document whose current context has no cluster has none. -/
theorem cluster_of_snapshot {doc : Value} {s : Snapshot} (hnone : currentCluster doc = .ok none)
    (h : (snapshot doc).2 = .ok s) : s.cluster = none := by
  unfold snapshot at h
  unfold currentCluster at hnone
  split at h
  · cases h
  · -- no context is found, and its snapshot is made without a cluster
    cases hname : contextName doc with
    | error fault =>
      rw [hname] at h
      cases h
    | ok name =>
      rw [hname] at h
      cases h
      rfl
  · rename_i context hcontext
    rw [hcontext] at hnone
    obtain ⟨name, -, hsnapshot⟩ := Resolve.bind_eq_ok_iff.mp h
    have hcluster := cluster_of_snapshotOf hsnapshot
    rw [clusterFor_of_unknown hnone] at hcluster
    exact (Except.ok.inj hcluster).symm

end Kubeconfig

/-! ## Reports of errors -/

namespace Note

/-- The notes that report an error. -/
def errors (notes : List Note) : List Note :=
  notes.filter fun n => n.level = .error

@[simp]
theorem errors_nil : errors [] = [] :=
  rfl

@[simp]
theorem errors_append (notes more : List Note) :
    errors (notes ++ more) = errors notes ++ errors more :=
  List.filter_append notes more

/-- Only resolution itself reports errors. -/
theorem isOfResolution_errors : IsOfResolution fun n => n.level = .error := by
  intro n h
  cases n <;> first | rfl | cases h

end Note

/-- A setting that cannot be read as a truth value is no error. -/
@[simp]
theorem Settings.errors_flag (s : Settings) (name : String) :
    Note.errors (s.flag name).notes = [] :=
  Note.filter_eq_nil_of_origin Note.isOfResolution_errors (by decide) fun _ => origin_of_mem_flag

namespace Resolve

/-- The settings report no errors. -/
@[simp]
theorem errors_seed (s : Settings) (d : Draft) : Note.errors (seed s d).notes = [] := by
  have hseeds : Note.errors (seeds s seedOrder).notes = [] :=
    Note.filter_eq_nil_of_origin Note.isOfResolution_errors (by decide) fun _ => origin_of_mem_seeds
  have hseeded : ∀ filled : List Field,
      Note.errors (if filled.isEmpty then [] else [Note.seeded filled]) = [] := by
    intro filled
    split <;> rfl
  unfold seed
  dsimp only
  rw [Note.errors_append, hseeds, hseeded, List.append_nil]

/-- A service account reports no errors, whatever is the matter with it. -/
@[simp]
theorem errors_mergeServiceAccount (w : World) (d : Draft) :
    Note.errors (mergeServiceAccount w d).notes = [] := by
  have hread : Note.errors (ServiceAccount.readToken w.files w.mount.tokenPath).notes = [] :=
    Note.filter_eq_nil_of_origin Note.isOfResolution_errors (by decide)
      fun _ => ServiceAccount.origin_of_mem_read
  have hadopted : ∀ account, Note.errors (adoptAccount account d).notes = [] := by
    intro account
    unfold adoptAccount
    dsimp only
    split <;> rfl
  rw [notes_mergeServiceAccount, Note.errors_append, hread, List.nil_append]
  split
  · rfl
  · split
    · rfl
    · exact hadopted _

/-- Asking for a service account, or not, reports no errors. -/
theorem errors_unlessOff (w : World) (d : Draft) :
    Note.errors (unlessOff w.settings Settings.tryServiceAccount d (mergeServiceAccount w)).notes =
      [] := by
  rw [unlessOff_eq]
  split
  · rw [Note.errors_append, Settings.errors_flag, errors_mergeServiceAccount, List.append_nil]
  · exact Settings.errors_flag w.settings Settings.tryServiceAccount

end Resolve

/-! ## Files of no use -/

namespace World

/-- The kubeconfig file at a path is of no use: it is not there, or it gives no document that is
sound, or the current context of its document has no cluster. -/
inductive IsUnusable (w : World) (reader : Yaml.Reader) (path : Path) : Prop where
  | absent (h : w.files.isFile path = false)
  | refused (hfile : w.files.isFile path = true) (fault : KubeconfigFault)
      (h : (Kubeconfig.parse w.files reader path.toText path).1.value = .error (.unusable fault))
  | withoutCluster (hfile : w.files.isFile path = true) (doc : Value)
      (hload : (Kubeconfig.load w.files reader path).1 = .ok doc)
      (h : Kubeconfig.currentCluster doc = .ok none)

/-- What is reported about the kubeconfig file at a path: an error if it gives no document that is
sound. -/
def refusal (w : World) (reader : Yaml.Reader) (path : Path) : List Note :=
  if w.files.isFile path then
    match (Kubeconfig.parse w.files reader path.toText path).1.value with
    | .error (.unusable fault) => [.kubeconfigUnusable path.toText fault.message]
    | _ => []
  else []

/-- The world in which no kubeconfig file is asked, by a property. -/
def withoutKubeconfig (w : World) : World :=
  { w with settings := w.settings.withProperty Settings.tryKubeconfig (.text "false") }

theorem refusal_of_refused {w : World} {reader : Yaml.Reader} {path : Path}
    (hfile : w.files.isFile path = true) {fault : KubeconfigFault}
    (h : (Kubeconfig.parse w.files reader path.toText path).1.value = .error (.unusable fault)) :
    w.refusal reader path = [.kubeconfigUnusable path.toText fault.message] := by
  unfold refusal
  rw [if_pos hfile, h]

theorem refusal_eq_nil {w : World} {reader : Yaml.Reader} {path : Path}
    (h : ¬(w.files.isFile path = true ∧ ∃ fault,
      (Kubeconfig.parse w.files reader path.toText path).1.value = .error (.unusable fault))) :
    w.refusal reader path = [] := by
  unfold refusal
  split
  · rename_i hfile
    split
    · rename_i fault hparse
      exact absurd ⟨hfile, fault, hparse⟩ h
    · rfl
  · rfl

end World

namespace Resolve

variable {w : World} {reader : Yaml.Reader} {path : Path}

/-- A snapshot without a cluster supplies nothing. -/
theorem value_adoptSnapshot_of_none (given : String) {s : Snapshot} (h : s.cluster = none)
    (d : Draft) : (adoptSnapshot given s d).value = d := by
  unfold adoptSnapshot
  rw [h]

/-- A file of no use leaves a draft as it is, unless a number that is too long ends the
resolution. -/
theorem consulted_of_unusable (hpath : kubeconfigPath w.settings w.home = .ok path)
    (hwants : w.wants Settings.tryKubeconfig = true) (h : w.IsUnusable reader path) (d : Draft) :
    (consulted w reader d = .ok d ∧ ¬w.HoldsLongNumber reader path) ∨
      (consulted w reader d = .error tooLong ∧ w.HoldsLongNumber reader path) := by
  by_cases hlong : w.HoldsLongNumber reader path
  · exact .inr ⟨(consulted_eq_tooLong_iff d).mpr ⟨hwants, path, hpath, hlong⟩, hlong⟩
  · left
    refine ⟨?_, hlong⟩
    rw [consulted_eq, supply, if_pos hwants]
    cases h with
    | absent hfile =>
      rw [look_of_absent hpath hfile]
      rfl
    | refused hfile fault hparse =>
      rw [look_of_file hpath hfile, Finding.supply, hparse]
      rfl
    | withoutCluster hfile doc hload hnone =>
      have hparse : (Kubeconfig.parse w.files reader path.toText path).1.value =
          (Kubeconfig.snapshot doc).2.mapError .access := by
        rw [Kubeconfig.parse_of_load _ hload, Kubeconfig.value_snapshotNoted]
      cases hsnapshot : (Kubeconfig.snapshot doc).2 with
      | ok s =>
        have hcluster := Kubeconfig.cluster_of_snapshot hnone hsnapshot
        have hparse' : (Kubeconfig.parse w.files reader path.toText path).1.value = .ok s := by
          rw [hparse, hsnapshot]
          rfl
        rw [look_of_file hpath hfile, Finding.supply, hparse']
        exact congrArg Except.ok (value_adoptSnapshot_of_none _ hcluster d)
      | error fault =>
        -- a sound document lacks a snapshot only for a number, which was excluded
        have hsound : Kubeconfig.IsSound doc := Kubeconfig.isSound_of_load hload
        obtain rfl := Kubeconfig.eq_longNumber_of_snapshot hsound hsnapshot
        exact absurd ⟨hfile, doc, hload, hsnapshot⟩ hlong

/-! ## What a whole resolution reports -/

/-- The stage of the kubeconfig file reports an error just where the file gives no document that is
sound. -/
theorem errors_mergeKubeconfig (hpath : kubeconfigPath w.settings w.home = .ok path) (d : Draft) :
    Note.errors (mergeKubeconfig w reader d).1.notes = w.refusal reader path := by
  have hparsed : Note.errors (Kubeconfig.parse w.files reader path.toText path).1.notes = [] :=
    Note.filter_eq_nil_of_origin Note.isOfResolution_errors (by decide)
      fun _ => Kubeconfig.origin_of_mem_parse
  rw [mergeKubeconfig_eq, World.refusal]
  cases hfile : w.files.isFile path with
  | false =>
    rw [look_of_absent hpath hfile]
    rfl
  | true =>
    rw [look_of_file hpath hfile, if_pos rfl]
    dsimp only [Finding.adopt]
    rw [Note.errors_append, hparsed, List.nil_append]
    cases (Kubeconfig.parse w.files reader path.toText path).1.value with
    | ok s =>
      have hadopted : Note.errors (adoptSnapshot path.toText s d).notes = [] := by
        unfold adoptSnapshot
        split <;> rfl
      exact hadopted
    | error fault => cases fault <;> rfl

/-- A resolution that gets as far as the kubeconfig file reports the errors of that file. -/
theorem errors_resolve {explicit : List (String × Value)}
    (hpath : kubeconfigPath w.settings w.home = .ok path) (h : w.Asks explicit) :
    Note.errors (resolve w reader explicit).notes = w.refusal reader path := by
  obtain ⟨hwants, d₀, d₁, h₀, h₁⟩ := h
  rw [notes_resolve h₀ h₁, consultedNotes, if_pos hwants]
  simp only [Note.errors_append, errors_seed, errors_unlessOff, Settings.errors_flag,
    List.nil_append]
  exact errors_mergeKubeconfig hpath d₁

/-- A resolution that does not get as far as the kubeconfig file reports no errors. -/
theorem errors_resolve_of_not_asks {explicit : List (String × Value)} (h : ¬w.Asks explicit) :
    Note.errors (resolve w reader explicit).notes = [] := by
  unfold resolve
  cases h₀ : accept explicit with
  | error failure => rfl
  | ok d₀ =>
    dsimp only
    unfold resolveSeeded
    dsimp only
    split
    · rw [Note.errors_append, errors_seed, errors_unlessOff, List.append_nil]
    · rename_i d₁ h₁
      split
      · rename_i hwants
        exact absurd ⟨hwants, d₀, d₁, h₀, h₁⟩ h
      · simp only [Note.errors_append, errors_seed, errors_unlessOff, Settings.errors_flag,
          List.append_nil]

/-! ## Files of no use and files that are not asked -/

/-- In the world without a kubeconfig file, none is asked. -/
theorem wants_withoutKubeconfig (w : World) :
    w.withoutKubeconfig.wants Settings.tryKubeconfig = false := by
  have hget : w.withoutKubeconfig.settings.get Settings.tryKubeconfig = .text "false" :=
    Settings.get_withProperty_self w.settings Settings.tryKubeconfig rfl
  unfold World.wants Settings.flag
  rw [hget]
  decide

/-- The settings fill a draft as they do in the world without a kubeconfig file. -/
theorem seed_withoutKubeconfig (w : World) (d : Draft) :
    seed w.withoutKubeconfig.settings d = seed w.settings d := by
  refine seed_congr ?_ d
  intro f
  refine Settings.field_congr rfl ?_
  intro name hname
  have hne : name ≠ Settings.tryKubeconfig := by
    rintro rfl
    exact Settings.not_mem_of_mem_settings hname (by simp)
  exact Settings.get_withProperty_of_ne w.settings hne _

/-- The service account is asked as it is in the world without a kubeconfig file. -/
theorem mounted_withoutKubeconfig (w : World) (d : Draft) :
    mounted w.withoutKubeconfig d = mounted w d := by
  have hne : Settings.tryServiceAccount ≠ Settings.tryKubeconfig := by
    decide
  exact mounted_congr w (Settings.get_withProperty_of_ne w.settings hne _) d

/-- Without a kubeconfig file, what the first stages leave is finished at once. -/
theorem outcome_withoutKubeconfig (w : World) (reader : Yaml.Reader)
    (explicit : List (String × Value)) :
    (resolve w.withoutKubeconfig reader explicit).outcome =
      (accept explicit).bind fun d => (mounted w (seed w.settings d).value).bind finish := by
  have hconsulted : ∀ d, consulted w.withoutKubeconfig reader d = .ok d := by
    intro d
    rw [consulted, wants_withoutKubeconfig]
    rfl
  simp only [outcome_resolve, seed_withoutKubeconfig, mounted_withoutKubeconfig, hconsulted]
  rfl

/-- The outcome of a resolution that gets as far as a file of no use. -/
theorem outcome_of_asks {explicit : List (String × Value)}
    (hpath : kubeconfigPath w.settings w.home = .ok path) (h : w.IsUnusable reader path)
    (hasks : w.Asks explicit) :
    (resolve w reader explicit).outcome = (resolve w.withoutKubeconfig reader explicit).outcome ↔
      ¬w.HoldsLongNumber reader path := by
  obtain ⟨hwants, d₀, d₁, h₀, h₁⟩ := hasks
  have hwith : (resolve w reader explicit).outcome = (consulted w reader d₁).bind finish := by
    rw [outcome_resolve, h₀]
    simp only [Except.bind, h₁]
  have hwithout : (resolve w.withoutKubeconfig reader explicit).outcome = finish d₁ := by
    rw [outcome_withoutKubeconfig, h₀]
    simp only [Except.bind, h₁]
  rw [hwith, hwithout]
  rcases consulted_of_unusable hpath hwants h d₁ with ⟨hsame, hshort⟩ | ⟨hended, hlong⟩
  · rw [hsame]
    exact iff_of_true rfl hshort
  · rw [hended]
    refine iff_of_false ?_ (fun hshort => hshort hlong)
    intro hsame
    exact finish_ne_tooLong d₁ hsame.symm

/-- A resolution that does not get as far as the kubeconfig file comes to the same without it. -/
theorem outcome_of_not_asks {explicit : List (String × Value)} (h : ¬w.Asks explicit) :
    (resolve w reader explicit).outcome =
      (resolve w.withoutKubeconfig reader explicit).outcome := by
  rw [outcome_resolve, outcome_withoutKubeconfig]
  cases h₀ : accept explicit with
  | error failure => rfl
  | ok d₀ =>
    simp only [Except.bind]
    cases h₁ : mounted w (seed w.settings d₀).value with
    | error failure => rfl
    | ok d₁ =>
      have hwants : ¬w.wants Settings.tryKubeconfig = true := by
        intro hwants
        exact h ⟨hwants, d₀, d₁, h₀, h₁⟩
      simp only [consulted, if_neg hwants]

/-- A kubeconfig file of no use is the same as none that is asked: the configuration or the failure
is the same, unless the resolution gets as far as a document without a cluster that has a number too
long for a text. An error is reported just where the file gives no document that is sound. -/
theorem unusable_as_without_iff {explicit : List (String × Value)}
    (hpath : kubeconfigPath w.settings w.home = .ok path) (h : w.IsUnusable reader path) :
    ((resolve w reader explicit).outcome =
          (resolve w.withoutKubeconfig reader explicit).outcome ↔
        ¬(w.Asks explicit ∧ w.HoldsLongNumber reader path)) ∧
      (∀ fault, w.Asks explicit → w.files.isFile path = true →
        (Kubeconfig.parse w.files reader path.toText path).1.value = .error (.unusable fault) →
        Note.errors (resolve w reader explicit).notes =
          [.kubeconfigUnusable path.toText fault.message]) ∧
      (¬(w.Asks explicit ∧ w.files.isFile path = true ∧ ∃ fault,
          (Kubeconfig.parse w.files reader path.toText path).1.value = .error (.unusable fault)) →
        Note.errors (resolve w reader explicit).notes = []) ∧
      Note.errors (resolve w.withoutKubeconfig reader explicit).notes = [] := by
  refine ⟨?_, ?_, ?_, ?_⟩
  · by_cases hasks : w.Asks explicit
    · rw [outcome_of_asks hpath h hasks]
      simp [hasks]
    · exact iff_of_true (outcome_of_not_asks hasks) (fun hboth => hasks hboth.1)
  · intro fault hasks hfile hparse
    rw [errors_resolve hpath hasks, World.refusal_of_refused hfile hparse]
  · intro hnot
    by_cases hasks : w.Asks explicit
    · rw [errors_resolve hpath hasks]
      refine World.refusal_eq_nil ?_
      rintro ⟨hfile, hrefused⟩
      exact hnot ⟨hasks, hfile, hrefused⟩
    · exact errors_resolve_of_not_asks hasks
  · refine errors_resolve_of_not_asks ?_
    rintro ⟨hwants, -⟩
    rw [wants_withoutKubeconfig] at hwants
    cases hwants

/-! ## Two files of no use -/

/-- The kubeconfig file of a world with one file is that file. -/
theorem kubeconfigPath_worldHolding (text : String) :
    kubeconfigPath (worldHolding text).settings (worldHolding text).home =
      .ok (.ofText "config") :=
  kubeconfigPath_of_get rfl (by decide) rfl

theorem isFile_worldHolding (text : String) :
    (worldHolding text).files.isFile (.ofText "config") = true := by
  have hgood : (Path.ofText "config").hasBadName = false := rfl
  simp [Files.isFile, hgood, worldHolding, Found.isFile]

/-- A document whose current context has a namespace and a user with a token, and no cluster. -/
def partialDocument : String :=
  "current-context: c\n" ++
    "contexts: [\x7bname: c, context: \x7bnamespace: ops, user: u\x7d\x7d]\n" ++
      "users: [\x7bname: u, user: \x7btoken: t\x7d\x7d]"

/-- A text that is no document counts for nothing but the error that is reported, and a context
without a cluster counts for nothing at all. -/
theorem unusable_as_without_iff_samples :
    ((resolve (worldHolding "[") .fresh []).outcome =
          (resolve (worldHolding "[").withoutKubeconfig .fresh []).outcome ∧
        Note.errors (resolve (worldHolding "[") .fresh []).notes =
          [.kubeconfigUnusable "config" "Invalid YAML in kubeconfig config"]) ∧
      (resolve (worldHolding partialDocument) .fresh []).outcome =
          (resolve (worldHolding partialDocument).withoutKubeconfig .fresh []).outcome ∧
        Note.errors (resolve (worldHolding partialDocument) .fresh []).notes = [] := by
  constructor
  · have hparse : (Kubeconfig.parse (worldHolding "[").files .fresh (Path.ofText "config").toText
        (.ofText "config")).1.value = .error (.unusable (.invalid "config" .badStructure)) :=
      rfl
    have hasks : (worldHolding "[").Asks [] := by
      obtain ⟨d₀, h₀⟩ := @exists_accept [] (by simp)
      obtain ⟨d₁, h₁⟩ := (exists_mounted_iff (worldHolding "[")
        (seed (worldHolding "[").settings d₀).value).mpr (fun _ => by decide)
      exact ⟨by decide, d₀, d₁, h₀, h₁⟩
    obtain ⟨hsame, hreported, -⟩ := unusable_as_without_iff
      (kubeconfigPath_worldHolding "[") (.refused (isFile_worldHolding "[") _ hparse)
    constructor
    · refine hsame.mpr ?_
      rintro ⟨-, -, hlong⟩
      rw [(Kubeconfig.parse_eq_longNumber_iff _).mpr hlong] at hparse
      cases hparse
    · rw [hreported _ hasks (isFile_worldHolding "[") hparse]
      rfl
  · obtain ⟨doc, hload, hparts⟩ := @exists_load_worldHolding partialDocument
      (fun doc => (Kubeconfig.currentCluster doc).toOption.any Option.isNone &&
        (Kubeconfig.snapshotNoted (Path.ofText "config").toText doc).value.toOption.isSome)
      (by decide +kernel)
    rw [Bool.and_eq_true] at hparts
    obtain ⟨cluster, hcluster, hnone⟩ := exists_ok_of_any hparts.1
    obtain rfl := Option.isNone_iff_eq_none.mp hnone
    obtain ⟨s, hsnapshot⟩ := exists_ok_of_isSome hparts.2
    have hparse := Kubeconfig.parse_of_load (Path.ofText "config").toText hload
    obtain ⟨hsame, -, hquiet, -⟩ := unusable_as_without_iff
      (kubeconfigPath_worldHolding partialDocument)
      (.withoutCluster (isFile_worldHolding partialDocument) doc hload hcluster)
    constructor
    · refine hsame.mpr ?_
      rintro ⟨-, -, hlong⟩
      have hrefused := (Kubeconfig.parse_eq_longNumber_iff (Path.ofText "config").toText).mpr hlong
      rw [hparse, hsnapshot] at hrefused
      cases hrefused
    · refine hquiet ?_
      rintro ⟨-, -, fault, hrefused⟩
      rw [hparse, hsnapshot] at hrefused
      cases hrefused

end Resolve

end ClusterConfig
