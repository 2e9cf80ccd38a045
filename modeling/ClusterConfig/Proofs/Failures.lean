import ClusterConfig.Proofs.Documents
import ClusterConfig.Proofs.Precedence

/-!
# When a resolution fails

Sources that are missing or malformed mostly contribute nothing. What ends a resolution although the
caller and the settings did nothing wrong is a mount that no file can have, a home directory that is
not known, and a kubeconfig document with a part that has no value.

Main definitions:

- `Reading.Holds`, `Draft.IsTyped`: a caller's values of the declared types.
- `Kubeconfig.IsTolerated`: a text that a kubeconfig file can hold without ending a resolution.

Main results:

- Theorem `parse_unusable_iff`: which texts end the reading of a kubeconfig file.
- Theorems `exists_mounted_iff`, `exists_consulted_iff`: when the stages that look at files succeed.
- Theorem `resolve_succeeds_iff`: when a resolution gives a configuration.
-/

namespace ClusterConfig

/-- A value of the type that a way of reading settings gives. -/
def Reading.Holds : Reading → Value → Prop
  | .plain, v => ∃ s, v = .text s
  | .parts, v => ∃ items : List String, v = .list (items.map .text)
  | .flag, v => ∃ b, v = .bool b
  | .number, v => ∃ n, v = .int n

/-- A caller's values are typed if each is absent or of the type that its field has. -/
def Draft.IsTyped (explicit : List (String × Value)) : Prop :=
  ∀ f, Draft.given explicit f = .null ∨ f.reading.Holds (Draft.given explicit f)

/-- Settings that are texts wherever they are given. -/
def Settings.IsText (s : Settings) : Prop :=
  ∀ entry ∈ s.properties, ∃ text, entry.2 = .text text

/-- What a list of entries has under a name is what one of its entries has. -/
theorem mem_of_lookup_eq_some {α : Type} {entries : List (String × α)} {name : String} {a : α}
    (h : entries.lookup name = some a) : (name, a) ∈ entries := by
  induction entries with
  | nil => cases h
  | cons entry entries ih =>
    obtain ⟨other, b⟩ := entry
    rw [List.lookup_cons] at h
    split at h
    · rename_i hname
      rw [← eq_of_beq hname, ← Option.some.inj h]
      exact List.mem_cons_self
    · exact List.mem_cons_of_mem _ (ih h)

/-- A list of entries has nothing under a name that none of them has. -/
theorem lookup_eq_none_of_not_mem {α : Type} {entries : List (String × α)} {name : String}
    (h : name ∉ entries.map Prod.fst) : entries.lookup name = none := by
  rw [List.lookup_eq_none_iff]
  intro entry hentry
  have hmem : entry.1 ∈ entries.map Prod.fst := List.mem_map_of_mem hentry
  have hne : name ≠ entry.1 := fun hsame => h (hsame ▸ hmem)
  simpa using hne

/-- A setting among texts is a text or absent. -/
theorem Settings.get_of_isText {s : Settings} (h : s.IsText) (name : String) :
    s.get name = .null ∨ ∃ text, s.get name = .text text := by
  unfold get
  dsimp only
  split
  · split
    · rename_i text _
      split
      · exact .inl rfl
      · exact .inr ⟨text, rfl⟩
    · exact .inl rfl
  · cases hproperty : s.properties.lookup name with
    | none => exact .inl rfl
    | some v => exact .inr (h (name, v) (mem_of_lookup_eq_some hproperty))

/-! ## Texts that a kubeconfig file can hold -/

namespace Kubeconfig

/-- A text is tolerated by a reader if it gives a document or is invalid as a whole, and if no
number that a snapshot of the document needs is too long. -/
def IsTolerated (reader : Yaml.Reader) (path : Path) (text : String) : Prop :=
  (∀ fault, (reader.load text).1 = .error fault → fault.isOfDocument = true) ∧
    ∀ doc, document path (reader.load text).1 = .ok doc → (snapshot doc).2 ≠ .error .longNumber

/-- What a text comes to is a document or makes its file of no use, unless the text has a part
without a value. -/
theorem document_unusable_iff (path : Path) (outcome : Except Yaml.Fault Value) :
    (∀ fault, document path outcome = .error fault → ∃ f, fault = .unusable f) ↔
      ∀ fault, outcome = .error fault → fault.isOfDocument = true := by
  cases outcome with
  | error fault => cases hfault : fault.isOfDocument <;> simp [document, hfault]
  | ok doc => cases hcheck : check path.toText doc <;> simp [document, hcheck]

/-- A sound document has a snapshot unless a number is too long, and that does not make the file one
of no use. -/
theorem snapshotNoted_unusable_iff (given : String) {doc : Value} (hsound : IsSound doc) :
    (∀ fault, (snapshotNoted given doc).value = .error fault → ∃ f, fault = .unusable f) ↔
      (snapshot doc).2 ≠ .error .longNumber := by
  have hvalue : (snapshotNoted given doc).value = (snapshot doc).2.mapError .access := rfl
  cases hsnapshot : (snapshot doc).2 with
  | ok s =>
    have hok : (snapshotNoted given doc).value = .ok s := by
      rw [hvalue, hsnapshot]
      rfl
    simp [hok]
  | error fault =>
    obtain rfl := eq_longNumber_of_snapshot hsound hsnapshot
    have herror : (snapshotNoted given doc).value = .error (.access .longNumber) := by
      rw [hvalue, hsnapshot]
      rfl
    simp [herror]

/-- The reading of a file gives a snapshot or finds the file of no use just where the file holds no
text or one that is tolerated. -/
theorem parse_unusable_iff {files : Files} {reader : Yaml.Reader} (given : String) {path : Path}
    (hfile : files.isFile path = true) :
    (∀ fault, (parse files reader given path).1.value = .error fault → ∃ f, fault = .unusable f) ↔
      ∀ text, files.readMarkedText path = .ok text → IsTolerated reader path text := by
  have hname : files.readMarkedText path ≠ .error .badName := by
    intro hname
    have hbad := Files.readWith_eq_badName_iff.mp hname
    rw [Files.isFile_of_hasBadName hbad] at hfile
    cases hfile
  unfold parse load readText
  cases htext : files.readMarkedText path with
  | error cause =>
    cases cause
    case badName => exact absurd htext hname
    all_goals simp
  | ok text =>
    have hdocument := document_unusable_iff path (reader.load text).1
    simp only [Except.ok.injEq, forall_eq', IsTolerated, ← hdocument]
    cases hdoc : document path (reader.load text).1 with
    | error fault => simp
    | ok doc => simpa using snapshotNoted_unusable_iff given (isSound_of_document hdoc)

end Kubeconfig

namespace Resolve

/-! ## When each stage succeeds -/

/-- A caller's values under known names are accepted. -/
theorem exists_accept {explicit : List (String × Value)}
    (h : ∀ entry ∈ explicit, (Field.ofName? entry.1).isSome = true) :
    ∃ d, accept explicit = .ok d := by
  have hown : (explicit.any fun entry => entry.1 = ownName) = false := by
    rw [List.any_eq_false]
    intro entry hentry hname
    have hsome := h entry hentry
    rw [of_decide_eq_true hname] at hsome
    exact absurd hsome (by decide)
  have hunknown : Draft.unknownNames explicit = [] := by
    have hfilter : ((explicit.map (·.1)).filter fun name => (Field.ofName? name).isNone) = [] := by
      rw [List.filter_eq_nil_iff]
      intro name hname
      obtain ⟨entry, hentry, rfl⟩ := List.mem_map.mp hname
      simp [Option.isSome_iff_ne_none.mp (h entry hentry)]
    rw [Draft.unknownNames, hfilter, List.eraseDups_nil, List.mergeSort_nil]
  refine ⟨(Draft.empty.fill (Draft.knownValues explicit)).1, ?_⟩
  unfold accept Draft.ofExplicit
  rw [hown, hunknown]
  rfl

/-- A resolution whose explicit values are of known fields is its later stages, which start from
these values. -/
theorem outcome_resolve_of_known {w : World} {reader : Yaml.Reader}
    {explicit : List (String × Value)}
    (h : ∀ entry ∈ explicit, (Field.ofName? entry.1).isSome = true) :
    (resolve w reader explicit).outcome =
      (mounted w (seed w.settings (Draft.empty.fill (Draft.knownValues explicit)).1).value).bind
        fun d => (consulted w reader d).bind finish := by
  obtain ⟨d, hd⟩ := exists_accept h
  rw [outcome_resolve, hd, eq_of_accept hd]
  rfl

/-- The service account can be asked unless its token has a path that no file can have. -/
theorem exists_mounted_iff (w : World) (d : Draft) :
    (∃ d', mounted w d = .ok d') ↔
      (w.wants Settings.tryServiceAccount = true →
        (Path.ofText w.mount.tokenPath).hasBadName = false) := by
  rw [mounted_eq]
  split
  · rename_i hbad
    simp [hbad.1, hbad.2]
  · rename_i hgood
    simpa using hgood

/-- The kubeconfig file can be asked unless its path is not known or it holds a text that is not
tolerated. -/
theorem exists_consulted_iff (w : World) (reader : Yaml.Reader) (d : Draft) :
    (∃ d', consulted w reader d = .ok d') ↔
      (w.wants Settings.tryKubeconfig = true →
        ∃ path, kubeconfigPath w.settings w.home = .ok path ∧
          (w.files.isFile path = true → ∀ text, w.files.readMarkedText path = .ok text →
            Kubeconfig.IsTolerated reader path text)) := by
  have hfails : (∃ d', consulted w reader d = .ok d') ↔
      ∀ failure, supply w reader ≠ .error failure := by
    rw [consulted_eq]
    cases supply w reader <;> simp [Except.map]
  rw [hfails]
  simp only [ne_eq, supply_eq_error_iff]
  constructor
  · intro h hwants
    cases hpath : kubeconfigPath w.settings w.home with
    | error failure => exact absurd ⟨hwants, .inl hpath⟩ (h failure)
    | ok path =>
      refine ⟨path, rfl, fun hfile => (Kubeconfig.parse_unusable_iff path.toText hfile).mp ?_⟩
      intro fault hparse
      cases fault with
      | unusable f => exact ⟨f, rfl⟩
      | _ => exact absurd ⟨hwants, .inr ⟨path, _, hpath, hfile, hparse, nofun, rfl⟩⟩ (h _)
  · rintro h failure ⟨hwants, hunknown | ⟨path, fault, hpath, hfile, hparse, hother, -⟩⟩
    · obtain ⟨path, hpath, -⟩ := h hwants
      rw [hpath] at hunknown
      cases hunknown
    · obtain ⟨path', hpath', htolerated⟩ := h hwants
      obtain rfl := Except.ok.inj (hpath.symm.trans hpath')
      obtain ⟨f, rfl⟩ :=
        (Kubeconfig.parse_unusable_iff path.toText hfile).mpr (htolerated hfile) fault hparse
      exact hother f rfl

/-- A text or, in the place of null, another text is a text. -/
theorem exists_text_orElse {v v' : Value} (h : v = .null ∨ ∃ s, v = .text s)
    (h' : ∃ s, v' = .text s) : ∃ s, v.orElse v' = .text s := by
  rcases h with rfl | ⟨s, rfl⟩
  · exact h'
  · exact ⟨s, rfl⟩

/-- What is supplied for the address is a text, unless the caller or the settings give something
else. -/
theorem exists_text_supplied {w : World} (reader : Yaml.Reader) {explicit : List (String × Value)}
    (hsettings : w.settings.IsText)
    (h : Draft.given explicit .masterUrl = .null ∨
      ∃ s, Draft.given explicit .masterUrl = .text s) :
    ∃ url, w.supplied reader explicit .masterUrl = .text url := by
  have hseeded : (w.settings.field .masterUrl).value = .null ∨
      ∃ s, (w.settings.field .masterUrl).value = .text s := by
    have hvalue : (w.settings.field .masterUrl).value = w.settings.get "kubernetes.master" :=
      Value.orElse_null _
    rw [hvalue]
    exact Settings.get_of_isText hsettings "kubernetes.master"
  have hcluster : w.clusterOffer reader .masterUrl = .null ∨
      ∃ s, w.clusterOffer reader .masterUrl = .text s := by
    unfold World.clusterOffer Snapshot.clusterOffer
    split
    · split
      · rename_i c _
        cases hserver : c.server <;> simp [Cluster.offer, hserver, Value.ofText?]
      · exact .inl rfl
    · exact .inl rfl
  have huser : w.userOffer reader .masterUrl = .null :=
    w.userOffer_of_not_mem reader (by decide)
  rw [World.supplied_eq]
  refine exists_text_orElse h (exists_text_orElse hseeded ?_)
  have haccount : w.offer reader explicit .masterUrl .serviceAccount = .null := rfl
  rw [haccount, Value.null_orElse, huser, Value.null_orElse]
  exact exists_text_orElse hcluster ⟨_, rfl⟩

/-- Typed values and settings that are texts make a configuration, whatever the sources hold, just
where the token of the service account has a path that a file can have and the kubeconfig file has a
path that is known and holds nothing that is not tolerated. -/
theorem resolve_succeeds_iff {w : World} {reader : Yaml.Reader} {explicit : List (String × Value)}
    (hknown : ∀ entry ∈ explicit, (Field.ofName? entry.1).isSome = true)
    (hmap : (explicit.map Prod.fst).Nodup) (htyped : Draft.IsTyped explicit)
    (hsettings : w.settings.IsText) :
    (∃ c, (resolve w reader explicit).outcome = .ok c) ↔
      (w.wants Settings.tryServiceAccount = true →
        (Path.ofText w.mount.tokenPath).hasBadName = false) ∧
      (w.wants Settings.tryKubeconfig = true →
        ∃ path, kubeconfigPath w.settings w.home = .ok path ∧
          (w.files.isFile path = true → ∀ text, w.files.readMarkedText path = .ok text →
            Kubeconfig.IsTolerated reader path text)) := by
  obtain ⟨d₀, h₀⟩ := exists_accept hknown
  constructor
  · rintro ⟨c, hc⟩
    obtain ⟨d₀, d₁, d₂, -, h₁, h₂, -⟩ := resolve_eq_ok_iff.mp hc
    exact ⟨(exists_mounted_iff w _).mp ⟨d₁, h₁⟩, (exists_consulted_iff w reader d₁).mp ⟨d₂, h₂⟩⟩
  · rintro ⟨hmount, hkubeconfig⟩
    obtain ⟨d₁, h₁⟩ := (exists_mounted_iff w (seed w.settings d₀).value).mpr hmount
    obtain ⟨d₂, h₂⟩ := (exists_consulted_iff w reader d₁).mpr hkubeconfig
    have hsupplied := supplied_of_stages hmap h₀ h₁ h₂
    have hurl : ∃ url, (d₂.values .masterUrl).orElse Field.masterUrl.default = .text url := by
      rw [hsupplied]
      exact exists_text_supplied reader hsettings (htyped .masterUrl)
    have hlist : ∃ items,
        (d₂.values .enabledProtocols).orElse Field.enabledProtocols.default = .list items := by
      rw [hsupplied]
      refine exists_list_supplied w reader ?_
      rcases htyped .enabledProtocols with hnull | ⟨items, hitems⟩
      · exact .inl hnull
      · exact .inr ⟨_, hitems⟩
    obtain ⟨c, hc⟩ := exists_finish hurl hlist
    exact ⟨c, resolve_eq_ok_iff.mpr ⟨d₀, d₁, d₂, h₀, h₁, h₂, hc⟩⟩

/-- A world whose only file is a kubeconfig file with a text in it. -/
def worldHolding (text : String) : World where
  settings := { properties := [("kubeconfig", .text "config")], environ := [] }
  files := fun path => if path = .ofText "config" then .file text.toUTF8 else .missing
  home := "home"
  mount := ⟨"sa/token", "sa/ca.crt"⟩

/-- The settings of such a world are texts. -/
theorem isText_worldHolding (text : String) : (worldHolding text).settings.IsText := by
  intro entry hentry
  obtain rfl := List.mem_singleton.mp hentry
  exact ⟨"config", rfl⟩

/-- The kubeconfig file of such a world holds what a plain text is read as. -/
theorem exists_load_worldHolding {text : String} {p : Value → Bool}
    (h : Text.IsPlain text ∧ (Kubeconfig.document (.ofText "config")
      (Yaml.Reader.fresh.load text).1).toOption.any p = true) :
    ∃ doc, (Kubeconfig.load (worldHolding text).files .fresh (.ofText "config")).1 = .ok doc ∧
      p doc = true := by
  obtain ⟨hplain, hread⟩ := h
  have hfound : (worldHolding text).files (.ofText "config") = .file text.toUTF8 := by
    unfold worldHolding
    dsimp only
    rw [if_pos rfl]
  rw [Kubeconfig.load_of_isPlain rfl hfound hplain]
  exact exists_ok_of_any hread

/-- A text that is invalid as a whole counts for nothing. -/
theorem resolve_succeeds_iff_invalid :
    ∃ c, (resolve (worldHolding "[") .fresh [("namespace", .text "ops")]).outcome = .ok c := by
  have htyped : Draft.IsTyped [("namespace", .text "ops")] := by
    intro f
    by_cases hf : f = .namespaceName
    · subst hf
      exact .inr ⟨"ops", rfl⟩
    · left
      have hname : (f.name == "namespace") = false :=
        beq_false_of_ne fun h => hf (Field.name_injective h)
      simp [Draft.given, List.lookup_cons, hname]
  have hmounted : ∃ d, mounted (worldHolding "[") .empty = .ok d :=
    exists_ok_of_isSome (by decide)
  have hconsulted : ∃ d, consulted (worldHolding "[") .fresh .empty = .ok d :=
    exists_ok_of_isSome (by decide)
  refine (resolve_succeeds_iff (by decide) (by decide) htyped (isText_worldHolding "[")).mpr ?_
  constructor
  · exact (exists_mounted_iff _ _).mp hmounted
  · exact (exists_consulted_iff _ _ _).mp hconsulted

/-- Home directories of which one belongs to an account other than the caller's. -/
def homesOfNobody : Homes where
  own := "home"
  accounts := fun name => if name = "nobody" then some "/nonexistent" else none

/-- A world without files whose kubeconfig file would be under the home of an account that there is
not. -/
def worldOfStranger : World where
  settings := { properties := [("kubeconfig", .text "~nosuchuser/config")], environ := [] }
  files := fun _ => .missing
  home := homesOfNobody
  mount := ⟨"sa/token", "sa/ca.crt"⟩

/-- Settings that are texts and files that are missing or hold texts can still end a resolution: a
path under the home of an account that there is not does, and a scalar that has the form of a number
and is none. -/
theorem resolve_fails_of_sources :
    (worldOfStranger.settings.IsText ∧ ¬∃ c, (resolve worldOfStranger .fresh []).outcome = .ok c) ∧
      (worldHolding "a: -_").settings.IsText ∧
        ¬∃ c, (resolve (worldHolding "a: -_") .fresh []).outcome = .ok c := by
  have hstranger : (resolve worldOfStranger .fresh []).outcome.toOption.isSome = false := by
    decide +kernel
  have hscalar : (resolve (worldHolding "a: -_") .fresh []).outcome.toOption.isSome = false := by
    decide +kernel
  refine ⟨⟨?_, ?_⟩, isText_worldHolding _, ?_⟩
  · intro entry hentry
    obtain rfl := List.mem_singleton.mp hentry
    exact ⟨"~nosuchuser/config", rfl⟩
  · rintro ⟨c, hc⟩
    rw [hc] at hstranger
    cases hstranger
  · rintro ⟨c, hc⟩
    rw [hc] at hscalar
    cases hscalar

end Resolve

end ClusterConfig
