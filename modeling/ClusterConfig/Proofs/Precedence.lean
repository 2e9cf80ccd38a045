import ClusterConfig.Proofs.Documents
import ClusterConfig.Proofs.Stages

/-!
# The order of the sources

A field of a configuration has the value of the first source that has one for it: the caller, the
settings, the service account, the cluster and the user of the kubeconfig file, the defaults. Only
the address of the server is changed once more, by the path of the API version.

Main results:

- Theorem `supplied_of_stages`: what the stages leave in a draft is what the first source supplies.
- Theorem `resolve_supplies_first`: so is every field of a resolved configuration.
-/

namespace ClusterConfig.Resolve

/-- What the stages leave in a draft, completed by the defaults, is what the first source supplies
that has a value. -/
theorem supplied_of_stages {w : World} {reader : Yaml.Reader} {explicit : List (String × Value)}
    {d₀ d₁ d₂ : Draft} (hmap : (explicit.map Prod.fst).Nodup) (h₀ : accept explicit = .ok d₀)
    (h₁ : mounted w (seed w.settings d₀).value = .ok d₁) (h₂ : consulted w reader d₁ = .ok d₂)
    (f : Field) : (d₂.values f).orElse f.default = w.supplied reader explicit f := by
  calc (d₂.values f).orElse f.default
      = ((d₁.values f).orElse ((w.clusterOffer reader f).orElse (w.userOffer reader f))).orElse
          f.default := by rw [values_consulted h₂]
    _ = ((((Draft.given explicit f).orElse (w.settings.field f).value).orElse
          (w.offer reader explicit f .serviceAccount)).orElse
          ((w.clusterOffer reader f).orElse (w.userOffer reader f))).orElse f.default := by
        rw [values_before_kubeconfig hmap h₀ h₁ reader]
    _ = w.supplied reader explicit f := by
        rw [World.supplied_eq]
        simp only [Value.orElse_assoc]

/-- What is supplied for the protocols is a list, unless the caller gives something else. -/
theorem exists_list_supplied (w : World) (reader : Yaml.Reader) {explicit : List (String × Value)}
    (h : Draft.given explicit .enabledProtocols = .null ∨
      ∃ items, Draft.given explicit .enabledProtocols = .list items) :
    ∃ items, w.supplied reader explicit .enabledProtocols = .list items := by
  rw [World.supplied_eq]
  rcases h with hnull | ⟨items, hitems⟩
  · rw [hnull, Value.null_orElse]
    have hsettings : (w.settings.field .enabledProtocols).value =
        Settings.partsValue (w.settings.parts "kubernetes.tls.protocols") := rfl
    rw [hsettings]
    cases w.settings.parts "kubernetes.tls.protocols" with
    | some parts =>
      refine ⟨parts.map .text, Value.orElse_of_ne_null ?_ _⟩
      simp [Settings.partsValue]
    | none =>
      have hcluster : w.clusterOffer reader .enabledProtocols = .null := by
        unfold World.clusterOffer Snapshot.clusterOffer
        split
        · split <;> rfl
        · rfl
      have huser : w.userOffer reader .enabledProtocols = .null :=
        w.userOffer_of_not_mem reader (by decide)
      refine ⟨[.text "TLSv1.2"], ?_⟩
      rw [hcluster, huser]
      rfl
  · rw [hitems]
    exact ⟨items, Value.orElse_of_ne_null (by simp) _⟩

/-- Every field of a resolved configuration has the value of the first source that has one, and the
address of the server has the path of the API version after it. The caller's values are a mapping,
with a list for the protocols if there is anything for them. -/
theorem resolve_supplies_first {w : World} {reader : Yaml.Reader}
    {explicit : List (String × Value)} {c : Config} (hmap : (explicit.map Prod.fst).Nodup)
    (hlist : Draft.given explicit .enabledProtocols = .null ∨
      ∃ items, Draft.given explicit .enabledProtocols = .list items)
    (h : (resolve w reader explicit).outcome = .ok c) :
    (∀ f, f ≠ .masterUrl → c.values f = w.supplied reader explicit f) ∧
      ∃ url, w.supplied reader explicit .masterUrl = .text url ∧
        c.values .masterUrl = .text (Url.appendApiPath url (c.values .apiVersion).asText) := by
  obtain ⟨d₀, d₁, d₂, h₀, h₁, h₂, hfinish⟩ := resolve_eq_ok_iff.mp h
  obtain ⟨⟨url, hurl, hmaster⟩, hprotocols, hfields⟩ := values_finish hfinish
  have hsupplied := supplied_of_stages hmap h₀ h₁ h₂
  refine ⟨?_, url, (hsupplied .masterUrl).symm.trans hurl, hmaster⟩
  intro f hf
  by_cases henabled : f = .enabledProtocols
  · subst henabled
    -- the first list that a source has for the protocols is taken apart into itself
    obtain ⟨items, hitems⟩ : ∃ items, w.supplied reader explicit .enabledProtocols = .list items :=
      exists_list_supplied w reader hlist
    rw [hprotocols, hsupplied, hitems]
    rfl
  · rw [hfields f hf henabled, hsupplied]

/-- A world with some settings, a mounted account and a kubeconfig file with the given content. -/
def worldAround (content : ByteArray) : World where
  settings :=
    { properties := [("kubernetes.namespace", .text "ops"), ("https.proxy", .text "proxy:8080"),
        ("kubeconfig", .text "config")]
      environ := [] }
  files := fun path =>
    if path = .ofText "sa/token" then .file "secret\n".toUTF8
    else if path = .ofText "sa/ca.crt" then .file .empty
    else if path = .ofText "config" then .file content
    else .missing
  home := "home"
  mount := ⟨"sa/token", "sa/ca.crt"⟩

/-- Such a world in which the kubeconfig file is no text. -/
def sampleWorld : World :=
  worldAround ⟨#[255]⟩

/-- A kubeconfig document with a cluster and a user. -/
def documentOfUser : String :=
  "current-context: c\ncontexts: [\x7bname: c, context: \x7bcluster: k, user: u\x7d\x7d]\n" ++
    "clusters: [\x7bname: k, cluster: \x7bserver: h\x7d\x7d]\n" ++
      "users: [\x7bname: u, user: \x7btoken: t, username: b\x7d\x7d]"

/-- Such a world with that document in the kubeconfig file. -/
def worldOfUser : World :=
  worldAround documentOfUser.toUTF8

/-- What the document stands for. -/
def snapshotOfUser : Snapshot where
  contextName := some "c"
  namespaceName := none
  cluster := some ⟨"k", some "h", none, none, none⟩
  user := some ⟨"u", none, none, none, none, some "t", some "b", none⟩

/-- The kubeconfig file supplies what the document stands for. -/
theorem supply_worldOfUser :
    supply worldOfUser .fresh = .ok (some ("config", snapshotOfUser)) := by
  have hpath : kubeconfigPath worldOfUser.settings worldOfUser.home = .ok (.ofText "config") := rfl
  have hfound : worldOfUser.files (.ofText "config") = .file documentOfUser.toUTF8 := by
    unfold worldOfUser worldAround
    dsimp only
    rw [if_neg (by decide), if_neg (by decide), if_pos rfl]
  have hgood : (Path.ofText "config").hasBadName = false := rfl
  have hfile : worldOfUser.files.isFile (.ofText "config") = true := by
    rw [Files.isFile, hgood, hfound]
    rfl
  obtain ⟨hplain, hread⟩ : Text.IsPlain documentOfUser ∧
      ((Kubeconfig.document (.ofText "config")
        (Yaml.Reader.fresh.load documentOfUser).1).toOption.any fun doc =>
          (Kubeconfig.snapshot doc).2.toOption.any (· = snapshotOfUser)) = true := by
    decide +kernel
  obtain ⟨doc, hdocument, hstands⟩ := exists_ok_of_any hread
  obtain ⟨s, hsnapshot, hsame⟩ := exists_ok_of_any hstands
  have hload : (Kubeconfig.load worldOfUser.files .fresh (.ofText "config")).1 = .ok doc := by
    rw [Kubeconfig.load_of_isPlain hgood hfound hplain, hdocument]
  have hparse := Kubeconfig.parse_of_load (Path.ofText "config").toText hload
  rw [supply, if_pos (by decide), look_of_file hpath hfile, Finding.supply, hparse,
    Kubeconfig.value_snapshotNoted, hsnapshot, of_decide_eq_true hsame]
  rfl

/-- An empty namespace, and null for the proxy. -/
def sampleExplicit : List (String × Value) :=
  [("namespace", .text ""), ("proxy", .null)]

/-- An empty namespace of the caller prevails over that of the settings, which supply the proxy, and
the token of the account over that of the user; the cluster supplies the address, the user the name,
and the defaults what is open. -/
theorem resolve_supplies_first_sample :
    ∃ c, (resolve worldOfUser .fresh sampleExplicit).outcome = .ok c ∧
      (c.values .namespaceName).text? = some "" ∧ (c.values .proxy).text? = some "proxy:8080" ∧
      (c.values .oauthToken).text? = some "secret" ∧
      (c.values .caCertFile).text? = some "sa/ca.crt" ∧
      (c.values .masterUrl).text? = some "h/api/v1/" ∧
      (c.values .username).text? = some "b" ∧ (c.values .clientKeyAlgo).text? = some "RSA" := by
  -- Whatever the fields take from the kubeconfig file is told from the snapshot that it supplies, so
  -- that the file is not read anew for each of them.
  have hsome : (resolve worldOfUser .fresh sampleExplicit).outcome.toOption.isSome = true := by
    rw [outcome_resolve]
    simp only [consulted_eq, supply_worldOfUser]
    decide +kernel
  have hsnapshot : worldOfUser.snapshot? .fresh = some snapshotOfUser := by
    rw [snapshot?_eq, supply_worldOfUser]
    rfl
  have hcluster : ∀ f, worldOfUser.clusterOffer .fresh f = snapshotOfUser.clusterOffer f := by
    intro f
    rw [World.clusterOffer, hsnapshot]
  have huser : ∀ f, worldOfUser.userOffer .fresh f = snapshotOfUser.userOffer f := by
    intro f
    rw [World.userOffer, hsnapshot]
  have hsupplied := worldOfUser.supplied_eq .fresh sampleExplicit
  simp only [hcluster, huser] at hsupplied
  obtain ⟨c, hc⟩ := exists_ok_of_isSome hsome
  obtain ⟨hfields, url, hurl, hmaster⟩ := resolve_supplies_first (by decide) (.inl rfl) hc
  obtain rfl : url = "h" := by
    rw [hsupplied] at hurl
    exact (Value.text.inj hurl).symm
  refine ⟨c, hc, ?_, ?_, ?_, ?_, ?_, ?_, ?_⟩
  · rw [hfields .namespaceName (by decide), hsupplied]
    rfl
  · rw [hfields .proxy (by decide), hsupplied]
    rfl
  · rw [hfields .oauthToken (by decide), hsupplied]
    rfl
  · rw [hfields .caCertFile (by decide), hsupplied]
    rfl
  · rw [hmaster, hfields .apiVersion (by decide), hsupplied]
    rfl
  · rw [hfields .username (by decide), hsupplied]
    rfl
  · rw [hfields .clientKeyAlgo (by decide), hsupplied]
    rfl

end ClusterConfig.Resolve
