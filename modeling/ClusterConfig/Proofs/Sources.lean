import ClusterConfig.Proofs.Filling
import ClusterConfig.Resolve

/-!
# What the sources supply

A caller, the settings, a service account, the cluster and the user of a kubeconfig context, and the
defaults: for each of them it is said here what it has for every field, without the drafts that
resolution works on. The stages of resolution are then the same as asking one source after the
other.

Main definitions:

- `Source`: the sources, the first of which prevails.
- `World.offer`: what a source has for a field.
- `World.supplier?`, `World.supplied`: the first source that has a value for a field, and the value.

Main results:

- Theorem `World.supplier?_eq_some_iff`: a source supplies a field just where it has a value for it
  and none that prevails over it has.
- Theorem `World.supplied_eq`: what is supplied for a field, source by source.
-/

namespace ClusterConfig

/-- Where the value of a field can come from. -/
inductive Source where
  /-- The caller's own values. -/
  | caller
  | settings
  | serviceAccount
  /-- The cluster of the current context of the kubeconfig file. -/
  | cluster
  /-- The user of the current context of the kubeconfig file. -/
  | user
  | defaults
  deriving DecidableEq, Repr

/-- The sources, those that prevail first. -/
def Source.all : List Source :=
  [caller, settings, serviceAccount, cluster, user, defaults]

/-! ## The sources field by field -/

/-- What a cluster and its context have for a field. -/
def Cluster.offer (s : Snapshot) (c : Cluster) : Field → Value
  | .masterUrl => .ofText? c.server
  | .namespaceName => .ofText? s.namespaceName
  | .caCertFile => .ofText? c.certificateAuthority
  | .caCertData => .ofText? c.certificateAuthorityData
  | .trustCerts => .bool (c.insecureSkipTlsVerify == some true)
  | _ => .null

/-- What a user has for a field. -/
def User.offer (u : User) : Field → Value
  | .clientCertFile => .ofText? u.clientCertificate
  | .clientCertData => .ofText? u.clientCertificateData
  | .clientKeyFile => .ofText? u.clientKey
  | .clientKeyData => .ofText? u.clientKeyData
  | .oauthToken => .ofText? u.token
  | .username => .ofText? u.username
  | .password => .ofText? u.password
  | _ => .null

/-- The fields of credentials, for which a user can have something. -/
def credentialFields : List Field :=
  [.clientCertFile, .clientCertData, .clientKeyFile, .clientKeyData, .oauthToken, .username,
    .password]

/-- A user has nothing for other fields than those of credentials. -/
theorem User.offer_of_not_mem (u : User) {f : Field} (h : f ∉ credentialFields) :
    u.offer f = .null := by
  cases f <;> first | rfl | exact absurd (by decide) h

/-- What a user has for a field, nothing if there is no user. -/
def User.offerOf (user : Option User) (f : Field) : Value :=
  match user with
  | some u => u.offer f
  | none => .null

/-- What the cluster of a snapshot has for a field. -/
def Snapshot.clusterOffer (s : Snapshot) (f : Field) : Value :=
  match s.cluster with
  | some c => c.offer s f
  | none => .null

/-- What the user of a snapshot has for a field; without a cluster the user does not count. -/
def Snapshot.userOffer (s : Snapshot) (f : Field) : Value :=
  if s.cluster.isSome then User.offerOf s.user f else .null

/-- What a service account has for a field. Its certificate authority counts only where no client
certificate file is known, and not under an empty path. -/
def ServiceAccount.offer (account : ServiceAccount) (clientCertFile : Value) : Field → Value
  | .oauthToken => .ofText? account.token
  | .caCertFile =>
    if clientCertFile = .null ∧ account.caCertFile ≠ some "" then .ofText? account.caCertFile
    else .null
  | _ => .null

/-- The default of a field, null if it has none. -/
def Field.default : Field → Value
  | .trustCerts => .bool false
  | .masterUrl => .text "https://kubernetes.default.svc"
  | .apiVersion => .text "v1"
  | .namespaceName => .text "default"
  | .enabledProtocols => .list [.text "TLSv1.2"]
  | .clientKeyAlgo => .text "RSA"
  | .clientKeyPassphrase => .text "changeit"
  | .watchReconnectInterval => .int 1000
  | .watchReconnectLimit => .int (-1)
  | .requestTimeout => .int 10000
  | _ => .null

namespace World

/-- Whether a source is asked, which a setting can forbid. -/
def wants (w : World) (name : String) : Bool :=
  (w.settings.flag name).value.getD true

theorem getD_flag (w : World) (name : String) :
    (w.settings.flag name).value.getD true = w.wants name :=
  rfl

/-- The service account that is found, with neither part if none is asked for. -/
def account (w : World) : ServiceAccount :=
  if w.wants Settings.tryServiceAccount then
    { token :=
        match w.files.readText (.ofText w.mount.tokenPath) with
        | .ok text => ServiceAccount.usable? text
        | .error _ => none
      caCertFile := ServiceAccount.caFile? w.files w.mount.caPath }
  else ⟨none, none⟩

/-- The snapshot that the kubeconfig file supplies: the file must be asked, have a path, be there
and give one. -/
def snapshot? (w : World) (reader : Yaml.Reader) : Option Snapshot :=
  if w.wants Settings.tryKubeconfig then
    match Resolve.kubeconfigPath w.settings w.home with
    | .ok path =>
      if w.files.isFile path then
        (Kubeconfig.parse w.files reader path.toText path).1.value.toOption
      else none
    | .error _ => none
  else none

/-- What the cluster of the kubeconfig file has for a field. -/
def clusterOffer (w : World) (reader : Yaml.Reader) (f : Field) : Value :=
  match w.snapshot? reader with
  | some s => s.clusterOffer f
  | none => .null

/-- What the user of the kubeconfig file has for a field. -/
def userOffer (w : World) (reader : Yaml.Reader) (f : Field) : Value :=
  match w.snapshot? reader with
  | some s => s.userOffer f
  | none => .null

section Supply

variable (w : World) (reader : Yaml.Reader) (explicit : List (String × Value))

/-- What a source has for a field, null if it has nothing. -/
def offer (f : Field) : Source → Value
  | .caller => Draft.given explicit f
  | .settings => (w.settings.field f).value
  | .serviceAccount =>
    let certificate := Draft.given explicit .clientCertFile
    w.account.offer (certificate.orElse (w.settings.field .clientCertFile).value) f
  | .cluster => w.clusterOffer reader f
  | .user => w.userOffer reader f
  | .defaults => f.default

/-- The first source that has a value for a field. -/
def supplier? (f : Field) : Option Source :=
  Source.all.find? fun source => !(w.offer reader explicit f source).isNull

/-- The value of the first source that has one for a field, null if none has. -/
def supplied (f : Field) : Value :=
  match w.supplier? reader explicit f with
  | some source => w.offer reader explicit f source
  | none => .null

end Supply

end World

/-- The user of the kubeconfig file has nothing for other fields than those of credentials. -/
theorem World.userOffer_of_not_mem (w : World) (reader : Yaml.Reader) {f : Field}
    (h : f ∉ credentialFields) : w.userOffer reader f = .null := by
  unfold World.userOffer Snapshot.userOffer User.offerOf
  split
  · split
    · split
      · exact User.offer_of_not_mem _ h
      · rfl
    · rfl
  · rfl

/-- The sources that prevail over a source. -/
def Source.earlier (source : Source) : List Source :=
  all.takeWhile fun other => other ≠ source

/-- The first that has a property is one that has it while nothing before it does. -/
theorem find?_eq_some_iff_takeWhile {has : Source → Bool} {sources : List Source} {source : Source}
    (h : source ∈ sources) :
    sources.find? has = some source ↔
      has source = true ∧
        ∀ other ∈ sources.takeWhile (fun other => other ≠ source), has other = false := by
  induction sources with
  | nil => cases h
  | cons first sources ih =>
    by_cases hfirst : first = source
    · subst hfirst
      cases hhas : has first with
      | true => simp [hhas]
      | false =>
        simp only [List.find?_cons, hhas, Bool.false_eq_true, false_and, iff_false]
        intro hfound
        exact absurd (List.find?_some hfound) (by simp [hhas])
    · have hmem : source ∈ sources := by
        rcases List.mem_cons.mp h with rfl | hmem
        · exact absurd rfl hfirst
        · exact hmem
      cases hhas : has first with
      | true => simp [hhas, hfirst]
      | false => simp [hhas, hfirst, ih hmem]

/-- A source supplies a field just where it has a value for it and none that prevails over it
has. -/
theorem World.supplier?_eq_some_iff (w : World) (reader : Yaml.Reader)
    (explicit : List (String × Value)) (f : Field) (source : Source) :
    w.supplier? reader explicit f = some source ↔
      w.offer reader explicit f source ≠ .null ∧
        ∀ other ∈ source.earlier, w.offer reader explicit f other = .null := by
  have hmem : source ∈ Source.all := by
    cases source <;> decide
  unfold supplier? Source.earlier
  rw [find?_eq_some_iff_takeWhile hmem]
  simp [← Value.isNull_iff]

/-- The first value that is not null is what remains when every null gives way to the next value. -/
theorem find?_not_null_eq_foldr (value : Source → Value) (sources : List Source) :
    (match sources.find? fun source => !(value source).isNull with
      | some source => value source
      | none => Value.null) =
      sources.foldr (fun source rest => (value source).orElse rest) .null := by
  induction sources with
  | nil => rfl
  | cons source sources ih =>
    rw [List.foldr_cons, ← ih, List.find?_cons]
    cases hvalue : (value source).isNull with
    | true => simp [Value.isNull_iff.mp hvalue]
    | false =>
      have hne : value source ≠ .null := by
        simpa [← Value.isNull_iff] using hvalue
      simp [Value.orElse_of_ne_null hne]

/-- What is supplied for a field, source by source. -/
theorem World.supplied_eq (w : World) (reader : Yaml.Reader) (explicit : List (String × Value))
    (f : Field) :
    w.supplied reader explicit f =
      (Draft.given explicit f).orElse ((w.settings.field f).value.orElse
        ((w.offer reader explicit f .serviceAccount).orElse
          ((w.clusterOffer reader f).orElse ((w.userOffer reader f).orElse f.default)))) := by
  have hfold := find?_not_null_eq_foldr (w.offer reader explicit f) Source.all
  simpa [supplied, supplier?, Source.all, offer] using hfold

end ClusterConfig
