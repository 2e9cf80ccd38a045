import ClusterConfig.Draft
import ClusterConfig.Home
import ClusterConfig.Kubeconfig
import ClusterConfig.ServiceAccount
import ClusterConfig.Settings
import ClusterConfig.Url

/-!
# Resolution

A configuration is made from a caller's own values and four sources after them: the settings, a
mounted service account, a kubeconfig file and the defaults. Each source fills only what those
before it have left open.

Main definitions:

- `World`: all that resolution looks at besides a caller's values.
- `Failure`: why there is no configuration.
- `Resolve.seed`, `Resolve.mergeServiceAccount`, `Resolve.mergeKubeconfig`, `Resolve.finish`: the
  sources, one after the other.
- `resolve`: the configuration that all of them make.
-/

namespace ClusterConfig

/-- All that resolution looks at besides a caller's values. -/
structure World where
  settings : Settings
  files : Files
  home : Homes
  mount : Mount

/-- Why there is no configuration. -/
inductive Failure where
  /-- A value under the name that stands for the resolver. -/
  | resolverName
  /-- Values for fields that do not exist. -/
  | unknownFields (names : List String)
  /-- The home directory of the kubeconfig path is not known. -/
  | noHome
  /-- The kubeconfig path is no text. -/
  | pathNotText
  /-- The path of the service account is one that no file can have. -/
  | badMount
  /-- The kubeconfig file gives no document, in a way that cannot be lived with. -/
  | badDocument (fault : LoadFault)
  /-- The address of the server is no text. -/
  | addressNotText
  /-- The protocols are no collection. -/
  | protocolsNotCollection
  deriving DecidableEq, Repr

/-- A home directory that is not known, as a reason for there being no configuration. A path with a
name that no account can have is one that no file can have. -/
def Failure.ofHomeFault : HomeFault → Failure
  | .unknown => .noHome
  | .badName => .badDocument .badName

/-- Where a credential comes from that a server may turn down. -/
inductive Hint where
  | serviceAccount
  | kubeconfig
  deriving DecidableEq, Repr

namespace Hint

/-- What may be the matter with the credential. -/
def text : Hint → String
  | serviceAccount => String.append
      "Configured service account doesn't have access. "
      "Service account may have been revoked."
  | kubeconfig => String.append
      "Token may have expired! "
      "Please use kubectl login / oc login to log-in again."

/-- The diagnostics for the statuses of a server that turns a credential down. -/
def messages (hint : Hint) : List (Int × String) :=
  [(401, "Unauthorized! " ++ hint.text), (403, "Forbidden! " ++ hint.text)]

end Hint

namespace Draft

/-- The draft with the diagnostics for a credential, unless it has some already. -/
def explain (d : Draft) (hint : Hint) : Draft :=
  hint.messages.foldl (fun d m => d.addMessage m.1 m.2) d

@[simp]
theorem values_explain (d : Draft) (hint : Hint) : (d.explain hint).values = d.values := by
  simp [explain, Hint.messages]

end Draft

namespace Resolve

/-! ## Settings -/

/-- The fields in the order in which the settings are asked for them. -/
def seedOrder : List Field :=
  [.masterUrl, .apiVersion, .namespaceName, .enabledProtocols, .trustCerts, .caCertFile,
    .caCertData, .clientCertFile, .clientCertData, .clientKeyFile, .clientKeyData, .clientKeyAlgo,
    .clientKeyPassphrase, .username, .password, .oauthToken, .watchReconnectInterval,
    .watchReconnectLimit, .requestTimeout, .proxy]

/-- What the settings supply for several fields. -/
def seeds (s : Settings) (fields : List Field) : Noted (List (Field × Value)) where
  notes := fields.flatMap fun f => (s.field f).notes
  value := fields.map fun f => (f, (s.field f).value)

/-- Fills a draft from the settings. -/
def seed (s : Settings) (d : Draft) : Noted Draft :=
  let supplied := seeds s seedOrder
  let filled := d.fill supplied.value
  ⟨supplied.notes ++ (if filled.2.isEmpty then [] else [.seeded filled.2]), filled.1⟩

/-! ## Service account -/

/-- The draft with the certificate authority of a service account, which counts only where no client
certificate is known. -/
def adoptCa (account : ServiceAccount) (d : Draft) : Draft :=
  match account.caCertFile with
  | some path =>
    if path ≠ "" ∧ d.isSet .clientCertFile = false then (d.fill [(.caCertFile, .text path)]).1
    else d
  | none => d

/-- The draft with what it takes from a service account. -/
def adoptAccount (account : ServiceAccount) (d : Draft) : Noted Draft :=
  let filled := (adoptCa account d).fill [(.oauthToken, Value.ofText? account.token)]
  if filled.2.isEmpty then .quiet filled.1
  else ⟨[.tokenUsed], filled.1.explain .serviceAccount⟩

/-- Fills a draft from the mounted service account. -/
def mergeServiceAccount (w : World) (d : Draft) : Noted (Except Failure Draft) :=
  let found := ServiceAccount.read w.files w.mount
  match found.value with
  | .error _ => ⟨found.notes, .error .badMount⟩
  | .ok none => ⟨found.notes ++ [.noServiceAccount], .ok d⟩
  | .ok (some account) =>
    let adopted := adoptAccount account d
    ⟨found.notes ++ adopted.notes, .ok adopted.value⟩

/-! ## Kubeconfig file -/

/-- The path of the kubeconfig file where no setting names one. -/
def defaultPath : String := "~/.kube/config"

/-- The path of the kubeconfig file. -/
def kubeconfigPath (s : Settings) (home : Homes) : Except Failure Path :=
  let configured := s.get Settings.kubeconfig
  let given : Except Failure String :=
    if configured.isTrue then
      match configured.text? with
      | some path => .ok path
      | none => .error .pathNotText
    else .ok defaultPath
  match given with
  | .error failure => .error failure
  | .ok path => ((Path.ofText path).expand home).mapError .ofHomeFault

/-- What a cluster and a context supply. -/
def clusterValues (s : Snapshot) (c : Cluster) : List (Field × Value) :=
  [(.masterUrl, .ofText? c.server), (.namespaceName, .ofText? s.namespaceName),
    (.caCertFile, .ofText? c.certificateAuthority),
    (.caCertData, .ofText? c.certificateAuthorityData),
    (.trustCerts, .bool (c.insecureSkipTlsVerify.getD false))]

/-- What a user supplies. -/
def userValues (u : User) : List (Field × Value) :=
  [(.clientCertFile, .ofText? u.clientCertificate),
    (.clientCertData, .ofText? u.clientCertificateData), (.clientKeyFile, .ofText? u.clientKey),
    (.clientKeyData, .ofText? u.clientKeyData), (.oauthToken, .ofText? u.token),
    (.username, .ofText? u.username), (.password, .ofText? u.password)]

/-- The draft with what it takes from a user, if there is one. -/
def adoptUser (user : Option User) (d : Draft) : Draft × List Field :=
  match user with
  | none => (d, [])
  | some u =>
    let filled := d.fill (userValues u)
    (if filled.2.isEmpty then filled.1 else filled.1.explain .kubeconfig, filled.2)

/-- The draft with what it takes from a snapshot; one without a cluster supplies nothing. -/
def adoptSnapshot (path : String) (s : Snapshot) (d : Draft) : Noted Draft :=
  match s.cluster with
  | none => ⟨[.noCluster path], d⟩
  | some c =>
    let filled := d.fill (clusterValues s c)
    let withUser := adoptUser s.user filled.1
    ⟨[.supplied s.contextName (filled.2 ++ withUser.2)], withUser.1⟩

/-- The draft after a kubeconfig file was read. A file that is of no use counts for nothing. -/
def adoptOutcome (path : String) (outcome : Except LoadFault Snapshot) (d : Draft) :
    Noted (Except Failure Draft) :=
  match outcome with
  | .ok s => (adoptSnapshot path s d).map .ok
  | .error (.unusable fault) => ⟨[.kubeconfigUnusable path fault.message], .ok d⟩
  | .error fault => .quiet (.error (.badDocument fault))

/-- Fills a draft from the kubeconfig file. -/
def mergeKubeconfig (w : World) (reader : Yaml.Reader) (d : Draft) :
    Noted (Except Failure Draft) × Yaml.Reader :=
  match kubeconfigPath w.settings w.home with
  | .error failure => (.quiet (.error failure), reader)
  | .ok path =>
    if w.files.isFile path then
      let (parsed, reader) := Kubeconfig.parse w.files reader path.toText path
      let adopted := adoptOutcome path.toText parsed.value d
      (⟨parsed.notes ++ adopted.notes, adopted.value⟩, reader)
    else (⟨[.noKubeconfig path.toText], .ok d⟩, reader)

/-! ## Defaults -/

/-- The values of fields that no source has filled. -/
def defaults : List (Field × Value) :=
  [(.masterUrl, .text "https://kubernetes.default.svc"), (.apiVersion, .text "v1"),
    (.namespaceName, .text "default"), (.enabledProtocols, .list [.text "TLSv1.2"]),
    (.clientKeyAlgo, .text "RSA"), (.clientKeyPassphrase, .text "changeit"),
    (.watchReconnectInterval, .int 1000), (.watchReconnectLimit, .int (-1)),
    (.requestTimeout, .int 10000)]

/-- The draft with the path of the API version at the end of the server's address, and with a
decision on certificates. -/
def shape (d : Draft) : Except Failure Draft :=
  match (d.values .masterUrl).text? with
  | none => .error .addressNotText
  | some url =>
    let d := d.set .masterUrl (.text (Url.appendApiPath url (d.values .apiVersion).asText))
    .ok (d.fill [(.trustCerts, .bool false)]).1

/-- The finished configuration of a draft that no further source fills. -/
def finish (d : Draft) : Except Failure Config :=
  match shape (d.fill defaults).1 with
  | .error failure => .error failure
  | .ok d =>
    match d.freeze? with
    | some c => .ok c
    | none => .error .protocolsNotCollection

/-! ## All sources -/

/-- What resolution comes to: the notes that were made, the configuration or why there is none, and
the reader of documents after it. -/
structure Resolution where
  notes : List Note
  outcome : Except Failure Config
  reader : Yaml.Reader

/-- The name that stands for the resolver itself. -/
def ownName : String := "self"

/-- The draft that a caller's values make. One name stands for the resolver itself, and no value can
be given under it. -/
def accept (explicit : List (String × Value)) : Except Failure Draft :=
  if explicit.any fun entry => entry.1 = ownName then .error .resolverName
  else (Draft.ofExplicit explicit).mapError .unknownFields

/-- A source that fills a draft, unless a setting turns it off. -/
def unlessOff (s : Settings) (name : String) (d : Draft)
    (source : Draft → Noted (Except Failure Draft)) : Noted (Except Failure Draft) :=
  let wanted := s.flag name
  if wanted.value.getD true then
    let filled := source d
    ⟨wanted.notes ++ filled.notes, filled.value⟩
  else ⟨wanted.notes, .ok d⟩

/-- The resolution of a draft that a caller's values and the settings have filled. -/
def resolveSeeded (w : World) (reader : Yaml.Reader) (seeded : Noted Draft) : Resolution :=
  let mounted :=
    unlessOff w.settings Settings.tryServiceAccount seeded.value (mergeServiceAccount w)
  match mounted.value with
  | .error failure => ⟨seeded.notes ++ mounted.notes, .error failure, reader⟩
  | .ok d =>
    let wanted := w.settings.flag Settings.tryKubeconfig
    if wanted.value.getD true then
      let (filled, reader) := mergeKubeconfig w reader d
      { notes := seeded.notes ++ mounted.notes ++ wanted.notes ++ filled.notes
        outcome := filled.value.bind finish
        reader }
    else
      { notes := seeded.notes ++ mounted.notes ++ wanted.notes
        outcome := finish d
        reader }

end Resolve

/-- The configuration that a caller's values make in a world. -/
def resolve (w : World) (reader : Yaml.Reader) (explicit : List (String × Value)) :
    Resolve.Resolution :=
  match Resolve.accept explicit with
  | .error failure => ⟨[], .error failure, reader⟩
  | .ok d => Resolve.resolveSeeded w reader (Resolve.seed w.settings d)

namespace Failure

/-- The wording of a failure, empty for those that resolution has no words of its own for. -/
def message : Failure → String
  | unknownFields names => "Unknown configuration field(s): " ++ Value.commas names
  | noHome => "Could not determine home directory."
  | _ => ""

end Failure

namespace Resolve

/-- Every field is asked for. -/
theorem mem_seedOrder (f : Field) : f ∈ seedOrder := by
  cases f <;> decide

/-- No field is asked for twice. -/
theorem nodup_seedOrder : seedOrder.Nodup := by
  decide

end Resolve

end ClusterConfig
