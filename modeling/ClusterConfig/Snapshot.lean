import ClusterConfig.Value.Text

/-!
# Snapshots of kubeconfig documents

A kubeconfig document lists clusters, users and contexts by name, and one context is current. A
snapshot is what the current context stands for: its namespace, its cluster and its user, as far as
the document has them.

Main definitions:

- `Kubeconfig.namedEntry`: the body of the first entry of a section with a name.
- `Kubeconfig.currentContext`, `Kubeconfig.clusterFor`, `Kubeconfig.userFor`: the parts.
- `Kubeconfig.snapshot`: the snapshot of a document.
-/

namespace ClusterConfig

/-- A cluster that a context names. -/
structure Cluster where
  name : String
  server : Option String
  certificateAuthority : Option String
  certificateAuthorityData : Option String
  insecureSkipTlsVerify : Option Bool
  deriving DecidableEq, Repr

/-- A user that a context names. -/
structure User where
  name : String
  clientCertificate : Option String
  clientCertificateData : Option String
  clientKey : Option String
  clientKeyData : Option String
  token : Option String
  username : Option String
  password : Option String
  deriving DecidableEq, Repr

/-- What the current context of a document stands for. -/
structure Snapshot where
  contextName : Option String
  namespaceName : Option String
  cluster : Option Cluster
  user : Option User
  deriving DecidableEq, Repr

/-- Why a part of a document cannot be looked up. Only a document that was not checked lacks
mappings or lists where they should be. -/
inductive AccessFault where
  /-- Something that should be a mapping is none. -/
  | notMapping
  /-- Something that should be a list cannot be gone through. -/
  | notIterable
  /-- A number is too long for a text. -/
  | longNumber
  deriving DecidableEq, Repr

namespace Kubeconfig

/-- The value under a key of a mapping. -/
def get (mapping : Value) (key : String) : Except AccessFault Value :=
  match mapping.members? with
  | some members => .ok (Value.member members key)
  | none => .error .notMapping

/-- The entries of a section: none if the section is empty or absent. -/
def entries (doc : Value) (sectionName : String) : Except AccessFault (List Value) :=
  match get doc sectionName with
  | .error fault => .error fault
  | .ok entries =>
    if entries.isTrue then
      match entries.elements? with
      | some items => .ok items
      | none => .error .notIterable
    else .ok []

/-- Whether an entry is a mapping with the given name. -/
def hasName (name : Value) (entry : Value) : Bool :=
  match entry.members? with
  | some members => (Value.member members "name").same name
  | none => false

/-- A mapping itself, the empty one in the place of anything else. -/
def asMapping (v : Value) : Value :=
  if v.members?.isSome then v else .map []

/-- The body of an entry, under the key of its kind. -/
def body (bodyKey : String) (entry : Value) : Value :=
  match entry.members? with
  | some members => asMapping (Value.member members bodyKey)
  | none => .map []

/-- The body of the first entry of a section with the given name. -/
def namedEntry (doc : Value) (sectionName : String) (name : Value) (bodyKey : String) :
    Except AccessFault (Option Value) :=
  (entries doc sectionName).map fun items => (items.find? (hasName name)).map (body bodyKey)

/-- The body of the entry that a value names; a value that counts as false names none. -/
def referredEntry (doc : Value) (sectionName : String) (name : Value) (bodyKey : String) :
    Except AccessFault (Option Value) :=
  if name.isTrue then namedEntry doc sectionName name bodyKey else .ok none

/-- The body of the current context. -/
def currentContext (doc : Value) : Except AccessFault (Option Value) :=
  match get doc "current-context" with
  | .ok name => referredEntry doc "contexts" name "context"
  | .error fault => .error fault

/-- The text under a key of a body. -/
def textIn (body : Value) (key : String) : Option String :=
  match get body key with
  | .ok v => v.asText?
  | .error _ => none

/-- The truth value that is spelled under a key of a body. -/
def flagIn (body : Value) (key : String) : Option Bool :=
  match get body key with
  | .ok v => v.asFlag?
  | .error _ => none

/-- Whether all that a body has under some keys can be written. -/
def isWritableUnder (body : Value) (keys : List String) : Bool :=
  keys.all fun key =>
    match get body key with
    | .ok v => v.isWritable
    | .error _ => true

/-- The keys of a body that describes a cluster. -/
def clusterKeys : List String :=
  ["server", "certificate-authority", "certificate-authority-data", "insecure-skip-tls-verify"]

/-- The cluster that a body describes. -/
def clusterOf (name body : Value) : Cluster where
  name := name.asText
  server := textIn body "server"
  certificateAuthority := textIn body "certificate-authority"
  certificateAuthorityData := textIn body "certificate-authority-data"
  insecureSkipTlsVerify := flagIn body "insecure-skip-tls-verify"

/-- The keys of a body that describes a user. -/
def userKeys : List String :=
  ["client-certificate", "client-certificate-data", "client-key", "client-key-data", "token",
    "username", "password"]

/-- The user that a body describes. -/
def userOf (name body : Value) : User where
  name := name.asText
  clientCertificate := textIn body "client-certificate"
  clientCertificateData := textIn body "client-certificate-data"
  clientKey := textIn body "client-key"
  clientKeyData := textIn body "client-key-data"
  token := textIn body "token"
  username := textIn body "username"
  password := textIn body "password"

/-- What a body describes if its name and all that it has under some keys can be written. -/
def describe {α : Type} (keys : List String) (of : Value → Value → α) (name : Value) :
    Option Value → Except AccessFault (Option α)
  | none => .ok none
  | some body =>
    if name.isWritable && isWritableUnder body keys then .ok (some (of name body))
    else .error .longNumber

/-- The cluster that a context names, if the document has it. -/
def clusterFor (doc context : Value) : Except AccessFault (Option Cluster) := do
  let name ← get context "cluster"
  let found ← referredEntry doc "clusters" name "cluster"
  describe clusterKeys clusterOf name found

/-- The user that a context names, if the document has it. -/
def userFor (doc context : Value) : Except AccessFault (Option User) := do
  let name ← get context "user"
  let found ← referredEntry doc "users" name "user"
  describe userKeys userOf name found

/-- The name of the current context; one that counts as false is none. -/
def contextName (doc : Value) : Except AccessFault (Option String) := do
  let name ← get doc "current-context"
  if name.isTrue then
    if name.isWritable then return name.asText? else throw .longNumber
  else return none

/-- What a context stands for. -/
def snapshotOf (doc : Value) (name : Option String) (context : Value) :
    Except AccessFault Snapshot := do
  if !isWritableUnder context ["namespace"] then throw .longNumber
  let cluster ← clusterFor doc context
  let user ← userFor doc context
  return ⟨name, textIn context "namespace", cluster, user⟩

/-- The snapshot of a document. The flag says whether the current context was found; it was looked
for even if its name is too long for a text. -/
def snapshot (doc : Value) : Bool × Except AccessFault Snapshot :=
  match currentContext doc with
  | .error fault => (true, .error fault)
  | .ok none => (false, (contextName doc).map fun name => ⟨name, none, none, none⟩)
  | .ok (some context) => (true, (contextName doc).bind fun name => snapshotOf doc name context)

@[simp]
theorem get_map (members : List (Value × Value)) (key : String) :
    get (.map members) key = .ok (Value.member members key) :=
  rfl

/-- What is taken for a mapping is one. -/
@[simp]
theorem isSome_members?_asMapping (v : Value) : (asMapping v).members?.isSome = true := by
  unfold asMapping
  split
  · assumption
  · rfl

end Kubeconfig

end ClusterConfig
