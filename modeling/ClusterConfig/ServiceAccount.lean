import ClusterConfig.Files
import ClusterConfig.Note

/-!
# Service accounts

The token and the certificate authority that a cluster mounts into the programs it runs.

Main definitions:

- `ServiceAccount`: what was found of the two.
- `ServiceAccount.read`: looks for both and reports what is wrong with the token.
-/

namespace ClusterConfig

/-- What was found of a mounted service account. -/
structure ServiceAccount where
  token : Option String
  caCertFile : Option String
  deriving DecidableEq, Repr

/-- Where a service account is mounted. -/
structure Mount where
  tokenPath : String
  caPath : String
  deriving DecidableEq, Repr

namespace Mount

/-- The usual place. -/
def standard : Mount where
  tokenPath := "/var/run/secrets/kubernetes.io/serviceaccount/token"
  caPath := "/var/run/secrets/kubernetes.io/serviceaccount/ca.crt"

end Mount

namespace ServiceAccount

/-- A token without the blanks around it, unless nothing is left. -/
def usable? (token : String) : Option String :=
  let kept := Text.trim token
  if kept = "" then none else some kept

/-- The token in the file at a path. A file that is missing or gives no text is reported; only a
path that no file can have is a fault. -/
def readToken (files : Files) (path : String) : Noted (Except ReadFault (Option String)) :=
  match files.readText (.ofText path) with
  | .ok token => .quiet (.ok (usable? token))
  | .error .badName => .quiet (.error .badName)
  | .error .missing => ⟨[.noToken path], .ok none⟩
  | .error _ => ⟨[.tokenUnreadable path], .ok none⟩

/-- The path of the certificate authority, if there is a file. -/
def caFile? (files : Files) (path : String) : Option String :=
  if files.isFile (.ofText path) then some path else none

/-- What a token and a certificate authority make, if there is one of them. -/
def ofParts? : Option String → Option String → Option ServiceAccount
  | none, none => none
  | token, caCertFile => some ⟨token, caCertFile⟩

/-- Looks for a service account. -/
def read (files : Files) (mount : Mount) : Noted (Except ReadFault (Option ServiceAccount)) :=
  (readToken files mount.tokenPath).map fun token =>
    token.map fun token => ofParts? token (caFile? files mount.caPath)

/-- The two parts of a service account that are found make one up, unless there is neither. -/
theorem ofParts?_eq_none_iff {token caCertFile : Option String} :
    ofParts? token caCertFile = none ↔ token = none ∧ caCertFile = none := by
  cases token <;> cases caCertFile <;> simp [ofParts?]

/-- A service account that is found has the parts it was made of. -/
theorem eq_of_ofParts? {token caCertFile : Option String} {account : ServiceAccount}
    (h : ofParts? token caCertFile = some account) : account = ⟨token, caCertFile⟩ := by
  cases token <;> cases caCertFile <;> simp_all [ofParts?]

end ServiceAccount

end ClusterConfig
