import ClusterConfig.Value

/-!
# Fields

The fields of a client configuration, each with the name it goes by, the settings that supply it and
the way such a setting is read.

Main definitions:

- `Field`: the fields that a caller can give.
- `Field.all`: all fields, in the order in which a configuration shows them.
- `Field.settings`, `Field.reading`: where and how the settings supply a field.
-/

namespace ClusterConfig

/-- A field of a client configuration. -/
inductive Field where
  | masterUrl
  | apiVersion
  | namespaceName
  | trustCerts
  | enabledProtocols
  | caCertFile
  | caCertData
  | clientCertFile
  | clientCertData
  | clientKeyFile
  | clientKeyData
  | clientKeyAlgo
  | clientKeyPassphrase
  | username
  | password
  | oauthToken
  | watchReconnectInterval
  | watchReconnectLimit
  | requestTimeout
  | proxy
  deriving DecidableEq, Repr, Inhabited

/-- How the text of a setting becomes a value. -/
inductive Reading where
  /-- The value is the setting itself. -/
  | plain
  /-- The parts between commas. -/
  | parts
  /-- A truth value. -/
  | flag
  /-- A whole number. -/
  | number
  deriving DecidableEq, Repr

namespace Field

/-- All fields, in the order in which a configuration shows them. -/
def all : List Field :=
  [masterUrl, apiVersion, namespaceName, trustCerts, enabledProtocols, caCertFile, caCertData,
    clientCertFile, clientCertData, clientKeyFile, clientKeyData, clientKeyAlgo,
    clientKeyPassphrase, username, password, oauthToken, watchReconnectInterval,
    watchReconnectLimit, requestTimeout, proxy]

/-- The name that a field goes by. -/
def name : Field → String
  | masterUrl => "master_url"
  | apiVersion => "api_version"
  | namespaceName => "namespace"
  | trustCerts => "trust_certs"
  | enabledProtocols => "enabled_protocols"
  | caCertFile => "ca_cert_file"
  | caCertData => "ca_cert_data"
  | clientCertFile => "client_cert_file"
  | clientCertData => "client_cert_data"
  | clientKeyFile => "client_key_file"
  | clientKeyData => "client_key_data"
  | clientKeyAlgo => "client_key_algo"
  | clientKeyPassphrase => "client_key_passphrase"
  | username => "username"
  | password => "password"
  | oauthToken => "oauth_token"
  | watchReconnectInterval => "watch_reconnect_interval"
  | watchReconnectLimit => "watch_reconnect_limit"
  | requestTimeout => "request_timeout"
  | proxy => "proxy"

/-- The field that goes by a name. -/
def ofName? (name : String) : Option Field :=
  all.find? fun f => f.name == name

/-- The settings that supply a field, the first that has a value counting. -/
def settings : Field → List String
  | masterUrl => ["kubernetes.master"]
  | apiVersion => ["kubernetes.api.version"]
  | namespaceName => ["kubernetes.namespace"]
  | trustCerts => ["kubernetes.trust.certificates"]
  | enabledProtocols => ["kubernetes.tls.protocols"]
  | caCertFile => ["kubernetes.certs.ca.file"]
  | caCertData => ["kubernetes.certs.ca.data"]
  | clientCertFile => ["kubernetes.certs.client.file"]
  | clientCertData => ["kubernetes.certs.client.data"]
  | clientKeyFile => ["kubernetes.certs.client.key.file"]
  | clientKeyData => ["kubernetes.certs.client.key.data"]
  | clientKeyAlgo => ["kubernetes.certs.client.key.algo"]
  | clientKeyPassphrase => ["kubernetes.certs.client.key.passphrase"]
  | username => ["kubernetes.auth.basic.username"]
  | password => ["kubernetes.auth.basic.password"]
  | oauthToken => ["kubernetes.auth.token"]
  | watchReconnectInterval => ["kubernetes.watch.reconnectInterval"]
  | watchReconnectLimit => ["kubernetes.watch.reconnectLimit"]
  | requestTimeout => ["kubernetes.request.timeout"]
  | proxy => ["http.proxy", "https.proxy", "all.proxy"]

/-- The way in which the settings of a field are read. -/
def reading : Field → Reading
  | trustCerts => .flag
  | enabledProtocols => .parts
  | watchReconnectInterval | watchReconnectLimit | requestTimeout => .number
  | _ => .plain

/-- The fields whose values are secret. -/
def isSecret : Field → Bool
  | clientKeyPassphrase | password | oauthToken | clientKeyData => true
  | _ => false

/-- Every field is listed. -/
@[simp]
theorem mem_all (f : Field) : f ∈ all := by
  cases f <;> decide

/-- No field is listed twice. -/
theorem nodup_all : all.Nodup := by
  decide

/-- A field is found by its name. -/
@[simp]
theorem ofName?_name (f : Field) : ofName? f.name = some f := by
  cases f <;> decide

/-- Fields with one name are one field. -/
theorem name_injective {f g : Field} (h : f.name = g.name) : f = g := by
  have := congrArg ofName? h
  simpa using this

/-- Different fields have different names. -/
theorem name_beq_of_ne {f g : Field} (h : f ≠ g) : (f.name == g.name) = false :=
  beq_false_of_ne fun hname => h (name_injective hname)

/-- Only a field's own name finds it. -/
theorem name_of_ofName? {name : String} {f : Field} (h : ofName? name = some f) :
    f.name = name := by
  simpa using List.find?_some h

end Field

end ClusterConfig
