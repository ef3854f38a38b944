import OvsdbClient.Endpoint
import OvsdbClient.Retry.Policy
import OvsdbClient.Settings.Tls

/-!
# Connection settings

Everything needed to bring up one connection and keep it.
-/

namespace OvsdbClient

/-- The parameters of a session. -/
structure SessionOptions where
  timeout : Span
  probeInterval : Span
  tls : Option TlsFiles
deriving DecidableEq, Inhabited

/-- Where to connect to, which tables of which schema to follow, and how
patiently. -/
structure ConnectionSettings where
  remotes : List Endpoint
  schema : String
  tables : List String
  timeout : Span
  probeInterval : Span
  lock : Option String
  tls : Option TlsFiles
  bootstrapRetry : RetryPolicy
  rowRetry : RetryPolicy
deriving Inhabited

namespace ConnectionSettings

/-- How long transactions and shutdown may take unless settings say otherwise,
in seconds. -/
def defaultTimeoutSecs : Nat := 180

/-- The time between inactivity probes unless settings say otherwise, in
milliseconds. -/
def defaultProbeMillis : Nat := 60000

/-- The settings for remotes, a schema and its tables, with nothing else
said. -/
def plain (remotes : List Endpoint) (schema : String) (tables : List String) :
    ConnectionSettings where
  remotes := remotes
  schema := schema
  tables := tables
  timeout := .ofSecs defaultTimeoutSecs
  probeInterval := .ofMillis defaultProbeMillis
  lock := none
  tls := none
  bootstrapRetry := .bootstrap
  rowRetry := .rowVisibility

/-- Whether the TLS files that some remote needs are given. -/
def checkTls (settings : ConnectionSettings) : Except Fault Unit :=
  if settings.remotes.any Endpoint.isSsl then
    match settings.tls with
    | some files =>
        files.validate.mapError fun objection =>
          .configuration objection.message
    | none =>
        .error (.configuration (settings.schema ++
          ": ssl remote requires private key, certificate and CA certificate"))
  else
    .ok ()

/-- The parameters of the session that settings ask for. -/
def sessionOptions (settings : ConnectionSettings) : SessionOptions :=
  ⟨settings.timeout, settings.probeInterval, settings.tls⟩

end ConnectionSettings

end OvsdbClient
