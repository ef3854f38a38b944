import OvsdbClient.Settings.Connection

/-!
# Settings of a process

One process talks to two databases, the northbound and the southbound one.  Its
settings are read from JSON, validated, and turned into the settings of either
connection.
-/

namespace OvsdbClient

open Json (Decoder)
open Json.Decoder (Field)

def northboundSchema : String := "OVN_Northbound"

def globalTable : String := "NB_Global"

/-- The tables followed in the northbound database. -/
def northboundTables : List String :=
  ["Logical_Switch", "Load_Balancer", "Load_Balancer_Health_Check",
    "Logical_Router", "Logical_Switch_Port", "Logical_Router_Port",
    "Gateway_Chassis", "NAT", "HA_Chassis_Group", globalTable]

def southboundSchema : String := "OVN_Southbound"

def monitorTable : String := "Service_Monitor"

/-- The tables followed in the southbound database. -/
def southboundTables : List String := ["Load_Balancer", monitorTable]

/-- The settings of a process. -/
structure OvnSettings where
  northRemotes : String
  southRemotes : String
  northTls : Option TlsFiles
  southTls : Option TlsFiles
  timeoutSecs : Nat
  /-- The time between inactivity probes; zero turns them off. -/
  probeMillis : Nat
  bootstrapRetry : RetryPolicy
  rowRetry : RetryPolicy
deriving Inhabited

namespace OvnSettings

/-- The settings of which nothing is given. -/
def standard : OvnSettings where
  northRemotes := "tcp:127.0.0.1:6641"
  southRemotes := "tcp:127.0.0.1:6642"
  northTls := none
  southTls := none
  timeoutSecs := ConnectionSettings.defaultTimeoutSecs
  probeMillis := ConnectionSettings.defaultProbeMillis
  bootstrapRetry := .bootstrap
  rowRetry := .rowVisibility

/-- Whether remotes can be read and have the TLS files they need. -/
def validateRemotes (raw : String) (tls : Option TlsFiles) :
    Except Objection Unit := do
  let remotes ← (Endpoint.listOfText raw).mapError .badRemotes
  if remotes.any Endpoint.isSsl then
    match tls with
    | some files => files.validate
    | none => throw .tlsMissing

/-- Objections to a part of the settings, under the part's name. -/
def part (field : String) (verdict : Except Objection Unit) :
    Except Objection Unit :=
  verdict.mapError (.within field)

def validate (settings : OvnSettings) : Except Objection Unit := do
  part "ovn_nb_connection"
    (validateRemotes settings.northRemotes settings.northTls)
  part "ovn_sb_connection"
    (validateRemotes settings.southRemotes settings.southTls)
  if settings.timeoutSecs = 0 then
    throw .zeroTimeout
  if settings.probeMillis ≠ 0 ∧ settings.probeMillis < 1000 then
    throw .shortProbeInterval
  part "bootstrap_retry" settings.bootstrapRetry.validate
  part "row_retry" settings.rowRetry.validate

def timeout (settings : OvnSettings) : Span := .ofSecs settings.timeoutSecs

def probeInterval (settings : OvnSettings) : Span :=
  .ofMillis settings.probeMillis

/-- The settings of one connection. -/
def connection (settings : OvnSettings) (raw schema : String)
    (tables : List String) (tls : Option TlsFiles) (lock : Option String) :
    Except Fault ConnectionSettings := do
  let remotes ← Endpoint.listOfText raw
  return { ConnectionSettings.plain remotes schema tables with
    tls
    lock
    timeout := settings.timeout
    probeInterval := settings.probeInterval
    bootstrapRetry := settings.bootstrapRetry
    rowRetry := settings.rowRetry }

def northbound (settings : OvnSettings) (lock : Option String) :
    Except Fault ConnectionSettings :=
  settings.connection settings.northRemotes northboundSchema northboundTables
    settings.northTls lock

def southbound (settings : OvnSettings) (lock : Option String) :
    Except Fault ConnectionSettings :=
  settings.connection settings.southRemotes southboundSchema southboundTables
    settings.southTls lock

structure Draft where
  northRemotes : Option String := none
  southRemotes : Option String := none
  northTls : Option (Option TlsFiles) := none
  southTls : Option (Option TlsFiles) := none
  timeoutSecs : Option Nat := none
  probeMillis : Option Nat := none
  bootstrapRetry : Option RetryPolicy := none
  rowRetry : Option RetryPolicy := none

def decoder : Decoder OvnSettings := fun place json => do
  let fields := [
    Field.of "ovn_nb_connection" Draft.northRemotes
      (fun draft northRemotes => { draft with northRemotes }) Decoder.string,
    Field.of "ovn_sb_connection" Draft.southRemotes
      (fun draft southRemotes => { draft with southRemotes }) Decoder.string,
    Field.of "ovn_nb_ssl" Draft.northTls
      (fun draft northTls => { draft with northTls })
      (.optional TlsFiles.decoder),
    Field.of "ovn_sb_ssl" Draft.southTls
      (fun draft southTls => { draft with southTls })
      (.optional TlsFiles.decoder),
    Field.of "ovsdb_connection_timeout_secs" Draft.timeoutSecs
      (fun draft timeoutSecs => { draft with timeoutSecs }) Decoder.unsigned64,
    Field.of "ovsdb_probe_interval_ms" Draft.probeMillis
      (fun draft probeMillis => { draft with probeMillis }) Decoder.unsigned64,
    Field.of "bootstrap_retry" Draft.bootstrapRetry
      (fun draft bootstrapRetry => { draft with bootstrapRetry })
      RetryPolicy.decoder,
    Field.of "row_retry" Draft.rowRetry
      (fun draft rowRetry => { draft with rowRetry }) RetryPolicy.decoder]
  let draft ← Decoder.record fields {} place json
  return {
    northRemotes := draft.northRemotes.getD standard.northRemotes
    southRemotes := draft.southRemotes.getD standard.southRemotes
    northTls := draft.northTls.getD none
    southTls := draft.southTls.getD none
    timeoutSecs := draft.timeoutSecs.getD standard.timeoutSecs
    probeMillis := draft.probeMillis.getD standard.probeMillis
    bootstrapRetry := draft.bootstrapRetry.getD .bootstrap
    rowRetry := draft.rowRetry.getD .rowVisibility }

def ofText (text : String) : Except Fault OvnSettings :=
  (Json.decodeText decoder text).mapError .json

def ofJson (json : Json) : Except Fault OvnSettings :=
  (Json.decodeValue decoder json).mapError .json

/-- The JSON form of settings, without TLS files that are not given. -/
def toJson (settings : OvnSettings) : Json :=
  let files (name : String) (tls : Option TlsFiles) : List (String × Json) :=
    (tls.map fun files => (name, files.toJson)).toList
  .record ([("ovn_nb_connection", .string settings.northRemotes),
      ("ovn_sb_connection", .string settings.southRemotes)] ++
    files "ovn_nb_ssl" settings.northTls ++
    files "ovn_sb_ssl" settings.southTls ++
    [("ovsdb_connection_timeout_secs", .nat settings.timeoutSecs),
      ("ovsdb_probe_interval_ms", .nat settings.probeMillis),
      ("bootstrap_retry", settings.bootstrapRetry.toJson),
      ("row_retry", settings.rowRetry.toJson)])

end OvnSettings

end OvsdbClient
