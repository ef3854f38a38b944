import OvsdbClient.Fault
import OvsdbClient.Text.Blank
import OvsdbClient.Text.Cut
import OvsdbClient.Text.Numeral

/-!
# Endpoints

Where a database server listens: `tcp:HOST[:PORT]`, `ssl:HOST[:PORT]` or
`unix:PATH`.  A host that holds colons is written in square brackets.
-/

namespace OvsdbClient

/-- The place a server is reached at. -/
inductive Endpoint where
  | tcp (host : String) (port : Nat)
  | ssl (host : String) (port : Nat)
  | unix (path : String)
deriving DecidableEq, Inhabited

namespace Endpoint

/-- The port of an endpoint that names none. -/
def defaultPort : Nat := 6640

def maxPort : Nat := 65535

def isSsl : Endpoint → Bool
  | .ssl .. => true
  | _ => false

/-- A host and port as written, a host with colons in brackets. -/
def hostPortText (host : String) (port : Nat) : String :=
  if host.toList.contains ':' then
    "[" ++ host ++ "]:" ++ toString port
  else
    host ++ ":" ++ toString port

def text : Endpoint → String
  | .tcp host port => "tcp:" ++ hostPortText host port
  | .ssl host port => "ssl:" ++ hostPortText host port
  | .unix path => "unix:" ++ path

def scheme : Endpoint → String
  | .tcp .. => "tcp"
  | .ssl .. => "ssl"
  | .unix _ => "unix"

def host : Endpoint → String
  | .tcp host _ | .ssl host _ => host
  | .unix path => path

def port? : Endpoint → Option Nat
  | .tcp _ port | .ssl _ port => some port
  | .unix _ => none

def jsonMembers (endpoint : Endpoint) : List (String × Json) :=
  [("scheme", .string endpoint.scheme), ("host", .string endpoint.host),
    ("port", .ofOption .nat endpoint.port?), ("is_ssl", .bool endpoint.isSsl),
    ("display", .string endpoint.text)]

def toJson (endpoint : Endpoint) : Json := .record endpoint.jsonMembers

/-- Separates a host, which may be in brackets, from the text of its port. -/
def splitHost? : List Char → Option (List Char × Option (List Char))
  | '[' :: inner =>
      match Text.cut? ']' inner with
      | some (host, []) => some (host, none)
      | some (host, ':' :: port) => some (host, some port)
      | _ => none
  | text =>
      match Text.cut? ':' text with
      | some (host, port) => some (host, some port)
      | none => some (text, none)

/-- Reads a host and a port, the default one if none is given. -/
def readHostPort? (text : List Char) : Option (String × Nat) := do
  let (host, port) ← splitHost? text
  guard (host ≠ [])
  match port with
  | some port => return (String.ofList host, ← Text.numeral? maxPort port)
  | none => return (String.ofList host, defaultPort)

/-- Reads an endpoint without surrounding blanks. -/
def ofChars (raw : List Char) : Except Fault Endpoint :=
  let invalid := Fault.configuration
    ("invalid OVSDB remote '" ++ String.ofList raw ++ "'")
  let unsupported := Fault.configuration
    ("unsupported OVSDB remote '" ++ String.ofList raw ++ "'")
  match Text.cut? ':' raw with
  | none => .error invalid
  | some (scheme, rest) =>
      if scheme = "tcp".toList then
        orFault invalid
          ((readHostPort? rest).map fun (host, port) => .tcp host port)
      else if scheme = "ssl".toList then
        orFault invalid
          ((readHostPort? rest).map fun (host, port) => .ssl host port)
      else if scheme = "unix".toList ∧ rest ≠ [] then
        .ok (.unix (String.ofList rest))
      else
        .error unsupported

def ofText (raw : String) : Except Fault Endpoint :=
  ofChars (Text.trim raw.toList)

/-- Reads endpoints with commas between them, of which there must be at least
one; empty parts are passed over. -/
def listOfText (raw : String) : Except Fault (List Endpoint) := do
  let parts := ((Text.fields ',' raw.toList).map Text.trim).filter (· ≠ [])
  let endpoints ← parts.mapM ofChars
  if endpoints.isEmpty then
    throw (.configuration "OVSDB connection should not be empty")
  return endpoints

end Endpoint

end OvsdbClient
