import OvsdbClient.Server.Basic
import OvsdbClient.Transaction.Basic

/-!
# Networks

A network is what a client can reach and what it has open: servers at addresses,
connectors, handles on sessions, and the time, in whole milliseconds.  Actions
can be put on an agenda.
-/

namespace OvsdbClient

/-- A session, by the server it is with and its number there. -/
structure SessionId where
  server : Nat
  number : Nat
deriving DecidableEq, Inhabited

/-- A started connection.  Everything that shares the connection shares the
handle. -/
structure Handle where
  session : SessionId
  schema : String
  timeout : Span
  rowRetry : RetryPolicy
  stopped : Bool
deriving Inhabited

/-- A connection that is ready to be started: the endpoint that was found to
serve the schema, and the tables to follow there.  It remembers the handle that
it started last. -/
structure Connector where
  settings : ConnectionSettings
  endpoint : Endpoint
  selection : Selection
  handle : Option Nat
deriving Inhabited

/-- Something that can happen by itself at a time. -/
inductive Action where
  | addServer (endpoint : Endpoint) (server : Nat)
  | removeServer (endpoint : Endpoint)
  | insertRow (server : Nat) (table : String) (columns : List (String × Value))
  | commit (server : Nat) (operations : List Operation)
  | setDelay (server : Nat) (delay : Span)
  | failSchemaFetches (server : Nat) (count : Nat)
  | failNextCommit (server : Nat) (reason : String)
  | setLock (handle : Nat) (name : String)
  | stop (handle : Nat)
  /-- An action that cannot be carried out. -/
  | impossible (fault : Fault)
deriving Inhabited

/-- An action to come and its time, with the handles that it keeps in use until
then. -/
structure Plan where
  time : Nat
  action : Action
  keeps : List Nat
deriving Inhabited

/-- What an action answers. -/
inductive Reply where
  | nothing
  | uuid (drawn : Uuid)
  | generation (number : Nat)
  | schema (name : Option String)
  | flag (value : Bool)
deriving DecidableEq, Inhabited

def Reply.toJson : Reply → Json
  | .nothing => .null
  | .uuid drawn => .string drawn.text
  | .generation number => .nat number
  | .schema name => .ofOption .string name
  | .flag value => .bool value

/-- An action that has been carried out, when, and with what result. -/
structure Occurrence where
  time : Nat
  result : Except Fault Reply

/-- Servers, the addresses they are reached at, everything opened on them, and
the time. -/
structure Network where
  clock : Nat
  servers : List Server
  /-- The servers by the texts of their endpoints. -/
  addresses : SortedMap String Nat
  handles : List Handle
  connectors : List Connector
  /-- The actions to come, earliest first. -/
  agenda : List Plan
  /-- The actions carried out, latest first. -/
  occurred : List Occurrence
  /-- What was reported, latest first. -/
  notices : List Notice
  /-- The number of identifiers drawn. -/
  draws : Nat

namespace Network

def empty : Network where
  clock := 0
  servers := []
  addresses := .empty
  handles := []
  connectors := []
  agenda := []
  occurred := []
  notices := []
  draws := 0

instance : Inhabited Network := ⟨empty⟩

def note (network : Network) (notices : List Notice) : Network :=
  { network with notices := notices.reverse ++ network.notices }

def nextUuid (network : Network) : Uuid := .drawn (network.draws + 1)

/-- Uses up the identifier that was next. -/
def draw (network : Network) : Network :=
  { network with draws := network.draws + 1 }

/-! ## Servers -/

/-- Sets up a server that is not reachable yet, and answers its number. -/
def createServer (network : Network) (schema : DatabaseSchema) :
    Nat × Network :=
  (network.servers.length,
    { network with servers := network.servers ++ [.ofSchema schema] })

def server? (network : Network) (number : Nat) : Option Server :=
  network.servers[number]?

def modifyServer (network : Network) (number : Nat) (change : Server → Server) :
    Network :=
  { network with servers := network.servers.modify number change }

/-- Changes the server with a number and answers something; a number without a
server answers `missing`. -/
def withServer {α : Type} (network : Network) (number : Nat) (missing : α)
    (change : Server → α × Server) : α × Network :=
  match network.server? number with
  | some server =>
      let (answer, server) := change server
      (answer, { network with servers := network.servers.set number server })
  | none => (missing, network)

/-- Makes a server reachable at an endpoint. -/
def addServer (network : Network) (endpoint : Endpoint) (number : Nat) :
    Network :=
  { network with addresses := network.addresses.insert endpoint.text number }

/-- The number of the server at an endpoint. -/
def serverAt? (network : Network) (endpoint : Endpoint) : Option Nat :=
  network.addresses.get? endpoint.text

/-- Makes an endpoint unreachable, and answers the server that was there. -/
def removeServer (network : Network) (endpoint : Endpoint) :
    Option Nat × Network :=
  (network.serverAt? endpoint,
    { network with addresses := network.addresses.erase endpoint.text })

/-- The server at an endpoint, or that the connection is refused. -/
def reach (network : Network) (endpoint : Endpoint) (schema : String) :
    Except Fault Nat :=
  let refused :=
    Fault.connectionUnavailable schema (endpoint.text ++ ": connection refused")
  orFault refused (network.serverAt? endpoint)

/-- Commits operations at a server. -/
def commit (network : Network) (number : Nat) (operations : List Operation) :
    Except Fault Nat × Network :=
  network.withServer number (.error .connectionClosed) (·.commit operations)

/-- Inserts a row at a server, as another client would. -/
def insertRow (network : Network) (number : Nat) (table : String)
    (columns : List (String × Value)) : Except Fault Uuid × Network :=
  let uuid := network.nextUuid
  let (result, network) :=
    network.draw.commit number [.insert table uuid (.ofList columns)]
  (result.map fun _ => uuid, network)

/-- Commits the same operation a number of times in a row, up to the first
failure, and answers the last generation. -/
def burst (network : Network) (number : Nat) (operation : Operation) :
    (count : Nat) → (reached : Nat) → Except Fault Nat × Network
  | 0, reached => (.ok reached, network)
  | count + 1, _ =>
      match network.commit number [operation] with
      | (.ok reached, network) => burst network number operation count reached
      | (.error fault, network) => (.error fault, network)

/-- Asks for a schema at an endpoint. -/
def fetchSchema (network : Network) (endpoint : Endpoint) (schema : String) :
    Except Fault Selection × Network :=
  match network.reach endpoint schema with
  | .error fault => (.error fault, network)
  | .ok number =>
      network.withServer number (.error .connectionClosed)
        (·.fetchSchema endpoint schema)

/-! ## Sessions and handles -/

def session? (network : Network) (id : SessionId) : Option Session :=
  (network.server? id.server).bind (·.session? id.number)

/-- Opens a session that follows the selected tables at an endpoint. -/
def openSession (network : Network) (endpoint : Endpoint)
    (selection : Selection) (options : SessionOptions) :
    Except Fault SessionId × Network :=
  match network.reach endpoint selection.schema.name with
  | .error fault => (.error fault, network)
  | .ok server =>
      network.withServer server (.error .connectionClosed) fun opened =>
        let (number, opened) :=
          opened.openSession endpoint selection.build options
        (.ok ⟨server, number⟩, opened)

def setLock (network : Network) (id : SessionId) (name : String) : Network :=
  network.modifyServer id.server (·.setLock id.number name)

/-- Whether a session holds the lock that it asked for last. -/
def hasLock (network : Network) (id : SessionId) : Bool :=
  (network.server? id.server).any (·.hasLock id.number)

/-- Stops a session, and answers whether its work ended within a timeout.  A
session that was stopped before is left alone. -/
def stopSession (network : Network) (id : SessionId) (timeout : Span) :
    Bool × Network :=
  match network.session? id with
  | some session =>
      if session.stopped then
        (true, network)
      else
        (timeout.nanos ≠ 0,
          network.modifyServer id.server (·.stopSession id.number))
  | none => (true, network)

def handle? (network : Network) (number : Nat) : Option Handle :=
  network.handles[number]?

/-- Stops the session of a handle; only the first call does so. -/
def stopHandle (network : Network) (number : Nat) : Bool × Network :=
  match network.handle? number with
  | some handle =>
      if handle.stopped then
        (true, network)
      else
        let stopped := { handle with stopped := true }
        let network :=
          { network with handles := network.handles.set number stopped }
        network.stopSession handle.session handle.timeout
  | none => (true, network)

end Network

end OvsdbClient
