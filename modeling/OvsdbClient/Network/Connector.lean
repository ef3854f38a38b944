import OvsdbClient.Network.Schedule
import OvsdbClient.Retry.Run

/-!
# Connectors

Bringing a connection up: find a remote that serves the schema, register the
tables to follow, and open a session there.
-/

namespace OvsdbClient.Network

/-- Asks the remotes for a schema in order.  One that cannot be reached is
passed over, any other fault is final, and if none can be reached the last fault
counts. -/
def askRemotes (network : Network) (schema : String) (last : Option Fault) :
    List Endpoint → Except Fault (Endpoint × Selection) × Network
  | [] =>
      let unconfigured :=
        Fault.configuration ("no remotes configured for " ++ schema)
      (.error (last.getD unconfigured), network)
  | endpoint :: remotes =>
      match network.fetchSchema endpoint schema with
      | (.ok selection, network) => (.ok (endpoint, selection), network)
      | (.error fault, network) =>
          if fault.isConnectivity then
            askRemotes network schema (some fault) remotes
          else
            (.error fault, network)

/-- A network with the number of attempts made to fetch a schema.  The number is
exact; one that is kept in 32 bits agrees with it below 2^32 attempts. -/
structure Fetching where
  network : Network
  attempts : Nat

/-- Fetching the schema of a connection, once per attempt, with a notice before
every wait. -/
def fetching (settings : ConnectionSettings) :
    Retriable Fetching (Endpoint × Selection) where
  clock state := state.network.clock
  attempt state :=
    let (result, network) :=
      state.network.askRemotes settings.schema none settings.remotes
    (result, ⟨network, state.attempts + 1⟩)
  pause fault delay state :=
    let notice := Notice.fetchFailed state.attempts settings.schema fault delay
    { state with network := (state.network.note [notice]).advance delay }

/-- Prepares a connection: fetches the schema, as long as the policy says while
no server can be reached, and registers the tables to follow.  Answers the
number of the connector, or nothing if `fuel` attempts do not settle it. -/
def bootstrap? (network : Network) (settings : ConnectionSettings)
    (fuel : Nat) (draws : Draws := .zero) :
    Option (Except Fault Nat × Network) :=
  match settings.checkTls with
  | .error fault => some (.error fault, network)
  | .ok () =>
      let fetched := (fetching settings).run? settings.bootstrapRetry
        Fault.isConnectivity fuel ⟨network, 0⟩ draws
      match fetched with
      | none => none
      | some (.error fault, state) => some (.error fault, state.network)
      | some (.ok (endpoint, selection), state) =>
          let (selection, notices) := selection.registerAll settings.tables
          let network := state.network.note notices
          let connector : Connector := ⟨settings, endpoint, selection, none⟩
          some (.ok network.connectors.length,
            { network with connectors := network.connectors ++ [connector] })

/-- The handle that a connector has started, unless it was stopped. -/
def runningHandle? (network : Network) (connector : Connector) : Option Nat :=
  connector.handle.filter fun number =>
    (network.handle? number).any fun handle => !handle.stopped

/-- Opens a session for a connector and asks for its lock. -/
def startSession (network : Network) (number : Nat) (connector : Connector) :
    Except Fault Nat × Network :=
  let settings := connector.settings
  let opened := network.openSession connector.endpoint connector.selection
    settings.sessionOptions
  match opened with
  | (.error fault, network) => (.error fault, network)
  | (.ok session, network) =>
      let network :=
        match settings.lock with
        | some lock => network.setLock session lock
        | none => network
      let handle : Handle :=
        ⟨session, settings.schema, settings.timeout, settings.rowRetry, false⟩
      let started := network.handles.length
      (.ok started, { network with
        handles := network.handles ++ [handle]
        connectors := network.connectors.set number
          { connector with handle := some started } })

/-- Starts a connection, and answers the number of its handle.  A connection
that is running already is shared. -/
def start (network : Network) (number : Nat) : Except Fault Nat × Network :=
  match network.connectors[number]? with
  | none => (.error .connectionClosed, network)
  | some connector =>
      match network.runningHandle? connector with
      | some handle => (.ok handle, network)
      | none => network.startSession number connector

/-- Stops what a connector has started, if anything, and answers whether that
ended in time. -/
def stopConnector (network : Network) (number : Nat) : Bool × Network :=
  match network.connectors[number]? with
  | none => (true, network)
  | some connector =>
      let connectors :=
        network.connectors.set number { connector with handle := none }
      match connector.handle with
      | some handle => { network with connectors }.stopHandle handle
      | none => (true, { network with connectors })

/-- Prepares and starts a connection in one go. -/
def connect? (network : Network) (settings : ConnectionSettings) (fuel : Nat)
    (draws : Draws := .zero) : Option (Except Fault Nat × Network) :=
  match network.bootstrap? settings fuel draws with
  | none => none
  | some (.error fault, network) => some (.error fault, network)
  | some (.ok connector, network) => some (network.start connector)

end OvsdbClient.Network
