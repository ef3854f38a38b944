import OvsdbClient.Network.Connector
import OvsdbClient.Network.Submission
import OvsdbClient.Settings.Ovn
import OvsdbClient.Shutdown
import OvsdbClient.Transaction.Command

/-!
# Clients

A client is a started connection seen as one to the northbound database, to the
southbound one, or to neither in particular.  Clients and connectors can be put
in charge of a registry.
-/

namespace OvsdbClient

/-- Which database a client takes itself to be connected to. -/
inductive Side where
  | plain
  | northbound
  | southbound
deriving DecidableEq, Inhabited

/-- A view of the handle with a number. -/
structure Client where
  side : Side
  handle : Nat
deriving DecidableEq, Inhabited

/-- Something on a network that can be stopped. -/
inductive Stoppable where
  | client (client : Client)
  | connector (number : Nat)
deriving DecidableEq, Inhabited

namespace Client

/-- The name that a client goes by during shutdown. -/
def name (client : Client) (network : Network) : String :=
  match client.side with
  | .plain => (network.handle? client.handle).elim "" (·.schema)
  | .northbound => northboundSchema
  | .southbound => southboundSchema

/-- The counter that is incremented with every transaction that asks for it. -/
def globalCounter : CounterHook := ⟨globalTable, "nb_cfg"⟩

/-- A new transaction, which on the northbound side may increment the global
counter. -/
def transaction (client : Client) (timeout : Span) (bump : Bool) :
    Transaction :=
  let transaction := Transaction.empty timeout
  if bump ∧ client.side = .northbound then
    transaction.withHook globalCounter
  else
    transaction

end Client

namespace Network

/-- Runs one command in a transaction of its own, and answers the rows that it
answers. -/
def execute (network : Network) (handle : Handle) (command : Command) :
    Except Fault (Option (List Row)) × Network :=
  match network.session? handle.session with
  | none => (.error .connectionClosed, network)
  | some session =>
      match (Transaction.empty handle.timeout).add session command with
      | (.error fault, _, notices) => (.error fault, network.note notices)
      | (.ok rows, transaction, notices) =>
          match (network.note notices).submit handle.session transaction with
          | (.error fault, network) => (.error fault, network)
          | (.ok _, network) => (.ok rows, network)

/-- How clients and connectors are named and stopped. -/
def stopping : Stopping Network Stoppable where
  name network
    | .client client => client.name network
    | .connector number =>
        (network.connectors[number]?).elim "" (·.settings.schema)
  stop network
    | .client client => network.stopHandle client.handle
    | .connector number => network.stopConnector number

end Network

end OvsdbClient
