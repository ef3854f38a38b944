import OvsdbClient.Transaction.PortMappings

/-!
# Commands

The units of work of a load balancer provider.  Some read the replica and answer
rows, the others change port mappings and answer nothing.
-/

namespace OvsdbClient

/-- A unit of work in a transaction. -/
inductive Command where
  /-- The rows of a table whose column refers to an owner. -/
  | findReferencing (table column : String) (owner : Uuid)
  /-- All rows of a table. -/
  | listRows (table : String)
  | addMapping (balancer : Uuid) (backend port source : String)
  | deleteMapping (balancer : Uuid) (backend : String)
deriving DecidableEq, Inhabited

namespace Command

/-- The rows of a table that attach a load balancer. -/
def findBalancer (table : String) (balancer : Uuid) : Command :=
  .findReferencing table balancerColumn balancer

def listRouters : Command := .listRows routerTable

end Command

namespace Transaction

/-- Runs a command: the rows it answers, if it answers any, the transaction
after it, and what it reports. -/
def add (transaction : Transaction) (session : Session) :
    Command → Except Fault (Option (List Row)) × Transaction × List Notice
  | .findReferencing table column owner =>
      ((session.findReferencing table column owner).map some, transaction, [])
  | .listRows table => ((session.listRows table).map some, transaction, [])
  | .addMapping balancer backend port source =>
      (.ok none, transaction.addMapping session balancer backend port source)
  | .deleteMapping balancer backend =>
      (.ok none, transaction.deleteMapping session balancer backend)

end Transaction

end OvsdbClient
