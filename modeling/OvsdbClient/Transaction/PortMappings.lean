import OvsdbClient.Address.PortMapping
import OvsdbClient.Transaction.Basic

/-!
# Changing port mappings

The commands that store and remove the port mappings of a load balancer queue
one mutation each.  They never fail the transaction they are part of: when
something is wrong they queue nothing and say so.
-/

namespace OvsdbClient

def balancerTable : String := "Load_Balancer"

def routerTable : String := "Logical_Router"

/-- The column that refers to load balancers. -/
def balancerColumn : String := "load_balancer"

/-- The column of port mappings. -/
def mappingColumn : String := "ip_port_mappings"

namespace Transaction

/-- Queues the removal of a backend's mapping, if that is possible. -/
def tryDeleteMapping (transaction : Transaction) (session : Session)
    (balancer : Uuid) (backend : String) : Except Fault Transaction := do
  let key ← Address.bracketed backend
  let row ← session.lookup balancerTable balancer
  transaction.deleteKey session balancerTable row.uuid mappingColumn key

/-- Queues a mapping for a backend, if that is possible. -/
def tryAddMapping (transaction : Transaction) (session : Session)
    (balancer : Uuid) (backend port source : String) :
    Except Fault Transaction := do
  let key ← Address.bracketed backend
  let source ← Address.bracketed source
  let row ← session.lookup balancerTable balancer
  transaction.setKey session balancerTable row.uuid mappingColumn key
    (PortMapping.entry port source)

/-- Queues the removal of a backend's mapping, or says why not. -/
def deleteMapping (transaction : Transaction) (session : Session)
    (balancer : Uuid) (backend : String) : Transaction × List Notice :=
  match transaction.tryDeleteMapping session balancer backend with
  | .ok transaction => (transaction, [])
  | .error fault => (transaction, [.mappingKept backend balancer fault])

/-- Queues a mapping for a backend, or says why not. -/
def addMapping (transaction : Transaction) (session : Session) (balancer : Uuid)
    (backend port source : String) : Transaction × List Notice :=
  match transaction.tryAddMapping session balancer backend port source with
  | .ok transaction => (transaction, [])
  | .error fault => (transaction, [.mappingNotStored backend balancer fault])

end Transaction

namespace Session

/-- The decoded port mappings of a load balancer, in the order of the backends'
addresses. -/
def portMappings (session : Session) (balancer : Uuid) :
    Except Fault (List PortMapping) := do
  let row ← session.lookup balancerTable balancer
  (row.map mappingColumn).toList.mapM fun (key, value) =>
    PortMapping.ofEntry key value

end Session

end OvsdbClient
