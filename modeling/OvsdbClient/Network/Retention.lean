import OvsdbClient.Network.Client

/-!
# Retention

A session is followed as long as its handle is in use: held by a client, by a
connector that started it, or by an action to come.  One that is out of use is
abandoned.  It was not stopped, so it keeps its lock.
-/

namespace OvsdbClient.Network

/-- The handle that a client views, or that a connector started last. -/
def handleOf? (network : Network) : Stoppable → Option Nat
  | .client client => some client.handle
  | .connector number => (network.connectors[number]?).bind (·.handle)

/-- The handles in use while some clients and connectors are held. -/
def inUse (network : Network) (held : List Stoppable) : List Nat :=
  held.filterMap network.handleOf? ++ network.agenda.flatMap (·.keeps)

/-- Abandons the sessions of all handles but some. -/
def abandonAllBut (network : Network) (kept : List Nat) : Network :=
  network.handles.zipIdx.foldl
    (fun network (handle, number) =>
      if number ∈ kept then
        network
      else
        network.modifyServer handle.session.server
          (·.modifySession handle.session.number Session.abandon))
    network

/-- Abandons every session that is out of use while only some clients and
connectors are held. -/
def retain (network : Network) (held : List Stoppable) : Network :=
  network.abandonAllBut (network.inUse held)

end OvsdbClient.Network
