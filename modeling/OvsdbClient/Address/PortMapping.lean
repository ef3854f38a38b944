import OvsdbClient.Address.Bracketed

/-!
# Port mappings

A load balancer maps each backend address to the port behind it and the address
that health checks come from, stored as one text `port:address`.
-/

namespace OvsdbClient

/-- One decoded entry: the stored backend address, the port, and the stored
source address. -/
structure PortMapping where
  backend : String
  port : String
  source : String
deriving DecidableEq, Inhabited

namespace PortMapping

/-- The stored text for a port and a stored source address. -/
def entry (port source : String) : String := port ++ ":" ++ source

/-- Decodes a stored entry, which has a port and a source address around its
first colon. -/
def ofEntry (key value : String) : Except Fault PortMapping :=
  let malformed := Fault.invalidAddress
    ("malformed ip_port_mappings entry " ++ key ++ "=" ++ value)
  match Text.cut? ':' value.toList with
  | some (port, source) =>
      if port.isEmpty ∨ source.isEmpty then
        .error malformed
      else
        .ok ⟨key, String.ofList port, String.ofList source⟩
  | none => .error malformed

def backendAddress (mapping : PortMapping) : String :=
  Address.unbracketed mapping.backend

def sourceAddress (mapping : PortMapping) : String :=
  Address.unbracketed mapping.source

end PortMapping

end OvsdbClient
