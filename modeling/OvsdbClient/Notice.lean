import OvsdbClient.Fault
import OvsdbClient.Uuid

/-!
# Notices

What the client reports beside its answers.  `Notice.line` holds every wording.
-/

namespace OvsdbClient

/-- Something worth reporting that no answer shows. -/
inductive Notice where
  /-- A replica was so far behind that it was filled anew. -/
  | resynced (missed : Nat)
  /-- A schema could not be fetched and will be asked for again. -/
  | fetchFailed (attempt : Nat) (schema : String) (fault : Fault) (delay : Span)
  /-- A table to follow is not in the server's schema. -/
  | tableSkipped (table schema version : String)
  /-- A port mapping could not be removed. -/
  | mappingKept (backend : String) (balancer : Uuid) (fault : Fault)
  /-- A port mapping could not be stored. -/
  | mappingNotStored (backend : String) (balancer : Uuid) (fault : Fault)
  /-- Something registered itself although shutdown was over. -/
  | registeredLate (name : String)
  /-- Something did not stop cleanly during shutdown. -/
  | stoppedUncleanly (name : String)
deriving DecidableEq, Inhabited

namespace Notice

/-- Whether a notice reports an error rather than a warning. -/
def isError : Notice → Bool
  | .mappingKept .. | .mappingNotStored .. => true
  | _ => false

def text : Notice → String
  | .resynced missed =>
      "Mirror fell " ++ toString missed ++ " updates behind, resyncing"
  | .fetchFailed attempt schema fault delay =>
      "Schema retrieval attempt " ++ toString attempt ++ " for " ++ schema ++
        " failed: " ++ fault.message ++ ". Retrying in " ++ delay.text
  | .tableSkipped table schema version =>
      "Table " ++ table ++ " is not part of schema " ++ schema ++ " " ++
        version ++ ", skipping"
  | .mappingKept backend balancer fault =>
      "Error deleting backend " ++ backend ++
        " from ip_port_mappings for LB uuid " ++ balancer.text ++ ": " ++
        fault.message
  | .mappingNotStored backend balancer fault =>
      "Error adding backend " ++ backend ++
        " to ip_port_mappings for LB uuid " ++ balancer.text ++ ": " ++
        fault.message
  | .registeredLate name =>
      name ++ " registered after shutdown, stopping it now"
  | .stoppedUncleanly name => name ++ " did not stop cleanly"

/-- The line of a log for a notice. -/
def line (notice : Notice) : String :=
  (if notice.isError then "ERROR " else "WARN ") ++ notice.text

end Notice

end OvsdbClient
