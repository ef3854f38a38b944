import OvsdbClient.Json.Basic
import OvsdbClient.Time.Span

/-!
# Faults

Why an operation of the client did not succeed.  `Fault.message` holds every
wording.
-/

namespace OvsdbClient

/-- Why an operation failed. -/
inductive Fault where
  /-- No server could be reached for a schema. -/
  | connectionUnavailable (schema reason : String)
  /-- No row has the value looked for. -/
  | rowNotFound (table column value : String)
  /-- A row is not there. -/
  | recordNotFound (table record : String)
  | tableNotFound (table : String)
  | columnNotFound (table column : String)
  | schemaNotFound (schema : String)
  | invalidSchema (reason : String)
  /-- A row is no longer at the revision that was to be verified. -/
  | revisionConflict (reason : String)
  /-- The server turned a transaction down. -/
  | transactionRejected (reason : String)
  | timeout (after : Span)
  | connectionClosed
  | invalidAddress (address : String)
  | configuration (reason : String)
  /-- A JSON text or value could not be decoded. -/
  | json (fault : Json.Fault)
deriving DecidableEq, Inhabited

namespace Fault

def message : Fault → String
  | .connectionUnavailable schema reason =>
      "OVS database connection to " ++ schema ++ " failed with error: '" ++
        reason ++ "'. Verify that the OVS and OVN services are available " ++
        "and that the connection options are correct."
  | .rowNotFound table column value =>
      value ++ " does not exist in " ++ column ++ " of " ++ table
  | .recordNotFound table record =>
      "Cannot find " ++ table ++ " with " ++ record
  | .tableNotFound table => "Table not found: " ++ table
  | .columnNotFound table column =>
      "Column '" ++ column ++ "' not found in table " ++ table
  | .schemaNotFound schema => "Schema not found: " ++ schema
  | .invalidSchema reason => "Invalid schema: " ++ reason
  | .revisionConflict reason => "Revision conflict: " ++ reason
  | .transactionRejected reason => "Transaction rejected: " ++ reason
  | .timeout after => "Transaction timed out after " ++ after.text
  | .connectionClosed => "Connection closed"
  | .invalidAddress address => "Invalid address: " ++ address
  | .configuration reason => "Configuration error: " ++ reason
  | .json .malformed => "malformed JSON"
  | .json .mismatch => "unexpected JSON value"
  | .json .truncated => "unexpected end of JSON"

/-- Whether a row looked for by value is missing, which may change as the
replica catches up. -/
def isRowNotFound : Fault → Bool
  | .rowNotFound .. => true
  | _ => false

def isConnectivity : Fault → Bool
  | .connectionUnavailable .. => true
  | _ => false

def isRevisionConflict : Fault → Bool
  | .revisionConflict _ => true
  | _ => false

end Fault

/-- The value of an optional result, or the fault that its absence is. -/
def orFault {α : Type} (fault : Fault) : Option α → Except Fault α
  | some value => .ok value
  | none => .error fault

end OvsdbClient
