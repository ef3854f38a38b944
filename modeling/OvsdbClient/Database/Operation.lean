import OvsdbClient.Data.Row
import OvsdbClient.Database.Mutation

/-!
# Operations

The steps of a transaction.
-/

namespace OvsdbClient

/-- One step of a transaction. -/
inductive Operation where
  | insert (table : String) (uuid : Uuid) (columns : SortedMap String Value)
  | update (table : String) (uuid : Uuid) (columns : SortedMap String Value)
  | delete (table : String) (uuid : Uuid)
  | mutate (table : String) (uuid : Uuid) (column : String)
      (mutation : Mutation)
  /-- Aborts the transaction unless the row is still at the revision. -/
  | verify (table : String) (uuid : Uuid) (revision : Nat)
deriving DecidableEq, Inhabited

namespace Operation

/-- The table of the row that an operation names. -/
def table : Operation → String
  | .insert table .. | .update table .. | .delete table _
  | .mutate table .. | .verify table .. => table

/-- The row that an operation names. -/
def uuid : Operation → Uuid
  | .insert _ uuid _ | .update _ uuid _ | .delete _ uuid
  | .mutate _ uuid .. | .verify _ uuid _ => uuid

/-- The columns that an operation names. -/
def columns : Operation → List String
  | .insert _ _ columns | .update _ _ columns => columns.keys
  | .mutate _ _ column _ => [column]
  | .delete .. | .verify .. => []

/-- Whether an operation only verifies. -/
def isVerify : Operation → Bool
  | .verify .. => true
  | _ => false

def toJson : Operation → Json
  | .insert table uuid columns =>
      .record [("insert", .record
        (row table uuid ++ [("columns", Row.columnsJson columns)]))]
  | .update table uuid columns =>
      .record [("update", .record
        (row table uuid ++ [("columns", Row.columnsJson columns)]))]
  | .delete table uuid => .record [("delete", .record (row table uuid))]
  | .mutate table uuid column mutation =>
      .record [("mutate", .record (row table uuid ++
        [("column", .string column), ("mutation", mutation.toJson)]))]
  | .verify table uuid revision =>
      .record [("verify", .record
        (row table uuid ++ [("revision", .nat revision)]))]
where
  /-- The members that name a row. -/
  row (table : String) (uuid : Uuid) : List (String × Json) :=
    [("table", .string table), ("uuid", .string uuid.text)]

end Operation

end OvsdbClient
