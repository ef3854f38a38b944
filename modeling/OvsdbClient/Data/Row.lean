import OvsdbClient.Data.Value

/-!
# Rows

A row is a snapshot: the columns as they were when the row had its revision.
-/

namespace OvsdbClient

/-- A row, stamped with the generation of the commit that wrote it last. -/
structure Row where
  uuid : Uuid
  revision : Nat
  columns : SortedMap String Value
deriving DecidableEq, Inhabited

namespace Row

def get? (row : Row) (column : String) : Option Value :=
  row.columns.get? column

def string? (row : Row) (column : String) : Option String :=
  (row.get? column).bind Value.asString?

def integer? (row : Row) (column : String) : Option Int :=
  (row.get? column).bind Value.asInteger?

/-- The map in a column; a column without one reads as empty. -/
def map (row : Row) (column : String) : SortedMap String String :=
  ((row.get? column).bind Value.asMap?).getD .empty

def entry? (row : Row) (column key : String) : Option String :=
  ((row.get? column).bind Value.asMap?).bind (·.get? key)

def holds (row : Row) (column : String) (atom : Atom) : Bool :=
  (row.get? column).any (·.holds atom)

/-- Whether a column refers to the given row. -/
def references (row : Row) (column : String) (owner : Uuid) : Bool :=
  row.holds column (.uuid owner)

def columnsJson (columns : SortedMap String Value) : Json :=
  .record (columns.toList.map fun (name, value) => (name, value.toJson))

def toJson (row : Row) : Json :=
  .record [("uuid", .string row.uuid.text), ("revision", .nat row.revision),
    ("columns", columnsJson row.columns)]

end Row

end OvsdbClient
