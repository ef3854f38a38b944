import OvsdbClient.Data.Row

/-!
# Updates

What a server announces after a commit: the rows that it wrote or removed, table
by table.
-/

namespace OvsdbClient

/-- What became of a row. -/
inductive RowChange where
  /-- The row as it is now, complete. -/
  | upsert (row : Row)
  | delete (uuid : Uuid)
deriving DecidableEq, Inhabited

/-- The changes to the rows of a table, in order. -/
structure TableUpdate where
  table : String
  changes : List RowChange
deriving DecidableEq, Inhabited

/-- Changes to any number of tables, which belong together. -/
abbrev Update := List TableUpdate

/-- The rows of the tables of a database, by their names and identifiers. -/
abbrev Tables := SortedMap String (SortedMap Uuid Row)

namespace RowChange

/-- The row that a change is about. -/
def uuid : RowChange → Uuid
  | .upsert row => row.uuid
  | .delete uuid => uuid

/-- The rows of a table after a change. -/
def apply (change : RowChange) (rows : SortedMap Uuid Row) :
    SortedMap Uuid Row :=
  match change with
  | .upsert row => rows.insert row.uuid row
  | .delete uuid => rows.erase uuid

end RowChange

namespace Update

def isEmpty (update : Update) : Bool := update.all (·.changes.isEmpty)

end Update

/-- The tables after the changes to one of them; changes to a table that is not
there are dropped. -/
def Tables.change (tables : Tables) (update : TableUpdate) : Tables :=
  tables.modify update.table fun rows =>
    update.changes.foldl (fun rows change => change.apply rows) rows

/-- The tables after an update. -/
def Tables.applyUpdate (tables : Tables) (update : Update) : Tables :=
  update.foldl Tables.change tables

/-- The row of a table with an identifier. -/
def Tables.row? (tables : Tables) (table : String) (uuid : Uuid) : Option Row :=
  (tables.get? table).bind (·.get? uuid)

/-- The tables with a row stored at an identifier, or with none there. -/
def Tables.put (tables : Tables) (table : String) (uuid : Uuid)
    (row : Option Row) : Tables :=
  tables.insert table (((tables.get? table).getD .empty).put uuid row)

/-- The rows of a table in the order of their identifiers; there are none in a
table that is not there. -/
def Tables.rows (tables : Tables) (table : String) : List Row :=
  ((tables.get? table).getD .empty).values

end OvsdbClient
