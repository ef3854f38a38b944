import OvsdbClient.Database.Operation
import OvsdbClient.Fault
import OvsdbClient.Replica.Update
import OvsdbClient.Schema.Basic

/-!
# Commits

A database applies the operations of a transaction in order, all or none.  Rows
that a commit wrote carry its generation as their revision, and one announcement
tells what became of them.
-/

namespace OvsdbClient

/-- An update with the generation that it led to. -/
structure Announcement where
  generation : Nat
  update : Update
deriving DecidableEq, Inhabited

/-- The tables of a database, the number of commits that changed them, and their
announcements, oldest first. -/
structure Database where
  tables : Tables
  generation : Nat
  announcements : Array Announcement
deriving DecidableEq, Inhabited

namespace ColumnSchema

/-- What a column holds in a row that was inserted without it. -/
def initial (column : ColumnSchema) : Value :=
  match column.kind, column.keyType with
  | .map, _ => .map .empty
  | .set, _ | .scalar, .real => .set .empty
  | .scalar, .integer => .atom (.integer 0)
  | .scalar, .boolean => .atom (.boolean false)
  | .scalar, .string => .atom (.string "")
  | .scalar, .uuid => .atom (.uuid .nil)

end ColumnSchema

namespace TableSchema

/-- The columns of a row that was inserted with the given ones.  The others are
filed under the names that they bear; of several with one name the last stays.
-/
def initialColumns (schema : TableSchema) (given : SortedMap String Value) :
    SortedMap String Value :=
  let unset := schema.columns.values.map fun column =>
    (column.name, column.initial)
  (SortedMap.ofList unset).insertAll given.toList

end TableSchema

namespace Operation

/-- Whether a table has all the listed columns; the first that it lacks is
named. -/
def checkColumns (schema : TableSchema) (table : String)
    (columns : List String) : Except Fault Unit :=
  match columns.find? fun column => !schema.hasColumn column with
  | some column => .error (.columnNotFound table column)
  | none => .ok ()

/-- What an operation leaves of the row that it names, given that row if it is
stored in a table of a shape. -/
def onRow (operation : Operation) (schema : TableSchema)
    (stored : Option Row) : Except Fault (Option Row) := do
  let missing (table : String) (uuid : Uuid) :=
    Fault.recordNotFound table uuid.text
  match operation with
  | .insert table uuid columns =>
      checkColumns schema table columns.keys
      if stored.isSome then
        throw (.transactionRejected
          ("duplicate uuid " ++ uuid.text ++ " in " ++ table))
      return some ⟨uuid, 0, schema.initialColumns columns⟩
  | .update table uuid columns =>
      checkColumns schema table columns.keys
      let row ← orFault (missing table uuid) stored
      let columns := row.columns.insertAll columns.toList
      return some { row with columns }
  | .delete table uuid =>
      let _ ← orFault (missing table uuid) stored
      return none
  | .mutate table uuid column mutation =>
      checkColumns schema table [column]
      let row ← orFault (missing table uuid) stored
      let inapplicable := Fault.transactionRejected
        ("cannot apply " ++ mutation.text ++ " to column " ++ column ++
          " of " ++ table)
      let value ← orFault inapplicable
        (mutation.result? (row.columns.get? column))
      let columns := row.columns.insert column value
      return some { row with columns }
  | .verify table uuid revision =>
      let named := table ++ " row " ++ uuid.text
      match stored with
      | some row =>
          if row.revision = revision then
            return some row
          else
            throw (.revisionConflict (named ++ " is at revision " ++
              toString row.revision ++ ", expected " ++ toString revision))
      | none => throw (.revisionConflict (named ++ " no longer exists"))

/-- The tables after an operation. -/
def apply (operation : Operation) (schema : DatabaseSchema) (tables : Tables) :
    Except Fault Tables := do
  let name := operation.table
  let table ← orFault (.tableNotFound name) (schema.table? name)
  let row ← operation.onRow table (tables.row? name operation.uuid)
  return tables.put name operation.uuid row

end Operation

namespace Database

/-- A database with the tables of a schema, all empty. -/
def ofSchema (schema : DatabaseSchema) : Database where
  tables := schema.tables.mapValues fun _ _ => .empty
  generation := 0
  announcements := #[]

/-- The tables after a list of operations, each seeing what those before it
did. -/
def stage (schema : DatabaseSchema) (tables : Tables)
    (operations : List Operation) : Except Fault Tables :=
  operations.foldlM
    (fun tables operation => operation.apply schema tables) tables

/-- The rows that a list of operations writes, each once, in the order they are
first named. -/
def touched (operations : List Operation) : List (String × Uuid) :=
  operations.foldl
    (fun touched operation =>
      let row := (operation.table, operation.uuid)
      if operation.isVerify || touched.contains row then touched
      else touched ++ [row])
    []

/-- Stamps a row with a revision, if it is there. -/
def stamp (revision : Nat) (tables : Tables) (row : String × Uuid) : Tables :=
  tables.modify row.1 fun rows =>
    rows.modify row.2 fun stored => { stored with revision }

/-- What became of a row between two states of the tables; a row that was in
neither is passed over. -/
def change? (before after : Tables) (table : String) (uuid : Uuid) :
    Option RowChange :=
  match after.row? table uuid with
  | some row => some (.upsert row)
  | none =>
      if (before.row? table uuid).isSome then some (.delete uuid) else none

/-- The update that tells what became of the listed rows: tables in order of
their names, and the rows of each in the order listed. -/
def delta (before after : Tables) (rows : List (String × Uuid)) : Update :=
  let changes := rows.filterMap fun (table, uuid) =>
    (change? before after table uuid).map (table, ·)
  let grouped : SortedMap String (List RowChange) := changes.foldl
    (fun grouped (table, change) =>
      grouped.insert table (((grouped.get? table).getD []) ++ [change]))
    .empty
  grouped.toList.map fun (table, changes) => ⟨table, changes⟩

/-- The database after a commit that led to staged tables and wrote the listed
rows. -/
def advance (database : Database) (staged : Tables)
    (rows : List (String × Uuid)) : Database :=
  let generation := database.generation + 1
  let tables := rows.foldl (stamp generation) staged
  let announcement := ⟨generation, delta database.tables tables rows⟩
  ⟨tables, generation, database.announcements.push announcement⟩

/-- Applies a list of operations.  Operations that write no row leave the
generation as it is and announce nothing. -/
def commit (database : Database) (schema : DatabaseSchema)
    (operations : List Operation) : Except Fault Database := do
  let staged ← stage schema database.tables operations
  let rows := touched operations
  if rows.isEmpty then
    return database
  return database.advance staged rows

end Database

end OvsdbClient
