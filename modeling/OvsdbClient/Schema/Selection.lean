import OvsdbClient.Collection.SortedSet
import OvsdbClient.Notice
import OvsdbClient.Schema.Basic

/-!
# Table selections

Which tables of a server's schema a client follows.  Nothing is selected until
tables are registered.
-/

namespace OvsdbClient

/-- A schema with the tables registered in it. -/
structure Selection where
  schema : DatabaseSchema
  registered : SortedSet String
  all : Bool
deriving DecidableEq, Inhabited

namespace Selection

/-- The selection of no tables of a schema. -/
def ofSchema (schema : DatabaseSchema) : Selection := ⟨schema, .empty, false⟩

/-- Registers a table, or says that the schema has none of that name. -/
def register (selection : Selection) (table : String) :
    Except Notice Selection :=
  if selection.schema.hasTable table then
    .ok { selection with registered := selection.registered.insert table }
  else
    .error (.tableSkipped table selection.schema.name selection.schema.version)

/-- Registers every listed table that the schema has, with a notice for every
other one. -/
def registerAll (selection : Selection) : List String → Selection × List Notice
  | [] => (selection, [])
  | table :: tables =>
      match selection.register table with
      | .ok selection => selection.registerAll tables
      | .error notice =>
          let (selection, notices) := selection.registerAll tables
          (selection, notice :: notices)

/-- Selects all tables. -/
def selectAll (selection : Selection) : Selection :=
  { selection with all := true }

def tables (selection : Selection) : List String :=
  if selection.all then selection.schema.tableNames
  else selection.registered.toList

/-- The schema with the selected tables only. -/
def build (selection : Selection) : DatabaseSchema :=
  if selection.all then
    selection.schema
  else
    { selection.schema with
      tables := selection.schema.tables.filter fun name _ =>
        selection.registered.contains name }

end Selection

end OvsdbClient
