import OvsdbClient.Collection.SortedMap
import OvsdbClient.Json.Basic

/-!
# Database schemas

What a client needs to know of a database: its tables, and the shape of their
columns.
-/

namespace OvsdbClient

/-- The type of a key or value in a column. -/
inductive AtomicType where
  | integer
  | real
  | boolean
  | string
  | uuid
deriving DecidableEq, Inhabited

/-- Whether a column holds one atom, a set of atoms, or a map. -/
inductive ColumnKind where
  | scalar
  | set
  | map
deriving DecidableEq, Inhabited

/-- The shape of a column; without `max` its values may grow without limit. -/
structure ColumnSchema where
  name : String
  kind : ColumnKind
  keyType : AtomicType
  valueType : Option AtomicType
  min : Nat
  max : Option Nat
  mutable : Bool
deriving DecidableEq, Inhabited

/-- The columns of a table, whether its rows live by themselves, and its
indexes. -/
structure TableSchema where
  name : String
  columns : SortedMap String ColumnSchema
  isRoot : Bool
  indexes : List (List String)
deriving DecidableEq, Inhabited

/-- A named and versioned set of tables. -/
structure DatabaseSchema where
  name : String
  version : String
  tables : SortedMap String TableSchema
deriving DecidableEq, Inhabited

namespace AtomicType

def text : AtomicType → String
  | .integer => "integer"
  | .real => "real"
  | .boolean => "boolean"
  | .string => "string"
  | .uuid => "uuid"

/-- The type with a name. -/
def ofText? (name : String) : Option AtomicType :=
  [integer, real, boolean, string, uuid].find? (·.text == name)

end AtomicType

namespace ColumnKind

def text : ColumnKind → String
  | .scalar => "scalar"
  | .set => "set"
  | .map => "map"

/-- The kind of a column: a map if it has values beside its keys, a scalar if it
holds exactly one key, else a set. -/
def ofShape (valueType : Option AtomicType) (min : Nat) (max : Option Nat) :
    ColumnKind :=
  if valueType.isSome then .map
  else if max = some 1 ∧ min = 1 then .scalar
  else .set

end ColumnKind

namespace ColumnSchema

/-- Whether a column may be empty. -/
def isOptional (column : ColumnSchema) : Bool := column.min = 0

def toJson (column : ColumnSchema) : Json :=
  .record [("name", .string column.name), ("kind", .string column.kind.text),
    ("key", .string column.keyType.text),
    ("value", .ofOption (fun type => .string type.text) column.valueType),
    ("min", .nat column.min), ("max", .ofOption .nat column.max),
    ("mutable", .bool column.mutable), ("optional", .bool column.isOptional)]

end ColumnSchema

namespace TableSchema

def column? (table : TableSchema) (column : String) : Option ColumnSchema :=
  table.columns.get? column

def hasColumn (table : TableSchema) (column : String) : Bool :=
  table.columns.contains column

def toJson (table : TableSchema) : Json :=
  .record [("name", .string table.name), ("is_root", .bool table.isRoot),
    ("indexes",
      .list (table.indexes.map fun index => .list (index.map .string))),
    ("columns", .list (table.columns.values.map ColumnSchema.toJson))]

end TableSchema

namespace DatabaseSchema

def table? (schema : DatabaseSchema) (table : String) : Option TableSchema :=
  schema.tables.get? table

def hasTable (schema : DatabaseSchema) (table : String) : Bool :=
  schema.tables.contains table

def tableNames (schema : DatabaseSchema) : List String :=
  schema.tables.keys

def hasColumn (schema : DatabaseSchema) (table column : String) : Bool :=
  (schema.table? table).any (·.hasColumn column)

def toJson (schema : DatabaseSchema) : Json :=
  .record [("name", .string schema.name), ("version", .string schema.version),
    ("tables", .list (schema.tables.values.map TableSchema.toJson))]

end DatabaseSchema

end OvsdbClient
