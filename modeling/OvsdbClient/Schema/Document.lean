import OvsdbClient.Fault
import OvsdbClient.Json.Decoder
import OvsdbClient.Schema.Basic

/-!
# Schema documents

The JSON document a server describes its database by, as it is decoded
(`SchemaDocument`), and the schema it stands for (`SchemaDocument.schema`).
-/

namespace OvsdbClient

open Json (Decoder)
open Json.Decoder (Field)

/-- The stated upper bound of a column: a count, or a word. -/
inductive StatedMax where
  | count (value : Nat)
  | word (text : String)
deriving DecidableEq, Inhabited

/-- The stated type of a column: the name of its only atom's type, or keys and
perhaps values with bounds on their number. -/
inductive StatedType where
  | atomic (name : String)
  | complex (key : String) (value : Option String) (min : Nat) (max : StatedMax)
deriving DecidableEq, Inhabited

/-- A column as stated. -/
structure StatedColumn where
  type : StatedType
  mutable : Bool
deriving DecidableEq, Inhabited

/-- A table as stated. -/
structure StatedTable where
  columns : SortedMap String StatedColumn
  isRoot : Bool
  indexes : List (List String)
deriving DecidableEq, Inhabited

/-- A schema document as decoded. -/
structure SchemaDocument where
  name : String
  version : String
  tables : SortedMap String StatedTable
deriving DecidableEq, Inhabited

/-! ## Decoding -/

namespace StatedMax

def decoder : Decoder StatedMax :=
  .anyOf [
    .map StatedMax.count Decoder.unsigned64,
    .map StatedMax.word Decoder.string]

end StatedMax

namespace StatedType

/-- The fields of a base type that have been read. -/
structure BaseDraft where
  type : Option String := none

/-- Reads the name of a base type, alone or as the member `type` of an
object. -/
def baseDecoder : Decoder String :=
  .anyOf [
    Decoder.string,
    fun place json => do
      let fields := [
        Field.of "type" BaseDraft.type (fun draft type => { draft with type })
          Decoder.string]
      let draft ← Decoder.named fields {} place json
      Decoder.required draft.type]

/-- The fields of a complex type that have been read. -/
structure ComplexDraft where
  key : Option String := none
  value : Option (Option String) := none
  min : Option Nat := none
  max : Option StatedMax := none

/-- Reads a complex type; bounds that are not given are one. -/
def complexDecoder : Decoder StatedType := fun place json => do
  let fields := [
    Field.of "key" ComplexDraft.key
      (fun draft key => { draft with key }) baseDecoder,
    Field.of "value" ComplexDraft.value
      (fun draft value => { draft with value }) (.optional baseDecoder),
    Field.of "min" ComplexDraft.min
      (fun draft min => { draft with min }) Decoder.unsigned64,
    Field.of "max" ComplexDraft.max
      (fun draft max => { draft with max }) StatedMax.decoder]
  let draft ← Decoder.record fields {} place json
  let key ← Decoder.required draft.key
  return .complex key (draft.value.getD none) (draft.min.getD 1)
    (draft.max.getD (.count 1))

def decoder : Decoder StatedType :=
  .anyOf [.map StatedType.atomic Decoder.string, complexDecoder]

end StatedType

namespace StatedColumn

structure Draft where
  type : Option StatedType := none
  mutable : Option Bool := none

def decoder : Decoder StatedColumn := fun place json => do
  let fields := [
    Field.of "type" Draft.type
      (fun draft type => { draft with type }) StatedType.decoder,
    Field.of "mutable" Draft.mutable
      (fun draft mutable => { draft with mutable }) Decoder.bool]
  let draft ← Decoder.record fields {} place json
  return ⟨← Decoder.required draft.type, draft.mutable.getD true⟩

end StatedColumn

namespace StatedTable

structure Draft where
  columns : Option (SortedMap String StatedColumn) := none
  isRoot : Option Bool := none
  indexes : Option (List (List String)) := none

def decoder : Decoder StatedTable := fun place json => do
  let fields := [
    Field.of "columns" Draft.columns
      (fun draft columns => { draft with columns })
      (.table StatedColumn.decoder),
    Field.of "isRoot" Draft.isRoot
      (fun draft isRoot => { draft with isRoot }) Decoder.bool,
    Field.of "indexes" Draft.indexes
      (fun draft indexes => { draft with indexes })
      (.items (.items Decoder.string))]
  let draft ← Decoder.record fields {} place json
  let columns ← Decoder.required draft.columns
  return ⟨columns, draft.isRoot.getD false, draft.indexes.getD []⟩

end StatedTable

namespace SchemaDocument

structure Draft where
  name : Option String := none
  version : Option String := none
  tables : Option (SortedMap String StatedTable) := none

def decoder : Decoder SchemaDocument := fun place json => do
  let fields := [
    Field.of "name" Draft.name
      (fun draft name => { draft with name }) Decoder.string,
    Field.of "version" Draft.version
      (fun draft version => { draft with version }) Decoder.string,
    Field.of "tables" Draft.tables (fun draft tables => { draft with tables })
      (.table StatedTable.decoder)]
  let draft ← Decoder.record fields {} place json
  let name ← Decoder.required draft.name
  let tables ← Decoder.required draft.tables
  return ⟨name, draft.version.getD "", tables⟩

end SchemaDocument

/-! ## The schema of a document -/

/-- The type with a name, which must be one of the five. -/
def AtomicType.ofName (name : String) : Except Fault AtomicType :=
  let unknown := Fault.invalidSchema ("unknown atomic type '" ++ name ++ "'")
  orFault unknown (AtomicType.ofText? name)

namespace StatedMax

/-- The limit that a stated bound sets on a column; the only word for a bound is
`unlimited`. -/
def limit (column : String) : StatedMax → Except Fault (Option Nat)
  | .count value => .ok (some value)
  | .word text =>
      if text = "unlimited" then
        .ok none
      else
        .error (.invalidSchema
          ("column " ++ column ++ ": invalid max '" ++ text ++ "'"))

end StatedMax

namespace StatedColumn

/-- The shape of a stated column.  Of several faults the bound's comes first,
then the value type's, then the key type's. -/
def schema (name : String) (column : StatedColumn) :
    Except Fault ColumnSchema := do
  match column.type with
  | .atomic type =>
      let keyType ← AtomicType.ofName type
      return ⟨name, .scalar, keyType, none, 1, some 1, column.mutable⟩
  | .complex key value min max =>
      let limit ← max.limit name
      let valueType ← value.mapM AtomicType.ofName
      let keyType ← AtomicType.ofName key
      let kind := ColumnKind.ofShape valueType min limit
      return ⟨name, kind, keyType, valueType, min, limit, column.mutable⟩

end StatedColumn

namespace StatedTable

/-- The shape of a stated table, in which no column name may start with an
underscore. -/
def schema (name : String) (table : StatedTable) :
    Except Fault TableSchema := do
  let columns ← table.columns.traverse fun columnName column => do
    if columnName.toList.head? = some '_' then
      throw (.invalidSchema
        ("column name '" ++ columnName ++ "' in " ++ name ++ " is reserved"))
    column.schema columnName
  return ⟨name, columns, table.isRoot, table.indexes⟩

end StatedTable

namespace SchemaDocument

/-- The schema that a document stands for. -/
def schema (document : SchemaDocument) : Except Fault DatabaseSchema := do
  let tables ← document.tables.traverse fun name table => table.schema name
  return ⟨document.name, document.version, tables⟩

end SchemaDocument

namespace DatabaseSchema

def ofText (text : String) : Except Fault DatabaseSchema := do
  let document ← (Json.decodeText SchemaDocument.decoder text).mapError .json
  document.schema

def ofJson (json : Json) : Except Fault DatabaseSchema := do
  let document ← (Json.decodeValue SchemaDocument.decoder json).mapError .json
  document.schema

end DatabaseSchema

end OvsdbClient
