import OvsdbClient.Proofs.DecodedRecords
import OvsdbClient.Schema.Document

/-!
# What schema documents state

The parts of a document are seen in it directly, whatever shape they are given
in: a type by its name or as a record, a base type by its name or as an object,
bounds that are one if they are not given.  What is decoded states what is seen.
-/

namespace OvsdbClient

open Json.Decoder

/-! ## What is seen of a document -/

namespace Json

/-- The name of a base type, alone or as the member `type` of an object. -/
def baseName? : Json → Option String
  | .string name => some name
  | base => (base.get? "type").bind asText?

/-- The name of a type's keys, which may stand for the whole type. -/
def keyName? : Json → Option String
  | .string name => some name
  | type => (type.part? 0 "key").bind baseName?

/-- The base type of a type's values, if it is given and not null. -/
def valueBase? (type : Json) : Option Json :=
  (type.part? 1 "value").filter fun base => !base.isNull

/-- The lower bound of a type, one if it is not given. -/
def minimum (type : Json) : Json := (type.part? 2 "min").getD (.int 1)

/-- The upper bound of a type, one if it is not given. -/
def maximum (type : Json) : Json := (type.part? 3 "max").getD (.int 1)

/-- The type of a column. -/
def columnType (column : Json) : Json := (column.part? 0 "type").getD .null

/-- The columns of a table, by their names. -/
def columnTexts (table : Json) : SortedMap String Json :=
  ((table.part? 0 "columns").getD .null).entries

/-- The tables of a document, by their names. -/
def tableTexts (document : Json) : SortedMap String Json :=
  ((document.part? 2 "tables").getD .null).entries

end Json

/-! ## What is read of a document -/

variable {place : Json.Place} {json : Json}

namespace StatedMax

def toJson : StatedMax → Json
  | .count value => .int value
  | .word text => .string text

theorem of_decoder {max : StatedMax}
    (done : decoder place json = .ok max) : json = max.toJson := by
  obtain ⟨inner, counted | ⟨_, worded⟩⟩ := of_anyOf done
  · obtain ⟨value, read, rfl⟩ := map_eq_ok_iff.mp counted
    exact unsigned64_eq_ok read
  · obtain ⟨text, read, rfl⟩ := map_eq_ok_iff.mp worded
    exact string_eq_ok_iff.mp read

end StatedMax

namespace StatedType

def key : StatedType → String
  | .atomic name => name
  | .complex key .. => key

def value? : StatedType → Option String
  | .atomic _ => none
  | .complex _ value .. => value

def min : StatedType → Nat
  | .atomic _ => 1
  | .complex _ _ min _ => min

def max : StatedType → StatedMax
  | .atomic _ => .count 1
  | .complex _ _ _ max => max

theorem baseName?_of_decoder {name : String}
    (done : baseDecoder place json = .ok name) :
    json.baseName? = some name := by
  obtain ⟨inner, alone | ⟨other, within⟩⟩ := of_anyOf done
  · cases string_eq_ok_iff.mp alone
    rfl
  · obtain ⟨draft, read, needed⟩ := bind_eq_ok_iff.mp within
    have given := get?_named read 0 rfl Field.reads_of nofun rfl
      fun _ _ _ => asText?_of_string
    have seen : (json.get? "type").bind Json.asText? = some name :=
      (eq_bind_of_rel given).symm.trans (required_eq_ok_iff.mp needed)
    cases json with
    | string text => exact absurd rfl (other text)
    | _ => exact seen

/-- A type is what is stated. -/
structure IsStatedBy (type : StatedType) (json : Json) : Prop where
  key : json.keyName? = some type.key
  value : Option.Rel (fun base name => base.baseName? = some name)
    json.valueBase? type.value?
  min : json.minimum = .int type.min
  max : json.maximum = type.max.toJson

/-- A base type that may be null is stated unless it is. -/
theorem rel_of_optional {value? : Option String}
    (done : optional baseDecoder place json = .ok value?) :
    Option.Rel (fun base name => base.baseName? = some name)
      ((some json).filter fun base => !base.isNull) value? := by
  rcases of_optional done with ⟨null, rfl⟩ | ⟨stated, name, read, rfl⟩
  · rw [Option.filter_some_neg (by simp [null])]
    exact .none
  · rw [Option.filter_some_pos (by simp [stated])]
    exact .some (baseName?_of_decoder read)

theorem isStatedBy_of_complexDecoder {type : StatedType}
    (done : complexDecoder place json = .ok type) : type.IsStatedBy json := by
  obtain ⟨draft, read, rest⟩ := bind_eq_ok_iff.mp done
  obtain ⟨key, needed, same⟩ := bind_eq_ok_iff.mp rest
  cases same
  have keyGiven := get?_record read 0 rfl Field.reads_of
    (Field.spares_cons <| Field.spares_cons <| Field.spares_cons nofun) rfl
    fun _ _ _ => baseName?_of_decoder
  have valueGiven := get?_record read 1 rfl Field.reads_of
    (Field.spares_cons <| Field.spares_cons <| Field.spares_cons nofun) rfl
    fun _ _ _ => rel_of_optional
  have minGiven := get?_record read 2 rfl Field.reads_of
    (Field.spares_cons <| Field.spares_cons <| Field.spares_cons nofun) rfl
    fun _ _ _ => unsigned64_eq_ok
  have maxGiven := get?_record read 3 rfl Field.reads_of
    (Field.spares_cons <| Field.spares_cons <| Field.spares_cons nofun) rfl
    fun _ _ _ => StatedMax.of_decoder
  constructor
  case key =>
    have seen : (json.part? 0 "key").bind Json.baseName? = some key :=
      (eq_bind_of_rel keyGiven).symm.trans (required_eq_ok_iff.mp needed)
    cases json with
    | string text => cases seen
    | _ => exact seen
  case value =>
    change Option.Rel _ ((json.part? 1 "value").filter _)
      (draft.value.getD none)
    generalize json.part? 1 "value" = part at valueGiven ⊢
    generalize draft.value = value at valueGiven ⊢
    cases valueGiven with
    | none => exact .none
    | some stated => exact stated
  case min => exact getD_of_rel minGiven 1
  case max => exact getD_of_rel maxGiven (.count 1)

theorem isStatedBy_of_decoder {type : StatedType}
    (done : decoder place json = .ok type) : type.IsStatedBy json := by
  obtain ⟨inner, named | ⟨_, complex⟩⟩ := of_anyOf done
  · obtain ⟨name, read, rfl⟩ := map_eq_ok_iff.mp named
    cases string_eq_ok_iff.mp read
    exact ⟨rfl, .none, rfl, rfl⟩
  · exact isStatedBy_of_complexDecoder complex

end StatedType

/-- A column is what is stated. -/
structure StatedColumn.IsStatedBy (column : StatedColumn) (json : Json) :
    Prop where
  type : column.type.IsStatedBy json.columnType
  mutable : column.mutable = ((json.part? 1 "mutable").bind Json.asBool?).getD
    true

theorem StatedColumn.isStatedBy_of_decoder {column : StatedColumn}
    (done : decoder place json = .ok column) : column.IsStatedBy json := by
  obtain ⟨draft, read, rest⟩ := bind_eq_ok_iff.mp done
  obtain ⟨type, needed, same⟩ := bind_eq_ok_iff.mp rest
  cases same
  have typeGiven := get?_record read 0 rfl Field.reads_of
    (Field.spares_cons nofun) rfl
    fun _ _ _ => StatedType.isStatedBy_of_decoder
  have mutableGiven := get?_record read 1 rfl Field.reads_of
    (Field.spares_cons nofun) rfl fun _ _ _ => asBool?_of_bool
  constructor
  case type =>
    rw [required_eq_ok_iff.mp needed] at typeGiven
    obtain ⟨part, found, stated⟩ := exists_of_rel_some typeGiven
    rw [Json.columnType, found]
    exact stated
  case mutable =>
    exact congrArg (·.getD true) (eq_bind_of_rel mutableGiven)

/-- A table is what is stated. -/
structure StatedTable.IsStatedBy (table : StatedTable) (json : Json) :
    Prop where
  columns : ∀ name, Option.Rel (fun text column => column.IsStatedBy text)
    (json.columnTexts.get? name) (table.columns.get? name)
  isRoot : table.isRoot = ((json.part? 1 "isRoot").bind Json.asBool?).getD false
  indexes : table.indexes.map (List.map .string) =
    ((json.part? 2 "indexes").elim [] Json.items).map Json.items

theorem StatedTable.isStatedBy_of_decoder {table : StatedTable}
    (done : decoder place json = .ok table) : table.IsStatedBy json := by
  obtain ⟨draft, read, rest⟩ := bind_eq_ok_iff.mp done
  obtain ⟨columns, needed, same⟩ := bind_eq_ok_iff.mp rest
  cases same
  have columnsGiven := get?_record read 0 rfl Field.reads_of
    (Field.spares_cons <| Field.spares_cons nofun) rfl fun _ _ _ decoded =>
      get?_table decoded fun _ _ _ => StatedColumn.isStatedBy_of_decoder
  have isRootGiven := get?_record read 1 rfl Field.reads_of
    (Field.spares_cons <| Field.spares_cons nofun) rfl
    fun _ _ _ => asBool?_of_bool
  have indexesGiven := get?_record read 2 rfl Field.reads_of
    (Field.spares_cons <| Field.spares_cons nofun) rfl fun _ _ _ decoded =>
      map_items decoded fun _ _ _ => map_strings
  constructor
  case columns =>
    rw [required_eq_ok_iff.mp needed] at columnsGiven
    obtain ⟨part, found, stated⟩ := exists_of_rel_some columnsGiven
    rw [Json.columnTexts, found]
    exact stated
  case isRoot =>
    exact congrArg (·.getD false) (eq_bind_of_rel isRootGiven)
  case indexes =>
    generalize json.part? 2 "indexes" = part at indexesGiven ⊢
    generalize draft.indexes = indexes at indexesGiven ⊢
    cases indexesGiven with
    | none => rfl
    | some same => exact same.symm

/-- A document is what is stated. -/
structure SchemaDocument.IsStatedBy (document : SchemaDocument) (json : Json) :
    Prop where
  name : json.part? 0 "name" = some (.string document.name)
  version : document.version =
    ((json.part? 1 "version").bind Json.asText?).getD ""
  tables : ∀ name, Option.Rel (fun text table => table.IsStatedBy text)
    (json.tableTexts.get? name) (document.tables.get? name)

theorem SchemaDocument.isStatedBy_of_decoder {document : SchemaDocument}
    (done : decoder place json = .ok document) : document.IsStatedBy json := by
  obtain ⟨draft, read, rest⟩ := bind_eq_ok_iff.mp done
  obtain ⟨name, needed, rest⟩ := bind_eq_ok_iff.mp rest
  obtain ⟨tables, wanted, same⟩ := bind_eq_ok_iff.mp rest
  cases same
  have nameGiven := get?_record read 0 rfl Field.reads_of
    (Field.spares_cons <| Field.spares_cons nofun) rfl
    fun _ _ _ => string_eq_ok_iff.mp
  have versionGiven := get?_record read 1 rfl Field.reads_of
    (Field.spares_cons <| Field.spares_cons nofun) rfl
    fun _ _ _ => asText?_of_string
  have tablesGiven := get?_record read 2 rfl Field.reads_of
    (Field.spares_cons <| Field.spares_cons nofun) rfl fun _ _ _ decoded =>
      get?_table decoded fun _ _ _ => StatedTable.isStatedBy_of_decoder
  constructor
  case name =>
    rw [required_eq_ok_iff.mp needed] at nameGiven
    obtain ⟨_, found, rfl⟩ := exists_of_rel_some nameGiven
    exact found
  case version =>
    exact congrArg (·.getD "") (eq_bind_of_rel versionGiven)
  case tables =>
    rw [required_eq_ok_iff.mp wanted] at tablesGiven
    obtain ⟨part, found, stated⟩ := exists_of_rel_some tablesGiven
    rw [Json.tableTexts, found]
    exact stated

end OvsdbClient
