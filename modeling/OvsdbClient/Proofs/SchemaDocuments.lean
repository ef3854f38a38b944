import OvsdbClient.Proofs.ColumnDefaults
import OvsdbClient.Proofs.StatedDocuments

/-!
# What schema documents stand for

A document is accepted just if no column has a reserved name, every base type is
one of the five, and the only word for a bound is `unlimited`.  The schema that
it stands for has its tables and columns, each under its own name and of the
shape that the document states.
-/

namespace OvsdbClient

open Json.Decoder

/-! ## Judging documents -/

/-- A result is a value as meant if something is acceptable, and otherwise the
fault of an invalid schema. -/
def Judged {α : Type} (acceptable : Prop) (meant : α → Prop) :
    Except Fault α → Prop
  | .ok value => acceptable ∧ meant value
  | .error fault => ¬acceptable ∧ ∃ reason, fault = .invalidSchema reason

namespace Judged

variable {α β γ : Type} {acceptable other : Prop} {meant : α → Prop}
  {result : Except Fault α}

theorem imp {stated : α → Prop} (judged : Judged acceptable meant result)
    (same : acceptable ↔ other)
    (meaning : ∀ value, meant value → stated value) :
    Judged other stated result := by
  cases result with
  | ok value => exact ⟨same.mp judged.1, meaning value judged.2⟩
  | error fault => exact ⟨mt same.mpr judged.1, judged.2⟩

theorem bind {stated : β → Prop} {next : α → Except Fault β}
    (judged : Judged acceptable meant result)
    (following : ∀ value, meant value → Judged other stated (next value)) :
    Judged (acceptable ∧ other) stated (result >>= next) := by
  cases result with
  | error fault => exact ⟨fun both => judged.1 both.1, judged.2⟩
  | ok value =>
      have after := following value judged.2
      change Judged _ _ (next value)
      refine after.imp ⟨fun last => ⟨judged.1, last⟩, And.right⟩ ?_
      exact fun _ => id

theorem map {stated : β → Prop} {change : α → β}
    (judged : Judged acceptable meant result)
    (meaning : ∀ value, meant value → stated (change value)) :
    Judged acceptable stated (do return change (← result)) := by
  cases result with
  | ok value => exact ⟨judged.1, meaning value judged.2⟩
  | error fault => exact judged

theorem mapM_entries {accepts : String → Prop} {means : String → γ → Prop}
    {change : String → β → Except Fault γ} {entries : List (String × β)}
    (each : ∀ entry ∈ entries,
      Judged (accepts entry.1) (means entry.1) (change entry.1 entry.2)) :
    Judged (∀ entry ∈ entries, accepts entry.1)
      (List.Forall₂ (fun before after =>
        before.1 = after.1 ∧ means before.1 after.2) entries)
      (entries.mapM fun (key, value) => return (key, ← change key value)) := by
  induction entries with
  | nil => exact ⟨nofun, .nil⟩
  | cons entry entries induction =>
      obtain ⟨first, rest⟩ := List.forall_mem_cons.mp each
      rw [List.mapM_cons]
      have here : Judged (accepts entry.1) (fun after : String × γ =>
          entry.1 = after.1 ∧ means entry.1 after.2)
          (do return (entry.1, ← change entry.1 entry.2)) :=
        first.map fun value meant => ⟨rfl, meant⟩
      have both := here.bind fun after related =>
        (induction rest).map fun others alike =>
          List.Forall₂.cons related alike
      exact both.imp (by simp) fun _ => id

/-- A table that was read from texts is acceptable if all of these are, and then
its entries are as the texts mean them. -/
theorem traverse {accepts : String → Json → Prop}
    {means : String → Json → γ → Prop} {reads : Json → β → Prop}
    {texts : SortedMap String Json} {values : SortedMap String β}
    {change : String → β → Except Fault γ}
    (given : ∀ key, Option.Rel reads (texts.get? key) (values.get? key))
    (each : ∀ key text value, reads text value →
      Judged (accepts key text) (means key text) (change key value)) :
    Judged (∀ key text, texts.get? key = some text → accepts key text)
      (fun changed => ∀ key,
        Option.Rel (means key) (texts.get? key) (changed.get? key))
      (values.traverse change) := by
  -- What is asked of a key is asked of every text that is stored there.
  have listed : ∀ entry ∈ values.toList, Judged
      (∀ text, texts.get? entry.1 = some text → accepts entry.1 text)
      (fun value : γ => ∀ text, texts.get? entry.1 = some text →
        means entry.1 text value)
      (change entry.1 entry.2) := by
    intro entry member
    have here := given entry.1
    rw [SortedMap.get?_of_mem_toList member] at here
    obtain ⟨text, found, read⟩ := exists_of_rel_some here
    simp only [found, Option.some.injEq, forall_eq']
    exact each _ _ _ read
  have judged := @mapM_entries β γ
    (fun key => ∀ text, texts.get? key = some text → accepts key text)
    (fun key value => ∀ text, texts.get? key = some text →
      means key text value) change values.toList listed
  refine (judged.map fun changed alike key => ?meaning).imp ?all fun _ => id
  case meaning =>
    have changes := @rel_get?_ofList β γ
      (fun key _ after => ∀ text, texts.get? key = some text →
        means key text after) _ _ alike key
    rw [SortedMap.ofList_toList] at changes
    exact rel_trans (given key) changes
      fun text _ _ found _ meant => meant text found
  case all =>
    refine ⟨fun all key text found => ?_, fun all entry _ => all entry.1⟩
    have here := given key
    rw [found] at here
    generalize stored : values.get? key = value at here
    cases here
    exact all _ (SortedMap.mem_toList_of_get? stored) text found

end Judged

/-! ## What a document describes -/

/-- The names of the five types. -/
def AtomicType.names : List String :=
  ["integer", "real", "boolean", "string", "uuid"]

namespace Json

/-- A column is as it should be: its name is not reserved, its base types are
among the five, and a word for its upper bound says that there is none. -/
structure IsColumn (name : String) (column : Json) : Prop where
  free : name.toList.head? ≠ some '_'
  key : ∃ found ∈ AtomicType.names, column.columnType.keyName? = some found
  value : ∀ base, column.columnType.valueBase? = some base →
    ∃ found ∈ AtomicType.names, base.baseName? = some found
  max : ∀ word, column.columnType.maximum = .string word → word = "unlimited"

/-- All columns of a table are as they should be. -/
def IsTable (table : Json) : Prop :=
  ∀ name column, table.columnTexts.get? name = some column →
    column.IsColumn name

/-- All tables of a document are as they should be. -/
def IsSchema (document : Json) : Prop :=
  ∀ name table, document.tableTexts.get? name = some table → table.IsTable

/-- A column has the shape that is stated under its name. -/
structure DescribesColumn (name : String) (column : Json)
    (schema : ColumnSchema) : Prop where
  name : schema.name = name
  key : column.columnType.keyName? = some schema.keyType.text
  value : Option.Rel (fun base type => base.baseName? = some type.text)
    column.columnType.valueBase? schema.valueType
  min : column.columnType.minimum = .int schema.min
  max : column.columnType.maximum =
    schema.max.elim (.string "unlimited") fun max => .int max
  map : schema.kind = .map ↔ column.columnType.valueBase? ≠ none
  scalar : schema.kind = .scalar ↔ column.columnType.valueBase? = none ∧
    column.columnType.minimum = .int 1 ∧ column.columnType.maximum = .int 1
  set : schema.kind = .set ↔ column.columnType.valueBase? = none ∧
    ¬(column.columnType.minimum = .int 1 ∧ column.columnType.maximum = .int 1)
  mutable : schema.mutable = ((column.part? 1 "mutable").bind asBool?).getD true

/-- A table has the columns that are stated, and no others. -/
structure DescribesTable (name : String) (table : Json) (schema : TableSchema) :
    Prop where
  name : schema.name = name
  columns : ∀ column, Option.Rel (fun text => text.DescribesColumn column)
    (table.columnTexts.get? column) (schema.columns.get? column)
  isRoot : schema.isRoot = ((table.part? 1 "isRoot").bind asBool?).getD false
  indexes : schema.indexes.map (List.map .string) =
    ((table.part? 2 "indexes").elim [] items).map items

/-- A schema has the tables that are stated, and no others. -/
structure Describes (document : Json) (schema : DatabaseSchema) : Prop where
  name : document.part? 0 "name" = some (.string schema.name)
  version : schema.version =
    ((document.part? 1 "version").bind asText?).getD ""
  tables : ∀ table, Option.Rel (fun text => text.DescribesTable table)
    (document.tableTexts.get? table) (schema.tables.get? table)

end Json

variable {json : Json}

/-! ## What is made of a document -/

namespace AtomicType

theorem mem_names_iff {name : String} :
    name ∈ names ↔ ∃ type : AtomicType, type.text = name := by
  change name ∈ [integer, real, boolean, string, uuid].map text ↔ _
  constructor
  · intro member
    obtain ⟨type, _, same⟩ := List.mem_map.mp member
    exact ⟨type, same⟩
  · rintro ⟨type, rfl⟩
    cases type <;> decide

theorem judged_ofName (name : String) :
    Judged (name ∈ names) (fun type => type.text = name) (ofName name) := by
  unfold ofName
  cases found : ofText? name with
  | none =>
      refine ⟨fun member => ?_, _, rfl⟩
      obtain ⟨type, named⟩ := mem_names_iff.mp member
      refine List.find?_eq_none.mp found type ?_ (by simp [named])
      cases type <;> decide
  | some type =>
      have named : type.text = name := by simpa using List.find?_some found
      exact ⟨mem_names_iff.mpr ⟨type, named⟩, named⟩

theorem judged_mapM_ofName (name? : Option String) :
    Judged (∀ name, name? = some name → name ∈ names)
      (Option.Rel (fun name (type : AtomicType) => type.text = name) name?)
      (name?.mapM ofName) := by
  cases name? with
  | none => exact ⟨nofun, .none⟩
  | some name =>
      refine ((judged_ofName name).map fun type named => ?_).imp ?_ fun _ => id
      · exact .some named
      · simp

end AtomicType

theorem StatedMax.judged_limit (column : String) (max : StatedMax) :
    Judged (∀ word, max.toJson = .string word → word = "unlimited")
      (fun limit => max.toJson =
        limit.elim (.string "unlimited") fun count => .int count)
      (max.limit column) := by
  cases max with
  | count value => exact ⟨nofun, rfl⟩
  | word text =>
      dsimp only [limit]
      by_cases unlimited : text = "unlimited"
      · subst unlimited
        exact ⟨fun word same => (Json.string.inj same).symm, rfl⟩
      · rw [if_neg unlimited]
        exact ⟨fun only => unlimited (only text rfl), _, rfl⟩

namespace ColumnKind

variable {valueType : Option AtomicType} {min : Nat} {max : Option Nat}

theorem ofShape_eq_map_iff :
    ofShape valueType min max = .map ↔ valueType ≠ none := by
  unfold ofShape
  cases valueType with
  | some type => simp
  | none =>
      by_cases one : max = some 1 ∧ min = 1 <;> simp [one]

theorem ofShape_eq_scalar_iff :
    ofShape valueType min max = .scalar ↔
      valueType = none ∧ min = 1 ∧ max = some 1 := by
  unfold ofShape
  cases valueType with
  | some type => simp
  | none =>
      by_cases one : max = some 1 ∧ min = 1
      · simp [one]
      · simpa [one] using fun first second => one ⟨second, first⟩

theorem ofShape_eq_set_iff :
    ofShape valueType min max = .set ↔
      valueType = none ∧ ¬(min = 1 ∧ max = some 1) := by
  have others : ofShape valueType min max = .set ↔
      ¬ofShape valueType min max = .map ∧
        ¬ofShape valueType min max = .scalar := by
    cases ofShape valueType min max <;> simp
  rw [others, ofShape_eq_map_iff, ofShape_eq_scalar_iff, Classical.not_not]
  exact and_congr_right fun missing => by simp [missing]

end ColumnKind

namespace StatedColumn

/-- The name of a single type is read as that of keys without values and with
both bounds at one. -/
theorem schema_eq (name : String) (column : StatedColumn) :
    column.schema name = do
      let limit ← column.type.max.limit name
      let valueType ← column.type.value?.mapM AtomicType.ofName
      let keyType ← AtomicType.ofName column.type.key
      let kind := ColumnKind.ofShape valueType column.type.min limit
      return ⟨name, kind, keyType, valueType, column.type.min, limit,
        column.mutable⟩ := by
  unfold schema
  cases column.type with
  | atomic type => rfl
  | complex key value min max => rfl

variable {column : StatedColumn} {name : String} {limit : Option Nat}
  {keyType : AtomicType} {valueType : Option AtomicType}

theorem describesColumn (stated : column.IsStatedBy json)
    (limited : column.type.max.toJson =
      limit.elim (.string "unlimited") fun max => .int max)
    (valued : Option.Rel (fun name type => type.text = name)
      column.type.value? valueType)
    (keyed : keyType.text = column.type.key) :
    json.DescribesColumn name
      ⟨name, .ofShape valueType column.type.min limit, keyType, valueType,
        column.type.min, limit, column.mutable⟩ := by
  have maximum := stated.type.max.trans limited
  have values : Option.Rel (fun base type => base.baseName? = some type.text)
      json.columnType.valueBase? valueType :=
    rel_trans stated.type.value valued fun _ _ _ _ read named => named ▸ read
  have absent : json.columnType.valueBase? = none ↔ valueType = none := by
    generalize json.columnType.valueBase? = base? at values
    cases values <;> simp
  have least : json.columnType.minimum = .int 1 ↔ column.type.min = 1 := by
    rw [stated.type.min, Json.int.injEq]
    omega
  have most : json.columnType.maximum = .int 1 ↔ limit = some 1 := by
    rw [maximum]
    cases limit with
    | none => simp
    | some max =>
        simp only [Option.elim_some, Json.int.injEq, Option.some.injEq]
        omega
  constructor
  case name => rfl
  case key => exact keyed ▸ stated.type.key
  case value => exact values
  case min => exact stated.type.min
  case max => exact maximum
  case map => rw [ColumnKind.ofShape_eq_map_iff, Ne, Ne, absent]
  case scalar => rw [ColumnKind.ofShape_eq_scalar_iff, absent, least, most]
  case set => rw [ColumnKind.ofShape_eq_set_iff, absent, least, most]
  case mutable => exact stated.mutable

/-- A column with a free name is as it should be if the names it states are of
types, and its bound is not an unknown word. -/
theorem isColumn_iff (stated : column.IsStatedBy json)
    (free : name.toList.head? ≠ some '_') :
    json.IsColumn name ↔
      (∀ word, column.type.max.toJson = .string word → word = "unlimited") ∧
      (∀ name, column.type.value? = some name → name ∈ AtomicType.names) ∧
      column.type.key ∈ AtomicType.names := by
  have values := stated.type.value
  constructor
  · rintro ⟨_, ⟨key, known, found⟩, named, only⟩
    refine ⟨stated.type.max ▸ only, fun name given => ?_, ?_⟩
    · rw [given] at values
      generalize json.columnType.valueBase? = base? at named values
      cases values with
      | some read =>
          obtain ⟨other, known, seen⟩ := named _ rfl
          cases read.symm.trans seen
          exact known
    · cases stated.type.key.symm.trans found
      exact known
  · rintro ⟨only, named, known⟩
    refine ⟨free, ⟨_, known, stated.type.key⟩, fun base given => ?_,
      stated.type.max ▸ only⟩
    rw [given] at values
    generalize column.type.value? = name? at named values
    cases values with
    | some read => exact ⟨_, named _ rfl, read⟩

theorem judged_schema (stated : column.IsStatedBy json)
    (free : name.toList.head? ≠ some '_') :
    Judged (json.IsColumn name) (json.DescribesColumn name)
      (column.schema name) := by
  have max := StatedMax.judged_limit name column.type.max
  have value := AtomicType.judged_mapM_ofName column.type.value?
  have key := AtomicType.judged_ofName column.type.key
  rw [schema_eq]
  refine (max.bind fun limit limited => value.bind fun valueType valued =>
    key.map fun keyType keyed => ?meaning).imp ?acceptable fun _ => id
  case meaning => exact describesColumn stated limited valued keyed
  case acceptable => exact (isColumn_iff stated free).symm

end StatedColumn

theorem StatedTable.judged_schema {table : StatedTable}
    (stated : table.IsStatedBy json) (name : String) :
    Judged json.IsTable (json.DescribesTable name) (table.schema name) := by
  suffices columns : Judged json.IsTable
      (fun columns : SortedMap String ColumnSchema => ∀ column,
        Option.Rel (fun text => text.DescribesColumn column)
          (json.columnTexts.get? column) (columns.get? column)) _ from
    columns.map fun columns alike =>
      ⟨rfl, alike, stated.isRoot, stated.indexes⟩
  refine Judged.traverse stated.columns
    fun columnName text column isStated => ?_
  split
  case isTrue reserved =>
    exact ⟨fun isColumn => isColumn.free reserved, _, rfl⟩
  case isFalse free => exact StatedColumn.judged_schema isStated free

/-- A document is turned down just if one of its columns is not as it should
be. -/
theorem SchemaDocument.judged_schema {document : SchemaDocument}
    (stated : document.IsStatedBy json) :
    Judged json.IsSchema json.Describes document.schema := by
  have tables : Judged json.IsSchema
      (fun tables => ∀ table,
        Option.Rel (fun text => text.DescribesTable table)
          (json.tableTexts.get? table) (tables.get? table))
      (document.tables.traverse fun name table => table.schema name) :=
    Judged.traverse stated.tables fun name text table isStated =>
      StatedTable.judged_schema isStated name
  refine tables.map fun tables alike => ?_
  exact ⟨stated.name, stated.version, alike⟩

/-! ## What describes a schema -/

theorem AtomicType.text_injective : Function.Injective AtomicType.text := by
  intro type other
  cases type <;> cases other <;> decide

namespace Json

theorem limit_injective : Function.Injective fun limit : Option Nat =>
    limit.elim (string "unlimited") fun max => .int max := by
  intro limit other same
  cases limit with
  | none =>
      cases other with
      | none => rfl
      | some => cases same
  | some max =>
      cases other with
      | none => cases same
      | some => exact congrArg some (Int.ofNat.inj (int.inj same))

theorem DescribesColumn.unique {name : String} {schema other : ColumnSchema}
    (first : json.DescribesColumn name schema)
    (second : json.DescribesColumn name other) : schema = other := by
  have keyType : schema.keyType = other.keyType :=
    AtomicType.text_injective
      (Option.some.inj (first.key.symm.trans second.key))
  have valueType : schema.valueType = other.valueType :=
    eq_of_rel first.value second.value fun _ _ _ here there =>
      AtomicType.text_injective (Option.some.inj (here.symm.trans there))
  have min : schema.min = other.min :=
    Int.ofNat.inj (Json.int.inj (first.min.symm.trans second.min))
  have max : schema.max = other.max :=
    limit_injective (first.max.symm.trans second.max)
  have kind : schema.kind = other.kind := by
    have map := first.map.trans second.map.symm
    have scalar := first.scalar.trans second.scalar.symm
    have set := first.set.trans second.set.symm
    cases here : schema.kind with
    | map => exact (map.mp here).symm
    | scalar => exact (scalar.mp here).symm
    | set => exact (set.mp here).symm
  have mutable := first.mutable.trans second.mutable.symm
  have name := first.name.trans second.name.symm
  cases schema
  cases other
  simp only at *
  subst name kind keyType valueType min max mutable
  rfl

theorem DescribesTable.unique {name : String} {schema other : TableSchema}
    (first : json.DescribesTable name schema)
    (second : json.DescribesTable name other) : schema = other := by
  have columns : schema.columns = other.columns :=
    SortedMap.ext_get? fun column =>
      eq_of_rel (first.columns column) (second.columns column)
        fun _ _ _ => DescribesColumn.unique
  have texts : Function.Injective (List.map (List.map Json.string)) :=
    List.map_injective_iff.mpr <| List.map_injective_iff.mpr
      fun _ _ => string.inj
  have indexes := texts (first.indexes.trans second.indexes.symm)
  have isRoot := first.isRoot.trans second.isRoot.symm
  have name := first.name.trans second.name.symm
  cases schema
  cases other
  simp only at *
  subst name columns isRoot indexes
  rfl

/-- A schema is told by its description. -/
theorem Describes.unique {schema other : DatabaseSchema}
    (first : json.Describes schema) (second : json.Describes other) :
    schema = other := by
  have tables : schema.tables = other.tables :=
    SortedMap.ext_get? fun table =>
      eq_of_rel (first.tables table) (second.tables table)
        fun _ _ _ => DescribesTable.unique
  have name := string.inj (Option.some.inj (first.name.symm.trans second.name))
  have version := first.version.trans second.version.symm
  cases schema
  cases other
  simp only at *
  subst name version tables
  rfl

end Json

/-! ## Names of columns -/

theorem SortedMap.exists_of_traverse {β γ : Type}
    {map : SortedMap String β} {change : String → β → Except Fault γ}
    {changed : SortedMap String γ} (done : map.traverse change = .ok changed)
    {key : String} {value : γ} (found : changed.get? key = some value) :
    ∃ old, map.get? key = some old ∧ change key old = .ok value := by
  obtain ⟨entries, mapped, same⟩ := bind_eq_ok_iff.mp done
  cases same
  have pairs : List.Forall₂ (fun before after =>
      before.1 = after.1 ∧ change before.1 before.2 = .ok after.2)
      map.toList entries := by
    have each := forall₂_of_mapM mapped
    refine each.imp fun before after one => ?_
    obtain ⟨value, changes, same⟩ := bind_eq_ok_iff.mp one
    cases same
    exact ⟨rfl, changes⟩
  have here := @rel_get?_ofList β γ
    (fun key old value => change key old = .ok value) _ _ pairs key
  rw [ofList_toList, found] at here
  generalize stored : map.get? key = old at here
  cases here with
  | some changes => exact ⟨_, rfl, changes⟩

theorem StatedColumn.name_schema {name : String} {column : StatedColumn}
    {made : ColumnSchema} (done : column.schema name = .ok made) :
    made.name = name := by
  unfold schema at done
  split at done
  · obtain ⟨_, _, same⟩ := bind_eq_ok_iff.mp done
    cases same
    rfl
  · obtain ⟨_, _, done⟩ := bind_eq_ok_iff.mp done
    obtain ⟨_, _, done⟩ := bind_eq_ok_iff.mp done
    obtain ⟨_, _, same⟩ := bind_eq_ok_iff.mp done
    cases same
    rfl

theorem StatedTable.wellNamed_schema {name : String} {table : StatedTable}
    {shape : TableSchema} (done : table.schema name = .ok shape) :
    shape.WellNamed := by
  obtain ⟨columns, changed, same⟩ := bind_eq_ok_iff.mp done
  cases same
  refine TableSchema.wellNamed_of_name_eq fun entry member => ?_
  have found := SortedMap.get?_of_mem_toList member
  obtain ⟨stated, _, made⟩ := SortedMap.exists_of_traverse changed found
  split at made
  case isTrue => cases made
  case isFalse => exact StatedColumn.name_schema made

theorem SchemaDocument.wellNamed_schema {document : SchemaDocument}
    {schema : DatabaseSchema} (done : document.schema = .ok schema) :
    schema.WellNamed := by
  obtain ⟨tables, changed, same⟩ := bind_eq_ok_iff.mp done
  cases same
  intro table shape found
  obtain ⟨stated, _, made⟩ := SortedMap.exists_of_traverse changed found
  exact StatedTable.wellNamed_schema made

/-- Whatever is read from a document, as text or as JSON, has columns that go by
their keys. -/
theorem DatabaseSchema.wellNamed_of_read {schema : DatabaseSchema}
    (read : (∃ text, ofText text = .ok schema) ∨
      ∃ json, ofJson json = .ok schema) : schema.WellNamed := by
  rcases read with ⟨text, done⟩ | ⟨json, done⟩
  · obtain ⟨_, _, made⟩ := bind_eq_ok_iff.mp done
    exact SchemaDocument.wellNamed_schema made
  · obtain ⟨_, _, made⟩ := bind_eq_ok_iff.mp done
    exact SchemaDocument.wellNamed_schema made

/-- A document that has the form of one is accepted just if its columns are as
they should be, and otherwise it is invalid.  The schema it stands for is the
only one that it describes. -/
theorem DatabaseSchema.documents_are_translated {document : SchemaDocument}
    (decoded : Json.decodeValue SchemaDocument.decoder json = .ok document) :
    (json.IsSchema ↔ ∃ schema, ofJson json = .ok schema) ∧
      (¬json.IsSchema →
        ∃ reason, ofJson json = .error (.invalidSchema reason)) ∧
      ∀ schema, ofJson json = .ok schema ↔
        json.IsSchema ∧ json.Describes schema := by
  have judged := SchemaDocument.judged_schema
    (SchemaDocument.isStatedBy_of_decoder decoded)
  have same : ofJson json = document.schema := by
    unfold ofJson
    rw [decoded]
    rfl
  rw [same]
  cases made : document.schema with
  | ok schema =>
      rw [made] at judged
      obtain ⟨isSchema, describes⟩ := judged
      refine ⟨⟨fun _ => ⟨schema, rfl⟩, fun _ => isSchema⟩,
        fun isNot => (isNot isSchema).elim, fun other => ⟨?_, ?_⟩⟩
      · rintro ⟨⟩
        exact ⟨isSchema, describes⟩
      · rintro ⟨_, described⟩
        exact congrArg _ (describes.unique described)
  | error fault =>
      rw [made] at judged
      obtain ⟨isNot, reason, rfl⟩ := judged
      exact ⟨⟨fun isSchema => (isNot isSchema).elim, nofun⟩,
        fun _ => ⟨reason, rfl⟩,
        fun _ => ⟨nofun, fun both => (isNot both.1).elim⟩⟩

/-- A document of bridges, whose ports go by a given name: a scalar named by its
type alone, a set without an upper bound, and a map. -/
def Json.bridges (ports : String) : Json :=
  .record [("name", .string "Bridges"), ("tables", .record [
    ("Bridge", .record [("columns", .record [
      ("name", .record [("type", .string "string")]),
      ("options", .record [("type", .record [
        ("key", .string "string"), ("value", .string "integer"),
        ("min", .int 0)])]),
      (ports, .record [("type", .record [
        ("key", .record [("type", .string "uuid")]), ("min", .int 0),
        ("max", .string "unlimited")])])])])])]

theorem DatabaseSchema.bridges_are_translated_unless_reserved :
    (∃ schema, ofJson (Json.bridges "ports") = .ok schema ∧
      (Json.bridges "ports").Describes schema) ∧
    ¬(Json.bridges "_ports").IsSchema ∧
      ∃ reason, ofJson (Json.bridges "_ports") =
        .error (.invalidSchema reason) := by
  obtain ⟨document, free⟩ : ∃ document, Json.decodeValue
      SchemaDocument.decoder (Json.bridges "ports") = .ok document :=
    ⟨_, rfl⟩
  obtain ⟨spoiled, reserved⟩ : ∃ document, Json.decodeValue
      SchemaDocument.decoder (Json.bridges "_ports") = .ok document :=
    ⟨_, rfl⟩
  obtain ⟨schema, made⟩ : ∃ schema, ofJson (Json.bridges "ports") =
      .ok schema := ⟨_, rfl⟩
  obtain ⟨reason, refused⟩ : ∃ reason, ofJson (Json.bridges "_ports") =
      .error (.invalidSchema reason) := ⟨_, rfl⟩
  have described := ((documents_are_translated free).2.2 schema).mp made
  refine ⟨⟨schema, made, described.2⟩, fun isSchema => ?_, reason, refused⟩
  obtain ⟨_, other⟩ := (documents_are_translated reserved).1.mp isSchema
  cases other.symm.trans refused

end OvsdbClient
