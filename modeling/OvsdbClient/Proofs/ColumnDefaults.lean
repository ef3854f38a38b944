import OvsdbClient.Proofs.Rows

/-!
# Defaults of columns

A row that is inserted without a column holds as good as nothing there: no
entries, no members, or zero, false, the empty text or the null identifier.  It
holds that under the name which the column bears, whatever key the schema files
the column under.
-/

namespace OvsdbClient

/-! ## What columns hold by default -/

/-- What stands for no atom of a type yet.  Real numbers are not stored, so an
empty set stands for them. -/
def AtomicType.blank : AtomicType → Value
  | .integer => .atom (.integer 0)
  | .boolean => .atom (.boolean false)
  | .string => .atom (.string "")
  | .uuid => .atom (.uuid .nil)
  | .real => .set .empty

/-- What stands for nothing in a column. -/
def ColumnSchema.blank (column : ColumnSchema) : Value :=
  match column.kind with
  | .scalar => column.keyType.blank
  | .set => .set .empty
  | .map => .map .empty

theorem ColumnSchema.initial_eq_blank (column : ColumnSchema) :
    column.initial = column.blank := by
  obtain ⟨name, kind, keyType, valueType, min, max, mutable⟩ := column
  cases kind <;> cases keyType <;> rfl

namespace TableSchema

/-- The column that bears a name: of several the last one by their keys. -/
def named? (shape : TableSchema) (name : String) : Option ColumnSchema :=
  (shape.columns.values.filter fun column => column.name = name).getLast?

def Names (shape : TableSchema) (name : String) : Prop :=
  ∃ key column, shape.column? key = some column ∧ column.name = name

/-- What a row holds in a column that it was inserted without. -/
def default? (shape : TableSchema) (name : String) : Option Value :=
  (shape.named? name).map (·.blank)

variable {shape : TableSchema} {name : String}

theorem mem_values_of_named? {column : ColumnSchema}
    (found : shape.named? name = some column) :
    column ∈ shape.columns.values ∧ column.name = name := by
  have member := List.mem_of_getLast? found
  simpa using member

theorem names_iff : shape.Names name ↔ ∃ column, shape.named? name =
    some column := by
  constructor
  · rintro ⟨key, column, stored, rfl⟩
    have listed : column ∈ shape.columns.values :=
      SortedMap.mem_values_iff.mpr ⟨key, stored⟩
    have some : shape.columns.values.filter
        (fun other => other.name = column.name) ≠ [] := by
      apply List.ne_nil_of_mem
      exact List.mem_filter.mpr ⟨listed, by simp⟩
    exact ⟨_, List.getLast?_eq_some_getLast some⟩
  · rintro ⟨column, found⟩
    obtain ⟨listed, bears⟩ := mem_values_of_named? found
    obtain ⟨key, stored⟩ := SortedMap.mem_values_iff.mp listed
    exact ⟨key, column, stored, bears⟩

/-- A row is inserted with what it was given, and otherwise with the defaults of
the columns that bear the names. -/
theorem get?_initialColumns (shape : TableSchema)
    (given : SortedMap String Value) (name : String) :
    (shape.initialColumns given).get? name =
      (given.get? name).or (shape.default? name) := by
  rw [initialColumns, SortedMap.get?_insertAll_toList]
  refine congrArg (given.get? name).or ?_
  rw [SortedMap.ofList, SortedMap.get?_insertAll, SortedMap.get?_empty,
    Option.or_none, List.filter_map, List.getLast?_map, Option.map_map]
  refine congrArg (Option.map · _) (funext fun column => ?_)
  exact column.initial_eq_blank

/-! ## Which columns a row has -/

/-- Columns of a row include one under each name that columns of its table bear,
and any others are under keys of columns. -/
structure Covers (shape : TableSchema) (columns : SortedMap String Value) :
    Prop where
  named : ∀ name, shape.Names name → columns.contains name = true
  known : ∀ name, columns.contains name = true →
    shape.Names name ∨ shape.hasColumn name = true

variable {columns given : SortedMap String Value}

theorem covers_initialColumns
    (allowed : ∀ name ∈ given.keys, shape.hasColumn name = true) :
    shape.Covers (shape.initialColumns given) := by
  have holds : ∀ name, (shape.initialColumns given).contains name = true ↔
      given.contains name = true ∨ shape.Names name := by
    intro name
    rw [names_iff, SortedMap.contains, get?_initialColumns, Option.isSome_or,
      Bool.or_eq_true, default?, Option.isSome_map,
      Option.isSome_iff_exists (x := shape.named? name)]
    rfl
  constructor
  · intro name bears
    exact (holds name).mpr (.inr bears)
  · intro name held
    rcases (holds name).mp held with given | bears
    · exact .inr (allowed name (SortedMap.mem_keys_iff.mpr given))
    · exact .inl bears

theorem Covers.insertAll (covers : shape.Covers columns)
    (allowed : ∀ name ∈ given.keys, shape.hasColumn name = true) :
    shape.Covers (columns.insertAll given.toList) := by
  constructor
  · intro name bears
    rw [SortedMap.contains_insertAll_toList, covers.named name bears,
      Bool.or_true]
  · intro name held
    rw [SortedMap.contains_insertAll_toList, Bool.or_eq_true] at held
    rcases held with given | held
    · exact .inr (allowed name (SortedMap.mem_keys_iff.mpr given))
    · exact covers.known name held

theorem Covers.insert (covers : shape.Covers columns)
    (allowed : shape.hasColumn name = true) (value : Value) :
    shape.Covers (columns.insert name value) := by
  constructor
  · intro other bears
    rw [SortedMap.contains_insert, covers.named other bears, Bool.or_true]
  · intro other held
    rw [SortedMap.contains_insert, Bool.or_eq_true, decide_eq_true_eq] at held
    rcases held with rfl | held
    · exact .inr allowed
    · exact covers.known other held

/-- The names that columns bear are the keys that columns are filed under. -/
def WellNamed (shape : TableSchema) : Prop :=
  ∀ name, shape.Names name ↔ shape.hasColumn name = true

/-- In a table whose columns go by their keys, rows have exactly those. -/
theorem Covers.keys_eq (covers : shape.Covers columns)
    (wellNamed : shape.WellNamed) : columns.keys = shape.columns.keys := by
  refine SortedMap.keys_eq_of_contains fun name => ?_
  rw [Bool.eq_iff_iff]
  constructor
  · intro held
    rcases covers.known name held with bears | known
    · exact (wellNamed name).mp bears
    · exact known
  · intro known
    exact covers.named name ((wellNamed name).mpr known)

theorem wellNamed_of_name_eq
    (own : ∀ entry ∈ shape.columns.toList, entry.2.name = entry.1) :
    shape.WellNamed := by
  intro name
  constructor
  · rintro ⟨key, column, stored, rfl⟩
    have same := own (key, column) (SortedMap.mem_toList_of_get? stored)
    exact SortedMap.contains_eq_true_iff.mpr ⟨column, same ▸ stored⟩
  · intro known
    obtain ⟨column, stored⟩ := SortedMap.contains_eq_true_iff.mp known
    exact ⟨name, column, stored,
      own (name, column) (SortedMap.mem_toList_of_get? stored)⟩

end TableSchema

def DatabaseSchema.WellNamed (schema : DatabaseSchema) : Prop :=
  ∀ table shape, schema.table? table = some shape → shape.WellNamed

end OvsdbClient
