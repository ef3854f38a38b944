import OvsdbClient.Proofs.ServerRunSoundness
import OvsdbClient.Proofs.SchemaDocuments

/-!
# The integrity of a database

Whatever a server is asked to commit, its tables are those of its schema, and
every row in them has the columns of its table and the revision of a commit that
took place.  So a mutation finds a value to change, also among what is only
staged.  Columns are meant by the names that they bear.  If a schema files them
under other keys, the rows do not, and a mutation at such a key finds nothing.
-/

namespace OvsdbClient

namespace Operation

variable {schema : DatabaseSchema} {tables : Tables}

/-- A mutation of a column that goes by its key finds its row with a value
there, or it is refused because there is no such table, column or row. -/
theorem value_or_refused_of_mutate (complete : tables.Complete schema)
    {table column : String} (named : ∀ shape, schema.table? table = some shape →
      shape.hasColumn column = true → shape.Names column)
    (uuid : Uuid) (mutation : Mutation) :
    (∃ row value, tables.row? table uuid = some row ∧
        row.get? column = some value) ∨
      ∃ fault, (mutate table uuid column mutation).apply schema tables =
          .error fault ∧
        (fault = .tableNotFound table ∨ fault = .columnNotFound table column ∨
          fault = .recordNotFound table uuid.text) := by
  cases known : schema.table? table with
  | none =>
      refine .inr ⟨_, ?_, .inl rfl⟩
      simp only [apply, Operation.table, known]
      rfl
  | some shape =>
      cases has : shape.hasColumn column with
      | false =>
          refine .inr ⟨_, apply_eq_error known ?_, .inr (.inl rfl)⟩
          simp only [onRow, checkColumns, List.find?_singleton, has]
          rfl
      | true =>
          cases stored : tables.row? table uuid with
          | none =>
              refine .inr ⟨_, apply_eq_error known ?_, .inr (.inr rfl)⟩
              simp only [onRow, checkColumns, List.find?_singleton, has,
                Operation.table, Operation.uuid, stored]
              rfl
          | some row =>
              have covers := complete table shape uuid row known stored
              have here := covers.named column (named shape known has)
              obtain ⟨value, found⟩ := SortedMap.contains_eq_true_iff.mp here
              exact .inl ⟨row, value, rfl, found⟩

end Operation

namespace Database

/-- The tables are those of a schema.  Every row is stored at its own
identifier, at a generation that the database has been through.  It has a value
under every name that a column of its table bears and none but under names and
keys of columns, so that it has exactly the columns of its table if these go by
their keys. -/
structure WellFormed (schema : DatabaseSchema) (database : Database) :
    Prop where
  tables : database.tables.keys = schema.tableNames
  rows : ∀ table uuid row, database.tables.row? table uuid = some row →
    row.uuid = uuid ∧ 1 ≤ row.revision ∧ row.revision ≤ database.generation
  columns : ∀ table uuid row, database.tables.row? table uuid = some row →
    ∃ shape, schema.table? table = some shape ∧ shape.Covers row.columns ∧
      (shape.WellNamed → row.columns.keys = shape.columns.keys)

theorem Sound.wellFormed {schema : DatabaseSchema} {database : Database}
    (sound : Sound schema database) : database.WellFormed schema where
  tables := SortedMap.keys_eq_of_contains sound.named
  rows := by
    intro table uuid row stored
    exact ⟨sound.keyed table uuid row stored,
      sound.stamped table uuid row stored⟩
  columns := by
    intro table uuid row stored
    have has : schema.hasTable table = true :=
      (sound.named table).symm.trans (Tables.contains_of_row? stored)
    obtain ⟨shape, known⟩ := SortedMap.contains_eq_true_iff.mp has
    have covers := sound.complete table shape uuid row known stored
    exact ⟨shape, known, covers, covers.keys_eq⟩

/-- Whatever list of operations is committed next, a mutation of a column that
comes to its turn finds a value there, or the commit fails before it looks at
the column. -/
def FindsValues (schema : DatabaseSchema) (database : Database)
    (table column : String) : Prop :=
  ∀ operations earlier uuid mutation later staged,
    operations = earlier ++ .mutate table uuid column mutation :: later →
    stage schema database.tables earlier = .ok staged →
    (∃ row value, staged.row? table uuid = some row ∧
        row.get? column = some value) ∨
      ∃ fault, database.commit schema operations = .error fault ∧
        (fault = .tableNotFound table ∨ fault = .columnNotFound table column ∨
          fault = .recordNotFound table uuid.text)

theorem Sound.findsValues {schema : DatabaseSchema} {database : Database}
    (sound : Sound schema database) {table column : String}
    (named : ∀ shape, schema.table? table = some shape →
      shape.hasColumn column = true → shape.Names column) :
    database.FindsValues schema table column := by
  rintro operations earlier uuid mutation later staged rfl staging
  have complete := stage_complete sound.complete staging
  rcases Operation.value_or_refused_of_mutate complete named uuid mutation with
    found | ⟨fault, refused, kind⟩
  · exact .inl found
  · refine .inr ⟨fault, ?_, kind⟩
    simp only [Database.commit, stage_eq_error staging refused]
    rfl

end Database

namespace Server

/-- At every point of a run the database is well formed, and mutations of every
column that goes by its key find a value there.  In a schema that was read from
a document all columns do. -/
theorem reachable_database_is_wellFormed (schema : DatabaseSchema)
    (events : List Event) :
    let server := (ofSchema schema).run events
    server.database.WellFormed schema ∧
      (∀ table column,
        (∀ shape, schema.table? table = some shape →
          shape.hasColumn column = true → shape.Names column) →
        server.database.FindsValues schema table column) ∧
      (schema.WellNamed →
        ∀ table column, server.database.FindsValues schema table column) ∧
      ((∃ text, DatabaseSchema.ofText text = .ok schema) ∨
          (∃ json, DatabaseSchema.ofJson json = .ok schema) →
        schema.WellNamed) := by
  intro server
  have sound : server.database.Sound schema := by
    have reached := ((sound_ofSchema schema).run events).database
    rw [schema_run] at reached
    exact reached
  refine ⟨sound.wellFormed, fun table column => sound.findsValues,
    fun wellNamed table column => ?_, DatabaseSchema.wellNamed_of_read⟩
  apply sound.findsValues
  intro shape known has
  exact (wellNamed table shape known column).mpr has

/-- One commit deletes a row twice and fails, one is rejected, and one deletes
the row and inserts it anew. -/
def unevenCommits : List Event :=
  [.commit [.insert "NB_Global" (.ofNat 1) .empty],
    .commit [.delete "NB_Global" (.ofNat 1), .delete "NB_Global" (.ofNat 1)],
    .failNextCommit "disk full",
    .commit [.delete "NB_Global" (.ofNat 1)],
    .commit [.delete "NB_Global" (.ofNat 1),
      .insert "NB_Global" (.ofNat 1) .empty]]

theorem mutation_finds_initial_value :
    let server := (ofSchema .small).run unevenCommits
    let insertion := Operation.insert "NB_Global" (.ofNat 2) .empty
    server.database.WellFormed .small ∧
      ∃ staged row value,
        Database.stage .small server.database.tables [insertion] =
          .ok staged ∧
        staged.row? "NB_Global" (.ofNat 2) = some row ∧
        row.get? "nb_cfg" = some value := by
  intro server insertion
  let mutation := Operation.mutate "NB_Global" (.ofNat 2) "nb_cfg"
    (.increment 1)
  obtain ⟨wellFormed, _, finds, _⟩ :=
    reachable_database_is_wellFormed .small unevenCommits
  have accepted : (server.database.commit .small
      [insertion, mutation]).toOption.isSome = true := by decide +kernel
  have staged : (Database.stage .small server.database.tables
      [insertion]).toOption.isSome = true := by decide +kernel
  cases staging : Database.stage .small server.database.tables [insertion] with
  | error fault =>
      rw [staging] at staged
      cases staged
  | ok tables =>
      refine ⟨wellFormed, tables, ?_⟩
      rcases finds DatabaseSchema.wellNamed_small "NB_Global" "nb_cfg"
          [insertion, mutation] [insertion] (.ofNat 2) (.increment 1) [] tables
          rfl staging with
        ⟨row, value, stored, found⟩ | ⟨fault, failed, _⟩
      · exact ⟨row, value, rfl, stored, found⟩
      · have refused : server.database.commit .small [insertion, mutation] =
            .error fault := failed
        rw [refused] at accepted
        cases accepted

/-- A schema with a table whose only column bears another name than the key that
it is filed under. -/
def misnamed : DatabaseSchema :=
  ⟨"Bridges", "1.0", .ofList [("Bridge", ⟨"Bridge",
    .ofList [("ports", ⟨"uplinks", .scalar, .integer, none, 1, some 1, true⟩)],
    true, []⟩)]⟩

theorem misnamed_column_is_missing :
    let server := (ofSchema misnamed).run
      [.commit [.insert "Bridge" (.ofNat 1) .empty]]
    ∃ shape row, misnamed.table? "Bridge" = some shape ∧
      server.database.tables.row? "Bridge" (.ofNat 1) = some row ∧
      row.columns.keys ≠ shape.columns.keys ∧
      row.get? "ports" = none ∧
      ∃ after, server.database.commit misnamed
        [.mutate "Bridge" (.ofNat 1) "ports" (.increment 1)] = .ok after := by
  intro server
  refine ⟨_, _, rfl, rfl, ?_, ?_, _, rfl⟩ <;> decide +kernel

end Server

end OvsdbClient
