import OvsdbClient.Proofs.Integrity
import OvsdbClient.Proofs.OptimisticConcurrency

/-!
# What a commit does

Rows are looked at as what they hold in each column.  Seen that way an operation
changes one row, by its kind, and a list of operations is one change after
another.  A commit takes all of these changes or none, and whether it takes them
depends only on what every operation finds when it comes to its turn.
-/

namespace OvsdbClient

/-- What a row holds in each column, with its revision. -/
structure Content where
  revision : Nat
  value? : String → Option Value

/-- The contents of the rows that are there, by table and identifier. -/
abbrev Contents := String → Uuid → Option Content

def Row.content (row : Row) : Content := ⟨row.revision, row.get?⟩

def Tables.contents (tables : Tables) : Contents := fun table uuid =>
  (tables.row? table uuid).map Row.content

def DatabaseSchema.default? (schema : DatabaseSchema) (table column : String) :
    Option Value :=
  (schema.table? table).bind (·.default? column)

namespace Operation

/-- What an operation leaves of the row that it names.  An inserted row is at no
revision until it is committed. -/
def effect (schema : DatabaseSchema) (stored : Option Content) :
    Operation → Option Content
  | .insert table _ given => some ⟨0, fun column =>
      (given.get? column).or (schema.default? table column)⟩
  | .update _ _ given => stored.map fun content =>
      { content with value? := fun column =>
          (given.get? column).or (content.value? column) }
  | .delete .. => none
  | .mutate _ _ column mutation => stored.map fun content =>
      { content with value? := fun other =>
          if column = other then mutation.result? (content.value? column)
          else content.value? other }
  | .verify .. => stored

/-- An operation can be applied to the row that it names: its table has the
columns that it names, and it finds what it needs. -/
def Allowed (schema : DatabaseSchema) (stored : Option Content)
    (operation : Operation) : Prop :=
  schema.hasTable operation.table = true ∧
    (∀ column ∈ operation.columns,
      schema.hasColumn operation.table column = true) ∧
    match operation with
    | .insert .. => stored = none
    | .update .. | .delete .. => ∃ content, stored = some content
    | .mutate _ _ column mutation => ∃ content value,
        stored = some content ∧
          mutation.result? (content.value? column) = some value
    | .verify _ _ revision => ∃ content,
        stored = some content ∧ content.revision = revision

end Operation

namespace Contents

/-- The contents after an operation, which leaves all rows alone but the one
that it names. -/
def after (schema : DatabaseSchema) (contents : Contents)
    (operation : Operation) : Contents := fun table uuid =>
  if operation.table = table ∧ operation.uuid = uuid then
    operation.effect schema (contents table uuid)
  else contents table uuid

/-- Every operation can be applied when it comes to its turn. -/
def Allow (schema : DatabaseSchema) : Contents → List Operation → Prop
  | _, [] => True
  | contents, operation :: operations =>
      operation.Allowed schema (contents operation.table operation.uuid) ∧
        Allow schema (contents.after schema operation) operations

end Contents

/-! ## Operations and lists of them -/

namespace Operation

variable {schema : DatabaseSchema} {shape : TableSchema}
  {operation : Operation} {stored left : Option Row}

theorem hasColumn_of_known {table : String}
    (known : schema.table? table = some shape) (column : String) :
    schema.hasColumn table column = shape.hasColumn column := by
  simp [DatabaseSchema.hasColumn, known]

theorem default?_of_known {table : String}
    (known : schema.table? table = some shape) (column : String) :
    schema.default? table column = shape.default? column := by
  simp only [DatabaseSchema.default?, known, Option.bind_some]

/-- What an operation leaves of a row is its effect on the row's content. -/
theorem content_onRow (known : schema.table? operation.table = some shape)
    (done : operation.onRow shape stored = .ok left) :
    left.map Row.content =
      operation.effect schema (stored.map Row.content) := by
  cases operation with
  | insert table uuid given =>
      obtain ⟨_, _, rfl⟩ := onRow_insert_eq_ok_iff.mp done
      refine congrArg (fun value? => some (Content.mk 0 value?))
        (funext fun column => ?_)
      exact (shape.get?_initialColumns given column).trans
        (congrArg _ (default?_of_known known column).symm)
  | update table uuid given =>
      obtain ⟨_, row, rfl, rfl⟩ := onRow_update_eq_ok_iff.mp done
      exact congrArg (fun value? => some (Content.mk row.revision value?))
        (funext (SortedMap.get?_insertAll_toList row.columns given))
  | delete table uuid =>
      obtain ⟨_, rfl⟩ := onRow_delete_eq_ok_iff.mp done
      rfl
  | mutate table uuid column mutation =>
      obtain ⟨_, row, value, rfl, result, rfl⟩ :=
        onRow_mutate_eq_ok_iff.mp done
      have found : mutation.result? (row.content.value? column) =
          some value := result
      refine congrArg (fun value? => some (Content.mk row.revision value?))
        (funext fun other => ?_)
      rw [found]
      exact SortedMap.get?_insert row.columns column other value
  | verify table uuid revision =>
      obtain ⟨row, rfl, _, rfl⟩ := onRow_verify_eq_ok_iff.mp done
      rfl

theorem exists_onRow_iff (known : schema.table? operation.table = some shape) :
    (∃ left, operation.onRow shape stored = .ok left) ↔
      operation.Allowed schema (stored.map Row.content) := by
  have here : schema.hasTable operation.table = true :=
    SortedMap.contains_eq_true_iff.mpr ⟨shape, known⟩
  simp only [Allowed, here, true_and, hasColumn_of_known known]
  cases operation with
  | insert table uuid given =>
      simp only [onRow_insert_eq_ok_iff, exists_and_left, exists_eq,
        Option.map_eq_none_iff, and_true]
      rfl
  | update table uuid given =>
      simp only [onRow_update_eq_ok_iff, exists_and_left]
      cases stored with
      | none => simp
      | some row => simp [columns]
  | delete table uuid =>
      simp only [onRow_delete_eq_ok_iff]
      cases stored with
      | none => simp
      | some row => simp [columns]
  | mutate table uuid column mutation =>
      simp only [onRow_mutate_eq_ok_iff, columns, List.forall_mem_singleton]
      constructor
      · rintro ⟨_, has, row, value, rfl, result, _⟩
        exact ⟨has, row.content, value, rfl, result⟩
      · rintro ⟨has, _, value, there, result⟩
        obtain ⟨row, rfl, rfl⟩ := Option.map_eq_some_iff.mp there
        exact ⟨_, has, row, value, rfl, result, rfl⟩
  | verify table uuid revision =>
      simp only [onRow_verify_eq_ok_iff]
      cases stored with
      | none => simp
      | some row => simp [columns, Row.content]

variable {before after : Tables}

theorem exists_apply_iff :
    (∃ after, operation.apply schema before = .ok after) ↔
      operation.Allowed schema
        (before.contents operation.table operation.uuid) := by
  cases known : schema.table? operation.table with
  | none =>
      have unknown : schema.hasTable operation.table = false := by
        rw [DatabaseSchema.hasTable, SortedMap.contains,
          Option.isSome_eq_false_iff]
        exact Option.isNone_iff_eq_none.mpr known
      simp [apply_eq_ok_iff, known, Allowed, unknown]
  | some shape =>
      refine Iff.trans ?_ (exists_onRow_iff known)
      simp [apply_eq_ok_iff, known, exists_comm]

theorem contents_apply (done : operation.apply schema before = .ok after) :
    after.contents = before.contents.after schema operation := by
  obtain ⟨shape, row, known, onRow, rfl⟩ := apply_eq_ok_iff.mp done
  funext table uuid
  simp only [Tables.contents, Contents.after, Tables.row?_put]
  split
  case isTrue named =>
    obtain ⟨rfl, rfl⟩ := named
    exact content_onRow known onRow
  case isFalse => rfl

end Operation

namespace Database

variable {schema : DatabaseSchema} {before after : Database}
  {tables staged : Tables} {operations : List Operation}

/-- Staging has the effects of the operations one after another. -/
theorem contents_stage
    (staging : stage schema tables operations = .ok staged) :
    staged.contents =
      operations.foldl (Contents.after schema) tables.contents := by
  induction operations generalizing tables with
  | nil =>
      cases staging
      rfl
  | cons operation operations induction =>
      obtain ⟨next, first, rest⟩ := stage_cons_eq_ok_iff.mp staging
      rw [List.foldl_cons, ← Operation.contents_apply first]
      exact induction rest

theorem exists_stage_iff :
    (∃ staged, stage schema tables operations = .ok staged) ↔
      tables.contents.Allow schema operations := by
  induction operations generalizing tables with
  | nil => exact iff_of_true ⟨tables, rfl⟩ trivial
  | cons operation operations induction =>
      simp only [stage_cons_eq_ok_iff, Contents.Allow,
        ← Operation.exists_apply_iff]
      constructor
      · rintro ⟨staged, next, first, rest⟩
        refine ⟨⟨next, first⟩, ?_⟩
        rw [← Operation.contents_apply first]
        exact induction.mp ⟨staged, rest⟩
      · rintro ⟨⟨next, first⟩, rest⟩
        rw [← Operation.contents_apply first] at rest
        obtain ⟨staged, staging⟩ := induction.mpr rest
        exact ⟨staged, next, first, staging⟩

theorem exists_commit_iff :
    (∃ after, before.commit schema operations = .ok after) ↔
      before.tables.contents.Allow schema operations := by
  rw [← exists_stage_iff]
  simp only [commit_eq_ok_iff]
  constructor
  · rintro ⟨_, staged, staging, _⟩
    exact ⟨staged, staging⟩
  · rintro ⟨staged, staging⟩
    exact ⟨_, staged, staging, rfl⟩

/-- What a commit makes of a database.  Every row holds what the operations one
after another leave.  Rows that are written get the new generation as their
revision, and all others stay as they are.  There is one new generation and one
announcement of it, unless nothing is written. -/
structure Takes (schema : DatabaseSchema) (operations : List Operation)
    (before after : Database) : Prop where
  columns : ∀ table uuid,
    (after.tables.contents table uuid).map (·.value?) =
      (operations.foldl (Contents.after schema) before.tables.contents table
        uuid).map (·.value?)
  written : ∀ table uuid row,
    (∃ operation ∈ operations, operation.Writes table uuid) →
    after.tables.row? table uuid = some row → row.revision = after.generation
  spared : ∀ table uuid,
    (∀ operation ∈ operations, ¬operation.Writes table uuid) →
    after.tables.row? table uuid = before.tables.row? table uuid
  announced : (∃ operation ∈ operations, operation.isVerify = false) →
    after.generation = before.generation + 1 ∧
      ∃ announcement, announcement.generation = after.generation ∧
        after.announcements = before.announcements.push announcement
  silent : (∀ operation ∈ operations, operation.isVerify = true) →
    after.generation = before.generation ∧
      after.announcements = before.announcements

theorem takes_of_commit
    (done : before.commit schema operations = .ok after) :
    Takes schema operations before after where
  columns := by
    obtain ⟨staged, staging, _⟩ := commit_eq_ok_iff.mp done
    intro table uuid
    rw [← contents_stage staging]
    have same := congrArg (Option.map SortedMap.get?)
      (columns?_commit staging done table uuid)
    simp only [Tables.columns?, Option.map_map] at same
    simp only [Tables.contents, Option.map_map]
    exact same
  written := by
    rintro table uuid row ⟨operation, member, writes⟩ stored
    exact (revision_of_writes done member writes).2 row stored
  spared := by
    intro table uuid spared
    obtain ⟨staged, staging, rfl⟩ := commit_eq_ok_iff.mp done
    have same := row?_stage_of_not_writes spared staging
    split
    case isTrue => rfl
    case isFalse =>
      rw [row?_advance, if_neg, same]
      rw [mem_touched_iff]
      rintro ⟨operation, member, writes⟩
      exact spared operation member writes
  announced := by
    intro writes
    obtain ⟨staged, _, rfl⟩ := commit_eq_ok_iff.mp done
    rw [if_neg (touched_ne_nil_iff.mpr writes)]
    exact ⟨rfl, _, rfl, rfl⟩
  silent := by
    intro verifies
    obtain ⟨staged, _, rfl⟩ := commit_eq_ok_iff.mp done
    have idle : touched operations = [] := by
      refine Decidable.byContradiction fun busy => ?_
      obtain ⟨operation, member, writes⟩ := touched_ne_nil_iff.mp busy
      rw [verifies operation member] at writes
      cases writes
    rw [if_pos idle]
    exact ⟨rfl, rfl⟩

end Database

namespace Server

/-- A server takes all operations of a commit or none of them.  It takes them
just if it was not told to fail and each of them is allowed when it comes to its
turn. -/
theorem commit_is_all_or_nothing (schema : DatabaseSchema)
    (events : List Event) (operations : List Operation) :
    let server := (ofSchema schema).run events
    let answer := (server.commit operations).1
    let before := server.database
    let after := (server.commit operations).2.database
    ((∃ generation, answer = .ok generation) ↔ server.rejection = none ∧
        before.tables.contents.Allow schema operations) ∧
      (∀ fault, answer = .error fault → after = before) ∧
      ∀ generation, answer = .ok generation →
        after.generation = generation ∧
          Database.Takes schema operations before after := by
  intro server answer before after
  have same : server.schema = schema := schema_run (ofSchema schema) events
  refine ⟨?_, fun fault => database_commit_of_error, fun generation done => ?_⟩
  · rw [← Database.exists_commit_iff, ← same]
    simp only [answer, commit_eq_ok_iff]
    constructor
    · rintro ⟨_, accepts, database, done, _⟩
      exact ⟨accepts, database, done⟩
    · rintro ⟨accepts, database, done⟩
      exact ⟨_, accepts, database, done, rfl⟩
  · have committed := database_commit done
    rw [same] at committed
    exact ⟨generation_commit done, Database.takes_of_commit committed⟩

/-- A row that is inserted and changed, one that is verified only, and one that
is gone again in the end. -/
def mixedOperations : List Operation :=
  [.insert "NB_Global" (.ofNat 2) .empty,
    .mutate "NB_Global" (.ofNat 2) "nb_cfg" (.increment 1),
    .verify "NB_Global" (.ofNat 1) 2,
    .insert "NB_Global" (.ofNat 3) .empty, .delete "NB_Global" (.ofNat 3)]

theorem mixed_commit_is_taken :
    let server := (ofSchema .small).run unevenCommits
    let after := (server.commit mixedOperations).2.database
    (server.commit mixedOperations).1 = .ok 3 ∧ after.generation = 3 ∧
      Database.Takes .small mixedOperations server.database after := by
  intro server after
  have answered : (server.commit mixedOperations).1 = .ok 3 := rfl
  obtain ⟨_, _, takes⟩ :=
    commit_is_all_or_nothing .small unevenCommits mixedOperations
  exact ⟨answered, takes 3 answered⟩

end Server

end OvsdbClient
