import OvsdbClient.Proofs.ColumnDefaults

/-!
# Staging a transaction

The operations of a transaction are applied one after another to a copy of the
tables.  What the copy may hold afterwards is an invariant kept by each of
them, and rows that no operation writes are as they were.
-/

namespace OvsdbClient

namespace Operation

variable {schema : TableSchema} {operation : Operation}
  {stored left : Option Row}

/-- An operation writes the row that it names, unless it only verifies. -/
def Writes (operation : Operation) (table : String) (uuid : Uuid) : Prop :=
  operation.isVerify = false ∧ operation.table = table ∧ operation.uuid = uuid

/-- An operation removes its row, or adds one without a revision, or changes
at most the columns of the one that is stored. -/
theorem onRow_leaves (done : operation.onRow schema stored = .ok left) :
    left = none ∨
      (stored = none ∧ ∃ columns, left = some ⟨operation.uuid, 0, columns⟩) ∨
      ∃ row columns, stored = some row ∧ left = some { row with columns } := by
  cases operation with
  | insert table uuid columns =>
      obtain ⟨_, absent, new⟩ := onRow_insert_eq_ok_iff.mp done
      exact .inr (.inl ⟨absent, _, new⟩)
  | update table uuid columns =>
      obtain ⟨_, row, present, new⟩ := onRow_update_eq_ok_iff.mp done
      exact .inr (.inr ⟨row, _, present, new⟩)
  | delete table uuid =>
      exact .inl (onRow_delete_eq_ok_iff.mp done).2
  | mutate table uuid column mutation =>
      obtain ⟨_, row, value, present, _, new⟩ := onRow_mutate_eq_ok_iff.mp done
      exact .inr (.inr ⟨row, _, present, new⟩)
  | verify table uuid revision =>
      obtain ⟨row, present, _, same⟩ := onRow_verify_eq_ok_iff.mp done
      exact .inr (.inr ⟨row, row.columns, present, same⟩)

theorem onRow_of_isVerify (verifies : operation.isVerify = true)
    (done : operation.onRow schema stored = .ok left) : left = stored := by
  cases operation with
  | verify table uuid revision =>
      obtain ⟨row, present, _, same⟩ := onRow_verify_eq_ok_iff.mp done
      rw [present, same]
  | _ => simp [isVerify] at verifies

theorem onRow_covers {new : Row}
    (covers : ∀ old, stored = some old → schema.Covers old.columns)
    (done : operation.onRow schema stored = .ok (some new)) :
    schema.Covers new.columns := by
  cases operation with
  | insert table uuid columns =>
      obtain ⟨allowed, _, added⟩ := onRow_insert_eq_ok_iff.mp done
      cases added
      exact TableSchema.covers_initialColumns allowed
  | update table uuid columns =>
      obtain ⟨allowed, old, present, changed⟩ := onRow_update_eq_ok_iff.mp done
      cases changed
      exact (covers old present).insertAll allowed
  | delete table uuid =>
      cases (onRow_delete_eq_ok_iff.mp done).2
  | mutate table uuid column mutation =>
      obtain ⟨allowed, old, value, present, _, changed⟩ :=
        onRow_mutate_eq_ok_iff.mp done
      cases changed
      exact (covers old present).insert allowed value
  | verify table uuid revision =>
      obtain ⟨old, present, _, same⟩ := onRow_verify_eq_ok_iff.mp done
      cases same
      exact covers new present

theorem row?_apply_of_not_writes {schema : DatabaseSchema}
    {before after : Tables} {table : String} {uuid : Uuid}
    (spared : ¬operation.Writes table uuid)
    (done : operation.apply schema before = .ok after) :
    after.row? table uuid = before.row? table uuid := by
  obtain ⟨shape, row, _, onRow, rfl⟩ := apply_eq_ok_iff.mp done
  rw [Tables.row?_put]
  split
  case isTrue named =>
    obtain ⟨rfl, rfl⟩ := named
    refine onRow_of_isVerify ?_ onRow
    simpa [Writes] using spared
  case isFalse => rfl

end Operation

namespace Tables

/-- The tables are those of a schema. -/
def Named (tables : Tables) (schema : DatabaseSchema) : Prop :=
  ∀ table, tables.contains table = schema.hasTable table

/-- Every row is stored at its own identifier. -/
def Keyed (tables : Tables) : Prop :=
  ∀ table uuid row, tables.row? table uuid = some row → row.uuid = uuid

/-- Every row has the columns of its table. -/
def Complete (tables : Tables) (schema : DatabaseSchema) : Prop :=
  ∀ table shape uuid row, schema.table? table = some shape →
    tables.row? table uuid = some row → shape.Covers row.columns

variable {schema : DatabaseSchema} {tables next : Tables}
  {operation : Operation}

theorem Named.apply (named : tables.Named schema)
    (done : operation.apply schema tables = .ok next) : next.Named schema := by
  intro other
  obtain ⟨shape, row, known, _, rfl⟩ := Operation.apply_eq_ok_iff.mp done
  rw [contains_put, named other]
  by_cases same : operation.table = other
  · subst same
    have has : schema.hasTable operation.table = true :=
      SortedMap.contains_eq_true_iff.mpr ⟨shape, known⟩
    simp [has]
  · simp [same]

theorem Keyed.apply (keyed : tables.Keyed)
    (done : operation.apply schema tables = .ok next) : next.Keyed := by
  intro other another row stored
  obtain ⟨shape, left, _, onRow, rfl⟩ := Operation.apply_eq_ok_iff.mp done
  rw [row?_put] at stored
  split at stored
  case isFalse => exact keyed other another row stored
  case isTrue named =>
    obtain ⟨rfl, rfl⟩ := named
    subst stored
    rcases Operation.onRow_leaves onRow with removed | ⟨_, columns, added⟩ |
      ⟨old, columns, present, changed⟩
    · cases removed
    · cases added
      rfl
    · cases changed
      exact keyed _ _ old present

theorem Complete.apply (complete : tables.Complete schema)
    (done : operation.apply schema tables = .ok next) :
    next.Complete schema := by
  intro other shape another row known stored
  obtain ⟨found, left, named, onRow, rfl⟩ := Operation.apply_eq_ok_iff.mp done
  rw [row?_put] at stored
  split at stored
  case isFalse => exact complete other shape another row known stored
  case isTrue same =>
    obtain ⟨rfl, rfl⟩ := same
    obtain rfl : found = shape := Option.some.inj (named.symm.trans known)
    subst stored
    refine Operation.onRow_covers ?_ onRow
    intro old present
    exact complete _ _ _ old known present

end Tables

namespace Database

variable {schema : DatabaseSchema} {tables staged : Tables}
  {operations : List Operation} {table : String} {uuid : Uuid}

theorem stage_cons_eq_ok_iff {operation : Operation} :
    stage schema tables (operation :: operations) = .ok staged ↔
      ∃ next, operation.apply schema tables = .ok next ∧
        stage schema next operations = .ok staged := by
  simp only [stage, List.foldlM_cons]
  exact bind_eq_ok_iff

theorem stage_append_eq_ok_iff {others : List Operation} :
    stage schema tables (operations ++ others) = .ok staged ↔
      ∃ next, stage schema tables operations = .ok next ∧
        stage schema next others = .ok staged := by
  simp only [stage, List.foldlM_append]
  exact bind_eq_ok_iff

/-- Staging fails with the fault of the first operation that fails. -/
theorem exists_of_stage_eq_error {fault : Fault}
    (failed : stage schema tables operations = .error fault) :
    ∃ earlier operation later before,
      operations = earlier ++ operation :: later ∧
      stage schema tables earlier = .ok before ∧
      operation.apply schema before = .error fault := by
  induction operations generalizing tables with
  | nil => cases failed
  | cons operation operations induction =>
      simp only [stage, List.foldlM_cons] at failed
      cases first : operation.apply schema tables with
      | error other =>
          rw [first] at failed
          cases failed
          exact ⟨[], operation, operations, tables, rfl, rfl, first⟩
      | ok next =>
          rw [first] at failed
          obtain ⟨earlier, later, rest, before, rfl, staging, fails⟩ :=
            induction failed
          refine ⟨operation :: earlier, later, rest, before, rfl, ?_, fails⟩
          exact stage_cons_eq_ok_iff.mpr ⟨next, first, staging⟩

theorem stage_eq_error {operation : Operation} {fault : Fault}
    (staging : stage schema tables operations = .ok staged)
    (failed : operation.apply schema staged = .error fault)
    (later : List Operation) :
    stage schema tables (operations ++ operation :: later) = .error fault := by
  have first : operations.foldlM
      (fun tables operation => operation.apply schema tables) tables =
        .ok staged := staging
  simp only [stage, List.foldlM_append, List.foldlM_cons, first, failed,
    bind, Except.bind]

/-- What every operation keeps, staging keeps. -/
theorem stage_keeps (kept : Tables → Prop) (start : kept tables)
    (step : ∀ operation ∈ operations, ∀ before after, kept before →
      operation.apply schema before = .ok after → kept after)
    (done : stage schema tables operations = .ok staged) : kept staged := by
  induction operations generalizing tables with
  | nil => cases done; exact start
  | cons operation operations induction =>
      obtain ⟨next, first, rest⟩ := stage_cons_eq_ok_iff.mp done
      have one := step operation List.mem_cons_self tables next start first
      exact induction one
        (fun later member => step later (List.mem_cons_of_mem _ member)) rest

theorem stage_named (named : tables.Named schema)
    (done : stage schema tables operations = .ok staged) :
    staged.Named schema := by
  refine stage_keeps (·.Named schema) named ?_ done
  intro operation _ before after named done
  exact named.apply done

theorem stage_keyed (keyed : tables.Keyed)
    (done : stage schema tables operations = .ok staged) : staged.Keyed := by
  refine stage_keeps Tables.Keyed keyed ?_ done
  intro operation _ before after keyed done
  exact keyed.apply done

theorem stage_complete (complete : tables.Complete schema)
    (done : stage schema tables operations = .ok staged) :
    staged.Complete schema := by
  refine stage_keeps (·.Complete schema) complete ?_ done
  intro operation _ before after complete done
  exact complete.apply done

/-- A staged row has no revision yet, or the revision of the committed one. -/
theorem stage_revision {row : Row}
    (done : stage schema tables operations = .ok staged)
    (stored : staged.row? table uuid = some row) :
    row.revision = 0 ∨
      ∃ old, tables.row? table uuid = some old ∧
        old.revision = row.revision := by
  refine stage_keeps (fun now => ∀ row, now.row? table uuid = some row →
      row.revision = 0 ∨ ∃ old, tables.row? table uuid = some old ∧
        old.revision = row.revision)
    (fun row stored => .inr ⟨row, stored, rfl⟩) ?_ done row stored
  clear stored row
  intro operation _ before after invariant done row stored
  obtain ⟨shape, left, _, onRow, rfl⟩ := Operation.apply_eq_ok_iff.mp done
  rw [Tables.row?_put] at stored
  split at stored
  case isFalse => exact invariant row stored
  case isTrue named =>
    obtain ⟨rfl, rfl⟩ := named
    rcases Operation.onRow_leaves onRow with removed | ⟨_, columns, added⟩ |
      ⟨old, columns, present, changed⟩
    · cases removed.symm.trans stored
    · cases added.symm.trans stored
      exact .inl rfl
    · cases changed.symm.trans stored
      exact invariant old present

/-- Staging leaves a row alone that no operation writes. -/
theorem row?_stage_of_not_writes
    (spared : ∀ operation ∈ operations, ¬operation.Writes table uuid)
    (done : stage schema tables operations = .ok staged) :
    staged.row? table uuid = tables.row? table uuid := by
  induction operations generalizing tables with
  | nil => cases done; rfl
  | cons operation operations induction =>
      obtain ⟨headSpared, restSpared⟩ := List.forall_mem_cons.mp spared
      obtain ⟨next, first, rest⟩ := stage_cons_eq_ok_iff.mp done
      exact (induction restSpared rest).trans
        (Operation.row?_apply_of_not_writes headSpared first)

/-! ## The rows that a transaction writes -/

private theorem mem_touched_from {found : List (String × Uuid)} :
    (table, uuid) ∈ operations.foldl
        (fun touched operation =>
          let row := (operation.table, operation.uuid)
          if operation.isVerify || touched.contains row then touched
          else touched ++ [row]) found ↔
      (table, uuid) ∈ found ∨
        ∃ operation ∈ operations, operation.Writes table uuid := by
  induction operations generalizing found with
  | nil => simp
  | cons operation operations induction =>
      simp only [List.foldl_cons, induction, List.mem_cons, exists_eq_or_imp]
      by_cases skipped : (operation.isVerify ||
          found.contains (operation.table, operation.uuid)) = true
      · rw [if_pos skipped]
        constructor
        · rintro (old | later)
          · exact .inl old
          · exact .inr (.inr later)
        · rintro (old | ⟨writes, first, second⟩ | later)
          · exact .inl old
          · left
            simpa [writes, first, second] using skipped
          · exact .inr later
      · rw [if_neg skipped]
        have writes : operation.isVerify = false := by
          simp only [Bool.or_eq_true, not_or, Bool.not_eq_true] at skipped
          exact skipped.1
        simp only [List.mem_append, List.mem_singleton, Operation.Writes,
          writes, true_and, or_assoc]
        refine or_congr Iff.rfl (or_congr ?_ Iff.rfl)
        constructor
        · intro same
          cases same
          exact ⟨rfl, rfl⟩
        · rintro ⟨rfl, rfl⟩
          rfl

theorem mem_touched_iff :
    (table, uuid) ∈ touched operations ↔
      ∃ operation ∈ operations, operation.Writes table uuid :=
  mem_touched_from.trans (by simp)

theorem touched_ne_nil_iff :
    touched operations ≠ [] ↔
      ∃ operation ∈ operations, operation.isVerify = false := by
  constructor
  · intro touches
    obtain ⟨⟨table, uuid⟩, member⟩ := List.exists_mem_of_ne_nil _ touches
    obtain ⟨operation, member, writes, _⟩ := mem_touched_iff.mp member
    exact ⟨operation, member, writes⟩
  · rintro ⟨operation, member, writes⟩
    apply List.ne_nil_of_mem
    exact mem_touched_iff.mpr ⟨operation, member, writes, rfl, rfl⟩

theorem row?_stage_of_not_mem_touched
    (untouched : (table, uuid) ∉ touched operations)
    (done : stage schema tables operations = .ok staged) :
    staged.row? table uuid = tables.row? table uuid := by
  refine row?_stage_of_not_writes ?_ done
  intro operation member writes
  exact untouched (mem_touched_iff.mpr ⟨operation, member, writes⟩)

/-! ## Stamping -/

theorem row?_stamp (revision : Nat) (tables : Tables) (row : String × Uuid) :
    (stamp revision tables row).row? table uuid =
      if row = (table, uuid) then
        (tables.row? table uuid).map fun stored => { stored with revision }
      else tables.row? table uuid := by
  unfold stamp Tables.row?
  rw [SortedMap.get?_modify]
  by_cases same : row.1 = table
  · subst same
    cases tables.get? row.1 with
    | none => simp
    | some rows =>
        by_cases here : row.2 = uuid
        · simp [SortedMap.get?_modify, here, Prod.ext_iff]
        · simp [SortedMap.get?_modify, here, Prod.ext_iff]
  · simp [same, Prod.ext_iff]

theorem row?_foldl_stamp (revision : Nat) (tables : Tables)
    (rows : List (String × Uuid)) :
    (rows.foldl (stamp revision) tables).row? table uuid =
      if (table, uuid) ∈ rows then
        (tables.row? table uuid).map fun stored => { stored with revision }
      else tables.row? table uuid := by
  induction rows generalizing tables with
  | nil => simp
  | cons row rows induction =>
      rw [List.foldl_cons, induction, row?_stamp]
      by_cases same : row = (table, uuid)
      · subst same
        by_cases again : (table, uuid) ∈ rows
        · simp [again, Function.comp_def]
        · simp [again]
      · have differs : (table, uuid) ≠ row := fun equal => same equal.symm
        simp [same, List.mem_cons, differs]

theorem contains_foldl_stamp (revision : Nat) (tables : Tables)
    (rows : List (String × Uuid)) (other : String) :
    (rows.foldl (stamp revision) tables).contains other =
      tables.contains other := by
  induction rows generalizing tables with
  | nil => rfl
  | cons row rows induction =>
      rw [List.foldl_cons, induction]
      exact SortedMap.contains_modify tables row.1 other _

end Database

end OvsdbClient
