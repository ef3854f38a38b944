import OvsdbClient.Database.Commit

/-!
# What operations do to rows

An operation looks at one row and writes at most that row.  What a list of
operations does to the tables is therefore known from what each of them leaves
of the row that it names.
-/

namespace OvsdbClient

namespace Tables

theorem row?_put (tables : Tables) (table other : String)
    (uuid another : Uuid) (row : Option Row) :
    (tables.put table uuid row).row? other another =
      if table = other ∧ uuid = another then row
      else tables.row? other another := by
  unfold put row?
  rw [SortedMap.get?_insert]
  by_cases same : table = other
  · subst same
    simp only [if_true, Option.bind_some, SortedMap.get?_put, true_and]
    cases tables.get? table <;> simp
  · simp [same]

theorem contains_put (tables : Tables) (table other : String) (uuid : Uuid)
    (row : Option Row) :
    (tables.put table uuid row).contains other =
      (decide (table = other) || tables.contains other) :=
  SortedMap.contains_insert tables table other _

theorem ext_row? {left right : Tables}
    (names : ∀ table, left.contains table = right.contains table)
    (rows : ∀ table uuid, left.row? table uuid = right.row? table uuid) :
    left = right := by
  refine SortedMap.ext_get? fun table => ?_
  have name := names table
  unfold SortedMap.contains at name
  cases onLeft : left.get? table with
  | none =>
      rw [onLeft] at name
      exact (Option.not_isSome_iff_eq_none.mp (by simp [← name])).symm
  | some leftRows =>
      rw [onLeft] at name
      obtain ⟨rightRows, onRight⟩ := Option.isSome_iff_exists.mp name.symm
      rw [onRight]
      refine congrArg some (SortedMap.ext_get? fun uuid => ?_)
      simpa [row?, onLeft, onRight] using rows table uuid

/-- The columns of a row, whatever its revision. -/
def columns? (tables : Tables) (table : String) (uuid : Uuid) :
    Option (SortedMap String Value) :=
  (tables.row? table uuid).map (·.columns)

theorem contains_of_row? {tables : Tables} {table : String} {uuid : Uuid}
    {row : Row} (stored : tables.row? table uuid = some row) :
    tables.contains table = true := by
  obtain ⟨rows, found, _⟩ := Option.bind_eq_some_iff.mp stored
  exact SortedMap.contains_eq_true_iff.mpr ⟨rows, found⟩

end Tables

theorem bind_eq_ok_iff {ε α β : Type} {first : Except ε α}
    {next : α → Except ε β} {value : β} :
    first >>= next = .ok value ↔
      ∃ found, first = .ok found ∧ next found = .ok value := by
  cases first <;> simp [bind, Except.bind]

theorem bind_eq_error_iff {α β : Type} {first : Except Fault α}
    {next : α → Except Fault β} {fault : Fault} :
    first >>= next = .error fault ↔
      first = .error fault ∨
        ∃ found, first = .ok found ∧ next found = .error fault := by
  cases first <;> simp [bind, Except.bind]

theorem pure_eq_ok_iff {α : Type} {left right : α} :
    (pure left : Except Fault α) = .ok right ↔ right = left := by
  simp [pure, Except.pure, eq_comm]

theorem orFault_eq_ok_iff {α : Type} {fault : Fault} {value? : Option α}
    {value : α} : orFault fault value? = .ok value ↔ value? = some value := by
  cases value? <;> simp [orFault]

namespace Operation

variable {schema : TableSchema} {table : String} {uuid : Uuid}
  {stored left : Option Row}

theorem checkColumns_eq_ok_iff {columns : List String} {result : Unit} :
    checkColumns schema table columns = .ok result ↔
      ∀ column ∈ columns, schema.hasColumn column = true := by
  unfold checkColumns
  split
  case h_1 column found =>
    simp only [reduceCtorEq, false_iff]
    intro all
    have lacking := List.find?_some found
    simp [all column (List.mem_of_find?_eq_some found)] at lacking
  case h_2 absent =>
    simpa using absent

/-! ## When each kind of operation succeeds, and what it leaves -/

theorem onRow_insert_eq_ok_iff {columns : SortedMap String Value} :
    (insert table uuid columns).onRow schema stored = .ok left ↔
      (∀ column ∈ columns.keys, schema.hasColumn column = true) ∧
        stored = none ∧
        left = some ⟨uuid, 0, schema.initialColumns columns⟩ := by
  simp only [onRow, bind_eq_ok_iff, checkColumns_eq_ok_iff, exists_const]
  cases stored with
  | none => simp [pure_eq_ok_iff]
  | some row => simp [throw, throwThe, MonadExceptOf.throw, bind, Except.bind]

theorem onRow_update_eq_ok_iff {columns : SortedMap String Value} :
    (update table uuid columns).onRow schema stored = .ok left ↔
      (∀ column ∈ columns.keys, schema.hasColumn column = true) ∧
        ∃ row, stored = some row ∧
          left = some { row with
            columns := row.columns.insertAll columns.toList } := by
  simp only [onRow, bind_eq_ok_iff, checkColumns_eq_ok_iff, exists_const,
    orFault_eq_ok_iff, pure_eq_ok_iff]

theorem onRow_delete_eq_ok_iff :
    (delete table uuid).onRow schema stored = .ok left ↔
      (∃ row, stored = some row) ∧ left = none := by
  simp only [onRow, bind_eq_ok_iff, orFault_eq_ok_iff, pure_eq_ok_iff,
    exists_and_right]

theorem onRow_mutate_eq_ok_iff {column : String} {mutation : Mutation} :
    (mutate table uuid column mutation).onRow schema stored = .ok left ↔
      schema.hasColumn column = true ∧
        ∃ row value, stored = some row ∧
          mutation.result? (row.columns.get? column) = some value ∧
          left = some { row with
            columns := row.columns.insert column value } := by
  simp only [onRow, bind_eq_ok_iff, checkColumns_eq_ok_iff, exists_const,
    orFault_eq_ok_iff, pure_eq_ok_iff, List.forall_mem_singleton,
    exists_and_left]

theorem onRow_verify_eq_ok_iff {revision : Nat} :
    (verify table uuid revision).onRow schema stored = .ok left ↔
      ∃ row, stored = some row ∧ row.revision = revision ∧
        left = some row := by
  cases stored with
  | none => simp [onRow, throw, throwThe, MonadExceptOf.throw]
  | some row =>
      simp only [onRow]
      split <;>
        simp_all [throw, throwThe, MonadExceptOf.throw, pure, Except.pure,
          eq_comm]

theorem onRow_verify_of_stale {revision : Nat}
    (stale : ∀ row, stored = some row → row.revision ≠ revision) :
    ∃ reason, (verify table uuid revision).onRow schema stored =
      .error (.revisionConflict reason) := by
  cases stored with
  | none => exact ⟨_, rfl⟩
  | some row =>
      simp only [onRow, if_neg (stale row rfl)]
      exact ⟨_, rfl⟩

theorem checkColumns_ne_revisionConflict {columns : List String}
    {reason : String} :
    checkColumns schema table columns ≠ .error (.revisionConflict reason) := by
  unfold checkColumns
  split <;> exact nofun

/-- Only a verification conflicts, and only with a row that is gone or at
another revision. -/
theorem exists_of_onRow_eq_revisionConflict {operation : Operation}
    {reason : String}
    (failed : operation.onRow schema stored =
      .error (.revisionConflict reason)) :
    ∃ table uuid revision, operation = .verify table uuid revision ∧
      ∀ row, stored = some row → row.revision ≠ revision := by
  cases operation with
  | insert table uuid columns =>
      rcases bind_eq_error_iff.mp failed with lacking | ⟨_, _, refused⟩
      · exact absurd lacking checkColumns_ne_revisionConflict
      · cases stored <;> cases refused
  | update table uuid columns =>
      rcases bind_eq_error_iff.mp failed with lacking | ⟨_, _, refused⟩
      · exact absurd lacking checkColumns_ne_revisionConflict
      · cases stored <;> cases refused
  | delete table uuid => cases stored <;> cases failed
  | mutate table uuid column mutation =>
      rcases bind_eq_error_iff.mp failed with lacking | ⟨_, _, refused⟩
      · exact absurd lacking checkColumns_ne_revisionConflict
      · rcases bind_eq_error_iff.mp refused with missing | ⟨row, _, unfit⟩
        · cases stored <;> cases missing
        · rcases bind_eq_error_iff.mp unfit with unfit | ⟨_, _, kept⟩
          · cases applied : mutation.result? (row.columns.get? column) <;>
              rw [applied] at unfit <;> cases unfit
          · cases kept
  | verify table uuid revision =>
      refine ⟨table, uuid, revision, rfl, ?_⟩
      rintro row rfl same
      simp only [onRow, if_pos same] at failed
      cases failed

/-- An operation on the tables is one on the row that it names. -/
theorem apply_eq_ok_iff {operation : Operation} {schema : DatabaseSchema}
    {before after : Tables} :
    operation.apply schema before = .ok after ↔
      ∃ shape row, schema.table? operation.table = some shape ∧
        operation.onRow shape
          (before.row? operation.table operation.uuid) = .ok row ∧
        after = before.put operation.table operation.uuid row := by
  simp only [apply, bind_eq_ok_iff, orFault_eq_ok_iff, pure_eq_ok_iff,
    exists_and_left]

theorem apply_eq_error {operation : Operation} {schema : DatabaseSchema}
    {tables : Tables} {shape : TableSchema} {fault : Fault}
    (known : schema.table? operation.table = some shape)
    (failed : operation.onRow shape
      (tables.row? operation.table operation.uuid) = .error fault) :
    operation.apply schema tables = .error fault := by
  simp only [apply, known, orFault]
  exact congrArg (fun row : Except Fault (Option Row) =>
    row >>= fun row => pure (tables.put operation.table operation.uuid row))
    failed

theorem exists_of_apply_eq_revisionConflict {operation : Operation}
    {schema : DatabaseSchema} {tables : Tables} {reason : String}
    (failed : operation.apply schema tables =
      .error (.revisionConflict reason)) :
    ∃ table uuid revision, operation = .verify table uuid revision ∧
      ∀ row, tables.row? table uuid = some row → row.revision ≠ revision := by
  rcases bind_eq_error_iff.mp failed with unknown | ⟨shape, _, rest⟩
  · cases found : schema.table? operation.table <;>
      rw [found] at unknown <;> cases unknown
  · rcases bind_eq_error_iff.mp rest with refused | ⟨_, _, done⟩
    · obtain ⟨table, uuid, revision, rfl, stale⟩ :=
        exists_of_onRow_eq_revisionConflict refused
      exact ⟨table, uuid, revision, rfl, stale⟩
    · cases done

end Operation

end OvsdbClient
