import OvsdbClient.Proofs.MappingPrograms

/-!
# What is queued fits the schema

Whatever is asked of a transaction, in whatever order and with whatever success,
what it queues names tables that its session follows and columns that these
have.  A server with the schema that the session's was selected from therefore
finds every table and column that it is asked to change.
-/

namespace OvsdbClient

/-- An operation names a table of a schema, and columns of that table only. -/
def Operation.Fits (operation : Operation) (schema : DatabaseSchema) : Prop :=
  schema.hasTable operation.table = true ∧
    ∀ column ∈ operation.columns,
      schema.hasColumn operation.table column = true

/-- All that a transaction queues fits a schema. -/
def Transaction.Fits (transaction : Transaction) (schema : DatabaseSchema) :
    Prop :=
  ∀ operation ∈ transaction.operations, operation.Fits schema

/-- A fault says that a table or a column is missing. -/
def Fault.IsMisfit (fault : Fault) : Prop :=
  (∃ table, fault = .tableNotFound table) ∨
    ∃ table column, fault = .columnNotFound table column

/-! ## Tables and columns that a schema has -/

namespace DatabaseSchema

variable {schema : DatabaseSchema} {table column : String} {shape : TableSchema}

theorem hasTable_iff :
    schema.hasTable table = true ↔ ∃ shape, schema.table? table = some shape :=
  SortedMap.contains_eq_true_iff

theorem hasColumn_eq (known : schema.table? table = some shape)
    (column : String) :
    schema.hasColumn table column = shape.hasColumn column := by
  simp [hasColumn, known]

theorem hasTable_of_hasColumn (has : schema.hasColumn table column = true) :
    schema.hasTable table = true := by
  cases known : schema.table? table with
  | none => simp [hasColumn, known] at has
  | some shape => exact hasTable_iff.mpr ⟨shape, known⟩

end DatabaseSchema

theorem Operation.Fits.of_build {operation : Operation} {selection : Selection}
    (fits : operation.Fits selection.build) :
    operation.Fits selection.schema := by
  have same : ∀ shape, selection.build.table? operation.table = some shape →
      selection.schema.table? operation.table = some shape := by
    intro shape selected
    unfold Selection.build at selected
    split at selected
    case isTrue => exact selected
    case isFalse =>
      rw [DatabaseSchema.table?, SortedMap.get?_filter] at selected
      exact (Option.filter_eq_some_iff.mp selected).1
  obtain ⟨shape, known⟩ := DatabaseSchema.hasTable_iff.mp fits.1
  refine ⟨DatabaseSchema.hasTable_iff.mpr ⟨shape, same shape known⟩, ?_⟩
  intro column named
  rw [DatabaseSchema.hasColumn_eq (same shape known),
    ← DatabaseSchema.hasColumn_eq known]
  exact fits.2 column named

/-! ## What is asked of a transaction -/

namespace Transaction

inductive Call where
  | insert (fresh : Uuid) (table : String) (columns : List (String × Value))
  | update (table : String) (uuid : Uuid) (columns : List (String × Value))
  | delete (table : String) (uuid : Uuid)
  | mutate (table : String) (uuid : Uuid) (column : String)
      (mutation : Mutation)
  | setKey (table : String) (uuid : Uuid) (column key value : String)
  | deleteKey (table : String) (uuid : Uuid) (column key : String)
  | verify (table : String) (seen : Row)
  | run (command : Command)
  | count (hook : CounterHook)

/-- What a call answers, and the transaction after it, which is the one before
if there is none. -/
def answered (transaction : Transaction) :
    Except Fault Transaction → Except Fault Unit × Transaction
  | .ok next => (.ok (), next)
  | .error fault => (.error fault, transaction)

def call (transaction : Transaction) (session : Session) :
    Call → Except Fault Unit × Transaction
  | .insert fresh table columns =>
      transaction.answered (transaction.insert session fresh table columns)
  | .update table uuid columns =>
      transaction.answered (transaction.update session table uuid columns)
  | .delete table uuid =>
      transaction.answered (transaction.delete session table uuid)
  | .mutate table uuid column mutation =>
      transaction.answered
        (transaction.mutate session table uuid column mutation)
  | .setKey table uuid column key value =>
      transaction.answered
        (transaction.setKey session table uuid column key value)
  | .deleteKey table uuid column key =>
      transaction.answered (transaction.deleteKey session table uuid column key)
  | .verify table seen =>
      transaction.answered (transaction.verify session table seen)
  | .count hook => transaction.answered (transaction.runHook session hook)
  | .run command =>
      let (answer, next, _) := transaction.add session command
      (answer.map fun _ => (), next)

def Call.queued (session : Session) : Call → Except Fault (Option Operation)
  | .insert fresh table columns =>
      (collectColumns session table columns).map
        fun columns => some (.insert table fresh columns)
  | .update table uuid columns =>
      (collectColumns session table columns).map
        fun columns => some (.update table uuid columns)
  | .delete table uuid =>
      (session.checkTable table).map fun _ => some (.delete table uuid)
  | .mutate table uuid column mutation =>
      (session.checkColumn table column).map
        fun _ => some (.mutate table uuid column mutation)
  | .setKey table uuid column key value =>
      (session.checkColumn table column).map
        fun _ => some (.mutate table uuid column (.mapSet key value))
  | .deleteKey table uuid column key =>
      (session.checkColumn table column).map
        fun _ => some (.mutate table uuid column (.mapDelete key))
  | .verify table seen =>
      (session.checkTable table).map
        fun _ => some (.verify table seen.uuid seen.revision)
  | .count hook => (session.counting hook).map some
  | .run (.findReferencing table column owner) =>
      (session.findReferencing table column owner).map fun _ => none
  | .run (.listRows table) => (session.listRows table).map fun _ => none
  | .run (.addMapping balancer backend port source) =>
      .ok (session.mappingToStore balancer backend port source).toOption
  | .run (.deleteMapping balancer backend) =>
      .ok (session.mappingToRemove balancer backend).toOption

variable {transaction : Transaction} {session : Session}

/-- A call queues what it has to, at the end, or leaves the transaction as it
is. -/
theorem call_eq (transaction : Transaction) (session : Session) (call : Call) :
    transaction.call session call =
      match call.queued session with
      | .ok queued =>
          (.ok (), { transaction with
            operations := transaction.operations ++ queued.toList })
      | .error fault => (.error fault, transaction) := by
  cases call with
  | insert fresh table columns =>
      simp only [Transaction.call, Transaction.insert, Call.queued]
      cases collectColumns session table columns <;> rfl
  | update table uuid columns =>
      simp only [Transaction.call, Transaction.update, Call.queued]
      cases collectColumns session table columns <;> rfl
  | delete table uuid =>
      simp only [Transaction.call, Transaction.delete, Call.queued]
      cases session.checkTable table <;> rfl
  | verify table seen =>
      simp only [Transaction.call, Transaction.verify, Call.queued]
      cases session.checkTable table <;> rfl
  | mutate table uuid column mutation =>
      simp only [Transaction.call, mutate_eq, Call.queued]
      cases session.checkColumn table column <;> rfl
  | setKey table uuid column key value =>
      simp only [Transaction.call, setKey, mutate_eq, Call.queued]
      cases session.checkColumn table column <;> rfl
  | deleteKey table uuid column key =>
      simp only [Transaction.call, deleteKey, mutate_eq, Call.queued]
      cases session.checkColumn table column <;> rfl
  | count hook =>
      simp only [Transaction.call, runHook_eq, Call.queued]
      cases session.counting hook <;> rfl
  | run command =>
      cases command with
      | findReferencing table column owner =>
          simp only [Transaction.call, add, Call.queued]
          cases session.findReferencing table column owner <;> simp [Except.map]
      | listRows table =>
          simp only [Transaction.call, add, Call.queued]
          cases session.listRows table <;> simp [Except.map]
      | addMapping balancer backend port source =>
          simp only [Transaction.call, add, addMapping, tryAddMapping_eq,
            Call.queued]
          cases session.mappingToStore balancer backend port source <;>
            simp [Except.map, Except.toOption, push]
      | deleteMapping balancer backend =>
          simp only [Transaction.call, add, deleteMapping, tryDeleteMapping_eq,
            Call.queued]
          cases session.mappingToRemove balancer backend <;>
            simp [Except.map, Except.toOption, push]

/-! ## What a call queues fits -/

theorem hasTable_of_checkTable {table : String} {shape : TableSchema}
    (checked : session.checkTable table = .ok shape) :
    session.schema.hasTable table = true :=
  DatabaseSchema.hasTable_iff.mpr ⟨shape, orFault_eq_ok_iff.mp checked⟩

theorem hasColumn_of_checkColumn {table column : String}
    (checked : session.checkColumn table column = .ok ()) :
    session.schema.hasColumn table column = true :=
  Session.checkColumn_eq_ok_iff.mp checked

theorem hasColumn_of_collectColumns {table : String}
    {columns : List (String × Value)} {given : SortedMap String Value}
    (collected : collectColumns session table columns = .ok given) :
    session.schema.hasTable table = true ∧
      ∀ column ∈ given.keys, session.schema.hasColumn table column = true := by
  obtain ⟨shape, checked, rest⟩ := bind_eq_ok_iff.mp collected
  refine ⟨hasTable_of_checkTable checked, ?_⟩
  split at rest
  case h_1 => cases rest
  case h_2 none =>
    cases rest
    intro column member
    have here := SortedMap.mem_keys_iff.mp member
    rcases (SortedMap.contains_insertAll_iff _ _ _).mp here with
      ⟨entry, listed, rfl⟩ | absent
    · have known := List.find?_eq_none.mp none entry listed
      rw [DatabaseSchema.hasColumn_eq (orFault_eq_ok_iff.mp checked)]
      simpa using known
    · cases absent

theorem fits_of_hasColumn {table : String} {uuid : Uuid} {column : String}
    {mutation : Mutation} {schema : DatabaseSchema}
    (has : schema.hasColumn table column = true) :
    (Operation.mutate table uuid column mutation).Fits schema := by
  refine ⟨DatabaseSchema.hasTable_of_hasColumn has, fun named member => ?_⟩
  cases List.mem_singleton.mp member
  exact has

theorem fits_of_counting {hook : CounterHook} {operation : Operation}
    (counts : session.counting hook = .ok operation) :
    operation.Fits session.schema := by
  obtain ⟨_, checked, rest⟩ := bind_eq_ok_iff.mp counts
  obtain ⟨row, _, rest⟩ := bind_eq_ok_iff.mp rest
  cases rest
  exact fits_of_hasColumn (hasColumn_of_checkColumn checked)

theorem fits_of_mappingToStore {balancer : Uuid}
    {backend port source : String} {operation : Operation}
    (stores : session.mappingToStore balancer backend port source =
      .ok operation) : operation.Fits session.schema := by
  simp only [Session.mappingToStore, bind_eq_ok_iff] at stores
  obtain ⟨_, _, _, _, row, _, _, checked, rest⟩ := stores
  cases rest
  exact fits_of_hasColumn (hasColumn_of_checkColumn checked)

theorem fits_of_mappingToRemove {balancer : Uuid} {backend : String}
    {operation : Operation}
    (removes : session.mappingToRemove balancer backend = .ok operation) :
    operation.Fits session.schema := by
  simp only [Session.mappingToRemove, bind_eq_ok_iff] at removes
  obtain ⟨_, _, row, _, _, checked, rest⟩ := removes
  cases rest
  exact fits_of_hasColumn (hasColumn_of_checkColumn checked)

theorem map_eq_ok_iff {α β : Type} {result : Except Fault α} {change : α → β}
    {value : β} :
    result.map change = .ok value ↔
      ∃ found, result = .ok found ∧ change found = value := by
  cases result <;> simp [Except.map]

theorem toOption_eq_some_iff {α : Type} {result : Except Fault α} {value : α} :
    result.toOption = some value ↔ result = .ok value := by
  cases result <;> simp [Except.toOption]

theorem Call.fits_of_queued {call : Call} {operation : Operation}
    (queues : call.queued session = .ok (some operation)) :
    operation.Fits session.schema := by
  cases call with
  | insert | update =>
      obtain ⟨given, collected, same⟩ := map_eq_ok_iff.mp queues
      cases same
      exact hasColumn_of_collectColumns collected
  | delete | verify =>
      obtain ⟨shape, checked, same⟩ := map_eq_ok_iff.mp queues
      cases same
      exact ⟨hasTable_of_checkTable checked, nofun⟩
  | mutate | setKey | deleteKey =>
      obtain ⟨_, checked, same⟩ := map_eq_ok_iff.mp queues
      cases same
      exact fits_of_hasColumn (hasColumn_of_checkColumn checked)
  | count hook =>
      obtain ⟨_, counts, same⟩ := map_eq_ok_iff.mp queues
      cases same
      exact fits_of_counting counts
  | run command =>
      cases command with
      | findReferencing | listRows =>
          obtain ⟨_, _, same⟩ := map_eq_ok_iff.mp queues
          cases same
      | addMapping =>
          have stores := Except.ok.inj queues
          exact fits_of_mappingToStore (toOption_eq_some_iff.mp stores)
      | deleteMapping =>
          have removes := Except.ok.inj queues
          exact fits_of_mappingToRemove (toOption_eq_some_iff.mp removes)

/-- A call leaves the transaction alone or queues one operation that fits. -/
theorem Fits.call {schema : DatabaseSchema} (fits : transaction.Fits schema)
    (same : session.schema = schema) (call : Call) :
    (transaction.call session call).2.Fits schema := by
  rw [call_eq]
  cases queues : call.queued session with
  | error fault => exact fits
  | ok queued =>
      intro operation member
      rcases List.mem_append.mp member with before | added
      · exact fits operation before
      · rw [Option.mem_toList] at added
        cases added
        exact same ▸ Call.fits_of_queued queues

theorem call_cases (transaction : Transaction) (session : Session)
    (call : Call) :
    (∃ fault, transaction.call session call = (.error fault, transaction)) ∨
      ∃ queued : Option Operation, transaction.call session call =
        (.ok (), { transaction with
          operations := transaction.operations ++ queued.toList }) := by
  rw [call_eq]
  cases call.queued session with
  | error fault => exact .inl ⟨fault, rfl⟩
  | ok queued => exact .inr ⟨queued, rfl⟩

end Transaction

/-! ## What a server finds -/

namespace Operation

variable {operation : Operation} {schema : DatabaseSchema} {fault : Fault}

theorem checkColumns_of_fits {shape : TableSchema}
    (fits : operation.Fits schema)
    (known : schema.table? operation.table = some shape) :
    checkColumns shape operation.table operation.columns = .ok () := by
  refine checkColumns_eq_ok_iff.mpr fun column named => ?_
  rw [← DatabaseSchema.hasColumn_eq known]
  exact fits.2 column named

/-- An operation on a row whose columns are there does not fail for want of
them. -/
theorem not_isMisfit_of_onRow {shape : TableSchema} {stored : Option Row}
    (checked : checkColumns shape operation.table operation.columns = .ok ())
    (failed : operation.onRow shape stored = .error fault) :
    ¬fault.IsMisfit := by
  have other : (∀ table, fault ≠ .tableNotFound table) →
      (∀ table column, fault ≠ .columnNotFound table column) →
        ¬fault.IsMisfit := by
    rintro tables columns (⟨table, same⟩ | ⟨table, column, same⟩)
    · exact tables table same
    · exact columns table column same
  cases operation with
  | insert table uuid columns =>
      rcases bind_eq_error_iff.mp failed with missing | ⟨_, _, rest⟩
      · cases checked.symm.trans missing
      · dsimp only at rest
        split at rest
        · cases rest
          exact other nofun nofun
        · cases rest
  | update table uuid columns =>
      rcases bind_eq_error_iff.mp failed with missing | ⟨_, _, rest⟩
      · cases checked.symm.trans missing
      · cases stored <;> cases rest
        exact other nofun nofun
  | delete table uuid =>
      cases stored <;> cases failed
      exact other nofun nofun
  | mutate table uuid column mutation =>
      rcases bind_eq_error_iff.mp failed with missing | ⟨_, _, rest⟩
      · cases checked.symm.trans missing
      · rcases bind_eq_error_iff.mp rest with absent | ⟨row, _, rest⟩
        · cases stored <;> cases absent
          exact other nofun nofun
        · rcases bind_eq_error_iff.mp rest with unfit | ⟨_, _, rest⟩
          · cases applied : mutation.result? (row.columns.get? column) with
            | some value => rw [applied] at unfit; cases unfit
            | none =>
                rw [applied] at unfit
                cases unfit
                exact other nofun nofun
          · cases rest
  | verify table uuid revision =>
      cases stored with
      | none =>
          cases failed
          exact other nofun nofun
      | some row =>
          dsimp only [onRow] at failed
          split at failed <;> cases failed
          exact other nofun nofun

theorem Fits.not_isMisfit_of_apply {tables : Tables}
    (fits : operation.Fits schema)
    (failed : operation.apply schema tables = .error fault) :
    ¬fault.IsMisfit := by
  obtain ⟨shape, known⟩ := DatabaseSchema.hasTable_iff.mp fits.1
  rcases bind_eq_error_iff.mp failed with missing | ⟨_, found, rest⟩
  · rw [known] at missing
    cases missing
  · cases known.symm.trans (orFault_eq_ok_iff.mp found)
    rcases bind_eq_error_iff.mp rest with onRow | ⟨_, _, rest⟩
    · exact not_isMisfit_of_onRow (checkColumns_of_fits fits known) onRow
    · cases rest

end Operation

/-- A server never misses a table or column that fits its schema. -/
theorem Server.not_isMisfit_of_commit {server later : Server}
    {operations : List Operation} {fault : Fault}
    (fits : ∀ operation ∈ operations, operation.Fits server.schema)
    (failed : server.commit operations = (.error fault, later)) :
    ¬fault.IsMisfit := by
  unfold commit at failed
  split at failed
  case h_1 reason rejects =>
    cases failed
    rintro (⟨_, same⟩ | ⟨_, _, same⟩) <;> cases same
  case h_2 =>
    split at failed
    case h_1 => cases failed
    case h_2 refused =>
      cases failed
      rcases bind_eq_error_iff.mp refused with staging | ⟨_, _, rest⟩
      · obtain ⟨earlier, operation, rest, before, rfl, _, fails⟩ :=
          Database.exists_of_stage_eq_error staging
        exact (fits operation (by simp)).not_isMisfit_of_apply fails
      · dsimp only at rest
        split at rest <;> cases rest

end OvsdbClient
