import OvsdbClient.Proofs.OptimisticConcurrency

/-!
# Commits that name different rows

What a transaction comes to depends on the rows that its operations name, and it
leaves all other rows alone.  Two transactions that name no row in common can
therefore be committed in either order.
-/

namespace OvsdbClient

def Row.unstamped (row : Row) : Row := { row with revision := 0 }

namespace Tables

def unstamped (tables : Tables) : Tables :=
  tables.mapValues fun _ rows => rows.mapValues fun _ row => row.unstamped

theorem row?_unstamped (tables : Tables) (table : String) (uuid : Uuid) :
    tables.unstamped.row? table uuid =
      (tables.row? table uuid).map Row.unstamped := by
  simp only [unstamped, row?, SortedMap.get?_mapValues]
  cases tables.get? table with
  | none => rfl
  | some rows => exact SortedMap.get?_mapValues ..

end Tables

namespace Operation

/-- An operation names a row, to write it or to verify it. -/
def Names (operation : Operation) (table : String) (uuid : Uuid) : Prop :=
  operation.table = table ∧ operation.uuid = uuid

/-- No row is named by operations of both lists. -/
def Apart (first second : List Operation) : Prop :=
  ∀ one ∈ first, ∀ other ∈ second, ¬other.Names one.table one.uuid

theorem Apart.symm {first second : List Operation}
    (apart : Apart first second) : Apart second first := by
  intro one member other member' names
  exact apart other member' one member ⟨names.1.symm, names.2.symm⟩

theorem Apart.not_names {first second : List Operation} {table : String}
    {uuid : Uuid} (apart : Apart first second)
    (named : ∃ operation ∈ first, operation.Names table uuid) :
    ∀ operation ∈ second, ¬operation.Names table uuid := by
  obtain ⟨operation, member, rfl, rfl⟩ := named
  exact apart operation member

theorem apply_congr {operation : Operation} (schema : DatabaseSchema)
    {left right : Tables}
    (same : left.row? operation.table operation.uuid =
      right.row? operation.table operation.uuid) :
    (∃ fault, operation.apply schema left = .error fault ∧
        operation.apply schema right = .error fault) ∨
      ∃ row,
        operation.apply schema left =
            .ok (left.put operation.table operation.uuid row) ∧
          operation.apply schema right =
            .ok (right.put operation.table operation.uuid row) := by
  cases known : schema.table? operation.table with
  | none =>
      refine .inl ⟨.tableNotFound operation.table, ?_, ?_⟩ <;>
        simp only [apply, known, orFault] <;> rfl
  | some shape =>
      cases onRow : operation.onRow shape
          (left.row? operation.table operation.uuid) with
      | error fault =>
          exact .inl ⟨fault, apply_eq_error known onRow,
            apply_eq_error known (same ▸ onRow)⟩
      | ok row =>
          exact .inr ⟨row, apply_eq_ok_iff.mpr ⟨shape, row, known, onRow, rfl⟩,
            apply_eq_ok_iff.mpr ⟨shape, row, known, same ▸ onRow, rfl⟩⟩

end Operation

namespace Database

variable {schema : DatabaseSchema} {left right : Tables}
  {operations : List Operation} {table : String} {uuid : Uuid}

/-- Operations come to the same on tables that agree on the rows that they
name, and the tables still agree on these rows afterwards. -/
theorem stage_congr (schema : DatabaseSchema) {among : String → Uuid → Prop}
    (named : ∀ operation ∈ operations, among operation.table operation.uuid)
    (same : ∀ table uuid, among table uuid →
      left.row? table uuid = right.row? table uuid) :
    (∃ fault, stage schema left operations = .error fault ∧
        stage schema right operations = .error fault) ∨
      ∃ staged other, stage schema left operations = .ok staged ∧
        stage schema right operations = .ok other ∧
        ∀ table uuid, among table uuid →
          staged.row? table uuid = other.row? table uuid := by
  induction operations generalizing left right with
  | nil => exact .inr ⟨left, right, rfl, rfl, same⟩
  | cons operation operations induction =>
      obtain ⟨here, later⟩ := List.forall_mem_cons.mp named
      simp only [stage, List.foldlM_cons]
      rcases Operation.apply_congr schema
          (same operation.table operation.uuid here) with
        ⟨fault, one, two⟩ | ⟨row, one, two⟩
      · rw [one, two]
        exact .inl ⟨fault, rfl, rfl⟩
      · rw [one, two]
        refine induction later fun table uuid member => ?_
        rw [Tables.row?_put, Tables.row?_put, same table uuid member]

theorem unstamped_commit {database after : Database} {staged : Tables}
    (staging : stage schema database.tables operations = .ok staged)
    (done : database.commit schema operations = .ok after) (table : String)
    (uuid : Uuid) :
    (after.tables.row? table uuid).map Row.unstamped =
      (staged.row? table uuid).map Row.unstamped := by
  obtain ⟨found, again, rfl⟩ := commit_eq_ok_iff.mp done
  cases again.symm.trans staging
  split
  case isTrue idle =>
    have untouched : (table, uuid) ∉ touched operations := by simp [idle]
    rw [row?_stage_of_not_mem_touched untouched staging]
  case isFalse =>
    rw [row?_advance]
    split
    · cases staged.row? table uuid <;> rfl
    · rfl

theorem row?_commit_of_not_names {database after : Database}
    (spared : ∀ operation ∈ operations, ¬operation.Names table uuid)
    (done : database.commit schema operations = .ok after) :
    after.tables.row? table uuid = database.tables.row? table uuid := by
  obtain ⟨staged, staging, rfl⟩ := commit_eq_ok_iff.mp done
  have untouched : (table, uuid) ∉ touched operations := by
    intro member
    obtain ⟨operation, present, _, names⟩ := mem_touched_iff.mp member
    exact spared operation present names
  split
  case isTrue => rfl
  case isFalse =>
    rw [row?_advance, if_neg untouched]
    exact row?_stage_of_not_mem_touched untouched staging

end Database

namespace Server

def verdict (answer : Except Fault Nat) : Except Fault Unit :=
  answer.map fun _ => ()

variable {schema : DatabaseSchema} {events : List Event} {server : Server}
  {operations first second : List Operation} {table : String} {uuid : Uuid}

theorem commit_of_stage_eq_error {fault : Fault}
    (accepts : server.rejection = none)
    (failed : Database.stage server.schema server.database.tables operations =
      .error fault) :
    server.commit operations = (.error fault, server) := by
  have refused : server.database.commit server.schema operations =
      .error fault := by
    simp only [Database.commit, failed]
    rfl
  simp only [commit, accepts, refused]

theorem exists_commit_of_stage {staged : Tables}
    (accepts : server.rejection = none)
    (staging : Database.stage server.schema server.database.tables operations =
      .ok staged) :
    ∃ database,
      server.database.commit server.schema operations = .ok database ∧
        server.commit operations =
          (.ok database.generation, { server with database }) := by
  have done := Database.commit_eq_ok_iff.mpr ⟨staged, staging, rfl⟩
  exact ⟨_, done, by simp only [commit, accepts, done]⟩

theorem rejection_commit (accepts : server.rejection = none)
    (operations : List Operation) :
    (server.commit operations).2.rejection = none := by
  simp only [commit, accepts]
  split
  · rfl
  · exact accepts

theorem row?_commit_of_not_names (accepts : server.rejection = none)
    (spared : ∀ operation ∈ operations, ¬operation.Names table uuid) :
    (server.commit operations).2.database.tables.row? table uuid =
      server.database.tables.row? table uuid := by
  simp only [commit, accepts]
  split
  case h_1 done => exact Database.row?_commit_of_not_names spared done
  case h_2 => rfl

/-- On servers that agree on the rows that its operations name, a transaction
comes to the same, and makes the same of these rows. -/
theorem commit_congr {left right : Server}
    (schemas : left.schema = right.schema) (accepts : left.rejection = none)
    (accepts' : right.rejection = none)
    (same : ∀ table uuid, (∃ operation ∈ operations,
        operation.Names table uuid) →
      left.database.tables.row? table uuid =
        right.database.tables.row? table uuid) :
    verdict (left.commit operations).1 = verdict (right.commit operations).1 ∧
      ∀ table uuid, (∃ operation ∈ operations, operation.Names table uuid) →
        ((left.commit operations).2.database.tables.row? table uuid).map
            Row.unstamped =
          ((right.commit operations).2.database.tables.row? table uuid).map
            Row.unstamped := by
  have named : ∀ operation ∈ operations, ∃ other ∈ operations,
      other.Names operation.table operation.uuid :=
    fun operation member => ⟨operation, member, rfl, rfl⟩
  rcases Database.stage_congr left.schema named same with
    ⟨fault, one, two⟩ | ⟨staged, staged', one, two, agree⟩
  · rw [commit_of_stage_eq_error accepts one,
      commit_of_stage_eq_error accepts' (schemas ▸ two)]
    exact ⟨rfl, fun table uuid names => congrArg _ (same table uuid names)⟩
  · obtain ⟨_, done, committed⟩ := exists_commit_of_stage accepts one
    obtain ⟨_, done', committed'⟩ :=
      exists_commit_of_stage accepts' (schemas ▸ two)
    rw [committed, committed']
    refine ⟨rfl, fun table uuid names => ?_⟩
    rw [Database.unstamped_commit one done,
      Database.unstamped_commit (schemas ▸ two) done', agree table uuid names]

/-- After a commit that names other rows a transaction comes to the same, and
makes the same of the rows that it names. -/
theorem commit_after_apart (accepts : server.rejection = none)
    (apart : Operation.Apart first second) :
    let later := (server.commit second).2
    verdict (later.commit first).1 = verdict (server.commit first).1 ∧
      ∀ table uuid, (∃ operation ∈ first, operation.Names table uuid) →
        ((later.commit first).2.database.tables.row? table uuid).map
            Row.unstamped =
          ((server.commit first).2.database.tables.row? table uuid).map
            Row.unstamped := by
  refine commit_congr (sessions_commit server second).2
    (rejection_commit accepts second) accepts fun table uuid named => ?_
  exact row?_commit_of_not_names accepts (apart.not_names named)

/-- Transactions that name no row in common come to the same in either order,
with the same faults if they fail, and leave the same rows. -/
theorem disjoint_commits_commute
    (accepts : ((ofSchema schema).run events).rejection = none)
    (apart : Operation.Apart first second) :
    let server := (ofSchema schema).run events
    let one := server.commit first
    let other := server.commit second
    verdict one.1 = verdict (other.2.commit first).1 ∧
      verdict (one.2.commit second).1 = verdict other.1 ∧
      (one.2.commit second).2.database.tables.unstamped =
        (other.2.commit first).2.database.tables.unstamped := by
  intro server one other
  obtain ⟨same, rows⟩ := commit_after_apart accepts apart
  obtain ⟨same', rows'⟩ := commit_after_apart accepts apart.symm
  refine ⟨same.symm, same', Tables.ext_row? (fun table => ?_) ?_⟩
  · have sound : server.Sound := (sound_ofSchema schema).run events
    have named : ∀ operations others,
        ((server.run [.commit operations, .commit others]).database.tables
          ).contains table = schema.hasTable table := by
      intro operations others
      have after := (sound.run [.commit operations, .commit others]).database
      rw [schema_run, schema_run] at after
      exact after.named table
    rw [Tables.unstamped, Tables.unstamped, SortedMap.contains_mapValues,
      SortedMap.contains_mapValues]
    exact (named first second).trans (named second first).symm
  · intro table uuid
    rw [Tables.row?_unstamped, Tables.row?_unstamped]
    have laterFirst := rejection_commit accepts first
    have laterSecond := rejection_commit accepts second
    by_cases byFirst : ∃ operation ∈ first, operation.Names table uuid
    · rw [row?_commit_of_not_names laterFirst (apart.not_names byFirst)]
      exact (rows table uuid byFirst).symm
    by_cases bySecond : ∃ operation ∈ second, operation.Names table uuid
    · rw [row?_commit_of_not_names laterSecond
        (apart.symm.not_names bySecond)]
      exact rows' table uuid bySecond
    · have notFirst : ∀ operation ∈ first, ¬operation.Names table uuid :=
        fun operation member names => byFirst ⟨operation, member, names⟩
      have notSecond : ∀ operation ∈ second, ¬operation.Names table uuid :=
        fun operation member names => bySecond ⟨operation, member, names⟩
      rw [row?_commit_of_not_names laterFirst notSecond,
        row?_commit_of_not_names accepts notFirst,
        row?_commit_of_not_names laterSecond notFirst,
        row?_commit_of_not_names accepts notSecond]

def counterAndBalancer : List Event :=
  [.commit [.insert "NB_Global" (.ofNat 1) .empty,
    .insert "Load_Balancer" (.ofNat 2) .empty]]

def counting : List Operation :=
  [.verify "NB_Global" (.ofNat 1) 1,
    .mutate "NB_Global" (.ofNat 1) "nb_cfg" (.increment 1)]

/-- The load balancer gets a mapping and is then found at another revision than
expected. -/
def staleTending : List Operation :=
  [.mutate "Load_Balancer" (.ofNat 2) "ip_port_mappings"
      (.mapSet "10.0.0.5" "port-a:10.0.0.2"),
    .verify "Load_Balancer" (.ofNat 2) 7]

theorem stale_commit_fails_in_either_order :
    let server := (ofSchema .small).run counterAndBalancer
    let counted := server.commit counting
    let tended := server.commit staleTending
    server.rejection = none ∧ Operation.Apart counting staleTending ∧
      verdict (tended.2.commit counting).1 = .ok () ∧
      (∃ reason, verdict (counted.2.commit staleTending).1 =
        .error (.revisionConflict reason)) ∧
      (counted.2.commit staleTending).2.database.tables.unstamped =
        (tended.2.commit counting).2.database.tables.unstamped := by
  intro server counted tended
  have accepts : server.rejection = none := rfl
  have apart : Operation.Apart counting staleTending := by
    unfold Operation.Apart Operation.Names
    decide
  obtain ⟨same, same', tables⟩ := disjoint_commits_commute accepts apart
  refine ⟨accepts, apart, same.symm.trans rfl, ?_, tables⟩
  exact ⟨_, same'.trans rfl⟩

end Server

end OvsdbClient
