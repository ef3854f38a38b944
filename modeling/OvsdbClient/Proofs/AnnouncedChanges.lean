import Mathlib.Data.List.Count
import Mathlib.Data.List.Nodup
import Mathlib.Data.List.Perm.Subperm
import OvsdbClient.Proofs.CommitEffects
import OvsdbClient.Proofs.Integrity

/-!
# What a commit announces

The update that a commit announces tells once of every row that came out of it
changed: that it is gone, or all that it holds by now.  Nothing is told of a row
that came and went within the commit.  Any other update that leads to the same
tables tells of all these rows too.
-/

namespace OvsdbClient

namespace Update

/-- The changes that an update tells, each with its table, in order. -/
def told (update : Update) : List (String × RowChange) :=
  update.flatMap fun part => part.changes.map (part.table, ·)

/-- The rows that an update tells of, in order. -/
def rows (update : Update) : List (String × Uuid) :=
  update.told.map fun (table, change) => (table, change.uuid)

variable {update : Update} {table : String} {uuid : Uuid}

theorem mem_told_iff {change : RowChange} :
    (table, change) ∈ update.told ↔ change ∈ update.changesTo table := by
  simp only [told, changesTo, List.mem_flatMap, List.mem_map, List.mem_filter,
    Prod.mk.injEq, decide_eq_true_eq]
  constructor
  · rintro ⟨part, member, _, listed, same, rfl⟩
    exact ⟨part, ⟨member, same⟩, listed⟩
  · rintro ⟨part, ⟨member, same⟩, listed⟩
    exact ⟨part, member, change, listed, same, rfl⟩

theorem mem_rows_iff :
    (table, uuid) ∈ update.rows ↔
      ∃ change, (table, change) ∈ update.told ∧ change.uuid = uuid := by
  simp [rows]

theorem count_rows (update : Update) (table : String) (uuid : Uuid) :
    update.rows.count (table, uuid) =
      ((update.changesTo table).map (·.uuid)).count uuid := by
  induction update with
  | nil => rfl
  | cons part update induction =>
      have split : rows (part :: update) =
          (part.changes.map (·.uuid)).map (Prod.mk part.table) ++
            rows update := by
        simp [rows, told]
      rw [split, List.count_append, induction]
      by_cases same : part.table = table
      · rw [same, List.count_map_of_injective _ _ fun _ _ equal =>
          (Prod.mk.inj equal).2]
        simp [changesTo, same]
      · rw [List.count_eq_zero_of_not_mem fun listed =>
          by simp [same] at listed]
        simp [changesTo, same]

theorem nodup_rows_iff : update.rows.Nodup ↔
    ∀ table, ((update.changesTo table).map (·.uuid)).Nodup := by
  simp only [List.nodup_iff_count_le_one, Prod.forall, count_rows]

/-- A row is told of by every update that leads to a change of it. -/
theorem mem_rows_of_row?_ne {before after : Tables}
    (leads : before.applyUpdate update = after)
    (differ : after.row? table uuid ≠ before.row? table uuid) :
    (table, uuid) ∈ update.rows := by
  refine Decidable.byContradiction fun untold => differ ?_
  have absent : ∀ change ∈ update.changesTo table, change.uuid ≠ uuid :=
    fun change listed same =>
      untold (mem_rows_iff.mpr ⟨change, mem_told_iff.mpr listed, same⟩)
  rw [← leads, Tables.row?_applyUpdate, Tables.row?]
  cases before.get? table with
  | none => rfl
  | some rows => exact RowChange.get?_applyAll_of_absent rows absent

end Update

/-! ## Rows that are deleted or inserted last -/

namespace Contents

variable {schema : DatabaseSchema} {contents : Contents} {table : String}
  {uuid : Uuid} {operations : List Operation}

theorem foldl_after_eq_none
    (uninserted : ∀ given, .insert table uuid given ∉ operations)
    (gone : contents table uuid = none) :
    operations.foldl (after schema) contents table uuid = none := by
  induction operations generalizing contents with
  | nil => exact gone
  | cons operation operations induction =>
      rw [List.foldl_cons]
      refine induction (fun given later =>
        uninserted given (List.mem_cons_of_mem _ later)) ?_
      unfold after
      split
      case isFalse => exact gone
      case isTrue named =>
        obtain ⟨rfl, rfl⟩ := named
        rw [gone]
        cases operation with
        | insert table uuid given =>
            exact absurd List.mem_cons_self (uninserted given)
        | _ => rfl

theorem isSome_foldl_after (undeleted : .delete table uuid ∉ operations)
    (there : (contents table uuid).isSome = true) :
    (operations.foldl (after schema) contents table uuid).isSome = true := by
  induction operations generalizing contents with
  | nil => exact there
  | cons operation operations induction =>
      rw [List.foldl_cons]
      refine induction (fun later =>
        undeleted (List.mem_cons_of_mem _ later)) ?_
      unfold after
      split
      case isFalse => exact there
      case isTrue named =>
        obtain ⟨rfl, rfl⟩ := named
        cases operation with
        | insert table uuid given => rfl
        | delete table uuid => exact absurd List.mem_cons_self undeleted
        | _ => simpa [Operation.effect, Operation.table, Operation.uuid]
            using there

end Contents

/-! ## The update of a commit -/

/-- An update tells what operations made of the rows of a database.  Applied in
its own order it leads from the tables before to those after, and it tells of no
row twice. -/
structure Update.IsDelta (update : Update) (operations : List Operation)
    (before after : Database) : Prop where
  leads : before.tables.applyUpdate update = after.tables
  once : update.rows.Nodup
  deleted : ∀ table uuid, (table, .delete uuid) ∈ update.told ↔
    (∃ row, before.tables.row? table uuid = some row) ∧
      after.tables.row? table uuid = none
  upserted : ∀ table row, (table, .upsert row) ∈ update.told ↔
    (∃ operation ∈ operations, operation.Writes table row.uuid) ∧
      after.tables.row? table row.uuid = some row
  revised : ∀ table row, (table, .upsert row) ∈ update.told →
    row.revision = after.generation
  /-- A row that was not there, and is deleted after it was inserted, is not
  told of. -/
  transient : ∀ table uuid given earlier between later,
    operations = earlier ++ .insert table uuid given :: between ++
      .delete table uuid :: later →
    before.tables.row? table uuid = none →
    (∀ again, .insert table uuid again ∉ later) →
    (table, uuid) ∉ update.rows
  /-- A row that is inserted anew after it was deleted is told of as one row. -/
  replaced : ∀ table uuid given earlier between later,
    operations = earlier ++ .delete table uuid :: between ++
      .insert table uuid given :: later →
    .delete table uuid ∉ later →
    ∃ row, after.tables.row? table uuid = some row ∧
      ∀ change, (table, change) ∈ update.told ∧ change.uuid = uuid ↔
        change = .upsert row
  /-- No update that leads to the same tables tells of fewer rows. -/
  least : ∀ other : Update, before.tables.applyUpdate other = after.tables →
    update.rows.Subperm other.rows

namespace Database

variable {schema : DatabaseSchema} {before after : Database}
  {operations : List Operation} {table : String} {uuid : Uuid}

theorem nodup_touched (operations : List Operation) :
    (touched operations).Nodup := by
  unfold touched
  suffices kept : ∀ found : List (String × Uuid), found.Nodup →
      (operations.foldl _ found).Nodup from kept [] List.nodup_nil
  induction operations with
  | nil => exact fun found once => once
  | cons operation operations induction =>
      intro found once
      rw [List.foldl_cons]
      refine induction _ ?_
      dsimp only
      split
      case isTrue => exact once
      case isFalse new =>
        simp only [Bool.or_eq_true, not_or, List.contains_iff_mem] at new
        exact List.nodup_append.mpr ⟨once, List.nodup_singleton _,
          fun row member other last same =>
            new.2 (List.mem_singleton.mp last ▸ same ▸ member)⟩

theorem isSome_row?_commit (done : before.commit schema operations = .ok after)
    (table : String) (uuid : Uuid) :
    (after.tables.row? table uuid).isSome =
      (operations.foldl (Contents.after schema) before.tables.contents table
        uuid).isSome := by
  have same := congrArg Option.isSome
    ((takes_of_commit done).columns table uuid)
  simpa [Tables.contents] using same

theorem row?_of_deleted_last {earlier later : List Operation}
    (done : before.commit schema (earlier ++ .delete table uuid :: later) =
      .ok after)
    (uninserted : ∀ given, .insert table uuid given ∉ later) :
    after.tables.row? table uuid = none := by
  have same := isSome_row?_commit done table uuid
  rw [List.foldl_append, List.foldl_cons,
    Contents.foldl_after_eq_none uninserted] at same
  · exact Option.isSome_eq_false_iff.mp same |> Option.isNone_iff_eq_none.mp
  · exact if_pos ⟨rfl, rfl⟩

theorem exists_row?_of_inserted_last {earlier later : List Operation}
    {given : SortedMap String Value}
    (done : before.commit schema
      (earlier ++ .insert table uuid given :: later) = .ok after)
    (undeleted : .delete table uuid ∉ later) :
    ∃ row, after.tables.row? table uuid = some row := by
  refine Option.isSome_iff_exists.mp ?_
  rw [isSome_row?_commit done, List.foldl_append, List.foldl_cons]
  refine Contents.isSome_foldl_after undeleted ?_
  exact congrArg Option.isSome (if_pos ⟨rfl, rfl⟩)

theorem change?_eq_upsert_iff {before after : Tables} {row : Row} :
    change? before after table uuid = some (.upsert row) ↔
      after.row? table uuid = some row := by
  unfold change?
  split
  case h_1 found here => simp [here]
  case h_2 gone => split <;> simp [gone]

theorem change?_eq_delete_iff {before after : Tables} {gone : Uuid} :
    change? before after table uuid = some (.delete gone) ↔
      uuid = gone ∧ (∃ row, before.row? table uuid = some row) ∧
        after.row? table uuid = none := by
  unfold change?
  split
  case h_1 found here => simp [here]
  case h_2 absent =>
    rw [← Option.isSome_iff_exists]
    split <;> simp [*]

theorem eq_of_commit_of_isVerify
    (done : before.commit schema operations = .ok after)
    (verifies : ∀ operation ∈ operations, operation.isVerify = true) :
    after = before := by
  obtain ⟨staged, _, rfl⟩ := commit_eq_ok_iff.mp done
  refine if_pos (Decidable.byContradiction fun busy => ?_)
  obtain ⟨operation, member, writes⟩ := touched_ne_nil_iff.mp busy
  rw [verifies operation member] at writes
  cases writes

theorem announced_of_commit
    (done : before.commit schema operations = .ok after)
    (writes : ∃ operation ∈ operations, operation.isVerify = false) :
    after.generation = before.generation + 1 ∧
      after.announcements = before.announcements.push ⟨after.generation,
        delta before.tables after.tables (touched operations)⟩ := by
  obtain ⟨staged, _, rfl⟩ := commit_eq_ok_iff.mp done
  rw [if_neg (touched_ne_nil_iff.mpr writes)]
  exact ⟨rfl, rfl⟩

section Announced

variable (done : before.commit schema operations = .ok after)

include done

/-- A row is gone that was there just if that is announced. -/
theorem delete_mem_told_iff :
    (table, .delete uuid) ∈ (delta before.tables after.tables
        (touched operations)).told ↔
      (∃ row, before.tables.row? table uuid = some row) ∧
        after.tables.row? table uuid = none := by
  rw [Update.mem_told_iff, mem_changesTo_delta_iff]
  simp only [change?_eq_delete_iff]
  constructor
  · rintro ⟨_, _, rfl, was, gone⟩
    exact ⟨was, gone⟩
  · rintro ⟨⟨row, was⟩, gone⟩
    refine ⟨uuid, ?_, rfl, ⟨row, was⟩, gone⟩
    refine Decidable.byContradiction fun untouched => ?_
    have spared := (takes_of_commit done).spared table uuid
      fun operation member writes =>
        untouched (mem_touched_iff.mpr ⟨operation, member, writes⟩)
    rw [gone, was] at spared
    cases spared

variable (sound : before.Sound schema)

include sound

/-- A row that was written and is there is announced as it is. -/
theorem upsert_mem_told_iff {row : Row} :
    (table, .upsert row) ∈ (delta before.tables after.tables
        (touched operations)).told ↔
      (∃ operation ∈ operations, operation.Writes table row.uuid) ∧
        after.tables.row? table row.uuid = some row := by
  rw [Update.mem_told_iff, mem_changesTo_delta_iff]
  simp only [change?_eq_upsert_iff, mem_touched_iff]
  constructor
  · rintro ⟨uuid, writes, stored⟩
    have own : row.uuid = uuid := (sound.commit done).keyed _ _ row stored
    rw [own]
    exact ⟨writes, stored⟩
  · rintro ⟨writes, stored⟩
    exact ⟨row.uuid, writes, stored⟩

theorem revision_of_upsert_mem_told {row : Row}
    (told : (table, .upsert row) ∈ (delta before.tables after.tables
      (touched operations)).told) :
    row.revision = after.generation ∧
      after.generation = before.generation + 1 := by
  obtain ⟨⟨operation, member, writes⟩, stored⟩ :=
    (upsert_mem_told_iff done sound).mp told
  obtain ⟨next, stamps⟩ := revision_of_writes done member writes
  exact ⟨stamps row stored, next⟩

theorem row?_ne_of_mem_rows
    (told : (table, uuid) ∈ (delta before.tables after.tables
      (touched operations)).rows) :
    after.tables.row? table uuid ≠ before.tables.row? table uuid := by
  obtain ⟨change, listed, rfl⟩ := Update.mem_rows_iff.mp told
  cases change with
  | delete uuid =>
      obtain ⟨⟨row, was⟩, gone⟩ := (delete_mem_told_iff done).mp listed
      simp only [RowChange.uuid, was, gone]
      exact nofun
  | upsert row =>
      obtain ⟨_, stored⟩ := (upsert_mem_told_iff done sound).mp listed
      obtain ⟨revision, next⟩ := revision_of_upsert_mem_told done sound listed
      intro same
      have old := (sound.stamped table row.uuid row (same ▸ stored)).2
      omega

theorem exists_upsert_of_inserted_last {earlier later : List Operation}
    {given : SortedMap String Value}
    (listed : operations = earlier ++ .insert table uuid given :: later)
    (undeleted : .delete table uuid ∉ later) :
    ∃ row, after.tables.row? table uuid = some row ∧
      ∀ change, (table, change) ∈ (delta before.tables after.tables
          (touched operations)).told ∧ change.uuid = uuid ↔
        change = .upsert row := by
  obtain ⟨row, stored⟩ := exists_row?_of_inserted_last (listed ▸ done) undeleted
  have own : row.uuid = uuid := (sound.commit done).keyed _ _ row stored
  refine ⟨row, stored, fun change => ⟨?_, ?_⟩⟩
  · rintro ⟨told, rfl⟩
    cases change with
    | delete gone =>
        have absent := ((delete_mem_told_iff done).mp told).2
        cases stored.symm.trans absent
    | upsert other =>
        have there := ((upsert_mem_told_iff done sound).mp told).2
        cases stored.symm.trans there
        rfl
  · rintro rfl
    refine ⟨(upsert_mem_told_iff done sound).mpr ⟨?_, own ▸ stored⟩, own⟩
    refine ⟨.insert table uuid given, ?_, rfl, rfl, own.symm⟩
    simp [listed]

/-- What is announced of a commit is a delta. -/
theorem isDelta_of_commit :
    (delta before.tables after.tables (touched operations)).IsDelta operations
      before after where
  leads := by
    have committed := sound.commit done
    refine applyUpdate_delta committed.keyed
      (fun table => (sound.named table).trans (committed.named table).symm) ?_
    intro table uuid untouched
    exact (takes_of_commit done).spared table uuid
      fun operation member writes =>
        untouched (mem_touched_iff.mpr ⟨operation, member, writes⟩)
  once := Update.nodup_rows_iff.mpr
    (nodup_changesTo_delta (sound.commit done).keyed (nodup_touched operations))
  deleted := fun _ _ => delete_mem_told_iff done
  upserted := fun _ _ => upsert_mem_told_iff done sound
  revised := fun _ _ told => (revision_of_upsert_mem_told done sound told).1
  transient := by
    intro table uuid given earlier between later listed absent uninserted told
    refine row?_ne_of_mem_rows done sound told ?_
    rw [absent]
    exact row?_of_deleted_last (listed ▸ done) uninserted
  replaced := fun _ _ _ _ _ _ listed undeleted =>
    exists_upsert_of_inserted_last done sound listed undeleted
  least := fun _ leads =>
    (Update.nodup_rows_iff.mpr (nodup_changesTo_delta
      (sound.commit done).keyed (nodup_touched operations))).subperm
      fun _ told =>
        Update.mem_rows_of_row?_ne leads (row?_ne_of_mem_rows done sound told)

end Announced

end Database

namespace Server

/-- A commit that only verifies leaves the database as it is and announces
nothing.  Of any other that succeeds a server announces one update at the next
generation, which tells exactly what has become of the rows and could not tell
less. -/
theorem commit_announces_least_delta (schema : DatabaseSchema)
    (events : List Event) (operations : List Operation) (generation : Nat)
    (answered : (((ofSchema schema).run events).commit operations).1 =
      .ok generation) :
    let server := (ofSchema schema).run events
    let before := server.database
    let after := (server.commit operations).2.database
    after.generation = generation ∧
      ((∀ operation ∈ operations, operation.isVerify = true) → after = before) ∧
      ((∃ operation ∈ operations, operation.isVerify = false) →
        generation = before.generation + 1 ∧
          ∃ update, after.announcements =
              before.announcements.push ⟨generation, update⟩ ∧
            update.IsDelta operations before after) := by
  intro server before after
  have sound : server.Sound := (sound_ofSchema schema).run events
  have done := database_commit answered
  obtain rfl : after.generation = generation := generation_commit answered
  refine ⟨rfl, Database.eq_of_commit_of_isVerify done, fun writes => ?_⟩
  obtain ⟨next, announced⟩ := Database.announced_of_commit done writes
  exact ⟨next, _, announced, Database.isDelta_of_commit done sound.database⟩

/-- A row is deleted and inserted anew, another one comes and goes, and a third
is inserted and changed. -/
def entangledOperations : List Operation :=
  [.delete "NB_Global" (.ofNat 1), .insert "NB_Global" (.ofNat 1) .empty,
    .insert "NB_Global" (.ofNat 2) .empty, .delete "NB_Global" (.ofNat 2),
    .insert "Load_Balancer" (.ofNat 3) .empty,
    .mutate "Load_Balancer" (.ofNat 3) "ip_port_mappings" (.mapSet "a" "b")]

theorem entangled_commit_announces_least_delta :
    let server := (ofSchema .small).run unevenCommits
    let after := (server.commit entangledOperations).2.database
    (server.commit entangledOperations).1 = .ok 3 ∧
      ∃ update, after.announcements =
          server.database.announcements.push ⟨3, update⟩ ∧
        update.IsDelta entangledOperations server.database after ∧
        ("NB_Global", .ofNat 2) ∉ update.rows ∧
        ∃ row, ∀ change, ("NB_Global", change) ∈ update.told ∧
          change.uuid = .ofNat 1 ↔ change = .upsert row := by
  intro server after
  have answered : (server.commit entangledOperations).1 = .ok 3 := rfl
  obtain ⟨_, _, announces⟩ := commit_announces_least_delta .small unevenCommits
    entangledOperations 3 answered
  obtain ⟨_, update, announced, delta⟩ :=
    announces ⟨_, List.mem_cons_self, rfl⟩
  refine ⟨answered, update, announced, delta, ?_, ?_⟩
  · exact delta.transient "NB_Global" (.ofNat 2) .empty
      (entangledOperations.take 2) [] (entangledOperations.drop 4) rfl
      (by decide) (by simp [entangledOperations])
  · obtain ⟨row, _, only⟩ := delta.replaced "NB_Global" (.ofNat 1) .empty [] []
      (entangledOperations.drop 2) rfl (by decide)
    exact ⟨row, only⟩

end Server

end OvsdbClient
