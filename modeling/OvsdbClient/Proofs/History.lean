import OvsdbClient.Proofs.Delta

/-!
# Histories of a database

The announcements of a database tell its whole history: applied in order to the
empty tables, the first of them lead to the tables as they were at that
generation.  Every row is still what it was when it got its revision.
-/

namespace OvsdbClient

namespace Database

variable {schema : DatabaseSchema} {database : Database}
  {operations : List Operation}

/-- The tables that the first announcements lead to. -/
def tablesAt (schema : DatabaseSchema) (announcements : List Announcement)
    (count : Nat) : Tables :=
  (announcements.take count).foldl
    (fun tables announcement => tables.applyUpdate announcement.update)
    (ofSchema schema).tables

theorem tablesAt_succ {announcements : List Announcement} {count : Nat}
    {announcement : Announcement}
    (next : announcements[count]? = some announcement) :
    tablesAt schema announcements (count + 1) =
      (tablesAt schema announcements count).applyUpdate
        announcement.update := by
  unfold tablesAt
  rw [List.take_add_one, next]
  simp

theorem contains_tablesAt (announcements : List Announcement) (count : Nat)
    (table : String) :
    (tablesAt schema announcements count).contains table =
      schema.hasTable table := by
  unfold tablesAt
  generalize announcements.take count = told
  have start : (ofSchema schema).tables.contains table =
      schema.hasTable table := SortedMap.contains_mapValues _ _ table
  rw [← start]
  generalize (ofSchema schema).tables = tables
  induction told generalizing tables with
  | nil => rfl
  | cons announcement told induction =>
      rw [List.foldl_cons, induction, Tables.contains_applyUpdate]

theorem tablesAt_of_grown {earlier later : List Announcement} {count : Nat}
    (grown : earlier <+: later) (known : count ≤ earlier.length) :
    tablesAt schema later count = tablesAt schema earlier count := by
  obtain ⟨others, rfl⟩ := grown
  unfold tablesAt
  rw [List.take_append_of_le_length known]

/-- What holds of the tables and announcements of a database however it came
about. -/
structure Sound (schema : DatabaseSchema) (database : Database) : Prop where
  counted : database.announcements.toList.length = database.generation
  numbered : ∀ index announcement,
    database.announcements.toList[index]? = some announcement →
      announcement.generation = index + 1
  told : tablesAt schema database.announcements.toList database.generation =
    database.tables
  named : database.tables.Named schema
  keyed : database.tables.Keyed
  complete : database.tables.Complete schema
  /-- Nothing is announced about tables that are not there. -/
  confined : ∀ announcement ∈ database.announcements.toList, ∀ table,
    schema.hasTable table = false → announcement.update.changesTo table = []
  stamped : ∀ table uuid row, database.tables.row? table uuid = some row →
    1 ≤ row.revision ∧ row.revision ≤ database.generation
  /-- A row is what it was when it got its revision. -/
  fresh : ∀ table uuid row, database.tables.row? table uuid = some row →
    (tablesAt schema database.announcements.toList row.revision).row?
      table uuid = some row

theorem row?_ofSchema (table : String) (uuid : Uuid) :
    (ofSchema schema).tables.row? table uuid = none := by
  simp only [ofSchema, Tables.row?, SortedMap.get?_mapValues]
  cases schema.tables.get? table <;> rfl

theorem sound_ofSchema : Sound schema (ofSchema schema) where
  counted := rfl
  numbered := by
    intro index announcement found
    cases found
  told := rfl
  named := fun table => SortedMap.contains_mapValues schema.tables _ table
  keyed := by
    intro table uuid row stored
    rw [row?_ofSchema] at stored
    cases stored
  complete := by
    intro table shape uuid row _ stored
    rw [row?_ofSchema] at stored
    cases stored
  confined := by
    intro announcement member
    cases member
  stamped := by
    intro table uuid row stored
    rw [row?_ofSchema] at stored
    cases stored
  fresh := by
    intro table uuid row stored
    rw [row?_ofSchema] at stored
    cases stored

/-! ## Commits -/

/-- A commit leaves the database as it is or advances it. -/
theorem commit_eq_ok_iff {after : Database} :
    database.commit schema operations = .ok after ↔
      ∃ staged, stage schema database.tables operations = .ok staged ∧
        after = if touched operations = [] then database
          else database.advance staged (touched operations) := by
  unfold commit
  rw [bind_eq_ok_iff]
  refine exists_congr fun staged => and_congr Iff.rfl ?_
  by_cases idle : touched operations = []
  · simp [idle, pure_eq_ok_iff]
  · simp [idle, pure_eq_ok_iff]

theorem row?_advance (database : Database) (staged : Tables)
    (rows : List (String × Uuid)) (table : String) (uuid : Uuid) :
    (database.advance staged rows).tables.row? table uuid =
      if (table, uuid) ∈ rows then
        (staged.row? table uuid).map fun stored =>
          { stored with revision := database.generation + 1 }
      else staged.row? table uuid :=
  row?_foldl_stamp (database.generation + 1) staged rows

theorem announcements_advance (database : Database) (staged : Tables)
    (rows : List (String × Uuid)) :
    (database.advance staged rows).announcements.toList =
      database.announcements.toList ++
        [⟨database.generation + 1,
          delta database.tables (database.advance staged rows).tables rows⟩] :=
  Array.toList_push

private theorem row?_advance_cases {staged : Tables} {table : String}
    {uuid : Uuid} {row : Row}
    (staging : stage schema database.tables operations = .ok staged)
    (stored : (database.advance staged (touched operations)).tables.row?
      table uuid = some row) :
    row.revision = database.generation + 1 ∨
      database.tables.row? table uuid = some row := by
  rw [row?_advance] at stored
  split at stored
  case isTrue =>
    obtain ⟨old, _, rfl⟩ := Option.map_eq_some_iff.mp stored
    exact .inl rfl
  case isFalse untouched =>
    rw [row?_stage_of_not_mem_touched untouched staging] at stored
    exact .inr stored

theorem Sound.advance {staged : Tables} (sound : Sound schema database)
    (staging : stage schema database.tables operations = .ok staged) :
    Sound schema (database.advance staged (touched operations)) := by
  let after := database.advance staged (touched operations)
  have announced := announcements_advance database staged (touched operations)
  have grown : database.announcements.toList <+:
      after.announcements.toList := ⟨_, announced.symm⟩
  have named : after.tables.Named schema := fun table =>
    (contains_foldl_stamp _ staged _ table).trans
      (stage_named sound.named staging table)
  have keyed : after.tables.Keyed := by
    intro table uuid row stored
    rw [row?_advance] at stored
    split at stored
    case isTrue =>
      obtain ⟨old, found, rfl⟩ := Option.map_eq_some_iff.mp stored
      exact stage_keyed sound.keyed staging table uuid old found
    case isFalse =>
      exact stage_keyed sound.keyed staging table uuid row stored
  have complete : after.tables.Complete schema := by
    intro table shape uuid row known stored
    rw [row?_advance] at stored
    have staged := stage_complete sound.complete staging
    split at stored
    case isTrue =>
      obtain ⟨old, found, rfl⟩ := Option.map_eq_some_iff.mp stored
      exact staged table shape uuid old known found
    case isFalse =>
      exact staged table shape uuid row known stored
  have told : tablesAt schema after.announcements.toList
      (database.generation + 1) = after.tables := by
    have next : after.announcements.toList[database.generation]? =
        some ⟨database.generation + 1,
          delta database.tables after.tables (touched operations)⟩ := by
      rw [announced, ← sound.counted]
      exact List.getElem?_concat_length
    rw [tablesAt_succ next,
      tablesAt_of_grown grown (Nat.le_of_eq sound.counted.symm), sound.told]
    refine applyUpdate_delta keyed
      (fun table => (sound.named table).trans (named table).symm) ?_
    intro table uuid untouched
    rw [row?_advance, if_neg untouched]
    exact row?_stage_of_not_writes (fun operation member writes =>
      untouched (mem_touched_iff.mpr ⟨operation, member, writes⟩)) staging
  refine
    { counted := ?_, numbered := ?_, told := told, named := named
      keyed := keyed, complete := complete, confined := ?_, stamped := ?_
      fresh := ?_ }
  · rw [announced, List.length_append, sound.counted]
    rfl
  · intro index announcement found
    rw [announced, List.getElem?_append] at found
    split at found
    case isTrue => exact sound.numbered index announcement found
    case isFalse new =>
      obtain ⟨last, rfl⟩ := List.getElem?_eq_some_iff.mp found
      simp only [List.length_singleton, sound.counted] at new last
      simp only [List.getElem_singleton]
      omega
  · intro announcement member table unknown
    rw [announced, List.mem_append, List.mem_singleton] at member
    rcases member with old | rfl
    · exact sound.confined announcement old table unknown
    · exact changesTo_delta_of_absent ((sound.named table).trans unknown)
        ((named table).trans unknown)
  · intro table uuid row stored
    rcases row?_advance_cases staging stored with new | old
    · exact ⟨by omega, Nat.le_of_eq new⟩
    · obtain ⟨low, high⟩ := sound.stamped table uuid row old
      exact ⟨low, Nat.le_succ_of_le high⟩
  · intro table uuid row stored
    rcases row?_advance_cases staging stored with new | old
    · rw [new, told]
      exact stored
    · have high := (sound.stamped table uuid row old).2
      rw [tablesAt_of_grown grown (sound.counted.symm ▸ high)]
      exact sound.fresh table uuid row old

theorem Sound.commit {after : Database} (sound : Sound schema database)
    (done : database.commit schema operations = .ok after) :
    Sound schema after := by
  obtain ⟨staged, staging, rfl⟩ := commit_eq_ok_iff.mp done
  split
  · exact sound
  · exact sound.advance staging

theorem announcements_commit {after : Database}
    (done : database.commit schema operations = .ok after) :
    database.announcements.toList <+: after.announcements.toList := by
  obtain ⟨staged, _, rfl⟩ := commit_eq_ok_iff.mp done
  split
  · exact List.prefix_rfl
  · exact ⟨_, (announcements_advance database staged _).symm⟩

theorem columns?_commit {after : Database} {staged : Tables}
    (staging : stage schema database.tables operations = .ok staged)
    (done : database.commit schema operations = .ok after) (table : String)
    (uuid : Uuid) :
    after.tables.columns? table uuid = staged.columns? table uuid := by
  unfold Tables.columns?
  obtain ⟨found, again, rfl⟩ := commit_eq_ok_iff.mp done
  cases again.symm.trans staging
  split
  case isTrue idle =>
    have untouched : (table, uuid) ∉ touched operations := by simp [idle]
    rw [row?_stage_of_not_mem_touched untouched staging]
  case isFalse =>
    rw [row?_advance]
    split
    · cases staged.row? table uuid <;> rfl
    · rfl

theorem columns_commit {after : Database} {staged : Tables}
    (staging : stage schema database.tables operations = .ok staged)
    (done : database.commit schema operations = .ok after) (table : String)
    (uuid : Uuid) (column : String) :
    (after.tables.row? table uuid).map (·.get? column) =
      (staged.row? table uuid).map (·.get? column) := by
  have same := congrArg (Option.map (·.get? column))
    (columns?_commit staging done table uuid)
  unfold Tables.columns? at same
  rw [Option.map_map, Option.map_map] at same
  exact same

/-- A row after a commit has the new generation as its revision, or is the row
from before. -/
theorem row?_commit_cases {after : Database} {table : String} {uuid : Uuid}
    {row : Row} (done : database.commit schema operations = .ok after)
    (stored : after.tables.row? table uuid = some row) :
    (row.revision = after.generation ∧
        after.generation = database.generation + 1) ∨
      database.tables.row? table uuid = some row := by
  obtain ⟨staged, staging, rfl⟩ := commit_eq_ok_iff.mp done
  split at stored
  case isTrue => exact .inr stored
  case isFalse changed =>
    rw [if_neg changed]
    exact (row?_advance_cases staging stored).imp_left fun new => ⟨new, rfl⟩

/-- A row that a commit wrote has the new generation as its revision. -/
theorem revision_of_writes {after : Database} {operation : Operation}
    {table : String} {uuid : Uuid}
    (done : database.commit schema operations = .ok after)
    (member : operation ∈ operations) (writes : operation.Writes table uuid) :
    after.generation = database.generation + 1 ∧
      ∀ row, after.tables.row? table uuid = some row →
        row.revision = after.generation := by
  obtain ⟨staged, staging, rfl⟩ := commit_eq_ok_iff.mp done
  have touches : (table, uuid) ∈ touched operations :=
    mem_touched_iff.mpr ⟨operation, member, writes⟩
  rw [if_neg (List.ne_nil_of_mem touches)]
  refine ⟨rfl, fun row stored => ?_⟩
  rw [row?_advance, if_pos touches] at stored
  obtain ⟨old, _, rfl⟩ := Option.map_eq_some_iff.mp stored
  rfl

/-- A verified revision is that of the row before the transaction, wherever in
it the row is verified. -/
theorem commit_verified {after : Database} {table : String} {uuid : Uuid}
    {revision : Nat} (done : database.commit schema operations = .ok after)
    (member : .verify table uuid revision ∈ operations)
    (committed : 1 ≤ revision) :
    schema.hasTable table = true ∧
      ∃ row, database.tables.row? table uuid = some row ∧
        row.revision = revision := by
  obtain ⟨staged, staging, _⟩ := commit_eq_ok_iff.mp done
  obtain ⟨earlier, later, rfl⟩ := List.append_of_mem member
  obtain ⟨next, first, rest⟩ := stage_append_eq_ok_iff.mp staging
  obtain ⟨_, verified, _⟩ := stage_cons_eq_ok_iff.mp rest
  obtain ⟨shape, _, known, onRow, _⟩ := Operation.apply_eq_ok_iff.mp verified
  obtain ⟨row, present, same, _⟩ := Operation.onRow_verify_eq_ok_iff.mp onRow
  refine ⟨SortedMap.contains_eq_true_iff.mpr ⟨shape, known⟩, ?_⟩
  rcases stage_revision first present with unset | ⟨old, stored, equal⟩
  · omega
  · exact ⟨old, stored, equal.trans same⟩

end Database

end OvsdbClient
