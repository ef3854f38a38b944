import Mathlib.Data.List.DropRight
import Mathlib.Data.List.Nodup
import OvsdbClient.Proofs.Following

/-!
# What a replica holds

A replica holds of its tables what was last said of each row: by the last change
that is about the row, or else by the last snapshot, unless it was cleared since
then.  Which tables these are does not depend on what it was told.  All that can
be read of it is read off the same rows.
-/

namespace OvsdbClient

namespace Tables

variable {tables : Tables} {table : String} {row : Row}

theorem mem_rows_iff (keyed : tables.Keyed) :
    row ∈ tables.rows table ↔ tables.row? table row.uuid = some row := by
  have stored : row ∈ tables.rows table ↔
      ∃ uuid, tables.row? table uuid = some row := by
    unfold rows row?
    rw [SortedMap.mem_values_iff]
    cases tables.get? table <;> rfl
  refine stored.trans ⟨?_, fun here => ⟨row.uuid, here⟩⟩
  rintro ⟨uuid, here⟩
  rw [keyed table uuid row here]
  exact here

theorem nodup_rows (keyed : tables.Keyed) (table : String) :
    (tables.rows table).Nodup := by
  unfold rows
  cases found : tables.get? table with
  | none => exact List.nodup_nil
  | some stored =>
      have uuids : stored.values.map (·.uuid) = stored.keys := by
        rw [SortedMap.values, SortedMap.keys, List.map_map]
        refine List.map_congr_left fun entry member => ?_
        refine keyed table entry.1 entry.2 ?_
        simp [row?, found, SortedMap.get?_of_mem_toList member]
      exact List.Nodup.of_map (·.uuid) (uuids ▸ stored.nodup_keys)

end Tables

namespace Replica

/-! ## Calls that change a replica -/

inductive Call where
  | apply (update : Update)
  | reset (snapshot : SortedMap String (List Row))
  | clear
deriving DecidableEq, Inhabited

def call (replica : Replica) : Call → Replica
  | .apply update => replica.apply update
  | .reset snapshot => replica.reset snapshot
  | .clear => replica.clear

def run (replica : Replica) (calls : List Call) : Replica :=
  calls.foldl call replica

namespace Call

def refills : Call → Bool
  | .apply _ => false
  | _ => true

def brings : Call → Bool
  | .clear => false
  | _ => true

/-- The changes that a call makes to single rows of a table, in order. -/
def changesTo (table : String) : Call → List RowChange
  | .apply update => update.changesTo table
  | _ => []

/-- The row with an identifier that a call puts in the place of what it drops;
the last one, if a snapshot lists several. -/
def filled? (table : String) (uuid : Uuid) : Call → Option Row
  | .reset snapshot =>
      (((snapshot.get? table).getD []).filter fun row =>
        row.uuid = uuid).getLast?
  | _ => none

end Call

/-- The last change to a row among the calls since the last one that dropped all
rows. -/
def lastChange? (calls : List Call) (table : String) (uuid : Uuid) :
    Option RowChange :=
  (((calls.rtakeWhile fun call => !call.refills).flatMap
    (·.changesTo table)).filter fun change => change.uuid = uuid).getLast?

/-- The row that the last call that dropped all rows put there. -/
def lastFilled? (calls : List Call) (table : String) (uuid : Uuid) :
    Option Row :=
  (calls.filter (·.refills)).getLast?.bind (·.filled? table uuid)

/-- The row that calls leave at an identifier of a table. -/
def written? (calls : List Call) (table : String) (uuid : Uuid) : Option Row :=
  (lastChange? calls table uuid).elim (lastFilled? calls table uuid)
    RowChange.left

variable {replica : Replica} {names : List String} {calls : List Call}
  {table : String} {uuid : Uuid}

theorem run_concat (replica : Replica) (calls : List Call)
    (call : Call) :
    replica.run (calls ++ [call]) = (replica.run calls).call call :=
  List.foldl_append

theorem written?_concat (calls : List Call) (call : Call) (table : String)
    (uuid : Uuid) :
    written? (calls ++ [call]) table uuid =
      if call.refills then call.filled? table uuid
      else ((call.changesTo table).filter fun change =>
        change.uuid = uuid).getLast?.elim (written? calls table uuid)
          RowChange.left := by
  unfold written? lastChange? lastFilled?
  cases refills : call.refills with
  | true =>
      -- No change counts that came before the rows were dropped.
      rw [List.rtakeWhile_concat_neg _ _ _ (by simp [refills])]
      simp [refills]
  | false =>
      rw [List.rtakeWhile_concat_pos _ _ _ (by simp [refills])]
      simp only [List.flatMap_append, List.flatMap_singleton,
        List.filter_append, List.getLast?_append, List.filter_singleton,
        refills]
      cases ((call.changesTo table).filter fun change =>
        change.uuid = uuid).getLast? <;> rfl

theorem uuid_of_written? {row : Row}
    (written : written? calls table uuid = some row) : row.uuid = uuid := by
  unfold written? at written
  cases last : lastChange? calls table uuid with
  | some change =>
      rw [last] at written
      have about := (List.mem_filter.mp (List.mem_of_getLast? last)).2
      cases change with
      | upsert row =>
          cases written
          exact of_decide_eq_true about
      | delete uuid => cases written
  | none =>
      rw [last] at written
      obtain ⟨call, _, filled⟩ := Option.bind_eq_some_iff.mp written
      cases call with
      | reset snapshot =>
          have about := (List.mem_filter.mp (List.mem_of_getLast? filled)).2
          exact of_decide_eq_true about
      | apply update => cases filled
      | clear => cases filled

/-! ## One call and a run of them -/

@[simp] theorem hasTable_call (replica : Replica) (call : Call)
    (table : String) :
    (replica.call call).hasTable table = replica.hasTable table := by
  cases call with
  | apply update =>
      exact Tables.contains_applyUpdate replica.tables update table
  | reset snapshot => exact SortedMap.contains_mapValues replica.tables _ table
  | clear => exact SortedMap.contains_mapValues replica.tables _ table

/-- A call leaves of a row what it puts there, or the last of its changes, or
what there was. -/
theorem get?_call (replica : Replica) (call : Call) (table : String)
    (uuid : Uuid) :
    (replica.call call).get? table uuid =
      if replica.hasTable table then
        if call.refills then call.filled? table uuid
        else ((call.changesTo table).filter fun change =>
          change.uuid = uuid).getLast?.elim (replica.get? table uuid)
            RowChange.left
      else none := by
  unfold hasTable get? SortedMap.contains
  cases call with
  | apply update =>
      refine (Tables.row?_applyUpdate replica.tables update table uuid).trans ?_
      unfold Tables.row?
      cases replica.tables.get? table with
      | none => rfl
      | some rows => exact RowChange.get?_applyAll _ rows uuid
  | reset snapshot =>
      simp only [Replica.call, reset, Tables.row?, SortedMap.get?_mapValues]
      cases replica.tables.get? table with
      | none => rfl
      | some rows =>
          refine (SortedMap.get?_insertAll _ _ uuid).trans ?_
          simp [List.filter_map, Function.comp_def, Call.filled?, Call.refills]
  | clear =>
      simp only [Replica.call, clear, Tables.row?, SortedMap.get?_mapValues]
      cases replica.tables.get? table <;> rfl

theorem get?_ofTables (names : List String) (table : String) (uuid : Uuid) :
    (ofTables names).get? table uuid = none := by
  refine Option.bind_eq_none_iff.mpr fun rows found => ?_
  have listed := (SortedMap.get?_insertAll .empty _ table).symm.trans found
  rw [SortedMap.get?_empty, Option.or_none] at listed
  obtain ⟨entry, last, rfl⟩ := Option.map_eq_some_iff.mp listed
  obtain ⟨member, _⟩ := List.mem_filter.mp (List.mem_of_getLast? last)
  obtain ⟨name, _, rfl⟩ := List.mem_map.mp member
  rfl

@[simp] theorem hasTable_run (replica : Replica) (calls : List Call)
    (table : String) :
    (replica.run calls).hasTable table = replica.hasTable table := by
  induction calls using List.reverseRecOn with
  | nil => rfl
  | append_singleton calls call induction =>
      rw [run_concat, hasTable_call, induction]

/-- The rows of a replica are those that were last written. -/
theorem get?_run (names : List String) (calls : List Call) (table : String)
    (uuid : Uuid) :
    ((ofTables names).run calls).get? table uuid =
      if table ∈ names then written? calls table uuid else none := by
  induction calls using List.reverseRecOn with
  | nil =>
      refine (get?_ofTables names table uuid).trans ?_
      split <;> rfl
  | append_singleton calls call induction =>
      rw [run_concat, get?_call, hasTable_run, written?_concat, induction]
      simp only [hasTable_ofTables_iff]
      split <;> rfl

theorem keyed_run (names : List String) (calls : List Call) :
    ((ofTables names).run calls).tables.Keyed := by
  intro table uuid row stored
  have read := (get?_run names calls table uuid).symm.trans stored
  split at read
  case isTrue => exact uuid_of_written? read
  case isFalse => cases read

theorem seqno_run (replica : Replica) (calls : List Call) :
    (replica.run calls).seqno = replica.seqno + calls.countP (·.brings) := by
  induction calls using List.reverseRecOn with
  | nil => rfl
  | append_singleton calls call induction =>
      rw [run_concat, List.countP_append, ← Nat.add_assoc, ← induction]
      cases call <;> rfl

/-! ## Reading -/

/-- A replica of the named tables reads as the map that tells which row there is
of them at an identifier. -/
structure ReadsAs (replica : Replica) (names : List String)
    (stored : String → Uuid → Option Row) : Prop where
  copied : ∀ table, replica.hasTable table = true ↔ table ∈ names
  get? : ∀ table uuid, replica.get? table uuid =
    if table ∈ names then stored table uuid else none
  /-- Every row is stored at its own identifier. -/
  keyed : replica.tables.Keyed
  rows? : ∀ table, replica.rows? table =
    if table ∈ names then some (replica.rows table) else none
  once : ∀ table, (replica.rows table).Nodup
  rows : ∀ table row, row ∈ replica.rows table ↔
    table ∈ names ∧ stored table row.uuid = some row
  size : ∀ table, replica.size table = (replica.rows table).length
  findOnce : ∀ table accept, (replica.find table accept).Nodup
  find : ∀ table accept row, row ∈ replica.find table accept ↔
    row ∈ replica.rows table ∧ accept row = true
  findFirst? : ∀ table accept,
    (∀ row, replica.findFirst? table accept = some row →
      row ∈ replica.rows table ∧ accept row = true) ∧
    (replica.findFirst? table accept = none ↔
      ∀ row ∈ replica.rows table, accept row = false)
  first? : ∀ table,
    (∀ row, replica.first? table = some row → row ∈ replica.rows table) ∧
    (replica.first? table = none ↔ ∀ row, row ∉ replica.rows table)
  /-- Nothing is stored for other tables. -/
  absent : ∀ table, table ∉ names → replica.tables.get? table = none

theorem readsAs_of_get? {stored : String → Uuid → Option Row}
    (copied : ∀ table, replica.hasTable table = true ↔ table ∈ names)
    (keyed : replica.tables.Keyed)
    (reads : ∀ table uuid, replica.get? table uuid =
      if table ∈ names then stored table uuid else none) :
    replica.ReadsAs names stored where
  copied := copied
  get? := reads
  keyed := keyed
  rows? := by
    intro table
    simp only [← copied, Replica.rows?, Replica.rows, Tables.rows, hasTable,
      SortedMap.contains]
    cases replica.tables.get? table <;> rfl
  once := Tables.nodup_rows keyed
  rows := by
    intro table row
    have read := reads table row.uuid
    unfold Replica.get? at read
    rw [Replica.rows, Tables.mem_rows_iff keyed, read]
    split <;> simp [*]
  size := fun _ => rfl
  findOnce := fun table accept => (Tables.nodup_rows keyed table).filter accept
  find := fun _ _ _ => List.mem_filter
  findFirst? := fun _ _ =>
    ⟨fun _ found =>
      ⟨List.mem_of_find?_eq_some found, List.find?_some found⟩, by
      simp [Replica.findFirst?]⟩
  first? := fun _ =>
    ⟨fun _ found => List.mem_of_head? found, by
      simp [Replica.first?, List.eq_nil_iff_forall_not_mem]⟩
  absent := by
    intro table unlisted
    rw [← copied] at unlisted
    exact Option.not_isSome_iff_eq_none.mp unlisted

/-- Whatever is called on a replica, it has the tables that it was made for, and
in them the rows that were last written.  It counts the updates and snapshots
that it was given. -/
theorem run_readsAs_last_writes (names : List String) (calls : List Call) :
    let replica := (ofTables names).run calls
    replica.ReadsAs names (written? calls) ∧
      replica.seqno = calls.countP (·.brings) := by
  refine ⟨readsAs_of_get? (fun table => ?_) (keyed_run names calls)
    (get?_run names calls), ?_⟩
  · rw [hasTable_run]
    exact hasTable_ofTables_iff
  · rw [seqno_run]
    exact Nat.zero_add _

/-- A snapshot lists a row twice and names a table that is not copied; then the
row is changed, removed, and changed again, while the other one stays. -/
example :
    let row := fun number revision => Row.mk (.ofNat number) revision .empty
    let calls := [.apply [⟨"a", [.upsert (row 3 1)]⟩],
      .reset (.ofList [("a", [row 1 2, row 2 2, row 1 3]), ("b", [row 1 2])]),
      .apply [⟨"a", [.upsert (row 1 4), .delete (.ofNat 1)]⟩,
        ⟨"b", [.upsert (row 4 4)]⟩, ⟨"a", [.upsert (row 1 5)]⟩]]
    written? calls "a" (.ofNat 1) = some (row 1 5) ∧
      written? (calls.take 2) "a" (.ofNat 1) = some (row 1 3) ∧
      ((ofTables ["a"]).run calls).rows "a" = [row 1 5, row 2 2] ∧
      ((ofTables ["a"]).run calls).rows? "b" = none ∧
      ((ofTables ["a"]).run (calls ++ [.clear])).rows "a" = [] := by
  decide

end Replica

end OvsdbClient
