import OvsdbClient.Proofs.Staging

/-!
# Updates as differences of tables

An update acts on each table by itself, and there on each row by the changes
that are about it.  The update that a commit announces therefore turns the old
tables into the new ones, if nothing else was changed.
-/

namespace OvsdbClient

namespace RowChange

/-- What a change leaves at the identifier that it is about. -/
def left : RowChange → Option Row
  | .upsert row => some row
  | .delete _ => none

theorem get?_apply (change : RowChange) (rows : SortedMap Uuid Row)
    (uuid : Uuid) :
    (change.apply rows).get? uuid =
      if change.uuid = uuid then change.left else rows.get? uuid := by
  cases change with
  | upsert row => exact SortedMap.get?_insert rows row.uuid uuid row
  | delete erased => exact SortedMap.get?_erase rows erased uuid

def applyAll (changes : List RowChange) (rows : SortedMap Uuid Row) :
    SortedMap Uuid Row :=
  changes.foldl (fun rows change => change.apply rows) rows

theorem applyAll_nil : applyAll [] = id :=
  rfl

theorem applyAll_append (first second : List RowChange) :
    applyAll (first ++ second) = applyAll second ∘ applyAll first :=
  funext fun _ => List.foldl_append

/-- Of the changes about a row, the last one says what there is of it. -/
theorem get?_applyAll (changes : List RowChange) (rows : SortedMap Uuid Row)
    (uuid : Uuid) :
    (applyAll changes rows).get? uuid =
      (changes.filter fun change => change.uuid = uuid).getLast?.elim
        (rows.get? uuid) left := by
  induction changes generalizing rows with
  | nil => rfl
  | cons change changes induction =>
      refine (induction (change.apply rows)).trans ?_
      rw [get?_apply]
      by_cases same : change.uuid = uuid
      · simp only [same, List.filter_cons, decide_true, if_true,
          List.getLast?_cons]
        cases (changes.filter fun change => change.uuid = uuid).getLast? <;> rfl
      · simp [same]

theorem get?_applyAll_of_absent {changes : List RowChange}
    (rows : SortedMap Uuid Row) {uuid : Uuid}
    (absent : ∀ change ∈ changes, change.uuid ≠ uuid) :
    (applyAll changes rows).get? uuid = rows.get? uuid := by
  have none : changes.filter (fun change => change.uuid = uuid) = [] :=
    List.filter_eq_nil_iff.mpr (by simpa using absent)
  rw [get?_applyAll, none]
  rfl

theorem get?_applyAll_of_mem {changes : List RowChange}
    (rows : SortedMap Uuid Row) {uuid : Uuid} {left : Option Row}
    (some : ∃ change ∈ changes, change.uuid = uuid)
    (agree : ∀ change ∈ changes, change.uuid = uuid → change.left = left) :
    (applyAll changes rows).get? uuid = left := by
  rw [get?_applyAll]
  cases last : (changes.filter fun change => change.uuid = uuid).getLast? with
  | none =>
      obtain ⟨change, member, same⟩ := some
      have untold := List.filter_eq_nil_iff.mp
        (List.getLast?_eq_none_iff.mp last) change member
      exact absurd (decide_eq_true same) untold
  | some change =>
      obtain ⟨member, same⟩ :=
        List.mem_filter.mp (List.mem_of_getLast? last)
      exact agree change member (of_decide_eq_true same)

end RowChange

namespace Update

def changesTo (update : Update) (table : String) : List RowChange :=
  (update.filter fun part => part.table = table).flatMap (·.changes)

end Update

namespace Tables

theorem get?_applyUpdate (tables : Tables) (update : Update) (table : String) :
    (tables.applyUpdate update).get? table =
      (tables.get? table).map
        (RowChange.applyAll (update.changesTo table)) := by
  induction update generalizing tables with
  | nil => simp [applyUpdate, Update.changesTo, RowChange.applyAll_nil]
  | cons part update induction =>
      have rest := induction (tables.change part)
      simp only [applyUpdate, List.foldl_cons] at rest ⊢
      rw [rest, change, SortedMap.get?_modify]
      by_cases same : part.table = table
      · have parts : Update.changesTo (part :: update) table =
            part.changes ++ Update.changesTo update table := by
          simp [Update.changesTo, same]
        rw [if_pos same, parts, RowChange.applyAll_append, Option.map_map]
        rfl
      · simp [Update.changesTo, same]

@[simp] theorem contains_applyUpdate (tables : Tables) (update : Update)
    (table : String) :
    (tables.applyUpdate update).contains table = tables.contains table := by
  simp [SortedMap.contains, get?_applyUpdate]

theorem row?_applyUpdate (tables : Tables) (update : Update) (table : String)
    (uuid : Uuid) :
    (tables.applyUpdate update).row? table uuid =
      (tables.get? table).bind fun rows =>
        (RowChange.applyAll (update.changesTo table) rows).get? uuid := by
  simp only [row?, get?_applyUpdate]
  cases tables.get? table <;> rfl

end Tables

namespace Database

/-- The changes that are told about the listed rows of a table. -/
private def changesOf (before after : Tables) (rows : List (String × Uuid))
    (table : String) : List RowChange :=
  rows.filterMap fun row =>
    if row.1 = table then change? before after row.1 row.2 else none

private theorem get?_grouped (changes : List (String × RowChange))
    (grouped : SortedMap String (List RowChange)) (table : String) :
    ((changes.foldl (fun grouped (change : String × RowChange) =>
        grouped.insert change.1
          (((grouped.get? change.1).getD []) ++ [change.2])) grouped).get?
        table).getD [] =
      (grouped.get? table).getD [] ++
        (changes.filter fun change => change.1 = table).map (·.2) := by
  induction changes generalizing grouped with
  | nil => simp
  | cons change changes induction =>
      rw [List.foldl_cons, induction, SortedMap.get?_insert]
      by_cases same : change.1 = table
      · simp [same]
      · simp [same]

private theorem filter_changes (before after : Tables)
    (rows : List (String × Uuid)) (table : String) :
    ((rows.filterMap fun row =>
        (change? before after row.1 row.2).map (row.1, ·)).filter
        fun change => change.1 = table).map (·.2) =
      changesOf before after rows table := by
  unfold changesOf
  induction rows with
  | nil => rfl
  | cons row rows induction =>
      rw [List.filterMap_cons, List.filterMap_cons, ← induction]
      by_cases same : row.1 = table
      · cases change? before after row.1 row.2 <;> simp [same]
      · cases change? before after row.1 row.2 <;> simp [same]

theorem changesTo_delta (before after : Tables) (rows : List (String × Uuid))
    (table : String) :
    (delta before after rows).changesTo table =
      changesOf before after rows table := by
  have single : ∀ found : Option (List RowChange),
      ((found.map fun changes => (table, changes)).toList.map
        fun entry => TableUpdate.mk entry.1 entry.2).flatMap (·.changes) =
        found.getD [] := by
    intro found
    cases found <;> simp
  have grouped := get?_grouped
    (rows.filterMap fun row =>
      (change? before after row.1 row.2).map (row.1, ·)) .empty table
  simp only [SortedMap.get?_empty, Option.getD_none, List.nil_append]
    at grouped
  simp only [delta, Update.changesTo, List.filter_map, Function.comp_def]
  rw [SortedMap.filter_toList_eq]
  exact (single _).trans
    (grouped.trans (filter_changes before after rows table))

theorem mem_changesTo_delta_iff {before after : Tables}
    {rows : List (String × Uuid)} {table : String} {change : RowChange} :
    change ∈ (delta before after rows).changesTo table ↔
      ∃ uuid, (table, uuid) ∈ rows ∧
        change? before after table uuid = some change := by
  simp only [changesTo_delta, changesOf, List.mem_filterMap, Prod.exists]
  constructor
  · rintro ⟨named, uuid, listed, told⟩
    split at told
    case isFalse => cases told
    case isTrue same =>
      cases same
      exact ⟨uuid, listed, told⟩
  · rintro ⟨uuid, listed, told⟩
    exact ⟨table, uuid, listed, (if_pos rfl).trans told⟩

theorem uuid_of_change? {before after : Tables} {table : String} {uuid : Uuid}
    {change : RowChange} (keyed : after.Keyed)
    (told : change? before after table uuid = some change) :
    change.uuid = uuid := by
  unfold change? at told
  split at told
  case h_1 row found =>
    cases told
    exact keyed table uuid row found
  case h_2 =>
    split at told
    case isTrue =>
      cases told
      rfl
    case isFalse => cases told

/-- Of rows that are listed once each, one thing is told at most. -/
theorem nodup_changesTo_delta {before after : Tables}
    {rows : List (String × Uuid)} (keyed : after.Keyed) (once : rows.Nodup)
    (table : String) :
    (((delta before after rows).changesTo table).map (·.uuid)).Nodup := by
  rw [changesTo_delta, changesOf, List.Nodup, List.pairwise_map,
    List.pairwise_filterMap]
  refine once.imp ?_
  rintro ⟨first, uuid⟩ ⟨second, another⟩ differ change told other toldToo same
  split at told
  case isFalse => cases told
  case isTrue here =>
    split at toldToo
    case isFalse => cases toldToo
    case isTrue there =>
      have uuids : uuid = another := (uuid_of_change? keyed told).symm.trans
        (same.trans (uuid_of_change? keyed toldToo))
      exact differ (Prod.ext (here.trans there.symm) uuids)

theorem changesTo_delta_of_absent {before after : Tables}
    {rows : List (String × Uuid)} {table : String}
    (wasAbsent : before.contains table = false)
    (isAbsent : after.contains table = false) :
    (delta before after rows).changesTo table = [] := by
  have none : ∀ {tables : Tables}, tables.contains table = false →
      ∀ uuid, tables.row? table uuid = none := by
    intro tables absent uuid
    cases stored : tables.row? table uuid with
    | none => rfl
    | some row =>
        rw [Tables.contains_of_row? stored] at absent
        cases absent
  rw [changesTo_delta]
  refine List.eq_nil_iff_forall_not_mem.mpr fun change listed => ?_
  obtain ⟨row, _, told⟩ := List.mem_filterMap.mp listed
  split at told
  case isFalse => cases told
  case isTrue same =>
    simp [change?, same, none wasAbsent, none isAbsent] at told

private theorem changesOf_agree {before after : Tables}
    {rows : List (String × Uuid)} {table : String} {change : RowChange}
    (keyed : after.Keyed)
    (listed : change ∈ changesOf before after rows table) :
    change.left = after.row? table change.uuid := by
  obtain ⟨⟨named, uuid⟩, member, told⟩ := List.mem_filterMap.1 listed
  clear listed
  split at told
  case isFalse => cases told
  case isTrue same =>
    obtain rfl : named = table := same
    simp only [change?] at told
    cases found : after.row? named uuid with
    | some row =>
        have own : row.uuid = uuid := keyed named uuid row found
        simp only [found] at told
        cases told
        exact (own ▸ found : after.row? named row.uuid = some row).symm
    | none =>
        simp only [found] at told
        split at told
        case isFalse => cases told
        case isTrue =>
          cases told
          exact found.symm

/-- Something is told about a listed row, unless it was and is not there. -/
private theorem exists_changesOf {before after : Tables}
    {rows : List (String × Uuid)} {table : String} {uuid : Uuid}
    (keyed : after.Keyed) (listed : (table, uuid) ∈ rows)
    (there : before.row? table uuid ≠ none ∨ after.row? table uuid ≠ none) :
    ∃ change ∈ changesOf before after rows table, change.uuid = uuid := by
  have told : ∀ change, change? before after table uuid = some change →
      change ∈ changesOf before after rows table := fun change told =>
    List.mem_filterMap.2 ⟨(table, uuid), listed, by simpa using told⟩
  cases found : after.row? table uuid with
  | some row =>
      exact ⟨.upsert row, told _ (by simp [change?, found]),
        keyed table uuid row found⟩
  | none =>
      have old : (before.row? table uuid).isSome = true := by
        simpa [found, Option.isSome_iff_ne_none] using there
      exact ⟨.delete uuid, told _ (by simp [change?, found, old]), rfl⟩

/-- The announced update leads from the old tables to the new ones. -/
theorem applyUpdate_delta {before after : Tables}
    {rows : List (String × Uuid)} (keyed : after.Keyed)
    (names : ∀ table, before.contains table = after.contains table)
    (spared : ∀ table uuid, (table, uuid) ∉ rows →
      after.row? table uuid = before.row? table uuid) :
    before.applyUpdate (delta before after rows) = after := by
  refine Tables.ext_row? (fun table => ?_) fun table uuid => ?_
  · rw [Tables.contains_applyUpdate, names]
  · simp only [Tables.row?_applyUpdate, changesTo_delta]
    cases found : before.get? table with
    | none =>
        rw [Option.bind_none]
        cases stored : after.row? table uuid with
        | none => rfl
        | some row =>
            have there := (names table).trans (Tables.contains_of_row? stored)
            rw [SortedMap.contains, found] at there
            cases there
    | some stored =>
        have old : before.row? table uuid = stored.get? uuid := by
          simp [Tables.row?, found]
        rw [Option.bind_some]
        by_cases told : ∃ change ∈ changesOf before after rows table,
            change.uuid = uuid
        · refine RowChange.get?_applyAll_of_mem stored told ?_
          rintro change member rfl
          exact changesOf_agree keyed member
        · refine (RowChange.get?_applyAll_of_absent stored
            fun change member same => told ⟨change, member, same⟩).trans ?_
          rw [← old]
          by_cases listed : (table, uuid) ∈ rows
          · have neither : ¬(before.row? table uuid ≠ none ∨
                after.row? table uuid ≠ none) := fun there =>
              told (exists_changesOf keyed listed there)
            simp only [not_or, Decidable.not_not] at neither
            rw [neither.1, neither.2]
          · exact (spared table uuid listed).symm

end Database

end OvsdbClient
