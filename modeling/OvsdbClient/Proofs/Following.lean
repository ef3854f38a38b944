import OvsdbClient.Proofs.History
import OvsdbClient.Server.Session

/-!
# Following a database

A session's replica shows its tables as they were at some point of the
history, and the session knows which.  It holds on to at most the announcement
that comes next there.
-/

namespace OvsdbClient

namespace Tables

/-- The tables of a schema, with the rows that they have among others. -/
def only (tables : Tables) (schema : DatabaseSchema) : Tables :=
  schema.tables.mapValues fun name _ => (tables.get? name).getD .empty

theorem get?_only (tables : Tables) (schema : DatabaseSchema) (table : String) :
    (tables.only schema).get? table =
      if schema.hasTable table then some ((tables.get? table).getD .empty)
      else none := by
  unfold only DatabaseSchema.hasTable SortedMap.contains
  rw [SortedMap.get?_mapValues]
  cases schema.tables.get? table <;> rfl

theorem row?_only (tables : Tables) (schema : DatabaseSchema) (table : String)
    (uuid : Uuid) :
    (tables.only schema).row? table uuid =
      if schema.hasTable table then tables.row? table uuid else none := by
  unfold row?
  rw [get?_only]
  by_cases has : schema.hasTable table = true
  · rw [if_pos has, if_pos has]
    cases tables.get? table <;> rfl
  · rw [if_neg has, if_neg has]
    rfl

/-- An update acts on some of the tables as it does on all of them, if it has
nothing to say about others. -/
theorem only_applyUpdate {tables : Tables} {update : Update}
    (schema : DatabaseSchema)
    (confined : ∀ table, tables.contains table = false →
      update.changesTo table = []) :
    (tables.applyUpdate update).only schema =
      (tables.only schema).applyUpdate update := by
  refine SortedMap.ext_get? fun table => ?_
  rw [get?_only, get?_applyUpdate, get?_applyUpdate, get?_only]
  by_cases has : schema.hasTable table = true
  · rw [if_pos has, if_pos has]
    cases found : tables.get? table with
    | some rows => rfl
    | none =>
        rw [confined table (by simp [SortedMap.contains, found])]
        rfl
  · rw [if_neg has, if_neg has]
    rfl

end Tables

theorem Replica.hasTable_ofTables_iff {names : List String} {table : String} :
    (ofTables names).hasTable table = true ↔ table ∈ names := by
  simp only [hasTable, ofTables, SortedMap.ofList]
  rw [SortedMap.contains_eq_true_iff]
  by_cases listed : table ∈ names
  · refine iff_of_true ⟨.empty, ?_⟩ listed
    apply SortedMap.get?_insertAll_of_mem
    · exact List.mem_map.mpr ⟨table, listed, rfl⟩
    · intro other member
      obtain ⟨name, _, same⟩ := List.mem_map.mp member
      cases same
      rfl
  · refine iff_of_false ?_ listed
    rintro ⟨rows, found⟩
    rw [SortedMap.get?_insertAll_of_absent] at found
    · cases found
    · rintro entry member rfl
      obtain ⟨name, here, rfl⟩ := List.mem_map.mp member
      exact listed here

theorem Replica.tables_reset {replica : Replica} {database : Database}
    {schema : DatabaseSchema} (keyed : database.tables.Keyed)
    (copied : ∀ table, replica.hasTable table = schema.hasTable table) :
    (replica.reset (Session.snapshot database)).tables =
      database.tables.only schema := by
  have listed : ∀ rows : SortedMap Uuid Row,
      (∀ uuid row, rows.get? uuid = some row → row.uuid = uuid) →
      SortedMap.ofList (rows.values.map fun row => (row.uuid, row)) = rows := by
    intro rows own
    have entries : (rows.values.map fun row => (row.uuid, row)) =
        rows.toList := by
      rw [SortedMap.values, List.map_map]
      refine (List.map_congr_left ?_).trans (List.map_id rows.toList)
      rintro ⟨uuid, row⟩ member
      have same := own uuid row (SortedMap.get?_of_mem_toList member)
      simp [same]
    rw [entries, SortedMap.ofList_toList]
  refine SortedMap.ext_get? fun table => ?_
  have has := copied table
  simp only [Replica.hasTable, SortedMap.contains] at has
  rw [Tables.get?_only, ← has]
  simp only [Replica.reset, Session.snapshot, SortedMap.get?_mapValues]
  cases replica.tables.get? table with
  | none => rfl
  | some old =>
      cases found : database.tables.get? table with
      | none => rfl
      | some rows =>
          refine congrArg some (listed rows fun uuid row stored => ?_)
          exact keyed table uuid row (by simp [Tables.row?, found, stored])

namespace Session

variable {schema : DatabaseSchema} {database : Database} {session : Session}

/-- What a session shows of the history that announcements tell. -/
structure Follows (schema : DatabaseSchema) (announcements : List Announcement)
    (session : Session) : Prop where
  known : session.applied ≤ announcements.length
  shown : session.replica.tables =
    (Database.tablesAt schema announcements session.applied).only session.schema
  counted : session.received =
    session.applied + if session.inHand.isSome then 1 else 0
  held : ∀ announcement due, session.inHand = some (announcement, due) →
    announcements[session.applied]? = some announcement

theorem Follows.grown {earlier later : List Announcement}
    (follows : session.Follows schema earlier) (grown : earlier <+: later) :
    session.Follows schema later where
  known := Nat.le_trans follows.known grown.length_le
  shown := by
    rw [Database.tablesAt_of_grown grown follows.known]
    exact follows.shown
  counted := follows.counted
  held := by
    intro announcement due inHand
    have found := follows.held announcement due inHand
    obtain ⟨others, rfl⟩ := grown
    obtain ⟨here, _⟩ := List.getElem?_eq_some_iff.mp found
    rw [List.getElem?_append_left here]
    exact found

theorem Follows.hasTable {announcements : List Announcement}
    (follows : session.Follows schema announcements) (table : String) :
    session.replica.hasTable table = session.schema.hasTable table := by
  unfold Replica.hasTable
  rw [follows.shown]
  exact SortedMap.contains_mapValues session.schema.tables _ table

theorem follows_start (sound : database.Sound schema) (endpoint : Endpoint)
    (selected : DatabaseSchema) (options : SessionOptions) :
    (start database endpoint selected options).Follows schema
      database.announcements.toList where
  known := Nat.le_of_eq sound.counted.symm
  shown := by
    refine (Replica.tables_reset sound.keyed fun table => ?_).trans
      (congrArg (Tables.only · selected) sound.told.symm)
    rw [Bool.eq_iff_iff, Replica.hasTable_ofTables_iff]
    exact SortedMap.mem_keys_iff
  counted := sound.counted
  held := by
    intro announcement due inHand
    cases inHand

theorem follows_apply {announcement : Announcement}
    (sound : database.Sound schema)
    (shown : session.replica.tables =
      (Database.tablesAt schema database.announcements.toList
        session.applied).only session.schema)
    (received : session.received = session.applied + 1)
    (next : database.announcements.toList[session.applied]? =
      some announcement) :
    (session.apply announcement).Follows schema
      database.announcements.toList := by
  have number := sound.numbered session.applied announcement next
  obtain ⟨here, _⟩ := List.getElem?_eq_some_iff.mp next
  refine ⟨?_, ?_, ?_, ?_⟩
  · simp only [apply, number]
    exact here
  · simp only [apply, number, Replica.apply, shown]
    rw [Database.tablesAt_succ next]
    refine (Tables.only_applyUpdate session.schema fun table absent => ?_).symm
    rw [Database.contains_tablesAt] at absent
    exact sound.confined announcement (List.mem_of_getElem? next) table absent
  · simp only [apply, number, received]
    rfl
  · intro other due inHand
    cases inHand

theorem Follows.receive {announcement : Announcement}
    (sound : database.Sound schema)
    (follows : session.Follows schema database.announcements.toList)
    (counted : session.received = session.applied)
    (coming : database.announcements.toList[session.applied]? =
      some announcement) (delay : Span) (now : Nat) :
    (session.receive announcement delay now).Follows schema
        database.announcements.toList ∧
      session.applied ≤ (session.receive announcement delay now).applied := by
  unfold Session.receive
  split
  case isTrue =>
    refine ⟨follows_apply sound follows.shown
      (congrArg (· + 1) counted) coming, ?_⟩
    have number := sound.numbered session.applied announcement coming
    simp only [apply, number]
    omega
  case isFalse =>
    refine ⟨⟨follows.known, follows.shown, congrArg (· + 1) counted, ?_⟩,
      Nat.le_refl _⟩
    intro other due held
    cases held
    exact coming

/-- What comes next in following a database keeps a session following it, and
never takes it back. -/
theorem Follows.proceed {next : Session} {notices : List Notice} {delay : Span}
    {now : Nat} (sound : database.Sound schema)
    (follows : session.Follows schema database.announcements.toList)
    (done : session.proceed? database delay now = some (next, notices)) :
    next.Follows schema database.announcements.toList ∧
      session.applied ≤ next.applied := by
  have counted := follows.counted
  unfold proceed? at done
  split at done
  case h_1 announcement due inHand =>
    split at done
    case isFalse => cases done
    case isTrue =>
      cases done
      have coming := follows.held announcement due inHand
      rw [inHand] at counted
      refine ⟨follows_apply sound follows.shown counted coming, ?_⟩
      have number := sound.numbered session.applied announcement coming
      simp only [apply, number]
      omega
  case h_2 inHand =>
    rw [inHand] at counted
    split at done
    case isTrue behind =>
      cases done
      refine ⟨⟨Nat.le_of_eq sound.counted.symm, ?_, ?_, ?_⟩,
        Nat.le_trans follows.known (Nat.le_of_eq sound.counted)⟩
      · refine (Replica.tables_reset sound.keyed follows.hasTable).trans ?_
        exact congrArg (Tables.only · session.schema) sound.told.symm
      · simp only [resync, inHand]
        exact sound.counted
      · intro announcement due held
        simp only [resync, inHand] at held
        cases held
    case isFalse =>
      split at done
      case h_2 => cases done
      case h_1 announcement coming =>
        cases done
        rw [counted, ← Array.getElem?_toList] at coming
        exact follows.receive sound counted coming delay now

theorem exists_of_proceed {next : Session} {notices : List Notice}
    {delay : Span} {now : Nat}
    (done : session.proceed? database delay now = some (next, notices)) :
    ∃ replica applied received inHand,
      next = { session with replica, applied, received, inHand } := by
  unfold proceed? at done
  split at done
  · split at done
    · cases done
      exact ⟨_, _, _, _, rfl⟩
    · cases done
  · split at done
    · cases done
      exact ⟨_, _, _, _, rfl⟩
    · split at done
      · cases done
        unfold Session.receive
        split <;> exact ⟨_, _, _, _, rfl⟩
      · cases done

end Session

end OvsdbClient
