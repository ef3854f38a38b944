import OvsdbClient.Proofs.ServerRunSoundness

/-!
# Optimistic concurrency

A revision stands for one state of a row in a whole run.  A transaction that
verifies a revision therefore sees the row as its client saw it, and once such
a transaction has written the row, no other one that relies on the same
revision is committed.
-/

namespace OvsdbClient

namespace Server

variable {schema : DatabaseSchema} {server : Server} {events : List Event}
  {operations : List Operation} {table : String} {uuid : Uuid}

theorem commit_eq_ok_iff {generation : Nat} :
    (server.commit operations).1 = .ok generation ↔
      server.rejection = none ∧ ∃ database,
        server.database.commit server.schema operations = .ok database ∧
          database.generation = generation := by
  unfold commit
  split
  case h_1 reason rejects => simp [rejects]
  case h_2 accepts =>
    split
    case h_1 database done => simp [done, accepts]
    case h_2 fault failed => simp [failed]

theorem database_commit {generation : Nat}
    (done : (server.commit operations).1 = .ok generation) :
    server.database.commit server.schema operations =
      .ok (server.commit operations).2.database := by
  obtain ⟨accepts, database, committed, _⟩ := commit_eq_ok_iff.mp done
  simp only [commit, accepts, committed]

theorem generation_commit {generation : Nat}
    (done : (server.commit operations).1 = .ok generation) :
    (server.commit operations).2.generation = generation := by
  obtain ⟨accepts, database, committed, rfl⟩ := commit_eq_ok_iff.mp done
  simp only [commit, accepts, committed]
  rfl

theorem database_commit_of_error {fault : Fault}
    (failed : (server.commit operations).1 = .error fault) :
    (server.commit operations).2.database = server.database := by
  unfold commit at failed ⊢
  split
  case h_1 => rfl
  case h_2 accepts =>
    split
    case h_2 => rfl
    case h_1 database done =>
      rw [accepts] at failed
      simp only [done] at failed
      cases failed

theorem revision_run {bound : Nat} (reached : bound ≤ server.generation)
    (written : ∀ row, server.database.tables.row? table uuid = some row →
      bound ≤ row.revision) (events : List Event) {row : Row}
    (stored : (server.run events).database.tables.row? table uuid = some row) :
    bound ≤ row.revision := by
  induction events generalizing server with
  | nil => exact written row stored
  | cons event events induction =>
      have further : server.generation ≤ (server.handle event).generation :=
        generation_run_le server [event]
      refine induction (Nat.le_trans reached further) ?_ stored
      intro row stored
      rcases database_handle server event with same | ⟨_, _, done⟩
      · rw [same] at stored
        exact written row stored
      · rcases Database.row?_commit_cases done stored with ⟨new, _⟩ | old
        · exact new ▸ Nat.le_trans reached further
        · exact written row old

/-- A row as the database holds it or as a session shows it. -/
def Views (server : Server) (table : String) (uuid : Uuid) (row : Row) : Prop :=
  server.database.tables.row? table uuid = some row ∨
    ∃ number session, server.session? number = some session ∧
      session.replica.get? table uuid = some row

theorem exists_stored_of_views {past : List Event} {row : Row}
    (seen : ((ofSchema schema).run past).Views table uuid row) :
    ∃ earlier, earlier <+: past ∧
      ((ofSchema schema).run earlier).database.tables.row? table uuid =
        some row := by
  rcases seen with stored | ⟨number, session, isOpen, shown⟩
  · exact ⟨past, List.prefix_rfl, stored⟩
  · have start := sound_ofSchema schema
    have sound := start.run past
    have follows := sound.following number session isOpen
    obtain ⟨earlier, before, same⟩ := exists_prefix_of_generation
      (Nat.zero_le session.applied)
      (Nat.le_trans follows.known (Nat.le_of_eq sound.database.counted))
    refine ⟨earlier, before, ?_⟩
    rw [Replica.get?, follows.shown, Tables.row?_only, ← same, schema_run,
      start.tables_of_past before] at shown
    split at shown
    · exact shown
    · cases shown

/-- Rows at one identifier with one revision are the same throughout a run. -/
theorem row_eq_of_revision_eq {first second : List Event} {left right : Row}
    (before : first <+: events) (before' : second <+: events)
    (stored : ((ofSchema schema).run first).database.tables.row? table uuid =
      some left)
    (stored' : ((ofSchema schema).run second).database.tables.row? table uuid =
      some right)
    (same : left.revision = right.revision) : left = right := by
  have told : ∀ {past : List Event} {row : Row}, past <+: events →
      ((ofSchema schema).run past).database.tables.row? table uuid = some row →
      (Database.tablesAt schema
        ((ofSchema schema).run events).database.announcements.toList
        row.revision).row? table uuid = some row := by
    rintro past row ⟨future, rfl⟩ stored
    have sound := ((sound_ofSchema schema).run past).database
    rw [schema_run] at sound
    have grown := announcements_run ((ofSchema schema).run past) future
    rw [← run_append] at grown
    have known := (sound.stamped table uuid row stored).2
    rw [Database.tablesAt_of_grown grown (sound.counted.symm ▸ known)]
    exact sound.fresh table uuid row stored
  have here := told before stored
  rw [same, told before' stored'] at here
  exact (Option.some.inj here).symm

theorem revision_ne_of_verified_write {generation revision : Nat} {row : Row}
    (sound : server.Sound) (committed : 1 ≤ revision)
    (verifies : .verify table uuid revision ∈ operations)
    (writes : ∃ operation ∈ operations, operation.Writes table uuid)
    (done : (server.commit operations).1 = .ok generation)
    (between : List Event)
    (stored : (server.run (.commit operations :: between)).database.tables.row?
      table uuid = some row) : row.revision ≠ revision := by
  have database := database_commit done
  obtain ⟨_, old, present, same⟩ :=
    Database.commit_verified database verifies committed
  obtain ⟨operation, member, writes⟩ := writes
  obtain ⟨next, stamped⟩ :=
    Database.revision_of_writes database member writes
  have low := (sound.database.stamped table uuid old present).2
  have late := revision_run (Nat.le_refl (server.handle
    (.commit operations)).generation) (fun row stored =>
      Nat.le_of_eq (stamped row stored).symm) between stored
  have reached : (server.handle (.commit operations)).generation =
      server.database.generation + 1 := next
  omega

/-- A transaction that starts by verifying a revision that its row is not at
conflicts, and nothing happens. -/
theorem commit_of_stale_verify {revision : Nat}
    (known : server.schema.hasTable table = true)
    (accepts : server.rejection = none)
    (first : operations.head? = some (.verify table uuid revision))
    (stale : ∀ row, server.database.tables.row? table uuid = some row →
      row.revision ≠ revision) :
    ∃ reason,
      server.commit operations =
        (.error (.revisionConflict reason), server) := by
  obtain ⟨rest, rfl⟩ := List.head?_eq_some_iff.mp first
  obtain ⟨shape, found⟩ := SortedMap.contains_eq_true_iff.mp known
  obtain ⟨reason, onRow⟩ :=
    @Operation.onRow_verify_of_stale shape table uuid _ revision stale
  have refused : Operation.apply (.verify table uuid revision) server.schema
      server.database.tables = .error (.revisionConflict reason) :=
    Operation.apply_eq_error found onRow
  refine ⟨reason, ?_⟩
  have staging : Database.stage server.schema server.database.tables
      (.verify table uuid revision :: rest) =
        .error (.revisionConflict reason) := by
    simp only [Database.stage, List.foldlM_cons, refused]
    rfl
  simp only [commit, accepts, Database.commit, staging]
  rfl

/-- A revision names one state of a row throughout a run.  A transaction that
verifies one is only committed while the row is in that state, however it was
seen.  After one that wrote the row as well, all others that verify the same
revision fail, and those that verify it first do so with a conflict. -/
theorem verified_revisions_are_exclusive (schema : DatabaseSchema)
    (events : List Event) :
    (∀ first second table uuid left right, first <+: events →
      second <+: events →
      ((ofSchema schema).run first).database.tables.row? table uuid =
        some left →
      ((ofSchema schema).run second).database.tables.row? table uuid =
        some right →
      left.revision = right.revision → left = right) ∧
    (∀ past operations table uuid revision generation, past <+: events →
      .verify table uuid revision ∈ operations → 1 ≤ revision →
      (((ofSchema schema).run past).commit operations).1 = .ok generation →
      ∃ row,
        ((ofSchema schema).run past).database.tables.row? table uuid =
          some row ∧
        row.revision = revision ∧
        ∀ moment seen, moment <+: events →
          ((ofSchema schema).run moment).Views table uuid seen →
          seen.revision = revision → seen = row) ∧
    ∀ past between winner loser table uuid revision generation,
      past ++ .commit winner :: between <+: events →
      .verify table uuid revision ∈ winner →
      .verify table uuid revision ∈ loser → 1 ≤ revision →
      (∃ operation ∈ winner, operation.Writes table uuid) →
      (((ofSchema schema).run past).commit winner).1 = .ok generation →
      let server := (ofSchema schema).run (past ++ .commit winner :: between)
      (∃ fault, (server.commit loser).1 = .error fault) ∧
        (server.commit loser).2.database = server.database ∧
        (server.rejection = none →
          loser.head? = some (.verify table uuid revision) →
          ∃ reason,
            (server.commit loser).1 = .error (.revisionConflict reason)) := by
  refine ⟨?_, ?_, ?_⟩
  · intro first second table uuid left right before before' stored stored' same
    exact row_eq_of_revision_eq before before' stored stored' same
  · intro past operations table uuid revision generation before verifies
      committed done
    obtain ⟨_, row, present, same⟩ := Database.commit_verified
      (database_commit done) verifies committed
    refine ⟨row, present, same, fun moment seen before' view equal => ?_⟩
    obtain ⟨earlier, within, stored⟩ := exists_stored_of_views view
    exact row_eq_of_revision_eq (within.trans before') before stored present
      (equal.trans same.symm)
  · intro past between winner loser table uuid revision generation _ verifies
      relies committed writes done server
    have sound := (sound_ofSchema schema).run past
    have stale : ∀ row, server.database.tables.row? table uuid = some row →
        row.revision ≠ revision := by
      intro row stored
      simp only [server, run_append] at stored
      exact revision_ne_of_verified_write sound committed verifies writes done
        between stored
    have failed : ∃ fault, (server.commit loser).1 = .error fault := by
      cases answer : (server.commit loser).1 with
      | error fault => exact ⟨fault, rfl⟩
      | ok later =>
          obtain ⟨_, row, present, same⟩ := Database.commit_verified
            (database_commit answer) relies committed
          exact absurd same (stale row present)
    obtain ⟨fault, failed⟩ := failed
    refine ⟨⟨fault, failed⟩, database_commit_of_error failed, ?_⟩
    intro accepts first
    have known := (Database.commit_verified (database_commit done) verifies
      committed).1
    rw [schema_run, ← schema_run (ofSchema schema)
      (past ++ .commit winner :: between)] at known
    obtain ⟨reason, conflict⟩ :=
      commit_of_stale_verify known accepts first stale
    exact ⟨reason, congrArg Prod.fst conflict⟩

/-- A counter is changed by a transaction that verified it, and then deleted
and inserted anew. -/
def contest : List Event :=
  [.commit [.insert "NB_Global" (.ofNat 1) .empty],
    .commit [.mutate "NB_Global" (.ofNat 1) "nb_cfg" (.increment 1),
      .verify "NB_Global" (.ofNat 1) 1],
    .commit [.delete "NB_Global" (.ofNat 1)],
    .commit [.insert "NB_Global" (.ofNat 1) .empty]]

theorem reinserted_row_still_conflicts :
    ∃ reason, (((ofSchema .small).run contest).commit
      [.verify "NB_Global" (.ofNat 1) 1, .delete "NB_Global" (.ofNat 1)]).1 =
        .error (.revisionConflict reason) :=
  ((verified_revisions_are_exclusive .small contest).2.2
    (contest.take 1) (contest.drop 2)
    [.mutate "NB_Global" (.ofNat 1) "nb_cfg" (.increment 1),
      .verify "NB_Global" (.ofNat 1) 1]
    [.verify "NB_Global" (.ofNat 1) 1, .delete "NB_Global" (.ofNat 1)]
    "NB_Global" (.ofNat 1) 1 2 List.prefix_rfl (by decide) (by decide)
    (by decide) ⟨_, List.mem_cons_self, rfl, rfl, rfl⟩ rfl).2.2 rfl rfl

end Server

end OvsdbClient
