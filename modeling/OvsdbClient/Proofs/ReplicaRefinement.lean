import OvsdbClient.Proofs.ServerRunSoundness

/-!
# Replicas refine the history of the server

Whatever the order of events, a replica shows its tables as the server had them
at a generation, all rows of them and no others.
-/

namespace OvsdbClient.Server

variable {schema : DatabaseSchema} {events : List Event} {number : Nat}
  {session : Session}

/-- At every point of a run, an open session shows exactly the rows that its
tables held at the generation it has applied.  That generation is one that the
run went through, and it never goes back. -/
theorem replica_shows_applied_generation
    (isOpen : ((ofSchema schema).run events).session? number = some session) :
    session.applied ≤ ((ofSchema schema).run events).generation ∧
      (∃ past, past <+: events ∧
        ((ofSchema schema).run past).generation = session.applied) ∧
      (∀ past, past <+: events →
        ((ofSchema schema).run past).generation = session.applied →
        session.replica.tables =
          ((ofSchema schema).run past).database.tables.only session.schema) ∧
      ∀ past earlier, past <+: events →
        ((ofSchema schema).run past).session? number = some earlier →
        session.schema = earlier.schema ∧
          earlier.applied ≤ session.applied := by
  have start := sound_ofSchema schema
  have sound := start.run events
  have follows := sound.following number session isOpen
  have reached : session.applied ≤ ((ofSchema schema).run events).generation :=
    Nat.le_trans follows.known (Nat.le_of_eq sound.database.counted)
  refine ⟨reached, exists_prefix_of_generation (Nat.zero_le _) reached, ?_, ?_⟩
  · intro past before same
    rw [follows.shown, ← same, schema_run, start.tables_of_past before]
  · rintro past earlier ⟨future, rfl⟩ was
    rw [run_append] at isOpen
    obtain ⟨last, final, kept, _⟩ := session?_run was future
    cases final.symm.trans isOpen
    exact ⟨kept, (start.run past).applied_run was isOpen⟩

/-- A session that follows one of two tables is stopped while it holds an
announcement back and another one waits. -/
def lagging : List Event :=
  let followed := DatabaseSchema.small.tables.filter fun name _ =>
    name == "Load_Balancer"
  [.openSession default { DatabaseSchema.small with tables := followed }
      default,
    .commit [.insert "Load_Balancer" (.ofNat 1) .empty],
    .setDelay (.ofMillis 5),
    .work 0 10,
    .commit [.insert "NB_Global" (.ofNat 2) .empty,
      .mutate "Load_Balancer" (.ofNat 1) "ip_port_mappings" (.mapSet "a" "b")],
    .work 0 15,
    .work 0 15,
    .commit [.delete "Load_Balancer" (.ofNat 1)],
    .stop 0]

theorem lagging_replica_shows_applied_generation :
    ∃ session, ((ofSchema .small).run lagging).session? 0 = some session ∧
      session.applied = 1 ∧
      ((ofSchema .small).run lagging).generation = 3 ∧
      session.replica.tables =
        ((ofSchema .small).run (lagging.take 2)).database.tables.only
          session.schema :=
  ⟨_, rfl, by decide, by decide,
    (@replica_shows_applied_generation .small lagging 0 _ rfl).2.2.1
      (lagging.take 2) (List.take_prefix 2 lagging) (by decide)⟩

end OvsdbClient.Server
