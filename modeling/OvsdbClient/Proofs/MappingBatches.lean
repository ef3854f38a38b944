import OvsdbClient.Proofs.CommittedSubmissions
import OvsdbClient.Proofs.MappingCommands

/-!
# Submitting transactions with mapping commands

A transaction that commits without its mapping commands commits with them too
just if its mutations of mappings can be applied, and its session lives to see
the commit.  The commands then change nothing but mappings.  A mutation that
does not find its map, as after the load balancer was deleted, takes the whole
transaction down with it.
-/

namespace OvsdbClient

/-- Tables that hold the same rows, apart from revisions and mappings. -/
def Tables.AgreeBesideMappings (left right : Tables) : Prop :=
  ∀ table uuid column, ¬Entry.OfMappings table column →
    (left.row? table uuid).map (·.get? column) =
      (right.row? table uuid).map (·.get? column)

theorem Row.StoredAlike.map_get? {loose : String → Prop}
    {left right : Option Row} {column : String}
    (alike : Row.StoredAlike loose left right) (strict : ¬loose column) :
    left.map (·.get? column) = right.map (·.get? column) := by
  cases alike with
  | none => rfl
  | some rows =>
      rcases rows.columns column with same | ⟨allowed, _⟩
      · exact congrArg Option.some same
      · exact absurd allowed strict

namespace Entry

/-! ## Operations that follow those of entries -/

theorem filterMap_append_own (entries : List Entry) (added : List Operation) :
    (entries ++ added.map own).filterMap operation? =
      entries.filterMap operation? ++ added := by
  rw [List.filterMap_append, List.filterMap_map]
  exact congrArg _ List.filterMap_some

theorem filterMap_filter_append_own (entries : List Entry)
    (added : List Operation) :
    ((entries ++ added.map own).filter isOwn).filterMap operation? =
      (entries.filter isOwn).filterMap operation? ++ added := by
  have kept : (added.map own).filter isOwn = added.map own := by
    rw [List.filter_eq_self]
    exact List.forall_mem_map.mpr fun _ _ => rfl
  rw [List.filter_append, kept, filterMap_append_own]

theorem findMaps_append_own {schema : DatabaseSchema} {tables : Tables}
    {entries : List Entry} (find : FindMaps schema tables entries)
    (added : List Operation) :
    FindMaps schema tables (entries ++ added.map own) := by
  induction entries generalizing tables with
  | nil =>
      clear find
      rw [List.nil_append]
      induction added generalizing tables with
      | nil => trivial
      | cons operation added induction => exact ⟨nofun, fun _ _ => induction⟩
  | cons entry entries induction =>
      rw [List.cons_append]
      cases queues : entry.operation? with
      | none =>
          exact (findMaps_cons_of_none queues).mpr
            (induction ((findMaps_cons_of_none queues).mp find))
      | some operation =>
          obtain ⟨finds, further⟩ := (findMaps_cons_of_some queues).mp find
          exact (findMaps_cons_of_some queues).mpr
            ⟨finds, fun next first => induction (further next first)⟩

end Entry

namespace Database

variable {schema : DatabaseSchema} {database after other : Database}
  {entries : List Entry} {added : List Operation}

/-- Operations that commit without the mapping commands among them commit with
them just if their mutations of mappings can be applied. -/
theorem commit_entries_iff
    (plain : database.commit schema
      ((entries.filter Entry.isOwn).filterMap Entry.operation? ++ added) =
        .ok after) :
    (∃ other, database.commit schema
        (entries.filterMap Entry.operation? ++ added) = .ok other) ↔
      MutationsApply Entry.OfMappings schema database.tables
        (entries.filterMap Entry.operation? ++ added) := by
  rw [← Entry.filterMap_filter_append_own] at plain
  rw [← Entry.filterMap_append_own]
  obtain ⟨staged, staging, _⟩ := commit_eq_ok_iff.mp plain
  constructor
  · rintro ⟨other, done⟩
    obtain ⟨others, stagingOther, _⟩ := commit_eq_ok_iff.mp done
    exact mutationsApply_of_stage stagingOther
  · intro apply
    obtain ⟨others, stagingOther, _⟩ :=
      Entry.stage_of_mutationsApply (.refl _) apply staging
    exact ⟨_, commit_eq_ok_iff.mpr ⟨others, stagingOther, rfl⟩⟩

/-- Where the column of mappings goes by its key, that is to say that mapping
commands find their maps. -/
theorem mutationsApply_iff_findMaps (names : Entry.NamesMappings schema)
    (sound : database.Sound schema)
    (plain : database.commit schema
      ((entries.filter Entry.isOwn).filterMap Entry.operation? ++ added) =
        .ok after) :
    MutationsApply Entry.OfMappings schema database.tables
        (entries.filterMap Entry.operation? ++ added) ↔
      Entry.FindMaps schema database.tables entries := by
  constructor
  · intro apply
    obtain ⟨other, done⟩ := (commit_entries_iff plain).mpr apply
    obtain ⟨staged, staging, _⟩ := commit_eq_ok_iff.mp done
    obtain ⟨next, first, _⟩ := stage_append_eq_ok_iff.mp staging
    exact Entry.findMaps_of_stage names sound.complete first
  · intro find
    rw [← Entry.filterMap_filter_append_own] at plain
    rw [← Entry.filterMap_append_own]
    obtain ⟨staged, staging, _⟩ := commit_eq_ok_iff.mp plain
    exact Entry.mutationsApply_of_findMaps names (.refl _) sound.complete
      sound.named sound.complete (Entry.findMaps_append_own find added) staging

theorem commit_entries_agree
    (plain : database.commit schema
      ((entries.filter Entry.isOwn).filterMap Entry.operation? ++ added) =
        .ok after)
    (full : database.commit schema
      (entries.filterMap Entry.operation? ++ added) = .ok other) :
    after.tables.AgreeBesideMappings other.tables := by
  have apply := (commit_entries_iff plain).mp ⟨other, full⟩
  rw [← Entry.filterMap_filter_append_own] at plain
  rw [← Entry.filterMap_append_own] at apply full
  obtain ⟨staged, staging, _⟩ := commit_eq_ok_iff.mp plain
  obtain ⟨others, stagingOther, alike⟩ :=
    Entry.stage_of_mutationsApply (.refl _) apply staging
  intro table uuid column strict
  rw [columns_commit staging plain, columns_commit stagingOther full]
  exact (alike table uuid).map_get? strict

end Database

/-- A transaction of a session, or one of its hooks, writes something. -/
def Transaction.Writes (transaction : Transaction) (session : Session) : Prop :=
  ∃ prepared, transaction.runHooks session = .ok prepared ∧
    ∃ operation ∈ prepared.operations, operation.isVerify = false

/-- Every mutation of mappings in a transaction, those of its hooks included,
can be applied when the server comes to it. -/
def Transaction.MappingsApply (transaction : Transaction) (session : Session)
    (server : Server) : Prop :=
  ∃ prepared, transaction.runHooks session = .ok prepared ∧
    Database.MutationsApply Entry.OfMappings server.schema
      server.database.tables prepared.operations

namespace Network

variable {network : Network} {id : SessionId} {server : Server}
  {session : Session} {timeout : Span} {hooks : List CounterHook}
  {entries : List Entry} {added : List Operation}

private theorem runHooks_build (counted : hooks.mapM session.counting =
    .ok added) :
    (Entry.build timeout hooks entries).runHooks session =
      .ok ⟨timeout, entries.filterMap Entry.operation? ++ added, hooks⟩ := by
  rw [Transaction.runHooks_eq, Entry.build_eq, counted]
  rfl

private theorem mappingsApply_iff (counted : hooks.mapM session.counting =
    .ok added) :
    (Entry.build timeout hooks entries).MappingsApply session server ↔
      Database.MutationsApply Entry.OfMappings server.schema
        server.database.tables
        (entries.filterMap Entry.operation? ++ added) := by
  have ran : (Entry.build timeout hooks entries).runHooks session = _ :=
    runHooks_build counted
  constructor
  · rintro ⟨prepared, again, apply⟩
    cases ran.symm.trans again
    exact apply
  · exact fun apply => ⟨_, ran, apply⟩

private theorem commit_of_submit
    (here : network.server? id.server = some server)
    (isOpen : server.session? id.number = some session)
    (committed : (network.submit id (Entry.build timeout hooks entries)).1 =
      .ok .committed) :
    ∃ added later, hooks.mapM session.counting = .ok added ∧
      (network.committing id (Entry.build timeout hooks entries)).server?
        id.server = some later ∧
      server.database.commit server.schema
        (entries.filterMap Entry.operation? ++ added) = .ok later.database := by
  cases counted : hooks.mapM session.counting with
  | error fault =>
      have failed : (Entry.build timeout hooks entries).runHooks session =
          .error fault := by
        rw [Transaction.runHooks_eq, Entry.build_eq, counted]
        rfl
      simp [submit, session?_eq_some here isOpen, failed] at committed
  | ok added =>
      have ran : (Entry.build timeout hooks entries).runHooks session = _ :=
        runHooks_build counted
      have network_eq := committing_eq here isOpen ran
      by_cases idle : entries.filterMap Entry.operation? ++ added = []
      · refine ⟨added, server, rfl, ?_, ?_⟩
        · rw [network_eq, if_pos idle]
          exact here
        · rw [idle]
          rfl
      · rcases (submit_eq_committed_iff here isOpen ran).mp committed with
          empty | ⟨_, ⟨generation, done⟩, _⟩
        · exact absurd empty idle
        · refine ⟨added, _, rfl, ?_, Server.database_commit done⟩
          rw [network_eq, if_neg idle]
          exact server?_commit here _

private theorem filterMap_filter_isOwn
    (nothing : ∀ entry ∈ entries, entry.isOwn = false →
      entry.operation? = none) :
    (entries.filter Entry.isOwn).filterMap Entry.operation? =
      entries.filterMap Entry.operation? := by
  induction entries with
  | nil => rfl
  | cons entry entries induction =>
      have rest := induction fun other member =>
        nothing other (List.mem_cons_of_mem _ member)
      cases own : entry.isOwn with
      | true =>
          rw [List.filter_cons_of_pos own, List.filterMap_cons,
            List.filterMap_cons, rest]
      | false =>
          have queues := nothing entry List.mem_cons_self own
          rw [Entry.filterMap_isOwn_cons_of_none queues,
            List.filterMap_cons_none queues, rest]

section

variable (here : network.server? id.server = some server)
  (isOpen : server.session? id.number = some session)
  (plain : (network.submit id
    (Entry.build timeout hooks (entries.filter Entry.isOwn))).1 =
      .ok .committed)
include here isOpen plain

private theorem mappingsApply_of_submit
    (full : (network.submit id (Entry.build timeout hooks entries)).1 =
      .ok .committed) :
    (Entry.build timeout hooks entries).MappingsApply session server := by
  obtain ⟨added, later, counted, _, done⟩ := commit_of_submit here isOpen plain
  obtain ⟨others, other, again, _, full⟩ := commit_of_submit here isOpen full
  cases counted.symm.trans again
  exact (mappingsApply_iff counted).mpr
    ((Database.commit_entries_iff done).mp ⟨_, full⟩)

private theorem agree_of_submit
    (full : (network.submit id (Entry.build timeout hooks entries)).1 =
      .ok .committed) :
    ∃ left right,
      (network.committing id (Entry.build timeout hooks
        (entries.filter Entry.isOwn))).server? id.server = some left ∧
      (network.committing id (Entry.build timeout hooks entries)).server?
        id.server = some right ∧
      left.database.tables.AgreeBesideMappings right.database.tables := by
  obtain ⟨added, left, counted, isLeft, done⟩ :=
    commit_of_submit here isOpen plain
  obtain ⟨others, right, again, isRight, full⟩ :=
    commit_of_submit here isOpen full
  cases counted.symm.trans again
  exact ⟨left, right, isLeft, isRight,
    Database.commit_entries_agree done full⟩

private theorem commit_of_mappingsApply (accepts : server.rejection = none)
    (apply : (Entry.build timeout hooks entries).MappingsApply session server)
    (counted : hooks.mapM session.counting = .ok added) :
    ∃ generation, (server.commit
      (entries.filterMap Entry.operation? ++ added)).1 = .ok generation := by
  obtain ⟨others, later, again, _, done⟩ := commit_of_submit here isOpen plain
  cases counted.symm.trans again
  obtain ⟨other, full⟩ := (Database.commit_entries_iff done).mpr
    ((mappingsApply_iff counted).mp apply)
  exact ⟨_, Server.commit_eq_ok_iff.mpr ⟨accepts, other, full, rfl⟩⟩

private theorem submit_eq_committed_iff_of_plain :
    (network.submit id (Entry.build timeout hooks entries)).1 =
        .ok .committed ↔
      (∀ entry ∈ entries, entry.isOwn = false → entry.operation? = none) ∨
        session.stopped = false ∧ server.rejection = none ∧
        (Entry.build timeout hooks entries).MappingsApply session server ∧
        (network.committing id (Entry.build timeout hooks entries)).ShowsInTime
          id timeout := by
  obtain ⟨added, _, counted, _, _⟩ := commit_of_submit here isOpen plain
  have ran : (Entry.build timeout hooks entries).runHooks session = _ :=
    runHooks_build counted
  have network_eq := committing_eq here isOpen ran
  constructor
  · intro full
    by_cases idle : entries.filterMap Entry.operation? ++ added = []
    · left
      intro entry member _
      exact List.filterMap_eq_nil_iff.mp (List.append_eq_nil_iff.mp idle).1
        entry member
    · right
      rcases (submit_eq_committed_iff here isOpen ran).mp full with
        empty | ⟨running, ⟨generation, done⟩, shown⟩
      · exact absurd empty idle
      · rw [network_eq, if_neg idle]
        exact ⟨running, (Server.commit_eq_ok_iff.mp done).1,
          mappingsApply_of_submit here isOpen plain full, shown⟩
  · rintro (nothing | ⟨running, accepts, apply, shown⟩)
    · rw [Entry.build_eq, filterMap_filter_isOwn nothing,
        ← Entry.build_eq] at plain
      exact plain
    · refine (submit_eq_committed_iff here isOpen ran).mpr ?_
      by_cases idle : entries.filterMap Entry.operation? ++ added = []
      · exact .inl idle
      · rw [network_eq, if_neg idle] at shown
        exact .inr ⟨running, commit_of_mappingsApply here isOpen plain accepts
          apply counted, shown⟩

private theorem submit_eq_committed_iff_of_quiet (quiet : network.Quiet)
    (writes : (Entry.build timeout hooks
      (entries.filter Entry.isOwn)).Writes session) :
    (network.submit id (Entry.build timeout hooks entries)).1 =
        .ok .committed ↔
      (Entry.build timeout hooks entries).MappingsApply session server := by
  refine ⟨mappingsApply_of_submit here isOpen plain, fun apply => ?_⟩
  obtain ⟨added, _, counted, _, _⟩ := commit_of_submit here isOpen plain
  have ran : (Entry.build timeout hooks (entries.filter Entry.isOwn)).runHooks
      session = _ := runHooks_build counted
  obtain ⟨prepared, again, operation, member, isWrite⟩ := writes
  cases ran.symm.trans again
  have member_full : operation ∈
      entries.filterMap Entry.operation? ++ added := by
    rcases List.mem_append.mp member with own | counts
    · obtain ⟨entry, kept, queues⟩ := List.mem_filterMap.mp own
      exact List.mem_append_left _ (List.mem_filterMap.mpr
        ⟨entry, (List.mem_filter.mp kept).1, queues⟩)
    · exact List.mem_append_right _ counts
  rcases (submit_eq_committed_iff here isOpen ran).mp plain with
    idle | ⟨running, ⟨generation, done⟩, shown⟩
  · rw [idle] at member
    cases member
  · have accepts := (Server.commit_eq_ok_iff.mp done).1
    obtain ⟨reached, full⟩ :=
      commit_of_mappingsApply here isOpen plain accepts apply counted
    refine (submit_eq_committed_iff here isOpen (runHooks_build counted)).mpr
      (.inr ⟨running, ⟨reached, full⟩, ?_⟩)
    exact (showsInTime_commit_congr quiet here isOpen done full
      (Database.touched_ne_nil_iff.mpr ⟨operation, member, isWrite⟩)
      (Database.touched_ne_nil_iff.mpr ⟨operation, member_full, isWrite⟩)
      timeout).mp shown

private theorem mappingsApply_iff_findMaps (sound : server.Sound)
    (names : Entry.NamesMappings server.schema) :
    (Entry.build timeout hooks entries).MappingsApply session server ↔
      Entry.FindMaps server.schema server.database.tables entries := by
  obtain ⟨added, _, counted, _, done⟩ := commit_of_submit here isOpen plain
  exact (mappingsApply_iff counted).trans
    (Database.mutationsApply_iff_findMaps names sound.database done)

end

/-- How a transaction fares that would commit without its mapping commands. -/
structure KeepsFate (network : Network) (id : SessionId) (server : Server)
    (session : Session) (timeout : Span) (hooks : List CounterHook)
    (entries : List Entry) : Prop where
  /-- The commands themselves never fail. -/
  adds : ∀ (queued : Transaction) (seen : Session) balancer backend port source,
    (queued.add seen (.addMapping balancer backend port source)).1 = .ok none ∧
      (queued.add seen (.deleteMapping balancer backend)).1 = .ok none
  commits_iff :
    (network.submit id (Entry.build timeout hooks entries)).1 =
        .ok .committed ↔
      (∀ entry ∈ entries, entry.isOwn = false → entry.operation? = none) ∨
        session.stopped = false ∧ server.rejection = none ∧
        (Entry.build timeout hooks entries).MappingsApply session server ∧
        (network.committing id (Entry.build timeout hooks entries)).ShowsInTime
          id timeout
  /-- Where nobody else commits, a transaction that writes something anyway is
  shown in time with its commands as without. -/
  quietly : network.Quiet →
    (Entry.build timeout hooks (entries.filter Entry.isOwn)).Writes session →
    ((network.submit id (Entry.build timeout hooks entries)).1 =
        .ok .committed ↔
      (Entry.build timeout hooks entries).MappingsApply session server)
  /-- Where the column of mappings goes by its key, mutations of mappings can be
  applied just if those of the commands find their maps. -/
  finds : Entry.NamesMappings server.schema →
    ((Entry.build timeout hooks entries).MappingsApply session server ↔
      Entry.FindMaps server.schema server.database.tables entries)
  agree :
    (network.submit id (Entry.build timeout hooks entries)).1 =
        .ok .committed →
      ∃ left right,
        (network.committing id (Entry.build timeout hooks
          (entries.filter Entry.isOwn))).server? id.server = some left ∧
        (network.committing id (Entry.build timeout hooks entries)).server?
          id.server = some right ∧
        left.database.tables.AgreeBesideMappings right.database.tables

/-- A transaction that would commit without its mapping commands commits if they
queued nothing, or else just if the session and the server take commits, every
mutation of mappings can be applied when the server comes to it, and the commit
is shown in time.  Rows then differ in nothing but revisions and mappings. -/
theorem mapping_commands_keep_fate_iff {schema : DatabaseSchema}
    {events : List Event}
    (here : network.server? id.server =
      some ((Server.ofSchema schema).run events))
    (isOpen : ((Server.ofSchema schema).run events).session? id.number =
      some session)
    (committed : (network.submit id
      (Entry.build timeout hooks (entries.filter Entry.isOwn))).1 =
        .ok .committed) :
    network.KeepsFate id ((Server.ofSchema schema).run events) session timeout
      hooks entries where
  adds _ _ _ _ _ _ := ⟨rfl, rfl⟩
  commits_iff := submit_eq_committed_iff_of_plain here isOpen committed
  quietly := submit_eq_committed_iff_of_quiet here isOpen committed
  finds := mappingsApply_iff_findMaps here isOpen committed
    ((Server.sound_ofSchema schema).run events)
  agree := agree_of_submit here isOpen committed

def balancedEvents : List Event :=
  [.commit [.insert "NB_Global" (.drawn 1) .empty],
    .commit [.insert balancerTable (.drawn 2)
      (.ofList [(mappingColumn, .map .empty)])],
    .openSession default (Selection.ofSchema .small).selectAll.build
      ⟨.ofSecs 1, .zero, none⟩,
    .setDelay (.ofMillis 10),
    .commit [.delete "NB_Global" (.drawn 1),
      .insert "NB_Global" (.drawn 1) .empty]]

/-- A network with one server, which holds a counter and a load balancer.  The
only session does not show the last commit yet. -/
def balanced : Network :=
  let (server, network) := empty.createServer .small
  let network := network.addServer default server
  let network := (network.insertRow server "NB_Global" []).2
  let network := (network.insertRow server balancerTable
    [(mappingColumn, .map .empty)]).2
  let network := (network.openSession default
    (Selection.ofSchema .small).selectAll ⟨.ofSecs 1, .zero, none⟩).2
  let network := (network.perform (.setDelay server (.ofMillis 10))).2
  (network.commit server [.delete "NB_Global" (.drawn 1),
    .insert "NB_Global" (.drawn 1) .empty]).2

def viewer : Session := (balanced.session? ⟨0, 0⟩).getD default

/-- Two mappings, one of them of a load balancer that is not there, around
another map for the one that is. -/
def tended : List Entry :=
  [.addMapping viewer (.drawn 2) "10.0.0.1" "port" "10.0.0.2",
    .own (.update balancerTable (.drawn 2)
      (.ofList [(mappingColumn, .map .empty)])),
    .deleteMapping viewer (.drawn 2) "10.0.0.1",
    .addMapping viewer (.drawn 3) "10.0.0.1" "port" "10.0.0.2"]

theorem tended_balancer_commits :
    balanced.server? 0 =
        some ((Server.ofSchema .small).run balancedEvents) ∧
      (balanced.submit ⟨0, 0⟩ (Entry.build (.ofSecs 1)
        [⟨"NB_Global", "nb_cfg"⟩] tended)).1 = .ok .committed := by
  have here : balanced.server? 0 =
      some ((Server.ofSchema .small).run balancedEvents) := by
    decide +kernel
  have isOpen : ((Server.ofSchema .small).run balancedEvents).session? 0 =
      some viewer := by
    decide +kernel
  have sound := (Server.sound_ofSchema .small).run balancedEvents
  have schema : ((Server.ofSchema .small).run balancedEvents).schema = .small :=
    Server.schema_run _ _
  have names : Entry.NamesMappings
      ((Server.ofSchema .small).run balancedEvents).schema := by
    rw [schema]
    exact fun shape known => DatabaseSchema.wellNamed_small _ shape known _
  have find : Entry.FindMaps
      ((Server.ofSchema .small).run balancedEvents).schema
      ((Server.ofSchema .small).run balancedEvents).database.tables tended :=
    Entry.findMaps_of_stage names sound.database.complete rfl
  have fate := @mapping_commands_keep_fate_iff balanced ⟨0, 0⟩ viewer
    (.ofSecs 1) [⟨"NB_Global", "nb_cfg"⟩] tended .small balancedEvents here
    isOpen rfl
  refine ⟨here, (fate.quietly ?_ ?_).mpr ((fate.finds names).mpr find)⟩
  · intro plan member
    cases member
  · exact ⟨_, rfl, _, List.mem_cons_self, rfl⟩

def dismissed : List Entry :=
  [.own (.delete balancerTable (.drawn 2)),
    .addMapping viewer (.drawn 2) "10.0.0.1" "port" "10.0.0.2"]

/-- A mapping command that queues a mutation without complaint can make a
transaction fail that commits without it. -/
theorem mapping_of_deleted_balancer_fails :
    (balanced.submit ⟨0, 0⟩ (Entry.build (.ofSecs 1) []
        (dismissed.filter Entry.isOwn))).1 matches .ok .committed ∧
      (balanced.submit ⟨0, 0⟩ (Entry.build (.ofSecs 1) [] dismissed)).1 matches
        .error (.recordNotFound _ _) := by
  decide +kernel

end Network

end OvsdbClient
