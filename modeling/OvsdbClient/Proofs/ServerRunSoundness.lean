import OvsdbClient.Proofs.Following
import OvsdbClient.Server.Basic

/-!
# Runs of a server

Whatever its clients do, a server lives through a list of events, in which the
work of its sessions may come at any place.  What one event keeps, a run keeps.
-/

namespace OvsdbClient

/-- Something that can happen to a server. -/
inductive Event where
  | commit (operations : List Operation)
  | fetchSchema (endpoint : Endpoint) (schema : String)
  | openSession (endpoint : Endpoint) (schema : DatabaseSchema)
      (options : SessionOptions)
  /-- A session does what comes next in following the database.  One that was
  told to stop may not have noticed yet. -/
  | work (number : Nat) (now : Nat)
  | setLock (number : Nat) (name : String)
  | stop (number : Nat)
  | abandon (number : Nat)
  | setDelay (delay : Span)
  | failSchemaFetches (count : Nat)
  | failNextCommit (reason : String)
deriving DecidableEq, Inhabited

/-- What climbs one level at a time goes through all levels up to its last. -/
theorem exists_prefix_of_climbs {State Move : Type}
    {step : State → Move → State} (height : State → Nat)
    (climbs : ∀ state move, height (step state move) = height state ∨
      height (step state move) = height state + 1)
    {state : State} {moves : List Move} {level : Nat}
    (low : height state ≤ level)
    (high : level ≤ height (moves.foldl step state)) :
    ∃ past, past <+: moves ∧ height (past.foldl step state) = level := by
  induction moves generalizing state with
  | nil => exact ⟨[], List.prefix_rfl, Nat.le_antisymm low high⟩
  | cons move moves induction =>
      by_cases now : height state = level
      · exact ⟨[], List.nil_prefix, now⟩
      · have later : height (step state move) ≤ level := by
          rcases climbs state move with same | next <;> omega
        obtain ⟨past, before, reached⟩ := induction later high
        exact ⟨move :: past, List.prefix_cons_inj move |>.mpr before, reached⟩

namespace Server

/-- Lets a session do what comes next, if it need not wait for that. -/
def work (server : Server) (number now : Nat) : Server :=
  match (server.session? number).bind fun session =>
      session.proceed? server.database server.delay now with
  | some (session, _) => server.modifySession number fun _ => session
  | none => server

/-- The server after an event.  Only the first request to stop a session counts.
-/
def handle (server : Server) : Event → Server
  | .commit operations => (server.commit operations).2
  | .fetchSchema endpoint schema => (server.fetchSchema endpoint schema).2
  | .openSession endpoint schema options =>
      (server.openSession endpoint schema options).2
  | .work number now => server.work number now
  | .setLock number name => server.setLock number name
  | .stop number =>
      if (server.session? number).any (·.stopped) then server
      else server.stopSession number
  | .abandon number => server.modifySession number Session.abandon
  | .setDelay delay => { server with delay }
  | .failSchemaFetches count => { server with outages := count }
  | .failNextCommit reason => { server with rejection := some reason }

/-- The server after events. -/
def run (server : Server) (events : List Event) : Server :=
  events.foldl handle server

@[simp] theorem run_nil (server : Server) : server.run [] = server :=
  rfl

theorem run_append (server : Server) (first second : List Event) :
    server.run (first ++ second) = (server.run first).run second :=
  List.foldl_append

/-! ## What an event does -/

/-- What an event makes of a session: it changes its lock or its state, or does
what comes next in following the database. -/
inductive Turn (database : Database) (session : Session) : Session → Prop where
  | told (lock : Option String) (state : SessionState) :
      Turn database session { session with lock, state }
  | worked {next : Session} {notices : List Notice} {delay : Span} {now : Nat} :
      session.proceed? database delay now = some (next, notices) →
      Turn database session next

theorem Turn.refl {database : Database} {session : Session} :
    Turn database session session :=
  .told session.lock session.state

variable {schema : DatabaseSchema} {server : Server} {event : Event}
  {number : Nat}

theorem session?_modifySession (server : Server) (number other : Nat)
    (change : Session → Session) :
    (server.modifySession number change).session? other =
      if number = other then (server.session? other).map change
      else server.session? other := by
  simp only [session?, modifySession]
  rw [List.getElem?_modify]
  split
  case isTrue => cases server.sessions[other]? <;> rfl
  case isFalse => cases server.sessions[other]? <;> rfl

theorem sessions_commit (server : Server) (operations : List Operation) :
    (server.commit operations).2.sessions = server.sessions ∧
      (server.commit operations).2.schema = server.schema := by
  unfold commit
  split
  · exact ⟨rfl, rfl⟩
  · split <;> exact ⟨rfl, rfl⟩

private theorem turn_modifySession {session : Session} (other : Nat)
    {change : Session → Session} (here : server.session? number = some session)
    (turn : other = number → Turn server.database session (change session)) :
    ∃ next, (server.modifySession other change).session? number = some next ∧
      Turn server.database session next := by
  rw [session?_modifySession]
  split
  case isTrue same => exact ⟨change session, by rw [here]; rfl, turn same⟩
  case isFalse => exact ⟨session, here, .refl⟩

/-- An open session stays open and takes a turn. -/
theorem session?_handle_of_some {session : Session}
    (here : server.session? number = some session) (event : Event) :
    ∃ next, (server.handle event).session? number = some next ∧
      Turn server.database session next := by
  cases event with
  | commit operations =>
      refine ⟨session, ?_, .refl⟩
      unfold session?
      rw [handle, (sessions_commit server operations).1]
      exact here
  | fetchSchema endpoint schema =>
      refine ⟨session, ?_, .refl⟩
      simp only [handle, fetchSchema]
      split
      · exact here
      · split <;> exact here
  | openSession endpoint schema options =>
      refine ⟨session, ?_, .refl⟩
      obtain ⟨low, _⟩ := List.getElem?_eq_some_iff.mp here
      exact (List.getElem?_append_left low).trans here
  | work other now =>
      simp only [handle, work]
      split
      case h_2 => exact ⟨session, here, .refl⟩
      case h_1 next notices found =>
        refine turn_modifySession other here fun same => ?_
        obtain ⟨old, there, done⟩ := Option.bind_eq_some_iff.mp found
        cases (same ▸ there).symm.trans here
        exact .worked done
  | setLock other name =>
      exact turn_modifySession other here fun _ => .told (some name) _
  | stop other =>
      simp only [handle]
      split
      · exact ⟨session, here, .refl⟩
      · exact turn_modifySession other here fun _ => .told session.lock .stopped
  | abandon other =>
      refine turn_modifySession other here fun _ => ?_
      unfold Session.abandon
      split
      · exact .told session.lock .abandoned
      · exact .refl
  | setDelay delay => exact ⟨session, here, .refl⟩
  | failSchemaFetches count => exact ⟨session, here, .refl⟩
  | failNextCommit reason => exact ⟨session, here, .refl⟩

theorem length_sessions_handle (server : Server) (event : Event) :
    (server.handle event).sessions.length = server.sessions.length ∨
      ∃ endpoint selected options,
        event = .openSession endpoint selected options := by
  cases event with
  | openSession endpoint schema options => exact .inr ⟨_, _, _, rfl⟩
  | commit operations =>
      exact .inl (congrArg List.length (sessions_commit server operations).1)
  | fetchSchema endpoint schema =>
      left
      simp only [handle, fetchSchema]
      split
      · rfl
      · split <;> rfl
  | work number now =>
      left
      simp only [handle, work]
      split
      · exact List.length_modify ..
      · rfl
  | setLock number name => exact .inl (List.length_modify ..)
  | stop number =>
      left
      simp only [handle]
      split
      · rfl
      · exact List.length_modify ..
  | abandon number => exact .inl (List.length_modify ..)
  | setDelay delay => exact .inl rfl
  | failSchemaFetches count => exact .inl rfl
  | failNextCommit reason => exact .inl rfl

theorem session?_handle_of_none {session : Session}
    (absent : server.session? number = none)
    (opened : (server.handle event).session? number = some session) :
    ∃ endpoint selected options,
      session = Session.start server.database endpoint selected options := by
  have high := List.getElem?_eq_none_iff.mp absent
  obtain ⟨low, here⟩ := List.getElem?_eq_some_iff.mp opened
  rcases length_sessions_handle server event with same |
    ⟨endpoint, selected, options, rfl⟩
  · omega
  · refine ⟨endpoint, selected, options, here.symm.trans ?_⟩
    refine (List.getElem_append_right high).trans ?_
    exact List.getElem_singleton _

theorem schema_handle (server : Server) (event : Event) :
    (server.handle event).schema = server.schema := by
  cases event with
  | commit operations => exact (sessions_commit server operations).2
  | fetchSchema endpoint schema =>
      simp only [handle, fetchSchema]
      split
      · rfl
      · split <;> rfl
  | work number now =>
      simp only [handle, work]
      split <;> rfl
  | stop number =>
      simp only [handle]
      split <;> rfl
  | _ => rfl

theorem database_handle (server : Server) (event : Event) :
    (server.handle event).database = server.database ∨
      ∃ operations, event = .commit operations ∧
        server.database.commit server.schema operations =
          .ok (server.handle event).database := by
  cases event with
  | commit operations =>
      simp only [handle, commit]
      split
      · exact .inl rfl
      · split
        case h_1 database done => exact .inr ⟨operations, rfl, done⟩
        case h_2 => exact .inl rfl
  | fetchSchema endpoint schema =>
      left
      simp only [handle, fetchSchema]
      split
      · rfl
      · split <;> rfl
  | work number now =>
      left
      simp only [handle, work]
      split <;> rfl
  | stop number =>
      left
      simp only [handle]
      split <;> rfl
  | _ => exact .inl rfl

/-! ## What runs keep -/

/-- The database of a server has its history, and every session follows it. -/
structure Sound (server : Server) : Prop where
  database : server.database.Sound server.schema
  following : ∀ number session, server.session? number = some session →
    session.Follows server.schema server.database.announcements.toList

theorem sound_ofSchema (schema : DatabaseSchema) : (ofSchema schema).Sound where
  database := Database.sound_ofSchema
  following := by
    intro number session here
    cases here

theorem announcements_handle (server : Server) (event : Event) :
    server.database.announcements.toList <+:
      (server.handle event).database.announcements.toList := by
  rcases database_handle server event with same | ⟨_, _, done⟩
  · simp only [same, List.prefix_rfl]
  · exact Database.announcements_commit done

/-- A session goes on following after its turn, and shows no less. -/
theorem Turn.follows {database : Database} {session next : Session}
    (turn : Turn database session next) (sound : database.Sound schema)
    (follows : session.Follows schema database.announcements.toList) :
    next.Follows schema database.announcements.toList ∧
      session.applied ≤ next.applied := by
  cases turn with
  | told lock state =>
      exact ⟨⟨follows.known, follows.shown, follows.counted, follows.held⟩,
        Nat.le_refl _⟩
  | worked done => exact follows.proceed sound done

theorem Turn.opened {database : Database} {session next : Session}
    (turn : Turn database session next) :
    next.schema = session.schema ∧ next.options = session.options := by
  cases turn with
  | told lock state => exact ⟨rfl, rfl⟩
  | worked done =>
      obtain ⟨_, _, _, _, rfl⟩ := Session.exists_of_proceed done
      exact ⟨rfl, rfl⟩

theorem Sound.handle (sound : server.Sound) (event : Event) :
    (server.handle event).Sound := by
  refine ⟨?_, fun number session here => ?_⟩
  · rw [schema_handle]
    rcases database_handle server event with same | ⟨_, _, done⟩
    · rw [same]
      exact sound.database
    · exact sound.database.commit done
  · rw [schema_handle]
    refine Session.Follows.grown ?_ (announcements_handle server event)
    cases before : server.session? number with
    | some old =>
        obtain ⟨next, there, turn⟩ := session?_handle_of_some before event
        cases there.symm.trans here
        exact (turn.follows sound.database (sound.following _ _ before)).1
    | none =>
        obtain ⟨endpoint, selected, options, rfl⟩ :=
          session?_handle_of_none before here
        exact Session.follows_start sound.database endpoint selected options

theorem Sound.run (sound : server.Sound) (events : List Event) :
    (server.run events).Sound := by
  induction events generalizing server with
  | nil => exact sound
  | cons event events induction => exact induction (sound.handle event)

theorem schema_run (server : Server) (events : List Event) :
    (server.run events).schema = server.schema := by
  induction events generalizing server with
  | nil => rfl
  | cons event events induction =>
      exact (induction (server.handle event)).trans (schema_handle server event)

theorem announcements_run (server : Server) (events : List Event) :
    server.database.announcements.toList <+:
      (server.run events).database.announcements.toList := by
  induction events generalizing server with
  | nil => exact List.prefix_rfl
  | cons event events induction =>
      exact (announcements_handle server event).trans
        (induction (server.handle event))

/-- A session stays open with what it was opened with. -/
theorem session?_run {session : Session}
    (here : server.session? number = some session) (events : List Event) :
    ∃ next, (server.run events).session? number = some next ∧
      next.schema = session.schema ∧ next.options = session.options := by
  induction events generalizing server session with
  | nil => exact ⟨session, here, rfl, rfl⟩
  | cons event events induction =>
      obtain ⟨next, there, turn⟩ := session?_handle_of_some here event
      obtain ⟨last, final, schema, options⟩ := induction there
      exact ⟨last, final, schema.trans turn.opened.1,
        options.trans turn.opened.2⟩

theorem Sound.applied_run {session last : Session} (sound : server.Sound)
    (here : server.session? number = some session) {events : List Event}
    (final : (server.run events).session? number = some last) :
    session.applied ≤ last.applied := by
  induction events generalizing server session with
  | nil =>
      cases here.symm.trans final
      exact Nat.le_refl _
  | cons event events induction =>
      obtain ⟨next, there, turn⟩ := session?_handle_of_some here event
      exact Nat.le_trans
        (turn.follows sound.database (sound.following _ _ here)).2
        (induction (sound.handle event) there final)

theorem generation_handle (server : Server) (event : Event) :
    (server.handle event).generation = server.generation ∨
      (server.handle event).generation = server.generation + 1 := by
  unfold generation
  rcases database_handle server event with same | ⟨operations, _, done⟩
  · exact .inl (congrArg _ same)
  · obtain ⟨staged, _, after⟩ := Database.commit_eq_ok_iff.mp done
    rw [after]
    split
    · exact .inl rfl
    · exact .inr rfl

theorem generation_run_le (server : Server) (events : List Event) :
    server.generation ≤ (server.run events).generation := by
  induction events generalizing server with
  | nil => exact Nat.le_refl _
  | cons event events induction =>
      have rest := induction (server.handle event)
      rcases generation_handle server event with same | next
      · exact same ▸ rest
      · exact Nat.le_trans (by omega) rest

/-- A run goes through every generation up to its last. -/
theorem exists_prefix_of_generation {server : Server} {events : List Event}
    {generation : Nat} (low : server.generation ≤ generation)
    (high : generation ≤ (server.run events).generation) :
    ∃ past, past <+: events ∧ (server.run past).generation = generation :=
  exists_prefix_of_climbs Server.generation generation_handle low high

/-- What the tables were at an earlier point of a run is told later. -/
theorem Sound.tables_of_past {past events : List Event} (sound : server.Sound)
    (before : past <+: events) :
    Database.tablesAt server.schema
        (server.run events).database.announcements.toList
        (server.run past).generation = (server.run past).database.tables := by
  obtain ⟨future, rfl⟩ := before
  have reached := (sound.run past).database
  rw [schema_run] at reached
  have grown := announcements_run (server.run past) future
  rw [← run_append] at grown
  refine Eq.trans ?_ reached.told
  exact Database.tablesAt_of_grown grown (Nat.le_of_eq reached.counted.symm)

end Server

/-- A schema of two tables with one column each, to try things out with. -/
def DatabaseSchema.small : DatabaseSchema where
  name := "OVN_Northbound"
  version := "7.3.0"
  tables := .ofList
    [("Load_Balancer", ⟨"Load_Balancer", .ofList [("ip_port_mappings",
        ⟨"ip_port_mappings", .map, .string, some .string, 0, none, true⟩)],
      true, []⟩),
    ("NB_Global", ⟨"NB_Global", .ofList [("nb_cfg",
        ⟨"nb_cfg", .scalar, .integer, none, 1, some 1, true⟩)],
      true, []⟩)]

theorem DatabaseSchema.wellNamed_small : DatabaseSchema.small.WellNamed := by
  have own : ∀ entry ∈ DatabaseSchema.small.tables.toList,
      ∀ column ∈ entry.2.columns.toList, column.2.name = column.1 := by
    decide +kernel
  intro table shape known
  apply TableSchema.wellNamed_of_name_eq
  exact own (table, shape) (SortedMap.mem_toList_of_get? known)

end OvsdbClient
