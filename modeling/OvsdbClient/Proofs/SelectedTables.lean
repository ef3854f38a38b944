import OvsdbClient.Proofs.CallPreservation
import OvsdbClient.Proofs.ReplicaContents

/-!
# Selected tables

The tables that are selected of a schema are listed by the selection, make up
the schema of a session, and are copied by its replica.  The first two are one
thing however they were chosen.  The last stays as it was when the session was
opened, and so a row is looked up in a table just if the table is copied.
-/

namespace OvsdbClient

/-! ## The tables of a session -/

namespace Session

variable {session next : Session} {selected : DatabaseSchema}
  {database : Database} {notices : List Notice} {delay : Span} {now : Nat}

/-- A session copies the tables of a schema. -/
structure Copies (session : Session) (selected : DatabaseSchema) : Prop where
  schema : session.schema = selected
  replica : ∀ table,
    session.replica.hasTable table = selected.hasTable table

theorem copies_start (database : Database) (endpoint : Endpoint)
    (selected : DatabaseSchema) (options : SessionOptions) :
    (start database endpoint selected options).Copies selected where
  schema := rfl
  replica := by
    intro table
    refine (Replica.hasTable_call (.ofTables selected.tableNames)
      (.reset (snapshot database)) table).trans ?_
    rw [Bool.eq_iff_iff, Replica.hasTable_ofTables_iff]
    exact SortedMap.mem_keys_iff

/-- What comes next in following a database is told to the replica in calls. -/
theorem exists_calls_of_proceed
    (done : session.proceed? database delay now = some (next, notices)) :
    ∃ calls, next.replica = session.replica.run calls := by
  unfold proceed? at done
  split at done
  case h_1 announcement due inHand =>
    split at done
    case isTrue =>
      cases done
      exact ⟨[.apply announcement.update], rfl⟩
    case isFalse => cases done
  case h_2 =>
    split at done
    case isTrue =>
      cases done
      exact ⟨[.reset (snapshot database)], rfl⟩
    case isFalse =>
      split at done
      case h_2 => cases done
      case h_1 announcement _ =>
        cases done
        unfold Session.receive
        split
        · exact ⟨[.apply announcement.update], rfl⟩
        · exact ⟨[], rfl⟩

theorem Copies.turn (copies : session.Copies selected)
    (turn : Server.Turn database session next) : next.Copies selected where
  schema := turn.opened.1.trans copies.schema
  replica := by
    intro table
    refine Eq.trans ?_ (copies.replica table)
    cases turn with
    | told lock state => rfl
    | worked done =>
        obtain ⟨calls, same⟩ := exists_calls_of_proceed done
        rw [same, Replica.hasTable_run]

/-- What the schema, the replica and the lookups of a session tell of its
tables. -/
structure Agrees (session : Session) (selected : DatabaseSchema) : Prop where
  schema : ∀ table, session.schema.hasTable table = true ↔
    session.replica.hasTable table = true
  replica : ∀ table, session.replica.hasTable table = true ↔
    selected.hasTable table = true
  lookup : ∀ table uuid, session.lookup table uuid =
    if session.replica.hasTable table then
      orFault (.recordNotFound table uuid.text)
        (session.replica.get? table uuid)
    else .error (.tableNotFound table)
  rowByValue : ∀ table column atom, session.rowByValue table column atom =
    if session.replica.hasTable table then
      orFault (.rowNotFound table column atom.text)
        (session.replica.findFirst? table (·.holds column atom))
    else .error (.tableNotFound table)

theorem Copies.bind_checkTable {α : Type} (copies : session.Copies selected)
    (table : String) (search : Except Fault α) :
    (do let _ ← session.checkTable table; search) =
      if session.replica.hasTable table then search
      else .error (.tableNotFound table) := by
  rw [copies.replica, ← copies.schema, checkTable]
  cases found : session.schema.table? table with
  | none =>
      have lacks : session.schema.hasTable table = false :=
        congrArg Option.isSome found
      rw [lacks]
      rfl
  | some shape =>
      have has : session.schema.hasTable table = true :=
        congrArg Option.isSome found
      rw [has]
      rfl

theorem Copies.agrees (copies : session.Copies selected) :
    session.Agrees selected where
  schema := fun table => by rw [copies.schema, copies.replica]
  replica := fun table => by rw [copies.replica]
  lookup := fun table _ => copies.bind_checkTable table _
  rowByValue := fun table _ _ => copies.bind_checkTable table _

end Session

/-- A session goes on copying the tables that it was opened with. -/
theorem Server.exists_copies_run {server : Server} {number : Nat}
    {session : Session} {selected : DatabaseSchema}
    (here : server.session? number = some session)
    (copies : session.Copies selected) (events : List Event) :
    ∃ next, (server.run events).session? number = some next ∧
      next.Copies selected := by
  induction events generalizing server session with
  | nil => exact ⟨session, here, copies⟩
  | cons event events induction =>
      obtain ⟨next, there, turn⟩ := session?_handle_of_some here event
      exact induction there (copies.turn turn)

/-! ## Servers while clients work -/

namespace Network

variable {network later last : Network}

theorem leads_fetchSchema (network : Network) (endpoint : Endpoint)
    (schema : String) :
    network.Leads (network.fetchSchema endpoint schema).2 := by
  unfold fetchSchema
  split
  · exact leads_of_servers_eq rfl
  · exact leads_withServer network _ fun _ =>
      ⟨[.fetchSchema endpoint schema], rfl⟩

theorem lasting_leads : Lasting Leads where
  refl := fun _ => leads_of_servers_eq rfl
  trans := .trans
  settle := leads_settle
  moveTo := leads_moveTo
  age := fun _ _ => leads_of_servers_eq rfl
  note := fun _ _ => leads_of_servers_eq rfl
  commit := leads_commit
  fetchSchema := leads_fetchSchema
  abandon := fun network server session =>
    leads_modifyServer network server fun _ _ => ⟨[.abandon session], rfl⟩

theorem leads_openSession (network : Network) (endpoint : Endpoint)
    (selection : Selection) (options : SessionOptions) :
    network.Leads (network.openSession endpoint selection options).2 := by
  unfold openSession
  split
  · exact leads_of_servers_eq rfl
  · exact leads_withServer network _ fun _ =>
      ⟨[.openSession endpoint selection.build options], rfl⟩

theorem leads_start (network : Network) (number : Nat) :
    network.Leads (network.start number).2 := by
  unfold start
  split
  case h_1 => exact leads_of_servers_eq rfl
  case h_2 connector _ =>
    split
    case h_1 => exact leads_of_servers_eq rfl
    case h_2 =>
      have opens := network.leads_openSession connector.endpoint
        connector.selection connector.settings.sessionOptions
      unfold startSession
      dsimp only
      split
      case h_1 fault opened answered =>
        rw [answered] at opens
        exact opens
      case h_2 id opened answered =>
        rw [answered] at opens
        cases connector.settings.lock with
        | none => exact opens.trans (leads_of_servers_eq rfl)
        | some name =>
            exact (opens.trans (leads_setLock opened id name)).trans
              (leads_of_servers_eq rfl)

theorem leads_bootstrap? {settings : ConnectionSettings} {fuel : Nat}
    {draws : Draws} {answer : Except Fault Nat}
    (answered : network.bootstrap? settings fuel draws = some (answer, later)) :
    network.Leads later := by
  unfold bootstrap? at answered
  split at answered
  case h_1 =>
    cases answered
    exact leads_of_servers_eq rfl
  case h_2 =>
    dsimp only at answered
    split at answered
    case h_1 => cases answered
    case h_2 ran =>
      cases answered
      exact (lasting_leads.exists_attempt ran).1
    case h_3 ran =>
      cases answered
      exact (lasting_leads.exists_attempt ran).1.trans
        (leads_of_servers_eq rfl)

/-- Every call but one that sets up a server is events to the servers. -/
theorem leads_call (network : Network) (call : Call) :
    (∃ schema, call = .createServer schema) ∨
      network.Leads (network.call call) := by
  cases call with
  | createServer schema => exact .inl ⟨schema, rfl⟩
  | perform action => exact .inr (leads_perform network action)
  | schedule after action keeps => exact .inr (leads_of_servers_eq rfl)
  | advance span => exact .inr (lasting_leads.advance network span)
  | submit id transaction =>
      exact .inr (lasting_leads.submit network id transaction)
  | execute handle command =>
      exact .inr (lasting_leads.execute network handle command)
  | awaitRow id policy table column atom fuel draws =>
      right
      simp only [Network.call]
      cases answered :
        network.awaitRow? id policy table column atom fuel draws with
      | none => exact leads_of_servers_eq rfl
      | some answer => exact lasting_leads.awaitRow? answered
  | retain held => exact .inr (lasting_leads.abandonAllBut network _)
  | bootstrap settings fuel draws =>
      right
      simp only [Network.call]
      cases answered : network.bootstrap? settings fuel draws with
      | none => exact leads_of_servers_eq rfl
      | some answer => exact leads_bootstrap? answered
  | start number => exact .inr (leads_start network number)
  | stopConnector number =>
      right
      rcases network.stopConnector_cases number with ⟨_, same⟩ |
        ⟨connector, _, ⟨_, same⟩ | ⟨handle, _, same⟩⟩
      · exact leads_of_servers_eq (by rw [Network.call, same])
      · exact leads_of_servers_eq (by rw [Network.call, same]; rfl)
      · rw [Network.call, same]
        exact Leads.trans (leads_of_servers_eq rfl) (leads_stopHandle _ handle)

theorem exists_run_of_calls {number : Nat} {server : Server}
    (here : network.server? number = some server) (calls : List Call) :
    ∃ events, (calls.foldl Network.call network).server? number =
      some (server.run events) := by
  induction calls generalizing network server with
  | nil => exact ⟨[], here⟩
  | cons call calls induction =>
      have next : ∃ events, (network.call call).server? number =
          some (server.run events) := by
        rcases network.leads_call call with ⟨schema, rfl⟩ | leads
        · obtain ⟨low, _⟩ := List.getElem?_eq_some_iff.mp here
          exact ⟨[], (List.getElem?_append_left low).trans here⟩
        · obtain ⟨events, became⟩ := leads number
          exact ⟨events, by rw [became, here, Option.map_some]⟩
      obtain ⟨events, became⟩ := next
      obtain ⟨others, becomes⟩ := induction became
      exact ⟨events ++ others, by rw [Server.run_append]; exact becomes⟩

theorem exists_copies_of_openSession {endpoint : Endpoint}
    {selection : Selection} {options : SessionOptions} {id : SessionId}
    (opens : network.openSession endpoint selection options =
      (.ok id, later)) :
    ∃ server session, later.server? id.server = some server ∧
      server.session? id.number = some session ∧
      session.Copies selection.build := by
  unfold openSession withServer at opens
  split at opens
  case h_1 => cases opens
  case h_2 number _ =>
    split at opens
    case h_2 => cases opens
    case h_1 server here =>
      cases opens
      obtain ⟨low, _⟩ := List.getElem?_eq_some_iff.mp here
      exact ⟨_, _, List.getElem?_set_self low, List.getElem?_concat_length,
        Session.copies_start server.database endpoint selection.build options⟩

end Network

/-- Whatever is chosen of a schema, the selection lists the tables of the schema
that it builds.  These are the tables of the former that were chosen, as they
are there, and a table that could not be registered changes nothing.  Of a
session that is opened with the selection, the schema and the replica have these
tables for ever, and rows are looked up there and nowhere else: whatever is
called on the network, and whatever else then happens to the server. -/
theorem Selection.session_keeps_selected_tables (schema : DatabaseSchema)
    (choices : List Choice) :
    let selection := (ofSchema schema).chooseAll choices
    selection.tables = selection.build.tableNames ∧
      (∀ table shape, selection.build.table? table = some shape →
        schema.table? table = some shape) ∧
      (∀ table, selection.build.hasTable table = true ↔
        schema.hasTable table = true ∧
          (.register table ∈ choices ∨ .selectAll ∈ choices)) ∧
      (∀ table, (selection.offer table).1 = schema.hasTable table ∧
        ((selection.offer table).1 = false →
          (selection.offer table).2 = selection)) ∧
      ∀ (network : Network) (endpoint : Endpoint) (options : SessionOptions)
        (id : SessionId) (opened : Network),
        network.openSession endpoint selection options = (.ok id, opened) →
        ∀ (calls : List Call) (events : List Event), ∃ server session,
          (calls.foldl Network.call opened).server? id.server = some server ∧
            (server.run events).session? id.number = some session ∧
            session.Agrees selection.build := by
  intro selection
  have kept : selection.schema = schema := schema_chooseAll _ choices
  refine ⟨tables_eq_tableNames fun table named => ?_, ?_,
    fun _ => hasTable_build_chooseAll_iff, fun table => ?_, ?_⟩
  · rcases contains_chooseAll_iff.mp named with before | ⟨_, has⟩
    · cases before
    · exact kept.symm ▸ has
  · intro table shape found
    rw [table?_build, kept] at found
    exact (Option.filter_eq_some_iff.mp found).1
  · rw [offer_eq, kept]
    split <;> simp [*]
  · intro network endpoint options id opened opens calls events
    obtain ⟨server, session, here, isOpen, copies⟩ :=
      Network.exists_copies_of_openSession opens
    -- To the server the calls are events too, so there is one run of it.
    obtain ⟨past, became⟩ := Network.exists_run_of_calls here calls
    obtain ⟨next, there, still⟩ :=
      Server.exists_copies_run isOpen copies (past ++ events)
    rw [Server.run_append] at there
    exact ⟨_, next, became, there, still.agrees⟩

/-- A table is registered twice, with one in between that the schema has not. -/
def Selection.repeatedChoices : List Choice :=
  [.register "Load_Balancer", .register "Router", .register "Load_Balancer"]

theorem Selection.session_searches_registered_table :
    let selection := (ofSchema .small).chooseAll repeatedChoices
    let endpoint := Endpoint.tcp "127.0.0.1" 6641
    let network := Network.after
      [.createServer .small, .perform (.addServer endpoint 0)]
    let opening := network.openSession endpoint selection default
    let commit := Call.perform (.commit 0
      [.insert "Load_Balancer" (.ofNat 1) .empty,
        .insert "NB_Global" (.ofNat 2) .empty])
    selection.tables = selection.build.tableNames ∧
      (∃ shape, selection.build.table? "Load_Balancer" = some shape ∧
        DatabaseSchema.small.table? "Load_Balancer" = some shape) ∧
      selection.offer "Router" = (false, selection) ∧
      opening.1 = .ok ⟨0, 0⟩ ∧
      ∃ server session,
        ([commit].foldl Network.call opening.2).server? 0 = some server ∧
          (server.run [.work 0 0]).session? 0 = some session ∧
          session.replica.hasTable "Load_Balancer" = true ∧
          session.lookup "NB_Global" (.ofNat 2) =
            .error (.tableNotFound "NB_Global") := by
  intro selection endpoint network opening commit
  obtain ⟨listed, shapes, chosen, offers, keeps⟩ :=
    session_keeps_selected_tables .small repeatedChoices
  have unknown : (selection.offer "Router").1 = false := by decide +kernel
  have opens : opening.1 = .ok ⟨0, 0⟩ := by decide +kernel
  have has : selection.build.hasTable "Load_Balancer" = true :=
    (chosen "Load_Balancer").mpr ⟨by decide +kernel, .inl (by decide)⟩
  obtain ⟨shape, found⟩ := SortedMap.contains_eq_true_iff.mp has
  obtain ⟨server, session, here, isOpen, agrees⟩ := keeps network endpoint
    default ⟨0, 0⟩ opening.2 (Prod.ext opens rfl) [commit] [.work 0 0]
  have lacks : ¬session.replica.hasTable "NB_Global" = true := by
    intro there
    have named := (chosen "NB_Global").mp ((agrees.replica _).mp there)
    exact absurd named.2 (by decide)
  refine ⟨listed, ⟨shape, found, shapes "Load_Balancer" shape found⟩,
    Prod.ext unknown ((offers "Router").2 unknown), opens, server, session,
    here, isOpen, (agrees.replica "Load_Balancer").mpr has, ?_⟩
  rw [agrees.lookup, if_neg lacks]

end OvsdbClient
