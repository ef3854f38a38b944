import OvsdbClient.Network.Retention
import OvsdbClient.Proofs.Bootstrapping

/-!
# What stays on a network

Servers keep their schemas, and sessions the tables that they were opened with.
A session that has been stopped stays stopped, and so does a handle.
-/

namespace OvsdbClient

/-! ## What stays of a server -/

/-- What a session shows of itself: the tables that it follows, and whether it
has been stopped. -/
def Session.standing (session : Session) : DatabaseSchema × Bool :=
  (session.schema, session.stopped)

namespace Session

theorem standing_steps {database : Database} {delay : Span} {now : Nat}
    (fuel : Nat) (session : Session) :
    (steps database delay now fuel session).1.standing = session.standing := by
  induction fuel generalizing session with
  | zero => rfl
  | succ fuel induction =>
      simp only [steps]
      split
      case h_1 next notices stepped =>
        rw [induction next]
        unfold step? at stepped
        split at stepped
        · obtain ⟨_, _, _, _, rfl⟩ := exists_of_proceed stepped
          rfl
        · cases stepped
      case h_2 => rfl

theorem standing_abandon (session : Session) :
    session.abandon.standing = session.standing := by
  unfold abandon
  split
  case isTrue following => simp [standing, stopped, following]
  case isFalse => rfl

end Session

namespace Server

variable {server : Server}

/-- The schema of a server and what its sessions show of themselves. -/
def outline (server : Server) :
    DatabaseSchema × List (DatabaseSchema × Bool) :=
  (server.schema, server.sessions.map Session.standing)

theorem outline_commit (server : Server) (operations : List Operation) :
    (server.commit operations).2.outline = server.outline := by
  obtain ⟨sessions, schema⟩ := server.sessions_commit operations
  simp only [outline, sessions, schema]

theorem outline_fetchSchema (server : Server) (endpoint : Endpoint)
    (schema : String) :
    (server.fetchSchema endpoint schema).2.outline = server.outline := by
  unfold fetchSchema
  split
  · rfl
  · split <;> rfl

theorem outline_settle (server : Server) (now : Nat) :
    (server.settle now).1.outline = server.outline := by
  simp only [outline, settle, List.map_map]
  refine congrArg (Prod.mk _) (List.map_congr_left fun session _ => ?_)
  exact Session.standing_steps _ session

theorem outline_modifySession (server : Server) (number : Nat)
    {change : Session → Session}
    (keeps : ∀ session, (change session).standing = session.standing) :
    (server.modifySession number change).outline = server.outline := by
  refine congrArg (Prod.mk _) (List.ext_getElem? fun place => ?_)
  simp only [modifySession, List.getElem?_map, List.getElem?_modify]
  cases server.sessions[place]? with
  | none => rfl
  | some session =>
      simp only [Option.map_some]
      split
      · exact congrArg some (keeps session)
      · rfl

theorem outline_setLock (server : Server) (number : Nat) (name : String) :
    (server.setLock number name).outline = server.outline :=
  outline_modifySession { server with locks := _ } number fun _ => rfl

theorem outline_openSession (server : Server) (endpoint : Endpoint)
    (selected : DatabaseSchema) (options : SessionOptions) :
    (server.openSession endpoint selected options).2.outline =
      (server.schema,
        server.sessions.map Session.standing ++ [(selected, false)]) := by
  simp only [openSession, outline, List.map_append, List.map_singleton]
  rfl

theorem session?_stopSession (server : Server) (number other : Nat) :
    (server.stopSession number).session? other =
      if number = other then
        (server.session? other).map fun session =>
          { session with state := .stopped }
      else server.session? other :=
  session?_modifySession { server with locks := _ } number other _

end Server

namespace Network

variable {network later last : Network}

/-! ## What stays of a network -/

def outlines (network : Network) :
    List (DatabaseSchema × List (DatabaseSchema × Bool)) :=
  network.servers.map Server.outline

def standing? (network : Network) (id : SessionId) :
    Option (DatabaseSchema × Bool) :=
  (network.session? id).map Session.standing

theorem standing?_eq (network : Network) (id : SessionId) :
    network.standing? id =
      (network.outlines[id.server]?).bind (·.2[id.number]?) := by
  simp only [standing?, session?, server?, outlines, List.getElem?_map]
  cases network.servers[id.server]? with
  | none => rfl
  | some server =>
      simp only [Option.bind_some, Option.map_some, Server.outline,
        List.getElem?_map]
      rfl

def schema? (network : Network) (number : Nat) : Option DatabaseSchema :=
  (network.server? number).map (·.schema)

theorem schema?_eq (network : Network) (number : Nat) :
    network.schema? number = (network.outlines[number]?).map Prod.fst := by
  simp only [schema?, server?, outlines, List.getElem?_map, Option.map_map]
  rfl

/-- Servers and sessions may come, but those that were there are as before, and
so are the handles and connectors. -/
structure Abides (network later : Network) : Prop where
  handles : later.handles = network.handles
  connectors : later.connectors = network.connectors
  outlines : network.outlines <+: later.outlines

theorem abides_of_servers_eq (handles : later.handles = network.handles)
    (connectors : later.connectors = network.connectors)
    (servers : later.servers = network.servers) : network.Abides later := by
  refine ⟨handles, connectors, ?_⟩
  simp only [outlines, servers, List.prefix_rfl]

theorem outlines_modifyServer (network : Network) (number : Nat)
    {change : Server → Server}
    (keeps : ∀ server : Server, (change server).outline = server.outline) :
    (network.modifyServer number change).outlines = network.outlines := by
  refine List.ext_getElem? fun place => ?_
  simp only [outlines, modifyServer, List.getElem?_map, List.getElem?_modify]
  cases network.servers[place]? with
  | none => rfl
  | some server =>
      simp only [Option.map_some]
      split
      · exact congrArg some (keeps server)
      · rfl

theorem abides_modifyServer (network : Network) (number : Nat)
    {change : Server → Server}
    (keeps : ∀ server : Server, (change server).outline = server.outline) :
    network.Abides (network.modifyServer number change) := by
  refine ⟨rfl, rfl, ?_⟩
  simp only [network.outlines_modifyServer number keeps, List.prefix_rfl]

theorem abides_withServer {α : Type} {missing : α}
    {change : Server → α × Server} (network : Network) (number : Nat)
    (keeps : ∀ server, (change server).2.outline = server.outline) :
    network.Abides (network.withServer number missing change).2 := by
  unfold withServer
  split
  case h_2 => exact abides_of_servers_eq rfl rfl rfl
  case h_1 server here =>
    have found : network.servers[number]? = some server := here
    have same := network.outlines_modifyServer number keeps
    rw [modifyServer, List.modify_eq_set_getElem?, found] at same
    refine ⟨rfl, rfl, ?_⟩
    change _ <+: outlines { network with
      servers := network.servers.set number (change server).2 }
    exact same ▸ List.prefix_rfl

theorem abides_commit (network : Network) (number : Nat)
    (operations : List Operation) :
    network.Abides (network.commit number operations).2 :=
  network.abides_withServer number fun server =>
    server.outline_commit operations

theorem abides_settle (network : Network) : network.Abides network.settle := by
  refine ⟨rfl, rfl, ?_⟩
  have same : network.settle.outlines = network.outlines := by
    simp only [outlines, settle, note, List.map_map]
    refine List.map_congr_left fun server _ => ?_
    exact server.outline_settle network.clock
  simp only [same, List.prefix_rfl]

theorem abides_fetchSchema (network : Network) (endpoint : Endpoint)
    (schema : String) :
    network.Abides (network.fetchSchema endpoint schema).2 := by
  unfold fetchSchema
  split
  · exact abides_of_servers_eq rfl rfl rfl
  · exact network.abides_withServer _ fun server =>
      server.outline_fetchSchema endpoint schema

theorem Abides.outline {number : Nat}
    {outline : DatabaseSchema × List (DatabaseSchema × Bool)}
    (abides : network.Abides later)
    (here : network.outlines[number]? = some outline) :
    later.outlines[number]? = some outline := by
  obtain ⟨low, same⟩ := List.getElem?_eq_some_iff.mp here
  have still := List.prefix_iff_getElem?.mp abides.outlines _ low
  exact still.trans (congrArg some same)

theorem Abides.standing? {id : SessionId} {shown : DatabaseSchema × Bool}
    (abides : network.Abides later)
    (here : network.standing? id = some shown) :
    later.standing? id = some shown := by
  rw [standing?_eq] at here ⊢
  obtain ⟨outline, there, rest⟩ := Option.bind_eq_some_iff.mp here
  exact Option.bind_eq_some_iff.mpr ⟨outline, abides.outline there, rest⟩

theorem Abides.schema? {number : Nat} {schema : DatabaseSchema}
    (abides : network.Abides later)
    (here : network.schema? number = some schema) :
    later.schema? number = some schema := by
  rw [schema?_eq] at here ⊢
  obtain ⟨outline, there, rest⟩ := Option.map_eq_some_iff.mp here
  exact Option.map_eq_some_iff.mpr ⟨outline, abides.outline there, rest⟩

/-! ## What stopping a handle does -/

theorem server?_modifyServer (network : Network) (number other : Nat)
    (change : Server → Server) :
    (network.modifyServer number change).server? other =
      if number = other then (network.server? other).map change
      else network.server? other := by
  simp only [server?, modifyServer]
  rw [List.getElem?_modify]
  cases network.servers[other]? <;> split <;> rfl

/-- Stopping a session is seen on that session and on no other. -/
theorem standing?_stopSession (network : Network) (id other : SessionId)
    (timeout : Span) :
    (network.stopSession id timeout).2.standing? other =
      if id = other then
        (network.standing? other).map fun shown => (shown.1, true)
      else network.standing? other := by
  unfold stopSession
  split
  case h_2 absent =>
    by_cases same : id = other
    · simp [← same, standing?, absent]
    · simp [same]
  case h_1 session here =>
    split
    case isTrue stopped =>
      by_cases same : id = other
      · simp [← same, standing?, here, Session.standing, stopped]
      · simp [same]
    case isFalse =>
      simp only [standing?, session?, server?_modifyServer]
      by_cases there : id.server = other.server
      · simp only [there, if_true]
        cases network.server? other.server with
        | none => simp
        | some server =>
            by_cases same : id.number = other.number
            · have whole : id = other := by
                cases id
                cases other
                simp_all
              simp [whole, Server.session?_stopSession, Session.standing,
                Session.stopped, Function.comp_def]
            · have others : id ≠ other := fun whole =>
                same (congrArg SessionId.number whole)
              simp [others, Server.session?_stopSession, same]
      · have others : id ≠ other := fun whole =>
          there (congrArg SessionId.server whole)
        simp [others, there]

theorem schema?_stopSession (network : Network) (id : SessionId)
    (timeout : Span) (number : Nat) :
    (network.stopSession id timeout).2.schema? number =
      network.schema? number := by
  unfold stopSession
  split
  case h_2 => rfl
  case h_1 =>
    split
    case isTrue => rfl
    case isFalse =>
      simp only [schema?, server?_modifyServer]
      split
      · exact Option.map_map ..
      · rfl

theorem stopHandle_of_stopped {number : Nat}
    (stopped : ∀ handle, network.handle? number = some handle →
      handle.stopped = true) :
    network.stopHandle number = (true, network) := by
  unfold stopHandle
  split
  case h_2 => rfl
  case h_1 handle here => rw [if_pos (stopped handle here)]

/-- A handle that was not stopped before is marked, and its session stops. -/
theorem stopHandle_of_running {number : Nat} {handle : Handle}
    (here : network.handle? number = some handle)
    (running : handle.stopped = false) :
    network.stopHandle number =
      let stopped := { handle with stopped := true }
      let handles := network.handles.set number stopped
      { network with handles }.stopSession handle.session handle.timeout := by
  simp only [stopHandle, here, running, Bool.false_eq_true, if_false]

theorem handle?_set (network : Network) (handle : Handle) (number other : Nat)
    (here : network.handle? number = some handle) (next : Handle) :
    ({ network with handles := network.handles.set number next } :
        Network).handle? other =
      if number = other then some next else network.handle? other := by
  obtain ⟨low, _⟩ := List.getElem?_eq_some_iff.mp here
  simp only [handle?, List.getElem?_set, low, if_true]

theorem handles_stopSession (network : Network) (id : SessionId)
    (timeout : Span) :
    (network.stopSession id timeout).2.handles = network.handles ∧
      (network.stopSession id timeout).2.connectors = network.connectors := by
  unfold stopSession
  split
  · split <;> exact ⟨rfl, rfl⟩
  · exact ⟨rfl, rfl⟩

theorem connectors_stopHandle (network : Network) (number : Nat) :
    (network.stopHandle number).2.connectors = network.connectors := by
  unfold stopHandle
  split
  · split
    · rfl
    · exact (handles_stopSession ..).2
  · rfl

/-- Stopping a handle marks it and no other. -/
theorem handle?_stopHandle (network : Network) (number other : Nat) :
    (network.stopHandle number).2.handle? other =
      if number = other then
        (network.handle? other).map fun handle =>
          { handle with stopped := true }
      else network.handle? other := by
  cases here : network.handle? number with
  | none =>
      have same : network.stopHandle number = (true, network) := by
        simp only [stopHandle, here]
      rw [same]
      split
      case isTrue whole => rw [← whole, here, Option.map_none]
      case isFalse => rfl
  | some handle =>
      cases stopped : handle.stopped with
      | true =>
          have same : network.stopHandle number = (true, network) := by
            simp only [stopHandle, here, stopped, if_true]
          rw [same]
          split
          case isTrue whole =>
            rw [← whole, here, Option.map_some, ← stopped]
          case isFalse => rfl
      | false =>
          rw [stopHandle_of_running here stopped]
          dsimp only
          rw [handle?, (handles_stopSession ..).1]
          refine (network.handle?_set handle number other here _).trans ?_
          split
          case isTrue whole =>
            subst whole
            rw [here, Option.map_some]
          case isFalse => rfl

/-! ## What is never undone -/

/-- Schemas, tables of sessions and what handles are on stay as they are.
Handles that were stopped stay stopped, and of connectors only the slots
change. -/
structure Preserves (network later : Network) : Prop where
  schemas : ∀ number schema, network.schema? number = some schema →
    later.schema? number = some schema
  sessions : ∀ id schema stopped,
    network.standing? id = some (schema, stopped) →
    ∃ still, later.standing? id = some (schema, still)
  handles : ∀ number handle, network.handle? number = some handle →
    ∃ next, later.handle? number = some next ∧
      next.session = handle.session ∧
      (handle.stopped = true → next.stopped = true)
  connectors : ∀ (number : Nat) (connector : Connector),
    network.connectors[number]? = some connector →
    ∃ slot, later.connectors[number]? = some { connector with handle := slot }

theorem Preserves.refl (network : Network) : network.Preserves network where
  schemas := fun _ _ here => here
  sessions := fun _ _ stopped here => ⟨stopped, here⟩
  handles := fun _ handle here => ⟨handle, here, rfl, fun stopped => stopped⟩
  connectors := fun _ connector here => ⟨connector.handle, here⟩

theorem Preserves.trans (first : network.Preserves later)
    (second : later.Preserves last) : network.Preserves last where
  schemas := fun number schema here =>
    second.schemas number schema (first.schemas number schema here)
  sessions := by
    intro id schema stopped here
    obtain ⟨still, there⟩ := first.sessions id schema stopped here
    exact second.sessions id schema still there
  handles := by
    intro number handle here
    obtain ⟨next, there, same, marked⟩ := first.handles number handle here
    obtain ⟨final, found, also, stays⟩ := second.handles number next there
    exact ⟨final, found, also.trans same,
      fun stopped => stays (marked stopped)⟩
  connectors := by
    intro number connector here
    obtain ⟨slot, there⟩ := first.connectors number connector here
    exact second.connectors number { connector with handle := slot } there

theorem Abides.preserves (abides : network.Abides later) :
    network.Preserves later where
  schemas := fun _ _ here => abides.schema? here
  sessions := fun _ _ stopped here => ⟨stopped, abides.standing? here⟩
  handles := by
    intro number handle here
    refine ⟨handle, ?_, rfl, fun stopped => stopped⟩
    rw [handle?, abides.handles]
    exact here
  connectors := by
    intro number connector here
    rw [abides.connectors]
    exact ⟨connector.handle, here⟩

theorem preserves_stopHandle (network : Network) (number : Nat) :
    network.Preserves (network.stopHandle number).2 := by
  have stops : network.stopHandle number = (true, network) ∨
      ∃ handles id timeout, (network.stopHandle number).2 =
        ({ network with handles }.stopSession id timeout).2 := by
    unfold stopHandle
    split
    · split
      · exact .inl rfl
      · exact .inr ⟨_, _, _, rfl⟩
    · exact .inl rfl
  constructor
  · intro other schema here
    rcases stops with same | ⟨handles, id, timeout, same⟩
    · exact same ▸ here
    · rw [same, schema?_stopSession]
      exact here
  · intro other schema stopped here
    rcases stops with same | ⟨handles, id, timeout, same⟩
    · exact ⟨stopped, same ▸ here⟩
    · rw [same, standing?_stopSession]
      split
      · exact ⟨true, congrArg (Option.map _) here⟩
      · exact ⟨stopped, here⟩
  · intro other handle here
    rw [handle?_stopHandle, here]
    split
    · exact ⟨_, rfl, rfl, fun _ => rfl⟩
    · exact ⟨handle, rfl, rfl, fun stopped => stopped⟩
  · intro other connector here
    rw [connectors_stopHandle]
    exact ⟨connector.handle, here⟩

end Network

end OvsdbClient
