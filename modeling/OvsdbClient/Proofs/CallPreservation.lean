import Mathlib.Data.List.Induction
import Mathlib.Logic.Relation
import OvsdbClient.Proofs.RelationPersistence
import OvsdbClient.Proofs.HandlePreservation

/-!
# Histories of calls

Whatever is called on a network, only starting a connector opens a session, and
only stopping a handle ends one.  All other calls leave the handles and
connectors alone, apart from the connector that bringing up a connection adds.
-/

namespace OvsdbClient

namespace Network

variable {network later last : Network}

/-! ## What time leads to -/

/-- Nothing but stops of handles happens to what is open. -/
def Elapses : Network → Network → Prop :=
  Relation.ReflTransGen fun network later =>
    network.Abides later ∨ ∃ handle, later = (network.stopHandle handle).2

theorem Abides.elapses (abides : network.Abides later) :
    network.Elapses later :=
  .single (.inl abides)

theorem elapses_stopHandle (network : Network) (handle : Nat) :
    network.Elapses (network.stopHandle handle).2 :=
  .single (.inr ⟨handle, rfl⟩)

theorem Elapses.abides (elapses : network.Elapses later)
    (abides : later.Abides last) : network.Elapses last :=
  elapses.tail (.inl abides)

theorem Elapses.congr (elapses : network.Elapses later)
    (handles : last.handles = later.handles)
    (connectors : last.connectors = later.connectors)
    (servers : last.servers = later.servers) : network.Elapses last :=
  elapses.abides (abides_of_servers_eq handles connectors servers)

theorem elapses_of_servers_eq (handles : later.handles = network.handles)
    (connectors : later.connectors = network.connectors)
    (servers : later.servers = network.servers) : network.Elapses later :=
  (abides_of_servers_eq handles connectors servers).elapses

theorem Elapses.connectors (elapses : network.Elapses later) :
    later.connectors = network.connectors := by
  induction elapses with
  | refl => rfl
  | tail _ step connectors =>
      rcases step with abides | ⟨handle, rfl⟩
      · exact abides.connectors.trans connectors
      · exact (connectors_stopHandle ..).trans connectors

theorem elapses_perform (network : Network) (action : Action) :
    network.Elapses (network.perform action).2 := by
  cases action with
  | addServer endpoint server => exact elapses_of_servers_eq rfl rfl rfl
  | removeServer endpoint => exact elapses_of_servers_eq rfl rfl rfl
  | insertRow server table columns =>
      have drawn : network.Elapses network.draw :=
        elapses_of_servers_eq rfl rfl rfl
      exact drawn.abides (network.draw.abides_commit server _)
  | commit server operations => exact (network.abides_commit ..).elapses
  | setDelay server delay =>
      exact Abides.elapses (network.abides_modifyServer server fun _ => rfl)
  | failSchemaFetches server count =>
      exact Abides.elapses (network.abides_modifyServer server fun _ => rfl)
  | failNextCommit server reason =>
      exact Abides.elapses (network.abides_modifyServer server fun _ => rfl)
  | setLock handle name =>
      simp only [perform]
      split
      case h_1 opened _ =>
        exact (network.abides_modifyServer opened.session.server fun server =>
          server.outline_setLock opened.session.number name).elapses
      case h_2 => exact .refl
  | stop handle => exact network.elapses_stopHandle handle
  | impossible fault => exact .refl

theorem elapses_moveTo (network : Network) (time : Nat) :
    network.Elapses (network.moveTo time) := by
  unfold Network.moveTo
  dsimp only
  split
  case h_2 => exact elapses_of_servers_eq rfl rfl rfl
  case h_1 plan agenda listed =>
    split
    case isFalse => exact elapses_of_servers_eq rfl rfl rfl
    case isTrue =>
      let begun : Network := { network with clock := time, agenda }
      have started : network.Elapses begun := elapses_of_servers_eq rfl rfl rfl
      have performed : network.Elapses (begun.perform plan.action).2 :=
        started.trans (begun.elapses_perform plan.action)
      exact performed.congr rfl rfl rfl

theorem lasting_elapses : Lasting Elapses where
  refl := fun _ => .refl
  trans := fun first second => first.trans second
  settle := fun network => network.abides_settle.elapses
  moveTo := elapses_moveTo
  age := fun _ _ => elapses_of_servers_eq rfl rfl rfl
  note := fun _ _ => elapses_of_servers_eq rfl rfl rfl
  commit := fun network number operations =>
    (network.abides_commit number operations).elapses
  fetchSchema := fun network endpoint schema =>
    (network.abides_fetchSchema endpoint schema).elapses
  abandon := fun network server _ =>
    Abides.elapses (network.abides_modifyServer server fun server =>
      server.outline_modifySession _ Session.standing_abandon)

/-! ## Bringing a connection up -/

theorem addresses_fetchSchema (network : Network) (endpoint : Endpoint)
    (schema : String) :
    (network.fetchSchema endpoint schema).2.addresses =
      network.addresses := by
  unfold fetchSchema
  split
  · rfl
  · exact addresses_withServer ..

theorem serves_of_fetchSchema {endpoint : Endpoint} {schema : String}
    {selection : Selection}
    (fetched : (network.fetchSchema endpoint schema).1 = .ok selection) :
    ∃ origin served, network.serverAt? endpoint = some origin ∧
      network.schema? origin = some served ∧ served.name = schema ∧
      selection = .ofSchema served := by
  unfold fetchSchema reach orFault at fetched
  split at fetched
  case h_1 => cases fetched
  case h_2 origin reached =>
    split at reached
    case h_2 => cases reached
    case h_1 located =>
      cases reached
      unfold withServer at fetched
      split at fetched
      case h_2 => cases fetched
      case h_1 server here =>
        refine ⟨_, server.schema, located, congrArg (Option.map _) here, ?_⟩
        dsimp only [Server.fetchSchema] at fetched
        split at fetched
        · cases fetched
        · split at fetched
          · cases fetched
          case isFalse same =>
            cases fetched
            exact ⟨Decidable.not_not.mp same, rfl⟩

/-- The schema that is answered is that of a server which is at the endpoint
still. -/
theorem serves_of_askRemotes {schema : String} {last : Option Fault}
    {remotes : List Endpoint} {endpoint : Endpoint} {selection : Selection}
    (asked : network.askRemotes schema last remotes =
      (.ok (endpoint, selection), later)) :
    ∃ origin served, later.serverAt? endpoint = some origin ∧
      later.schema? origin = some served ∧ served.name = schema ∧
      selection = .ofSchema served := by
  induction remotes generalizing network last with
  | nil => cases asked
  | cons remote remotes induction =>
      rw [askRemotes_cons] at asked
      split at asked
      case h_1 found fetched =>
        cases asked
        obtain ⟨origin, served, located, here, name, rfl⟩ :=
          serves_of_fetchSchema fetched
        have still := (network.abides_fetchSchema endpoint schema).schema? here
        refine ⟨origin, served, ?_, still, name, rfl⟩
        unfold serverAt?
        rw [addresses_fetchSchema]
        exact located
      case h_2 =>
        split at asked
        · exact induction asked
        · cases asked

/-- What bringing a connection up ends with. -/
theorem bootstrap?_cases {settings : ConnectionSettings} {fuel : Nat}
    {draws : Draws} {answer : Except Fault Nat}
    (answered : network.bootstrap? settings fuel draws = some (answer, later)) :
    ∃ between, network.Elapses between ∧
      ((∃ fault, answer = .error fault ∧ later = between) ∨
        ∃ endpoint origin served,
          between.serverAt? endpoint = some origin ∧
          between.schema? origin = some served ∧
          served.name = settings.schema ∧
          answer = .ok between.connectors.length ∧
          later = { between with connectors := between.connectors ++
            [⟨settings, endpoint, ((Selection.ofSchema served).registerAll
              settings.tables).1, none⟩] }) := by
  unfold bootstrap? at answered
  split at answered
  case h_1 fault refused =>
    cases answered
    exact ⟨network, .refl, .inl ⟨fault, rfl, rfl⟩⟩
  case h_2 =>
    dsimp only at answered
    split at answered
    case h_1 => cases answered
    case h_2 fault state ran =>
      cases answered
      exact ⟨state.network, (lasting_elapses.exists_attempt ran).1,
        .inl ⟨fault, rfl, rfl⟩⟩
    case h_3 endpoint selection state ran =>
      cases answered
      obtain ⟨elapses, last, attempted⟩ := lasting_elapses.exists_attempt ran
      simp only [fetching, Prod.mk.injEq] at attempted
      obtain ⟨found, rfl⟩ := attempted
      obtain ⟨origin, served, located, here, name, rfl⟩ :=
        serves_of_askRemotes (Prod.ext found rfl)
      let between := (last.network.askRemotes settings.schema none
        settings.remotes).2.note
          ((Selection.ofSchema served).registerAll settings.tables).2
      have noted : network.Elapses between := elapses.congr rfl rfl rfl
      exact ⟨between, noted, .inr ⟨endpoint, origin, served, located, here,
        name, rfl, rfl⟩⟩

/-! ## Starting a connector -/

/-- A session with a server is open that was not, and a connector has a new
handle on it. -/
structure Opens (network : Network) (number : Nat) (connector : Connector)
    (id : SessionId) (later : Network) : Prop where
  located : network.serverAt? connector.endpoint = some id.server
  schemas : ∀ number, later.schema? number = network.schema? number
  fresh : network.standing? id = none
  standing? : ∀ other, later.standing? other =
    if other = id then some (connector.selection.build, false)
    else network.standing? other
  handles : ∃ handle, handle.session = id ∧ handle.stopped = false ∧
    later.handles = network.handles ++ [handle]
  connectors : later.connectors = network.connectors.set number
    { connector with handle := some network.handles.length }

theorem standing?_of_outlines {attached : Nat} {server : Server}
    {selected : DatabaseSchema}
    (here : network.server? attached = some server)
    (outlines : later.outlines = network.outlines.set attached (server.schema,
      server.sessions.map Session.standing ++ [(selected, false)])) :
    let id : SessionId := ⟨attached, server.sessions.length⟩
    network.standing? id = none ∧
      (∀ other, later.standing? other =
        if other = id then some (selected, false)
        else network.standing? other) ∧
      ∀ number, later.schema? number = network.schema? number := by
  intro id
  have there : network.outlines[attached]? = some server.outline := by
    rw [Network.outlines, List.getElem?_map]
    exact congrArg (Option.map Server.outline) here
  have low := (List.getElem?_eq_some_iff.mp there).1
  refine ⟨?_, fun other => ?_, fun number => ?_⟩
  · rw [standing?_eq, there, Option.bind_some]
    simp [id, Server.outline]
  · rw [standing?_eq, standing?_eq, outlines, List.getElem?_set]
    by_cases same : attached = other.server
    · have number : other = id ↔ other.number = server.sessions.length := by
        cases other
        simp_all [id]
      simp only [← same, if_pos low, if_true, there, Option.bind_some,
        Server.outline, number]
      by_cases added : other.number = server.sessions.length
      · simp [added]
      · rw [if_neg added, List.getElem?_append]
        split
        case isTrue => rfl
        case isFalse high =>
          have beyond : server.sessions.length < other.number := by
            rw [List.length_map] at high
            omega
          simp [Nat.sub_ne_zero_of_lt beyond, Nat.le_of_lt beyond]
    · have others : other ≠ id := fun whole =>
        same (congrArg SessionId.server whole).symm
      rw [if_neg same, if_neg others]
  · rw [schema?_eq, schema?_eq, outlines, List.getElem?_set]
    by_cases same : attached = number
    · simp only [← same, if_pos low, if_true, there]
      rfl
    · rw [if_neg same]

theorem openSession_cases (network : Network) (endpoint : Endpoint)
    (selection : Selection) (options : SessionOptions) :
    (∃ fault, network.openSession endpoint selection options =
        (.error fault, network)) ∨
      ∃ attached server opened, network.serverAt? endpoint = some attached ∧
        network.server? attached = some server ∧
        network.openSession endpoint selection options =
          (.ok ⟨attached, server.sessions.length⟩, opened) ∧
        opened.handles = network.handles ∧
        opened.connectors = network.connectors ∧
        opened.outlines = network.outlines.set attached (server.schema,
          server.sessions.map Session.standing ++
            [(selection.build, false)]) := by
  unfold openSession reach orFault
  cases located : network.serverAt? endpoint with
  | none => exact .inl ⟨_, rfl⟩
  | some attached =>
      simp only [withServer]
      cases here : network.server? attached with
      | none => exact .inl ⟨_, rfl⟩
      | some server =>
          refine .inr ⟨attached, server, _, rfl, here, rfl, rfl, rfl, ?_⟩
          simp only [outlines, List.map_set, Server.outline_openSession]

private theorem opens_of_locked {number attached : Nat}
    {connector : Connector} {server : Server} {locked : Network}
    {handle : Handle}
    (located : network.serverAt? connector.endpoint = some attached)
    (here : network.server? attached = some server)
    (outlines : locked.outlines = network.outlines.set attached (server.schema,
      server.sessions.map Session.standing ++
        [(connector.selection.build, false)]))
    (session : handle.session = ⟨attached, server.sessions.length⟩)
    (running : handle.stopped = false) :
    network.Opens number connector ⟨attached, server.sessions.length⟩
      { locked with
        handles := network.handles ++ [handle]
        connectors := network.connectors.set number
          { connector with handle := some network.handles.length } } := by
  obtain ⟨fresh, standing, schemas⟩ := standing?_of_outlines here outlines
  exact ⟨located, schemas, fresh, standing, ⟨handle, session, running, rfl⟩,
    rfl⟩

theorem startSession_cases (network : Network) (number : Nat)
    (connector : Connector) :
    let opening := (network.openSession connector.endpoint
      connector.selection connector.settings.sessionOptions).1
    (∃ fault, opening = .error fault ∧
        network.startSession number connector = (.error fault, network)) ∨
      ∃ id later, opening = .ok id ∧
        network.startSession number connector =
          (.ok network.handles.length, later) ∧
        network.Opens number connector id later := by
  intro opening
  unfold startSession
  dsimp only
  rcases network.openSession_cases connector.endpoint connector.selection
      connector.settings.sessionOptions with
    ⟨fault, answered⟩ |
    ⟨attached, server, opened, located, here, answered, handles, connectors,
      outlines⟩
  · rw [answered]
    exact .inl ⟨fault, congrArg Prod.fst answered, rfl⟩
  · rw [answered]
    refine .inr ⟨⟨attached, server.sessions.length⟩, ?_⟩
    cases connector.settings.lock with
    | none =>
        dsimp only
        rw [handles, connectors]
        exact ⟨_, congrArg Prod.fst answered, rfl,
          opens_of_locked located here outlines rfl rfl⟩
    | some name =>
        let locked := opened.setLock ⟨attached, server.sessions.length⟩ name
        have unlocked : locked.outlines = opened.outlines :=
          opened.outlines_modifyServer attached fun server =>
            server.outline_setLock _ name
        dsimp only [setLock, modifyServer]
        rw [handles, connectors]
        exact ⟨_, congrArg Prod.fst answered, rfl,
          opens_of_locked located here (unlocked.trans outlines) rfl rfl⟩

end Network

/-! ## Calls -/

inductive Call where
  | createServer (schema : DatabaseSchema)
  | perform (action : Action)
  | schedule (after : Span) (action : Action) (keeps : List Nat)
  | advance (span : Span)
  | submit (id : SessionId) (transaction : Transaction)
  | execute (handle : Handle) (command : Command)
  | awaitRow (id : SessionId) (policy : RetryPolicy) (table column : String)
      (atom : Atom) (fuel : Nat) (draws : Draws)
  | retain (held : List Stoppable)
  | bootstrap (settings : ConnectionSettings) (fuel : Nat) (draws : Draws)
  | start (connector : Nat)
  | stopConnector (connector : Nat)

namespace Network

/-- The network after a call.  One that would not end is as good as none. -/
def call (network : Network) : Call → Network
  | .createServer schema => (network.createServer schema).2
  | .perform action => (network.perform action).2
  | .schedule after action keeps => network.schedule after action keeps
  | .advance span => network.advance span
  | .submit id transaction => (network.submit id transaction).2
  | .execute handle command => (network.execute handle command).2
  | .awaitRow id policy table column atom fuel draws =>
      (network.awaitRow? id policy table column atom fuel draws).elim network
        Prod.snd
  | .retain held => network.retain held
  | .bootstrap settings fuel draws =>
      (network.bootstrap? settings fuel draws).elim network Prod.snd
  | .start connector => (network.start connector).2
  | .stopConnector connector => (network.stopConnector connector).2

/-- The network that calls have made of one with nothing in it. -/
def after (calls : List Call) : Network :=
  calls.foldl call empty

theorem after_concat (calls : List Call) (call : Call) :
    after (calls ++ [call]) = (after calls).call call :=
  List.foldl_concat ..

variable {network later : Network}

/-- What a call does to what is open: time passes, a connector comes, or one is
started or stopped. -/
theorem call_cases (network : Network) (call : Call) :
    network.Elapses (network.call call) ∨
      (∃ settings fuel draws endpoint origin served between,
        call = .bootstrap settings fuel draws ∧ network.Elapses between ∧
          between.serverAt? endpoint = some origin ∧
          between.schema? origin = some served ∧
          served.name = settings.schema ∧
          network.bootstrap? settings fuel draws =
            some (.ok between.connectors.length, network.call call) ∧
          network.call call = { between with connectors :=
            between.connectors ++ [⟨settings, endpoint,
              ((Selection.ofSchema served).registerAll settings.tables).1,
              none⟩] }) ∨
      (∃ number, call = .start number) ∨
      ∃ number, call = .stopConnector number := by
  cases call with
  | createServer schema =>
      refine .inl (Abides.elapses
        ⟨rfl, rfl, [(Server.ofSchema schema).outline], ?_⟩)
      simp only [outlines, Network.call, createServer, List.map_append,
        List.map_singleton]
  | perform action => exact .inl (network.elapses_perform action)
  | schedule after action keeps =>
      exact .inl (elapses_of_servers_eq rfl rfl rfl)
  | advance span => exact .inl (lasting_elapses.advance network span)
  | submit id transaction =>
      exact .inl (lasting_elapses.submit network id transaction)
  | execute handle command =>
      exact .inl (lasting_elapses.execute network handle command)
  | awaitRow id policy table column atom fuel draws =>
      left
      simp only [Network.call]
      cases answered :
        network.awaitRow? id policy table column atom fuel draws with
      | none => exact .refl
      | some answer => exact lasting_elapses.awaitRow? answered
  | retain held =>
      exact .inl (lasting_elapses.abandonAllBut network _)
  | bootstrap settings fuel draws =>
      cases answered : network.bootstrap? settings fuel draws with
      | none =>
          left
          simp only [Network.call, answered]
          exact .refl
      | some answer =>
          obtain ⟨between, elapses, ends⟩ := bootstrap?_cases answered
          have called : network.call (.bootstrap settings fuel draws) =
              answer.2 := by
            simp only [Network.call, answered, Option.elim_some]
          rw [called]
          rcases ends with ⟨fault, _, same⟩ |
            ⟨endpoint, origin, served, located, here, name, number, same⟩
          · exact .inl (same ▸ elapses)
          · refine .inr (.inl ⟨settings, fuel, draws, endpoint, origin, served,
              between, rfl, elapses, located, here, name, ?_, same⟩)
            rw [← number]
            exact answered
  | start number => exact .inr (.inr (.inl ⟨number, rfl⟩))
  | stopConnector number => exact .inr (.inr (.inr ⟨number, rfl⟩))

/-- What starting a connector answers: a fault, the handle that it has already,
or a new one. -/
theorem start_cases (network : Network) (number : Nat) :
    network.connectors[number]? = none ∧
        network.start number = (.error .connectionClosed, network) ∨
      ∃ connector, network.connectors[number]? = some connector ∧
        ((∃ handle, network.runningHandle? connector = some handle ∧
            network.start number = (.ok handle, network)) ∨
          network.runningHandle? connector = none ∧
            ((∃ fault, (network.openSession connector.endpoint
                  connector.selection connector.settings.sessionOptions).1 =
                .error fault ∧
                network.start number = (.error fault, network)) ∨
              ∃ id later, (network.openSession connector.endpoint
                  connector.selection connector.settings.sessionOptions).1 =
                .ok id ∧
                network.start number = (.ok network.handles.length, later) ∧
                network.Opens number connector id later)) := by
  cases registered : network.connectors[number]? with
  | none => exact .inl ⟨rfl, by simp only [start, registered]⟩
  | some connector =>
      refine .inr ⟨connector, rfl, ?_⟩
      simp only [start, registered]
      cases running : network.runningHandle? connector with
      | some handle => exact .inl ⟨handle, rfl, rfl⟩
      | none => exact .inr ⟨rfl, network.startSession_cases number connector⟩

theorem runningHandle?_eq_some_iff {connector : Connector} {number : Nat} :
    network.runningHandle? connector = some number ↔
      connector.handle = some number ∧
        ∃ handle, network.handle? number = some handle ∧
          handle.stopped = false := by
  simp [runningHandle?, Option.filter_eq_some_iff, Option.any_eq_true]

variable {connector : Connector} {number : Nat} {id : SessionId}

theorem Opens.handle?_of_some {other : Nat} {handle : Handle}
    (opens : network.Opens number connector id later)
    (here : network.handle? other = some handle) :
    later.handle? other = some handle := by
  obtain ⟨added, _, _, handles⟩ := opens.handles
  obtain ⟨low, _⟩ := List.getElem?_eq_some_iff.mp here
  rw [handle?, handles]
  exact (List.getElem?_append_left low).trans here

theorem Opens.started (opens : network.Opens number connector id later) :
    ∃ handle, later.handle? network.handles.length = some handle ∧
      handle.session = id ∧ handle.stopped = false := by
  obtain ⟨added, session, running, handles⟩ := opens.handles
  refine ⟨added, ?_, session, running⟩
  rw [handle?, handles]
  exact List.getElem?_concat_length

theorem Opens.handle?_cases {other : Nat} {handle : Handle}
    (opens : network.Opens number connector id later)
    (here : later.handle? other = some handle) :
    network.handle? other = some handle ∨
      other = network.handles.length ∧ handle.session = id ∧
        handle.stopped = false := by
  obtain ⟨added, session, running, handles⟩ := opens.handles
  rw [handle?, handles, List.getElem?_append] at here
  split at here
  case isTrue => exact .inl here
  case isFalse high =>
    rw [List.getElem?_singleton] at here
    split at here
    case isTrue last =>
      cases here
      exact .inr ⟨by omega, session, running⟩
    case isFalse => cases here

def withSlot (network : Network) (number : Nat) (connector : Connector)
    (slot : Option Nat) : Network :=
  let filled := { connector with handle := slot }
  { network with connectors := network.connectors.set number filled }

/-- Stopping a connector empties its slot and stops the handle that was in
it. -/
theorem stopConnector_cases (network : Network) (number : Nat) :
    network.connectors[number]? = none ∧
        network.stopConnector number = (true, network) ∨
      ∃ connector, network.connectors[number]? = some connector ∧
        (connector.handle = none ∧ network.stopConnector number =
            (true, network.withSlot number connector none) ∨
          ∃ handle, connector.handle = some handle ∧
            network.stopConnector number =
              (network.withSlot number connector none).stopHandle handle) := by
  unfold stopConnector
  cases network.connectors[number]? with
  | none => exact .inl ⟨rfl, rfl⟩
  | some connector =>
      refine .inr ⟨connector, rfl, ?_⟩
      dsimp only
      cases connector.handle with
      | none => exact .inl ⟨rfl, rfl⟩
      | some handle => exact .inr ⟨handle, rfl, rfl⟩

theorem start_same_or_opens (network : Network) (number : Nat) :
    (network.start number).2 = network ∨
      ∃ connector id, network.connectors[number]? = some connector ∧
        network.runningHandle? connector = none ∧
        (network.start number).1 = .ok network.handles.length ∧
        network.Opens number connector id (network.start number).2 := by
  rcases network.start_cases number with ⟨_, same⟩ |
    ⟨connector, here, ⟨_, _, same⟩ | ⟨idle, ⟨_, _, same⟩ |
      ⟨id, later, _, same, opens⟩⟩⟩
  · exact .inl (congrArg Prod.snd same)
  · exact .inl (congrArg Prod.snd same)
  · exact .inl (congrArg Prod.snd same)
  · rw [same]
    exact .inr ⟨connector, id, here, idle, rfl, opens⟩

/-! ## What calls preserve -/

theorem Elapses.preserves (elapses : network.Elapses later) :
    network.Preserves later := by
  induction elapses with
  | refl => exact .refl network
  | tail _ step preserves =>
      rcases step with abides | ⟨handle, rfl⟩
      · exact preserves.trans abides.preserves
      · exact preserves.trans (preserves_stopHandle _ handle)

theorem preserves_withSlot {slot : Option Nat}
    (registered : network.connectors[number]? = some connector) :
    network.Preserves (network.withSlot number connector slot) where
  schemas := fun _ _ here => here
  sessions := fun _ _ stopped here => ⟨stopped, here⟩
  handles := fun _ handle here => ⟨handle, here, rfl, fun stopped => stopped⟩
  connectors := by
    intro other before here
    by_cases same : number = other
    · subst same
      cases registered.symm.trans here
      obtain ⟨low, _⟩ := List.getElem?_eq_some_iff.mp registered
      exact ⟨slot, List.getElem?_set_self low⟩
    · exact ⟨before.handle, (List.getElem?_set_ne same).trans here⟩

theorem Opens.preserves (opens : network.Opens number connector id later)
    (registered : network.connectors[number]? = some connector) :
    network.Preserves later where
  schemas := fun other schema here => (opens.schemas other).trans here
  sessions := by
    intro other schema stopped here
    have different : other ≠ id := by
      rintro rfl
      cases opens.fresh.symm.trans here
    rw [opens.standing?, if_neg different]
    exact ⟨stopped, here⟩
  handles := fun _ handle here =>
    ⟨handle, opens.handle?_of_some here, rfl, fun stopped => stopped⟩
  connectors := by
    rw [opens.connectors]
    exact (preserves_withSlot registered).connectors

/-- Nothing that is called undoes any of this. -/
theorem preserves_call (network : Network) (call : Call) :
    network.Preserves (network.call call) := by
  rcases network.call_cases call with elapses |
    ⟨_, _, _, _, _, _, between, rfl, elapses, _, _, _, _, same⟩ |
    ⟨number, rfl⟩ | ⟨number, rfl⟩
  · exact elapses.preserves
  · rw [same]
    refine elapses.preserves.trans
      { Preserves.refl between with connectors := ?_ }
    intro other connector here
    obtain ⟨low, _⟩ := List.getElem?_eq_some_iff.mp here
    exact ⟨connector.handle, (List.getElem?_append_left low).trans here⟩
  · change network.Preserves (network.start number).2
    rcases network.start_same_or_opens number with same |
      ⟨connector, id, registered, _, _, opens⟩
    · rw [same]
      exact .refl network
    · exact opens.preserves registered
  · change network.Preserves (network.stopConnector number).2
    rcases network.stopConnector_cases number with ⟨_, same⟩ |
      ⟨connector, registered, ⟨_, same⟩ | ⟨handle, _, same⟩⟩
    · rw [same]
      exact .refl network
    · rw [same]
      exact preserves_withSlot registered
    · rw [same]
      exact (preserves_withSlot registered).trans
        (preserves_stopHandle _ handle)

theorem preserves_after {past calls : List Call}
    (before : past <+: calls) : (after past).Preserves (after calls) := by
  obtain ⟨future, rfl⟩ := before
  induction future using List.reverseRecOn with
  | nil =>
      rw [List.append_nil]
      exact .refl _
  | append_singleton future call preserves =>
      rw [← List.append_assoc, after_concat]
      exact preserves.trans (preserves_call _ call)

/-! ## What was started -/

/-- A handle was returned by a start of a connector. -/
def Started (calls : List Call) (number handle : Nat) : Prop :=
  ∃ past, past ++ [.start number] <+: calls ∧
    ((after past).start number).1 = .ok handle

theorem started_concat_iff {calls : List Call} {call : Call} {handle : Nat} :
    Started (calls ++ [call]) number handle ↔
      Started calls number handle ∨
        call = .start number ∧ ((after calls).start number).1 = .ok handle := by
  constructor
  · rintro ⟨past, before, answered⟩
    rcases List.prefix_concat_iff.mp before with whole | earlier
    · obtain ⟨rfl, same⟩ := List.append_inj' whole rfl
      cases same
      exact .inr ⟨rfl, answered⟩
    · exact .inl ⟨past, earlier, answered⟩
  · rintro (⟨past, before, answered⟩ | ⟨rfl, answered⟩)
    · exact ⟨past, before.trans (List.prefix_append _ _), answered⟩
    · exact ⟨calls, List.prefix_rfl, answered⟩

end Network

end OvsdbClient
