import OvsdbClient.Proofs.OneSession

/-!
# Which server a session is with

The tables of a session are chosen from the schema of the server that was at
the endpoint when its connector was brought up.  The session is with the server
that was there when it was opened, which may be another one by then, and nobody
compares the two.
-/

namespace OvsdbClient

namespace Network

variable {calls : List Call} {number handle : Nat}
  {settings : ConnectionSettings} {endpoint : Endpoint}

/-! ## Where connectors and sessions come from -/

/-- A connector was brought up while a server was at an endpoint. -/
def BroughtUp (calls : List Call) (number : Nat)
    (settings : ConnectionSettings) (endpoint : Endpoint) (origin : Nat) :
    Prop :=
  ∃ past fuel draws, past ++ [.bootstrap settings fuel draws] <+: calls ∧
    (after past).bootstrap? settings fuel draws =
      some (.ok number, after (past ++ [.bootstrap settings fuel draws])) ∧
    (after (past ++ [.bootstrap settings fuel draws])).serverAt? endpoint =
      some origin

/-- A start of a connector opened the session of a handle while a server was at
an endpoint. -/
def OpenedAt (calls : List Call) (number handle : Nat) (endpoint : Endpoint)
    (attached : Nat) : Prop :=
  ∃ past, past ++ [.start number] <+: calls ∧
    (after past).handle? handle = none ∧
    ((after past).start number).1 = .ok handle ∧
    (after past).serverAt? endpoint = some attached

theorem exists_schema?_of_standing? {network : Network} {id : SessionId}
    {shown : DatabaseSchema × Bool}
    (here : network.standing? id = some shown) :
    ∃ schema, network.schema? id.server = some schema := by
  obtain ⟨session, found, _⟩ := Option.map_eq_some_iff.mp here
  obtain ⟨server, there, _⟩ := Option.bind_eq_some_iff.mp found
  exact ⟨server.schema, congrArg (Option.map _) there⟩

theorem exists_registered {network later : Network} {connector : Connector}
    (length : later.connectors.length = network.connectors.length)
    (registered : later.connectors[number]? = some connector) :
    ∃ before, network.connectors[number]? = some before := by
  obtain ⟨low, _⟩ := List.getElem?_eq_some_iff.mp registered
  exact ⟨_, List.getElem?_eq_getElem (length ▸ low)⟩

theorem registered_call_cases {network : Network} {call : Call}
    {connector : Connector}
    (registered : (network.call call).connectors[number]? = some connector) :
    (∃ before, network.connectors[number]? = some before) ∨
      ∃ fuel draws origin served,
        call = .bootstrap connector.settings fuel draws ∧
        network.bootstrap? connector.settings fuel draws =
          some (.ok number, network.call call) ∧
        (network.call call).serverAt? connector.endpoint = some origin ∧
        (network.call call).schema? origin = some served ∧
        served.name = connector.settings.schema ∧
        connector.selection = ((Selection.ofSchema served).registerAll
          connector.settings.tables).1 := by
  rcases network.call_cases call with elapses |
    ⟨settings, fuel, draws, endpoint, origin, served, between, rfl, elapses,
      located, here, name, answered, same⟩ | ⟨other, rfl⟩ | ⟨other, rfl⟩
  · rw [elapses.connectors] at registered
    exact .inl ⟨connector, registered⟩
  · rw [same] at registered
    dsimp only at registered
    rw [List.getElem?_append] at registered
    split at registered
    case isTrue =>
      rw [elapses.connectors] at registered
      exact .inl ⟨connector, registered⟩
    case isFalse high =>
      rw [List.getElem?_singleton] at registered
      split at registered
      case isFalse => cases registered
      case isTrue last =>
        cases registered
        have whole : between.connectors.length = number := by omega
        rw [whole] at answered
        refine .inr ⟨fuel, draws, origin, served, rfl, answered, ?_, ?_, name,
          rfl⟩
        · rw [same]
          exact located
        · rw [same]
          exact here
  · refine .inl (exists_registered ?_ registered)
    change (network.start other).2.connectors.length = _
    rcases network.start_same_or_opens other with same |
      ⟨before, id, _, _, _, opens⟩
    · rw [same]
    · rw [opens.connectors, List.length_set]
  · refine .inl (exists_registered ?_ registered)
    change (network.stopConnector other).2.connectors.length = _
    rcases network.stopConnector_cases other with ⟨_, same⟩ |
      ⟨before, _, ⟨_, same⟩ | ⟨handle, _, same⟩⟩
    · rw [same]
    · rw [same]
      exact List.length_set ..
    · rw [same, connectors_stopHandle]
      exact List.length_set ..

/-- A connector has its tables from the schema that a server served when it was
brought up. -/
theorem exists_broughtUp {connector : Connector}
    (registered : (after calls).connectors[number]? = some connector) :
    ∃ origin offered,
      BroughtUp calls number connector.settings connector.endpoint origin ∧
        (after calls).schema? origin = some offered ∧
        offered.name = connector.settings.schema ∧
        connector.selection = ((Selection.ofSchema offered).registerAll
          connector.settings.tables).1 := by
  induction calls using List.reverseRecOn generalizing connector with
  | nil => cases registered
  | append_singleton calls call induction =>
      rw [after_concat] at registered
      rcases registered_call_cases registered with ⟨before, here⟩ |
        ⟨fuel, draws, origin, served, rfl, answered, located, here, name,
          selection⟩
      · obtain ⟨origin, offered, ⟨past, fuel, draws, earlier, rest⟩, there,
          name, selection⟩ := induction here
        have preserves := (after calls).preserves_call call
        obtain ⟨slot, still⟩ := preserves.connectors number before here
        cases still.symm.trans registered
        refine ⟨origin, offered, ⟨past, fuel, draws, ?_, rest⟩, ?_, name,
          selection⟩
        · exact earlier.trans (List.prefix_append _ _)
        · rw [after_concat]
          exact preserves.schemas origin offered there
      · rw [← after_concat] at answered located here
        exact ⟨origin, served, ⟨calls, fuel, draws, List.prefix_rfl,
          answered, located⟩, here, name, selection⟩

/-- The session of a handle is with the server that was at the endpoint of a
connector when it was opened, and follows the tables of the connector. -/
def Attached (calls : List Call) (number handle : Nat) : Prop :=
  ∃ connector current served stopped,
    (after calls).connectors[number]? = some connector ∧
      (after calls).handle? handle = some current ∧
      OpenedAt calls number handle connector.endpoint current.session.server ∧
      (after calls).schema? current.session.server = some served ∧
      (after calls).standing? current.session =
        some (connector.selection.build, stopped)

theorem Attached.concat (attached : Attached calls number handle)
    (call : Call) : Attached (calls ++ [call]) number handle := by
  obtain ⟨connector, current, served, stopped, registered, here,
    ⟨past, opened, rest⟩, schema, shown⟩ := attached
  have preserves := (after calls).preserves_call call
  obtain ⟨slot, registered⟩ := preserves.connectors number connector registered
  obtain ⟨next, there, same, _⟩ := preserves.handles handle current here
  obtain ⟨still, shown⟩ := preserves.sessions _ _ _ shown
  unfold Attached
  rw [after_concat]
  refine ⟨_, next, served, still, registered, there, ?_, ?_, ?_⟩
  · rw [same]
    exact ⟨past, opened.trans (List.prefix_append _ _), rest⟩
  · rw [same]
    exact preserves.schemas _ _ schema
  · rw [same]
    exact shown

theorem attached_of_opens {connector : Connector} {id : SessionId}
    {later : Network}
    (registered : (after calls).connectors[number]? = some connector)
    (started : (after calls).start number =
      (.ok (after calls).handles.length, later))
    (opens : (after calls).Opens number connector id later) :
    Attached (calls ++ [.start number]) number
      (after calls).handles.length := by
  have became : (after calls).call (.start number) = later :=
    congrArg Prod.snd started
  obtain ⟨current, there, rfl, _⟩ := opens.started
  have shown := opens.standing? current.session
  rw [if_pos rfl] at shown
  obtain ⟨served, schema⟩ := exists_schema?_of_standing? shown
  unfold Attached
  rw [after_concat, became]
  refine ⟨{ connector with handle := some (after calls).handles.length },
    current, served, false, ?_, there,
    ⟨calls, List.prefix_rfl, ?_, ?_, opens.located⟩, schema, shown⟩
  · obtain ⟨low, _⟩ := List.getElem?_eq_some_iff.mp registered
    rw [opens.connectors]
    exact List.getElem?_set_self low
  · exact List.getElem?_eq_none (Nat.le_refl _)
  · rw [started]

theorem attached_of_started (was : Started calls number handle) :
    Attached calls number handle := by
  induction calls using List.reverseRecOn with
  | nil => simp [Started] at was
  | append_singleton calls call induction =>
      rcases started_concat_iff.mp was with before | ⟨rfl, answered⟩
      · exact (induction before).concat call
      · rcases (after calls).start_cases number with ⟨_, same⟩ |
          ⟨connector, registered, ⟨running, runs, same⟩ | ⟨_, ⟨_, _, same⟩ |
            ⟨id, later, _, same, opens⟩⟩⟩
        all_goals
          rw [same] at answered
          cases answered
        · obtain ⟨_, ledger⟩ := bound_and_ledger_after calls number
          obtain ⟨slot, _⟩ := runningHandle?_eq_some_iff.mp runs
          exact (induction (ledger.known connector handle registered
            slot)).concat _
        · exact attached_of_opens registered same opens

/-! ## Whether the server has what is shown -/

/-- A schema has the name that was asked for, and every table that a session
takes to be there. -/
def Fits (served : DatabaseSchema) (requested : String) (session : Session) :
    Prop :=
  served.name = requested ∧ ∀ table, session.schema.hasTable table = true →
    served.hasTable table = true

/-- What a started session shows are the requested tables that the server had
with which its connector was brought up, under the name of its schema.  The
server that the session is with has them if it is the same, and otherwise
exactly if its schema has that name and those tables as well. -/
theorem started_session_fits_iff (was : Started calls number handle) :
    ∃ connector current session origin offered served,
      (after calls).connectors[number]? = some connector ∧
        (after calls).handle? handle = some current ∧
        (after calls).session? current.session = some session ∧
        BroughtUp calls number connector.settings connector.endpoint origin ∧
        OpenedAt calls number handle connector.endpoint
          current.session.server ∧
        (after calls).schema? origin = some offered ∧
        (after calls).schema? current.session.server = some served ∧
        session.schema.name = connector.settings.schema ∧
        (∀ table, session.schema.hasTable table = true ↔
          table ∈ connector.settings.tables ∧
            offered.hasTable table = true) ∧
        (current.session.server = origin →
          Fits served connector.settings.schema session) ∧
        (Fits served connector.settings.schema session ↔
          served.name = offered.name ∧
            ∀ table ∈ connector.settings.tables,
              offered.hasTable table = true →
              served.hasTable table = true) := by
  obtain ⟨connector, current, served, stopped, registered, here, opened,
    schema, shown⟩ := attached_of_started was
  obtain ⟨origin, offered, broughtUp, there, name, selection⟩ :=
    exists_broughtUp registered
  obtain ⟨session, found, same⟩ := Option.map_eq_some_iff.mp shown
  have follows : session.schema = connector.selection.build :=
    congrArg Prod.fst same
  have tables : ∀ table, session.schema.hasTable table = true ↔
      table ∈ connector.settings.tables ∧ offered.hasTable table = true := by
    intro table
    rw [follows, selection]
    exact Selection.hasTable_build_registerAll_iff
  refine ⟨connector, current, session, origin, offered, served, registered,
    here, found, broughtUp, opened, there, schema, ?_, tables, ?_, ?_⟩
  · rw [follows, Selection.name_build, selection, Selection.schema_registerAll]
    exact name
  · intro still
    cases there.symm.trans (still ▸ schema)
    exact ⟨name, fun table has => ((tables table).mp has).2⟩
  · unfold Fits
    simp only [tables, name, and_imp]

/-- The endpoint of a connector moves from one server to another before the
connector is started. -/
def movedEndpoint (first second : DatabaseSchema) : List Call :=
  let endpoint := Endpoint.tcp "127.0.0.1" 6641
  let settings := ConnectionSettings.plain [endpoint] "OVN_Northbound"
    ["NB_Global"]
  [.createServer first, .createServer second,
    .perform (.addServer endpoint 0), .bootstrap settings 1 .zero,
    .perform (.addServer endpoint 1), .start 0]

theorem session_with_equal_server_fits :
    let calls := movedEndpoint .small .small
    Started calls 0 0 ∧ ∃ current session served,
      (after calls).handle? 0 = some current ∧
        (after calls).session? current.session = some session ∧
        (after calls).schema? current.session.server = some served ∧
        current.session.server = 1 ∧
        Fits served "OVN_Northbound" session := by
  intro calls
  have was : Started calls 0 0 :=
    ⟨calls.take 5, List.prefix_rfl, by decide +kernel⟩
  have names : ∀ connector ∈ (after calls).connectors,
      connector.settings.schema = "OVN_Northbound" := by decide +kernel
  have handles : ∀ handle ∈ (after calls).handles,
      handle.session = ⟨1, 0⟩ := by decide +kernel
  have servers : ∀ server ∈ (after calls).servers,
      server.schema = .small := by decide +kernel
  have schemas : ∀ number schema, (after calls).schema? number = some schema →
      schema = .small := by
    intro number schema here
    obtain ⟨server, there, rfl⟩ := Option.map_eq_some_iff.mp here
    exact servers server (List.mem_of_getElem? there)
  obtain ⟨connector, current, session, origin, offered, served, registered,
    here, found, _, _, there, schema, _, _, _, fits⟩ :=
    started_session_fits_iff was
  have attached := handles current (List.mem_of_getElem? here)
  cases schemas _ _ there
  cases schemas _ _ schema
  rw [names connector (List.mem_of_getElem? registered)] at fits
  exact ⟨was, current, session, _, here, found, schema,
    congrArg SessionId.server attached, fits.mpr ⟨rfl, fun _ _ has => has⟩⟩

/-- The other server has none of the tables that the session is taken to
follow. -/
theorem session_shows_table_of_other_server :
    let calls := movedEndpoint .small
      { DatabaseSchema.small with tables := .empty }
    Started calls 0 0 ∧
      ((after calls).handle? 0).map (·.session) = some ⟨1, 0⟩ ∧
      ((after calls).session? ⟨1, 0⟩).map
        (·.schema.hasTable "NB_Global") = some true ∧
      ((after calls).schema? 1).map (·.hasTable "NB_Global") = some false := by
  intro calls
  refine ⟨⟨calls.take 5, List.prefix_rfl, ?_⟩, ?_, ?_, ?_⟩
  all_goals decide +kernel

end Network

end OvsdbClient
