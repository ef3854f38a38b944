import OvsdbClient.Proofs.HandleStops

/-!
# One session for a connector

A connector may be started and stopped in any order, and its handles may be
stopped without it.  Of the sessions that it opened at most the last one runs:
it is in the slot of the connector, and a handle knows whether its session has
been stopped.
-/

namespace OvsdbClient.Network

variable {network later : Network}

/-! ## Handles and their sessions -/

/-- Whether the session of a handle has been stopped. -/
def halted? (network : Network) (number : Nat) : Option Bool :=
  (network.handle? number).bind fun handle =>
    (network.session? handle.session).map (·.stopped)

/-- A handle knows whether its session has been stopped, and no session has two
handles. -/
structure Bound (network : Network) : Prop where
  knows : ∀ number handle, network.handle? number = some handle →
    ∃ schema, network.standing? handle.session = some (schema, handle.stopped)
  apart : ∀ first second one other, network.handle? first = some one →
    network.handle? second = some other → one.session = other.session →
    first = second

theorem Bound.halted? (bound : network.Bound) (number : Nat) :
    network.halted? number = (network.handle? number).map (·.stopped) := by
  unfold Network.halted?
  cases here : network.handle? number with
  | none => rfl
  | some handle =>
      obtain ⟨schema, shown⟩ := bound.knows number handle here
      obtain ⟨session, opened, same⟩ := Option.map_eq_some_iff.mp shown
      rw [Option.bind_some, opened]
      exact congrArg some (congrArg Prod.snd same)

/-- Handles know all stops just if none of them was passed by. -/
theorem bound_iff_accounts :
    network.Bound ↔ network.Accounts fun _ => False := by
  constructor
  · intro bound
    refine ⟨fun number handle here => ?_, bound.apart, nofun⟩
    obtain ⟨schema, shown⟩ := bound.knows number handle here
    exact ⟨schema, handle.stopped, shown, (or_false _).to_iff.symm⟩
  · intro accounts
    refine ⟨fun number handle here => ?_, accounts.apart⟩
    obtain ⟨schema, stopped, shown, iff⟩ := accounts.stops number handle here
    rw [or_false, ← Bool.eq_iff_iff] at iff
    exact ⟨schema, iff ▸ shown⟩

theorem bound_empty : empty.Bound :=
  bound_iff_accounts.mpr accounts_empty

theorem Bound.stopHandle (bound : network.Bound) (number : Nat) :
    (network.stopHandle number).2.Bound :=
  bound_iff_accounts.mpr ((bound_iff_accounts.mp bound).stopHandle number)

theorem Opens.bound {connector : Connector} {number : Nat} {id : SessionId}
    (opens : network.Opens number connector id later)
    (bound : network.Bound) : later.Bound :=
  bound_iff_accounts.mpr (opens.accounts (bound_iff_accounts.mp bound))

/-- Handles stay bound, whatever is called. -/
theorem Bound.call (bound : network.Bound) (call : Call) :
    (network.call call).Bound :=
  bound_iff_accounts.mpr ((bound_iff_accounts.mp bound).call call)

/-! ## What a connector has started -/

/-- Of the handles that a connector has started only the one in its slot is
not marked, and nothing else is ever in the slot. -/
structure Ledger (network : Network) (number : Nat) (started : Nat → Prop) :
    Prop where
  issued : ∀ handle, started handle →
    ∃ current, network.handle? handle = some current
  held : ∀ handle current, started handle →
    network.handle? handle = some current → current.stopped = false →
    ∃ connector, network.connectors[number]? = some connector ∧
      connector.handle = some handle
  known : ∀ connector handle, network.connectors[number]? = some connector →
    connector.handle = some handle → started handle

variable {started : Nat → Prop} {connector : Connector} {number : Nat}
  {id : SessionId}

theorem ledger_empty : empty.Ledger number fun _ => False where
  issued := nofun
  held := nofun
  known := fun _ _ registered => nomatch registered

theorem Ledger.congr {others : Nat → Prop}
    (ledger : network.Ledger number started)
    (same : ∀ handle, started handle ↔ others handle) :
    network.Ledger number others :=
  (funext fun handle => propext (same handle) : started = others) ▸ ledger

theorem Ledger.preserved (ledger : network.Ledger number started)
    (preserves : network.Preserves later)
    (slot : later.connectors[number]? = network.connectors[number]?) :
    later.Ledger number started where
  issued := by
    intro handle was
    obtain ⟨current, here⟩ := ledger.issued handle was
    obtain ⟨next, there, _⟩ := preserves.handles handle current here
    exact ⟨next, there⟩
  held := by
    intro handle next was there running
    obtain ⟨current, here⟩ := ledger.issued handle was
    obtain ⟨same, also, _, marked⟩ := preserves.handles handle current here
    cases there.symm.trans also
    rw [slot]
    refine ledger.held handle current was here (Bool.of_not_eq_true ?_)
    intro stopped
    rw [marked stopped] at running
    cases running
  known := by
    rw [slot]
    exact ledger.known

theorem Ledger.register (ledger : network.Ledger number started)
    {added : Connector} (vacant : added.handle = none) :
    Ledger { network with connectors := network.connectors ++ [added] } number
      started where
  issued := ledger.issued
  held := by
    intro handle current was here running
    obtain ⟨connector, registered, slot⟩ :=
      ledger.held handle current was here running
    obtain ⟨low, _⟩ := List.getElem?_eq_some_iff.mp registered
    exact ⟨connector, (List.getElem?_append_left low).trans registered, slot⟩
  known := by
    intro connector handle registered slot
    dsimp only at registered
    rw [List.getElem?_append] at registered
    split at registered
    case isTrue => exact ledger.known connector handle registered slot
    case isFalse =>
      rw [List.getElem?_singleton] at registered
      split at registered
      · cases registered
        rw [vacant] at slot
        cases slot
      · cases registered

theorem Ledger.stopped_of_idle (ledger : network.Ledger number started)
    (registered : network.connectors[number]? = some connector)
    (idle : network.runningHandle? connector = none) {handle : Nat}
    {current : Handle} (was : started handle)
    (here : network.handle? handle = some current) :
    current.stopped = true := by
  apply Bool.of_not_eq_false
  intro running
  obtain ⟨same, there, slot⟩ := ledger.held handle current was here running
  cases registered.symm.trans there
  have runs := runningHandle?_eq_some_iff.mpr ⟨slot, current, here, running⟩
  rw [idle] at runs
  cases runs

theorem Ledger.opens {other : Nat} (ledger : network.Ledger number started)
    (registered : network.connectors[other]? = some connector)
    (idle : network.runningHandle? connector = none)
    (opens : network.Opens other connector id later) :
    later.Ledger number fun handle =>
      started handle ∨ other = number ∧ network.handles.length = handle := by
  obtain ⟨added, there, _, running⟩ := opens.started
  by_cases same : other = number
  · subst same
    have slot : later.connectors[other]? =
        some { connector with handle := some network.handles.length } := by
      obtain ⟨low, _⟩ := List.getElem?_eq_some_iff.mp registered
      rw [opens.connectors]
      exact List.getElem?_set_self low
    constructor
    · rintro handle (was | ⟨_, rfl⟩)
      · obtain ⟨current, here⟩ := ledger.issued handle was
        exact ⟨current, opens.handle?_of_some here⟩
      · exact ⟨added, there⟩
    · rintro handle current (was | ⟨_, rfl⟩) here runs
      · -- Its slot was idle, so nothing that it had started runs.
        obtain ⟨before, was'⟩ := ledger.issued handle was
        cases here.symm.trans (opens.handle?_of_some was')
        rw [ledger.stopped_of_idle registered idle was was'] at runs
        cases runs
      · exact ⟨_, slot, rfl⟩
    · intro next handle here holds
      cases slot.symm.trans here
      exact .inr ⟨rfl, Option.some.inj holds⟩
  · have preserves := opens.preserves registered
    refine Ledger.congr (ledger.preserved preserves ?_) fun handle => ?_
    · rw [opens.connectors]
      exact List.getElem?_set_ne same
    · simp [same]

theorem Ledger.start (ledger : network.Ledger number started) (other : Nat) :
    (network.start other).2.Ledger number fun handle => started handle ∨
      other = number ∧ (network.start other).1 = .ok handle := by
  rcases network.start_cases other with ⟨_, same⟩ |
    ⟨connector, registered, ⟨running, runs, same⟩ | ⟨idle, ⟨_, _, same⟩ |
      ⟨id, later, _, same, opens⟩⟩⟩
  · rw [same]
    exact ledger.congr fun handle => by simp
  · rw [same]
    refine ledger.congr fun handle => ⟨.inl, ?_⟩
    rintro (was | ⟨rfl, answered⟩)
    · exact was
    · cases answered
      obtain ⟨slot, _⟩ := runningHandle?_eq_some_iff.mp runs
      exact ledger.known connector running registered slot
  · rw [same]
    exact ledger.congr fun handle => by simp
  · rw [same]
    exact (ledger.opens registered idle opens).congr fun handle => by simp

theorem Ledger.vacate {other : Nat} (ledger : network.Ledger number started)
    (registered : network.connectors[other]? = some connector)
    (connectors : later.connectors =
      (network.withSlot other connector none).connectors)
    (preserves : network.Preserves later)
    (done : ∀ handle current, connector.handle = some handle →
      later.handle? handle = some current → current.stopped = true) :
    later.Ledger number started := by
  by_cases same : other = number
  · subst same
    have slot : later.connectors[other]? =
        some { connector with handle := none } := by
      obtain ⟨low, _⟩ := List.getElem?_eq_some_iff.mp registered
      rw [connectors]
      exact List.getElem?_set_self low
    constructor
    · intro handle was
      obtain ⟨current, here⟩ := ledger.issued handle was
      obtain ⟨next, there, _⟩ := preserves.handles handle current here
      exact ⟨next, there⟩
    · intro handle next was there running
      obtain ⟨current, here⟩ := ledger.issued handle was
      obtain ⟨also, found, _, marked⟩ := preserves.handles handle current here
      cases there.symm.trans found
      have ran : current.stopped = false := by
        apply Bool.of_not_eq_true
        intro stopped
        rw [marked stopped] at running
        cases running
      obtain ⟨held, there', slotted⟩ := ledger.held handle current was here ran
      cases registered.symm.trans there'
      rw [done handle next slotted there] at running
      cases running
    · intro next handle here holds
      cases slot.symm.trans here
      cases holds
  · refine ledger.preserved preserves ?_
    rw [connectors]
    exact List.getElem?_set_ne same

theorem Ledger.stopConnector (ledger : network.Ledger number started)
    (other : Nat) :
    (network.stopConnector other).2.Ledger number started := by
  rcases network.stopConnector_cases other with ⟨_, same⟩ |
    ⟨connector, registered, ⟨vacant, same⟩ | ⟨handle, slot, same⟩⟩
  · rw [same]
    exact ledger
  · rw [same]
    refine ledger.vacate registered rfl (preserves_withSlot registered) ?_
    intro handle current holds
    rw [vacant] at holds
    cases holds
  · rw [same]
    have preserves := Preserves.trans (preserves_withSlot registered)
      ((network.withSlot other connector none).preserves_stopHandle handle)
    refine ledger.vacate registered (connectors_stopHandle ..) preserves ?_
    intro held current holds there
    cases slot.symm.trans holds
    rw [handle?_stopHandle, if_pos rfl] at there
    obtain ⟨_, _, rfl⟩ := Option.map_eq_some_iff.mp there
    rfl

/-- Nothing but a start adds to a ledger. -/
theorem Ledger.call (ledger : network.Ledger number started) {call : Call}
    (other : ∀ connector, call ≠ .start connector) :
    (network.call call).Ledger number started := by
  rcases network.call_cases call with elapses |
    ⟨_, _, _, _, _, _, between, rfl, elapses, _, _, _, _, same⟩ |
    ⟨connector, rfl⟩ | ⟨connector, rfl⟩
  · exact ledger.preserved elapses.preserves (by rw [elapses.connectors])
  · rw [same]
    refine Ledger.register ?_ rfl
    exact ledger.preserved elapses.preserves (by rw [elapses.connectors])
  · exact absurd rfl (other connector)
  · exact ledger.stopConnector connector

/-- Whatever is called, handles are bound and a connector has its ledger. -/
theorem bound_and_ledger_after (calls : List Call) (number : Nat) :
    (after calls).Bound ∧
      (after calls).Ledger number (Started calls number) := by
  induction calls using List.reverseRecOn with
  | nil =>
      refine ⟨bound_empty, ledger_empty.congr fun handle => ?_⟩
      simp [Started]
  | append_singleton calls call induction =>
      obtain ⟨bound, ledger⟩ := induction
      rw [after_concat]
      refine ⟨bound.call call, ?_⟩
      by_cases starts : ∃ other, call = .start other
      · obtain ⟨other, rfl⟩ := starts
        refine (ledger.start other).congr fun handle => ?_
        rw [started_concat_iff, Call.start.injEq]
        refine or_congr_right (and_congr_right fun same => ?_)
        rw [same]
      · have other := not_exists.mp starts
        refine (ledger.call other).congr fun handle => ?_
        rw [started_concat_iff, or_iff_left fun same => other number same.1]

/-- At the end of some calls, of all the handles that a connector has started,
at most one is on a session that has not been stopped. -/
structure RunsOne (calls : List Call) (number : Nat) : Prop where
  opened : ∀ handle, Started calls number handle →
    ∃ stopped, (after calls).halted? handle = some stopped
  unique : ∀ first second, Started calls number first →
    Started calls number second →
    (after calls).halted? first = some false →
    (after calls).halted? second = some false → first = second
  /-- To start the connector again is to share the session that runs. -/
  shares : ∀ handle, Started calls number handle →
    (after calls).halted? handle = some false →
    (after calls).start number = (.ok handle, after calls)
  /-- If no session runs, a start opens one, and changes nothing if it cannot
  be opened. -/
  opens : (∀ handle, Started calls number handle →
      (after calls).halted? handle = some true) →
    ∀ connector, (after calls).connectors[number]? = some connector →
      match ((after calls).openSession connector.endpoint connector.selection
        connector.settings.sessionOptions).1 with
      | .error fault =>
          (after calls).start number = (.error fault, after calls)
      | .ok id => ∃ later,
          (after calls).start number =
              (.ok (after calls).handles.length, later) ∧
            (later.handle? (after calls).handles.length).map (·.session) =
              some id ∧
            later.halted? (after calls).handles.length = some false ∧
            (after calls).session? id = none ∧
            ∀ other, later.session? other = none ↔
              other ≠ id ∧ (after calls).session? other = none
  /-- To stop the connector is to stop all that it ever started. -/
  stopsAll : ∀ handle, Started calls number handle →
    ((after calls).stopConnector number).2.halted? handle = some true
  stops : ∀ handle, Started calls number handle →
    ((after calls).stopHandle handle).2.halted? handle = some true
  /-- A session that was stopped at any time is not stopped again. -/
  stopsOnce : ∀ past handle, past <+: calls →
    (after past).halted? handle = some true →
    (after calls).halted? handle = some true ∧
      (after calls).stopHandle handle = (true, after calls)
  /-- There is nothing to stop before anything was started. -/
  stopsNothing : (∀ handle, ¬Started calls number handle) →
    (after calls).stopConnector number = (true, after calls)

theorem Ledger.halted?_of_vacant (ledger : network.Ledger number started)
    (bound : network.Bound)
    (vacant : ∀ connector, network.connectors[number]? = some connector →
      connector.handle = none) {handle : Nat} (was : started handle) :
    network.halted? handle = some true := by
  obtain ⟨current, here⟩ := ledger.issued handle was
  rw [bound.halted?, here]
  refine congrArg some (Bool.of_not_eq_false fun runs => ?_)
  obtain ⟨connector, registered, slot⟩ :=
    ledger.held handle current was here runs
  rw [vacant connector registered] at slot
  cases slot

theorem withSlot_of_vacant
    (registered : network.connectors[number]? = some connector)
    (vacant : connector.handle = none) :
    network.withSlot number connector none = network := by
  obtain ⟨low, here⟩ := List.getElem?_eq_some_iff.mp registered
  have same : { connector with handle := none } = network.connectors[number] :=
    by rw [here, ← vacant]
  simp only [Network.withSlot, same, List.set_getElem_self]

theorem vacant_stopConnector (network : Network) (number : Nat) :
    ∀ connector,
      (network.stopConnector number).2.connectors[number]? = some connector →
        connector.handle = none := by
  intro connector there
  rcases network.stopConnector_cases number with ⟨absent, same⟩ |
    ⟨before, registered, ends⟩
  · rw [same] at there
    cases absent.symm.trans there
  · obtain ⟨low, _⟩ := List.getElem?_eq_some_iff.mp registered
    have slot : (network.withSlot number before none).connectors[number]? =
        some { before with handle := none } := List.getElem?_set_self low
    rcases ends with ⟨_, same⟩ | ⟨handle, _, same⟩
    · rw [same] at there
      cases slot.symm.trans there
      rfl
    · rw [same, connectors_stopHandle] at there
      cases slot.symm.trans there
      rfl

theorem halted?_mono {past calls : List Call} {handle : Nat}
    (before : past <+: calls)
    (stopped : (after past).halted? handle = some true) :
    (after calls).halted? handle = some true := by
  obtain ⟨bound, _⟩ := bound_and_ledger_after past 0
  obtain ⟨bound', _⟩ := bound_and_ledger_after calls 0
  rw [bound.halted?] at stopped
  obtain ⟨current, here, marked⟩ := Option.map_eq_some_iff.mp stopped
  obtain ⟨next, there, _, stays⟩ :=
    (preserves_after before).handles handle current here
  rw [bound'.halted?, there]
  exact congrArg some (stays marked)

theorem Ledger.exists_running (ledger : network.Ledger number started)
    (bound : network.Bound) {handle : Nat} (was : started handle)
    (runs : network.halted? handle = some false) :
    ∃ connector, network.connectors[number]? = some connector ∧
      network.runningHandle? connector = some handle := by
  rw [bound.halted?] at runs
  obtain ⟨current, here, marked⟩ := Option.map_eq_some_iff.mp runs
  obtain ⟨connector, registered, slot⟩ :=
    ledger.held handle current was here marked
  exact ⟨connector, registered,
    runningHandle?_eq_some_iff.mpr ⟨slot, current, here, marked⟩⟩

theorem Ledger.idle_of_halted {connector : Connector}
    (ledger : network.Ledger number started) (bound : network.Bound)
    (halted : ∀ handle, started handle → network.halted? handle = some true)
    (registered : network.connectors[number]? = some connector) :
    network.runningHandle? connector = none := by
  refine Option.eq_none_iff_forall_ne_some.mpr fun handle runs => ?_
  obtain ⟨slot, current, here, marked⟩ := runningHandle?_eq_some_iff.mp runs
  have stopped := halted handle (ledger.known _ handle registered slot)
  rw [bound.halted?, here, Option.map_some, marked] at stopped
  cases stopped

theorem Opens.session?_eq_none_iff {connector : Connector} {id : SessionId}
    (opens : network.Opens number connector id later) (other : SessionId) :
    later.session? other = none ↔
      other ≠ id ∧ network.session? other = none := by
  have hidden (network : Network) : network.session? other = none ↔
      network.standing? other = none := Option.map_eq_none_iff.symm
  rw [hidden, hidden, opens.standing?]
  split
  case isTrue same => simp [same]
  case isFalse different => simp [different]

/-- Whatever is called, a connector has at most one session that runs. -/
theorem connector_runs_one_session (calls : List Call) (number : Nat) :
    RunsOne calls number := by
  obtain ⟨bound, ledger⟩ := bound_and_ledger_after calls number
  constructor
  case opened =>
    intro handle was
    obtain ⟨current, here⟩ := ledger.issued handle was
    exact ⟨current.stopped, by rw [bound.halted?, here]; rfl⟩
  case unique =>
    intro first second wasFirst wasSecond runs also
    obtain ⟨connector, registered, slot⟩ :=
      ledger.exists_running bound wasFirst runs
    obtain ⟨same, there, slot'⟩ := ledger.exists_running bound wasSecond also
    cases registered.symm.trans there
    exact Option.some.inj (slot.symm.trans slot')
  case shares =>
    intro handle was runs
    obtain ⟨connector, registered, slot⟩ :=
      ledger.exists_running bound was runs
    simp only [start, registered, slot]
  case opens =>
    intro halted connector registered
    have idle := ledger.idle_of_halted bound halted registered
    rcases (after calls).start_cases number with ⟨absent, _⟩ |
      ⟨same, there, ⟨_, runs, _⟩ | ⟨_, ends⟩⟩
    · cases registered.symm.trans absent
    · cases registered.symm.trans there
      cases idle.symm.trans runs
    · cases registered.symm.trans there
      rcases ends with ⟨fault, failed, answered⟩ |
        ⟨id, later, done, answered, opening⟩
      · rw [failed]
        exact answered
      · rw [done]
        obtain ⟨handle, here, session, marked⟩ := opening.started
        refine ⟨later, answered, ?_, ?_, ?_, opening.session?_eq_none_iff⟩
        · rw [here, Option.map_some, session]
        · rw [(opening.bound bound).halted?, here, Option.map_some, marked]
        · exact Option.map_eq_none_iff.mp opening.fresh
  case stopsAll =>
    intro handle was
    refine (ledger.stopConnector number).halted?_of_vacant
      (bound.call (.stopConnector number)) ?_ was
    exact (after calls).vacant_stopConnector number
  case stops =>
    intro handle was
    obtain ⟨current, here⟩ := ledger.issued handle was
    rw [(bound.stopHandle handle).halted?, handle?_stopHandle, if_pos rfl, here]
    rfl
  case stopsOnce =>
    intro past handle before halted
    have still := halted?_mono before halted
    refine ⟨still, stopHandle_of_stopped fun current here => ?_⟩
    rw [bound.halted?, here] at still
    exact Option.some.inj still
  case stopsNothing =>
    intro never
    rcases (after calls).stopConnector_cases number with ⟨_, same⟩ |
      ⟨connector, registered, ⟨vacant, same⟩ | ⟨handle, slot, _⟩⟩
    · exact same
    · rw [same, withSlot_of_vacant registered vacant]
    · exact absurd (ledger.known connector handle registered slot)
        (never handle)

/-- A connector that is started, whose handle is stopped behind its back, and
that is started again. -/
def restart : List Call :=
  let endpoint := Endpoint.tcp "127.0.0.1" 6641
  let settings := ConnectionSettings.plain [endpoint] "OVN_Northbound"
    ["NB_Global"]
  [.createServer .small, .perform (.addServer endpoint 0),
    .bootstrap settings 1 .zero, .start 0, .perform (.stop 0), .start 0]

theorem restarted_connector_shares_last_session :
    Started restart 0 0 ∧ Started restart 0 1 ∧
      (after restart).start 0 = (.ok 1, after restart) ∧
      (after restart).stopHandle 0 = (true, after restart) ∧
      ((after restart).stopConnector 0).2.halted? 1 = some true := by
  have first : Started restart 0 0 := by
    refine ⟨restart.take 3, ⟨[.perform (.stop 0), .start 0], rfl⟩, ?_⟩
    decide +kernel
  have second : Started restart 0 1 := by
    refine ⟨restart.take 5, List.prefix_rfl, ?_⟩
    decide +kernel
  have runs : (after restart).halted? 1 = some false := by decide +kernel
  have halted : (after restart).halted? 0 = some true := by decide +kernel
  have one := connector_runs_one_session restart 0
  exact ⟨first, second, one.shares 1 second runs,
    (one.stopsOnce restart 0 List.prefix_rfl halted).2, one.stopsAll 1 second⟩

end OvsdbClient.Network
