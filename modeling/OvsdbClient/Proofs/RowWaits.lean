import OvsdbClient.Network.Client
import OvsdbClient.Proofs.Intervals
import OvsdbClient.Proofs.AdvanceAdditivity

/-!
# Waiting for rows

A row that never shows up is looked for until the next wait would overrun the
budget of the policy, and then it is reported as missing.  A policy without a
budget looks for it for ever, and validation lets such policies pass.  It also
lets a few others pass whose waits vanish, so that they never use their budget
up.
-/

namespace OvsdbClient

/-! ## Settings -/

namespace OvnSettings

variable {settings : OvnSettings} {connection : ConnectionSettings}
  {lock : Option String}

theorem part_eq_ok_iff {field : String} {verdict : Except Objection Unit} :
    part field verdict = .ok () ↔ verdict = .ok () := by
  cases verdict with
  | error objection => exact iff_of_false nofun nofun
  | ok => exact Iff.rfl

theorem rowRetry_validate (valid : settings.validate = .ok ()) :
    settings.rowRetry.validate = .ok () := by
  unfold validate at valid
  obtain ⟨_, _, valid⟩ := bind_eq_ok_iff.mp valid
  obtain ⟨_, _, valid⟩ := bind_eq_ok_iff.mp valid
  dsimp only at valid
  split at valid
  · cases valid
  · split at valid
    · cases valid
    · obtain ⟨_, _, valid⟩ := bind_eq_ok_iff.mp valid
      exact part_eq_ok_iff.mp valid

theorem rowRetry_connection {raw schema : String} {tables : List String}
    {tls : Option TlsFiles}
    (made : settings.connection raw schema tables tls lock = .ok connection) :
    connection.rowRetry = settings.rowRetry := by
  obtain ⟨_, _, same⟩ := bind_eq_ok_iff.mp made
  cases same
  rfl

end OvnSettings

namespace Network

variable {network opened : Network} {id : SessionId} {table column : String}
  {atom : Atom} {policy : RetryPolicy} {draws : Draws}

/-- Looking a row up by value, again and again. -/
def lookup (id : SessionId) (table column : String) (atom : Atom) :
    Retriable Network Row where
  clock := Network.clock
  attempt network :=
    match network.session? id with
    | some session => (session.rowByValue table column atom, network)
    | none => (.error .connectionClosed, network)
  pause _ delay network := network.advance delay

theorem awaitRow?_eq (network : Network) (id : SessionId) (policy : RetryPolicy)
    (table column : String) (atom : Atom) (fuel : Nat) (draws : Draws) :
    network.awaitRow? id policy table column atom fuel draws =
      (lookup id table column atom).run? policy Fault.isRowNotFound fuel
        network draws :=
  rfl

theorem timely_lookup (id : SessionId) (table column : String) (atom : Atom) :
    (lookup id table column atom).Timely where
  attempt network := by
    simp only [lookup]
    split <;> rfl
  pause _ delay network := network.clock_advance delay

/-- A session copies a table. -/
def Mirrors (network : Network) (id : SessionId) (table : String) : Prop :=
  ∃ session, network.session? id = some session ∧
    session.schema.hasTable table = true

/-- However long one waits, a session never shows a row with a value. -/
def NeverMatches (network : Network) (id : SessionId) (table column : String)
    (atom : Atom) : Prop :=
  ∀ (pauses : List Span) (session : Session),
    (pauses.foldl advance network).session? id = some session →
      session.replica.findFirst? table (·.holds column atom) = none

theorem Mirrors.leads (mirrors : network.Mirrors id table)
    (later : network.Leads opened) : opened.Mirrors id table := by
  obtain ⟨session, found, copied⟩ := mirrors
  obtain ⟨server, here, isOpen⟩ := Option.bind_eq_some_iff.mp found
  obtain ⟨events, became⟩ := later id.server
  rw [here, Option.map_some] at became
  obtain ⟨next, there, schema, _⟩ := Server.session?_run isOpen events
  exact ⟨next, session?_eq_some became there, schema ▸ copied⟩

theorem NeverMatches.advance
    (never : network.NeverMatches id table column atom) (span : Span) :
    (network.advance span).NeverMatches id table column atom :=
  fun pauses => never (span :: pauses)

theorem exists_attempt_lookup_eq (mirrors : network.Mirrors id table) :
    ∃ session, network.session? id = some session ∧
      (lookup id table column atom).attempt network =
        (orFault (.rowNotFound table column atom.text)
          (session.replica.findFirst? table (·.holds column atom)),
          network) := by
  obtain ⟨session, found, copied⟩ := mirrors
  obtain ⟨shape, known⟩ := SortedMap.contains_eq_true_iff.mp copied
  refine ⟨session, found, ?_⟩
  simp only [lookup, found]
  simp only [Session.rowByValue, Session.checkTable, DatabaseSchema.table?,
    known]
  rfl

theorem attempt_lookup (mirrors : network.Mirrors id table)
    (never : network.NeverMatches id table column atom) :
    (lookup id table column atom).attempt network =
      (.error (.rowNotFound table column atom.text), network) := by
  obtain ⟨session, found, attempted⟩ :=
    @exists_attempt_lookup_eq network id table column atom mirrors
  rw [attempted, never [] session found]
  rfl

theorem round?_lookup (mirrors : network.Mirrors id table)
    (never : network.NeverMatches id table column atom) {number : Nat}
    {last : Retriable.Round Network}
    (here : (lookup id table column atom).round? Fault.isRowNotFound
      ((lookup id table column atom).opening policy draws network) number =
        some last) :
    last.state.Mirrors id table ∧
      last.state.NeverMatches id table column atom := by
  induction number generalizing last with
  | zero =>
      cases here
      exact ⟨mirrors, never⟩
  | succ number induction =>
      obtain ⟨round, there, following⟩ := Option.bind_eq_some_iff.mp here
      obtain ⟨copied, absent⟩ := induction there
      obtain ⟨fault, after, failed, _, _, rfl⟩ :=
        Retriable.next?_eq_some_iff.mp following
      cases (attempt_lookup copied absent).symm.trans failed
      exact ⟨copied.leads (leads_advance _ _), absent.advance _⟩

theorem failing_lookup (mirrors : network.Mirrors id table)
    (never : network.NeverMatches id table column atom)
    (policy : RetryPolicy) (draws : Draws) :
    (lookup id table column atom).Failing Fault.isRowNotFound policy draws
      network := by
  intro number round here
  obtain ⟨copied, absent⟩ := round?_lookup mirrors never here
  exact ⟨_, _, attempt_lookup copied absent, rfl⟩

/-- The only answer about a row that never shows up is that it is missing. -/
theorem awaitRow?_of_neverMatches (mirrors : network.Mirrors id table)
    (never : network.NeverMatches id table column atom) {fuel : Nat}
    {answer : Except Fault Row × Network}
    (answered : network.awaitRow? id policy table column atom fuel draws =
      some answer) :
    answer.1 = .error (.rowNotFound table column atom.text) := by
  rw [awaitRow?_eq] at answered
  obtain ⟨number, _, last, here, _, rfl⟩ :=
    Retriable.run?_eq_some_iff.mp answered
  obtain ⟨copied, absent⟩ := round?_lookup mirrors never here
  rw [attempt_lookup copied absent]

/-- Whether there is an answer about a row that never shows up is a matter of
the policy. -/
theorem exists_awaitRow?_iff (mirrors : network.Mirrors id table)
    (never : network.NeverMatches id table column atom)
    (policy : RetryPolicy) (draws : Draws) (fuel : Nat) :
    (∃ answer, network.awaitRow? id policy table column atom fuel draws =
        some answer) ↔
      ∃ waits < fuel, policy.Overruns draws waits :=
  (timely_lookup id table column atom).exists_run?_iff
    (failing_lookup mirrors never policy draws) fuel

theorem awaitRow?_of_unlimited (mirrors : network.Mirrors id table)
    (never : network.NeverMatches id table column atom)
    (unlimited : policy.maxElapsedMillis = none) (fuel : Nat) :
    network.awaitRow? id policy table column atom fuel draws = none := by
  rw [Option.eq_none_iff_forall_ne_some]
  intro answer answered
  obtain ⟨waits, _, overrun⟩ :=
    (exists_awaitRow?_iff mirrors never policy draws fuel).mp
      ⟨answer, answered⟩
  exact RetryPolicy.not_overruns_of_unlimited unlimited waits overrun

theorem clock_awaitRow?_le {budget fuel : Nat}
    (limited : policy.maxElapsedMillis = some budget)
    {answer : Except Fault Row × Network}
    (answered : network.awaitRow? id policy table column atom fuel draws =
      some answer) : answer.2.clock ≤ network.clock + budget := by
  rw [awaitRow?_eq] at answered
  exact (timely_lookup id table column atom).clock_run?_le limited answered

/-- Waiting for a row can end only with the news that it is missing, and does
exactly if the policy comes to a wait that would overrun the budget. -/
structure OnlyMisses (network : Network) (id : SessionId) (policy : RetryPolicy)
    (draws : Draws) (table column : String) (atom : Atom) : Prop where
  reported : ∀ fuel answer,
    network.awaitRow? id policy table column atom fuel draws = some answer →
      answer.1 = .error (.rowNotFound table column atom.text)
  ends : ∀ fuel,
    (∃ answer, network.awaitRow? id policy table column atom fuel draws =
        some answer) ↔
      ∃ waits < fuel, policy.Overruns draws waits

/-- The news that a row is missing comes after as many milliseconds as the
budget has at most, and after one attempt more at most. -/
def MissesWithin (network : Network) (id : SessionId) (policy : RetryPolicy)
    (draws : Draws) (table column : String) (atom : Atom) (budget : Nat) :
    Prop :=
  ∃ last, network.awaitRow? id policy table column atom (budget + 1) draws =
      some (.error (.rowNotFound table column atom.text), last) ∧
    last.clock ≤ network.clock + budget

/-- A row is reported as missing: in time if there is a budget and no wait
vanishes, and never if there is no budget. -/
structure ReportsMissing (network : Network) (id : SessionId)
    (policy : RetryPolicy) (draws : Draws) (table column : String)
    (atom : Atom) : Prop where
  misses : network.OnlyMisses id policy draws table column atom
  inTime : ∀ budget, policy.maxElapsedMillis = some budget → policy.Steady →
    network.MissesWithin id policy draws table column atom budget
  endless : policy.maxElapsedMillis = none →
    ∀ fuel, network.awaitRow? id policy table column atom fuel draws = none

theorem OnlyMisses.within
    (misses : network.OnlyMisses id policy draws table column atom)
    (valid : policy.validate = .ok ()) (steady : policy.Steady) {budget : Nat}
    (limited : policy.maxElapsedMillis = some budget) :
    network.MissesWithin id policy draws table column atom budget := by
  have overrun := steady.overruns valid limited draws
  obtain ⟨⟨outcome, last⟩, answered⟩ :=
    (misses.ends (budget + 1)).mpr ⟨budget, Nat.lt_succ_self budget, overrun⟩
  cases misses.reported _ _ answered
  exact ⟨last, answered, clock_awaitRow?_le limited answered⟩

/-! ## Networks on which nothing happens -/

/-- Nothing is planned, and no session has anything left to do. -/
def Idle (network : Network) : Prop :=
  network.agenda = [] ∧ ∀ server ∈ network.servers,
    ∀ session ∈ server.sessions, session.workload server.database = 0

instance (network : Network) : Decidable network.Idle :=
  inferInstanceAs (Decidable (_ ∧ _))

theorem Idle.settle (idle : network.Idle) : network.settle = network := by
  have still : network.Still := fun server member session opened =>
    Session.step?_steps (Nat.le_of_eq (idle.2 server member session opened))
  exact still.settle

theorem Idle.due? (idle : network.Idle) : network.due? = none := by
  cases due : network.due? with
  | none => rfl
  | some time =>
      rcases exists_of_due? due with ⟨plan, agenda, listed, _⟩ |
        ⟨server, here, session, opened, waits⟩
      · rw [idle.1] at listed
        cases listed
      · have nothing := idle.2 server here session opened
        unfold Session.due? at waits
        split at waits
        · obtain ⟨held, inHand, _⟩ := Option.map_eq_some_iff.mp waits
          simp [Session.workload, inHand] at nothing
        · cases waits

/-- On an idle network only time passes. -/
theorem Idle.advance (idle : network.Idle) (span : Span) :
    network.advance span =
      { network with clock := network.clock + span.ceilMillis } := by
  unfold Network.advance runUntil workload
  simp only [happen, idle.settle, idle.due?]
  simp

theorem Idle.neverMatches (idle : network.Idle) {session : Session}
    (here : network.session? id = some session)
    (missing : session.replica.findFirst? table (·.holds column atom) = none) :
    network.NeverMatches id table column atom := by
  intro pauses
  induction pauses generalizing network with
  | nil =>
      intro other found
      cases here.symm.trans found
      exact missing
  | cons span pauses induction =>
      rw [List.foldl_cons, idle.advance]
      apply induction
      · exact ⟨idle.1, idle.2⟩
      · rw [← here]
        simp only [session?, server?]

/-! ## Connections -/

section Connections

variable {settings : OvnSettings} {connection : ConnectionSettings}
  {lock : Option String} {start : Network} {number started attempts : Nat}
  {handle : Handle}

theorem rowRetry_startSession {connector : Connector}
    (answered : network.startSession number connector = (.ok started, opened))
    (here : opened.handle? started = some handle) :
    handle.rowRetry = connector.settings.rowRetry := by
  unfold startSession at answered
  dsimp only at answered
  split at answered
  · cases answered
  · cases answered
    cases List.getElem?_concat_length.symm.trans here
    rfl

theorem exists_connector_of_bootstrap? {settings : ConnectionSettings}
    {attempts : Nat} (answered : network.bootstrap? settings attempts draws =
      some (.ok number, opened)) :
    ∃ connector, opened.connectors[number]? = some connector ∧
      connector.settings = settings ∧ connector.handle = none := by
  unfold bootstrap? at answered
  dsimp only at answered
  split at answered
  · cases answered
  · split at answered
    · cases answered
    · cases answered
    · cases answered
      exact ⟨_, List.getElem?_concat_length, rfl, rfl⟩

theorem rowRetry_connect? {settings : ConnectionSettings} {attempts : Nat}
    (answered : network.connect? settings attempts draws =
      some (.ok number, opened))
    (here : opened.handle? number = some handle) :
    handle.rowRetry = settings.rowRetry := by
  unfold connect? at answered
  split at answered
  · cases answered
  · cases answered
  · next connector prepared ready =>
      obtain ⟨_, there, rfl, fresh⟩ := exists_connector_of_bootstrap? ready
      rw [start, there] at answered
      simp only [runningHandle?, fresh, Option.filter_none] at answered
      exact rowRetry_startSession (Option.some.inj answered) here

/-- A connection waits for rows as its settings say.  A wait for one that never
shows up reports that it is missing, and ends as the policy does. -/
theorem missing_row_is_reported_within_budget
    (valid : settings.validate = .ok ())
    (made : settings.northbound lock = .ok connection ∨
      settings.southbound lock = .ok connection)
    (connected : start.connect? connection attempts draws =
      some (.ok number, opened))
    (here : opened.handle? number = some handle)
    (mirrors : opened.Mirrors handle.session table)
    (later : opened.Leads network)
    (never : network.NeverMatches handle.session table column atom)
    (drawn : Draws) :
    handle.rowRetry = settings.rowRetry ∧
      network.ReportsMissing handle.session settings.rowRetry drawn table column
        atom := by
  have policy : handle.rowRetry = settings.rowRetry := by
    rw [rowRetry_connect? connected here]
    rcases made with north | south
    · exact OvnSettings.rowRetry_connection north
    · exact OvnSettings.rowRetry_connection south
  have copied := mirrors.leads later
  have misses : network.OnlyMisses handle.session settings.rowRetry drawn table
      column atom :=
    ⟨fun _ _ => awaitRow?_of_neverMatches copied never,
      exists_awaitRow?_iff copied never settings.rowRetry drawn⟩
  exact ⟨policy, {
    misses
    inTime := fun budget limited steady =>
      misses.within (OvnSettings.rowRetry_validate valid) steady limited
    endless := awaitRow?_of_unlimited copied never }⟩

/-- A network with one server, on which nothing happens by itself. -/
def quiet : Network :=
  { empty with servers := [.ofSchema .small] }.addServer
    (.tcp "127.0.0.1" 6641) 0

/-- A connection to the quiet network waits for a row that nobody inserts. -/
def QuietWait (settings : OvnSettings) (opened : Network) (handle : Handle) :
    Prop :=
  settings.validate = .ok () ∧ (∃ connection,
    settings.northbound none = .ok connection ∧
      quiet.connect? connection 1 = some (.ok 0, opened)) ∧
    opened.handle? 0 = some handle ∧
    opened.Mirrors handle.session "NB_Global" ∧
    opened.NeverMatches handle.session "NB_Global" "nb_cfg" (.integer 1)

/-- Whether the quiet network can be connected to with settings, stays quiet,
and shows that the row is missing. -/
def staysQuiet (settings : OvnSettings) : Bool :=
  match settings.northbound none with
  | .error _ => false
  | .ok connection =>
      match quiet.connect? connection 1 with
      | some (.ok 0, opened) =>
          (opened.handle? 0).any fun handle =>
            (opened.session? handle.session).any fun session =>
              decide opened.Idle && session.schema.hasTable "NB_Global" &&
                (session.replica.findFirst? "NB_Global"
                  (·.holds "nb_cfg" (.integer 1))).isNone
      | _ => false

theorem exists_quietWait (valid : settings.validate = .ok ())
    (seen : staysQuiet settings = true) :
    ∃ opened handle, QuietWait settings opened handle := by
  unfold staysQuiet at seen
  split at seen
  · cases seen
  · next connection made =>
      split at seen
      · next opened connected =>
          obtain ⟨handle, here, seen⟩ := (Option.any_eq_true _ _).mp seen
          obtain ⟨session, there, seen⟩ := (Option.any_eq_true _ _).mp seen
          rw [Bool.and_eq_true, Bool.and_eq_true, decide_eq_true_iff,
            Option.isNone_iff_eq_none] at seen
          obtain ⟨⟨idle, copied⟩, missing⟩ := seen
          exact ⟨opened, handle, valid, ⟨connection, made, connected⟩, here,
            ⟨session, there, copied⟩, idle.neverMatches there missing⟩
      · cases seen

/-- By default the news comes within ten seconds, after four attempts if nothing
but zeros is drawn. -/
theorem missing_row_is_reported_by_default :
    ∃ opened handle, QuietWait .standard opened handle ∧
      (∀ draws, opened.MissesWithin handle.session handle.rowRetry draws
        "NB_Global" "nb_cfg" (.integer 1) 10000) ∧
      ∃ answer, opened.awaitRow? handle.session handle.rowRetry "NB_Global"
        "nb_cfg" (.integer 1) 4 = some answer := by
  obtain ⟨opened, handle, wait⟩ :=
    @exists_quietWait .standard (by decide +kernel) (by decide +kernel)
  obtain ⟨valid, ⟨connection, made, connected⟩, here, mirrors, never⟩ := wait
  have steady : RetryPolicy.Steady OvnSettings.standard.rowRetry :=
    ⟨by decide, by decide +kernel, by decide +kernel⟩
  have overrun : OvnSettings.standard.rowRetry.Overruns .zero 3 :=
    ⟨_, rfl, by decide +kernel⟩
  have reported := missing_row_is_reported_within_budget valid (.inl made)
    connected here mirrors (leads_of_servers_eq rfl) never
  obtain ⟨policy, reports⟩ := reported .zero
  refine ⟨opened, handle,
    ⟨valid, ⟨connection, made, connected⟩, here, mirrors, never⟩, ?_, ?_⟩
  · intro draws
    rw [policy]
    exact (reported draws).2.inTime 10000 rfl steady
  · rw [policy]
    exact (reports.misses.ends 4).mpr ⟨3, by decide, overrun⟩

/-- Settings that are valid although a wait for a row does not end. -/
def WaitsForEver (settings : OvnSettings) (draws : Draws) : Prop :=
  ∃ opened handle, QuietWait settings opened handle ∧
    ∀ fuel, opened.awaitRow? handle.session handle.rowRetry "NB_Global"
      "nb_cfg" (.integer 1) fuel draws = none

theorem waitsForEver_of_not_overruns (valid : settings.validate = .ok ())
    (seen : staysQuiet settings = true)
    (fits : ∀ waits, ¬settings.rowRetry.Overruns draws waits) :
    WaitsForEver settings draws := by
  obtain ⟨opened, handle, wait⟩ := exists_quietWait valid seen
  refine ⟨opened, handle, wait, fun fuel => ?_⟩
  obtain ⟨_, ⟨connection, made, connected⟩, here, mirrors, never⟩ := wait
  rw [rowRetry_connect? connected here, OvnSettings.rowRetry_connection made,
    Option.eq_none_iff_forall_ne_some]
  intro answer answered
  obtain ⟨waits, _, overrun⟩ :=
    (exists_awaitRow?_iff mirrors never settings.rowRetry draws fuel).mp
      ⟨answer, answered⟩
  exact fits waits overrun

/-- Validation lets pass policies without a budget, with a randomization that
takes all of a millisecond away, and with a multiplier that is not a number. -/
theorem valid_settings_may_wait_for_ever :
    (∀ draws, WaitsForEver { OvnSettings.standard with
      rowRetry := ⟨1000, 10000, 2.0, 0.0, none⟩ } draws) ∧
    WaitsForEver { OvnSettings.standard with
      rowRetry := ⟨1, 1, 1.0, 0.9999999, some 10000⟩ } .zero ∧
    WaitsForEver { OvnSettings.standard with
      rowRetry := ⟨1, 10, 0.0 / 0.0, 0.0, some 10000⟩ } .zero := by
  refine ⟨fun draws => ?_, ?_, ?_⟩
  · apply waitsForEver_of_not_overruns (by decide +kernel) (by decide +kernel)
    exact RetryPolicy.not_overruns_of_unlimited rfl
  · apply waitsForEver_of_not_overruns (by decide +kernel) (by decide +kernel)
    exact RetryPolicy.not_overruns_of_vanishing rfl (by decide +kernel)
      (fun _ => rfl) (by decide +kernel) (by decide +kernel)
  · apply waitsForEver_of_not_overruns (by decide +kernel) (by decide +kernel)
    exact RetryPolicy.not_overruns_of_vanishing rfl (by decide +kernel)
      (fun _ => rfl) (by decide +kernel) (by decide +kernel)

end Connections

end Network

end OvsdbClient
