import OvsdbClient.Network.Connector
import OvsdbClient.Proofs.PassingTime
import OvsdbClient.Proofs.Retrying
import OvsdbClient.Proofs.Selections

/-!
# Which remote a connection is brought up with

Remotes are asked in order, and the first that can be reached decides: either it
serves the schema or there is none of that name.  If no remote can be reached,
that is reported, and after a wait, in which anything on the agenda may happen,
they are asked again.
-/

namespace OvsdbClient

namespace Notice

def isRetry : Notice → Bool
  | .fetchFailed .. => true
  | _ => false

end Notice

namespace Session

variable {session : Session} {database : Database} {delay : Span} {now : Nat}

theorem isRetry_of_step? {next : Session} {notices : List Notice}
    (stepped : session.step? database delay now = some (next, notices)) :
    notices.filter Notice.isRetry = [] := by
  unfold step? proceed? at stepped
  split at stepped
  case isFalse => cases stepped
  case isTrue =>
    split at stepped
    · split at stepped
      · cases stepped
        rfl
      · cases stepped
    · split at stepped
      · cases stepped
        rfl
      · split at stepped
        · cases stepped
          rfl
        · cases stepped

theorem isRetry_steps (fuel : Nat) (session : Session) :
    (steps database delay now fuel session).2.filter Notice.isRetry = [] := by
  induction fuel generalizing session with
  | zero => rfl
  | succ fuel induction =>
      simp only [steps]
      split
      case h_1 next notices stepped =>
        rw [List.filter_append, isRetry_of_step? stepped, induction next]
        rfl
      case h_2 => rfl

end Session

namespace ConnectionSettings

def retryNotice (settings : ConnectionSettings) (draws : Draws) (number : Nat)
    (fault : Fault) : Notice :=
  .fetchFailed (number + 1) settings.schema fault
    (settings.bootstrapRetry.wait draws number)

/-- The notices of attempts that failed, numbered from one. -/
def retryNotices (settings : ConnectionSettings) (draws : Draws)
    (faults : List Fault) : List Notice :=
  faults.mapIdx (settings.retryNotice draws)

/-- Some remote needs TLS files, and they are not all named. -/
def LacksTls (settings : ConnectionSettings) : Prop :=
  (∃ endpoint ∈ settings.remotes, endpoint.isSsl = true) ∧
    ∀ files, settings.tls = some files →
      ∃ field ∈ files.named, Text.allBlank field.2 = true

theorem lacksTls_of_checkTls {settings : ConnectionSettings} {fault : Fault}
    (refused : settings.checkTls = .error fault) :
    settings.LacksTls ∧ ∃ reason, fault = .configuration reason := by
  unfold checkTls at refused
  split at refused
  case isFalse => cases refused
  case isTrue secured =>
    have remote := List.any_eq_true.mp secured
    split at refused
    case h_2 none =>
      cases refused
      refine ⟨⟨remote, fun files given => ?_⟩, _, rfl⟩
      rw [none] at given
      cases given
    case h_1 files given =>
      unfold TlsFiles.validate at refused
      split at refused
      case h_2 => cases refused
      case h_1 field path blank =>
        cases refused
        refine ⟨⟨remote, fun others same => ?_⟩, _, rfl⟩
        cases given.symm.trans same
        have empty : Text.allBlank path = true := by
          simpa using List.find?_some blank
        exact ⟨_, List.mem_of_find?_eq_some blank, empty⟩

end ConnectionSettings

namespace Selection

theorem isRetry_registerAll (selection : Selection) (tables : List String) :
    (selection.registerAll tables).2.filter Notice.isRetry = [] := by
  induction tables generalizing selection with
  | nil => rfl
  | cons table tables induction =>
      simp only [registerAll]
      split
      case h_1 next registered => exact induction next
      case h_2 notice refused =>
        unfold register at refused
        split at refused
        · cases refused
        · cases refused
          exact induction selection

end Selection

theorem Server.isRetry_settle (server : Server) (now : Nat) :
    (server.settle now).2.filter Notice.isRetry = [] := by
  simp only [settle, List.filter_flatMap, List.flatMap_eq_nil_iff]
  intro settled member
  obtain ⟨session, _, rfl⟩ := List.mem_map.mp member
  exact Session.isRetry_steps _ session

namespace Action

/-- What an action changes about the addresses of servers. -/
def change? : Action → Option (String × Option Nat)
  | .addServer endpoint server => some (endpoint.text, some server)
  | .removeServer endpoint => some (endpoint.text, none)
  | _ => none

theorem exists_added_of_change? {action : Action} {text : String}
    {number : Nat} (change : action.change? = some (text, some number)) :
    ∃ endpoint, action = .addServer endpoint number := by
  cases action with
  | addServer endpoint server =>
      cases change
      exact ⟨endpoint, rfl⟩
  | _ => cases change

end Action

namespace Network

variable {network after later : Network} {schema : String}
  {endpoint : Endpoint} {remotes : List Endpoint}
  {settings : ConnectionSettings}

/-! ## What letting time pass keeps -/

theorem happen_keeps {invariant : Network → Prop}
    (settles : ∀ network, invariant network → invariant network.settle)
    (moves : ∀ network time, invariant network →
      invariant (network.moveTo time))
    (ages : ∀ network clock, invariant network →
      invariant { network with clock })
    (done : Network → Bool) (deadline fuel : Nat)
    (holds : invariant network) :
    invariant (happen done deadline fuel network) := by
  induction fuel generalizing network with
  | zero => exact holds
  | succ fuel induction =>
      have settled := settles network holds
      simp only [happen]
      split
      · exact settled
      · split
        · split
          · exact induction (moves _ _ settled)
          · exact ages _ _ settled
        · exact ages _ _ settled

/-- Every address, and every address to come, is one of a server. -/
structure Grounded (network : Network) : Prop where
  addresses : ∀ text number, network.addresses.get? text = some number →
    number < network.servers.length
  agenda : ∀ plan ∈ network.agenda, ∀ endpoint number,
    plan.action = .addServer endpoint number →
      number < network.servers.length

theorem Grounded.congr (grounded : network.Grounded)
    (addresses : later.addresses = network.addresses)
    (agenda : later.agenda = network.agenda)
    (servers : later.servers.length = network.servers.length) :
    later.Grounded where
  addresses := by
    rw [addresses, servers]
    exact grounded.addresses
  agenda := by
    rw [agenda, servers]
    exact grounded.agenda

theorem addresses_withServer {α : Type} (network : Network) (number : Nat)
    (missing : α) (change : Server → α × Server) :
    (network.withServer number missing change).2.addresses =
      network.addresses := by
  unfold withServer
  cases network.server? number <;> rfl

theorem notices_withServer {α : Type} (network : Network) (number : Nat)
    (missing : α) (change : Server → α × Server) :
    (network.withServer number missing change).2.notices =
      network.notices := by
  unfold withServer
  cases network.server? number <;> rfl

theorem length_servers_withServer {α : Type} (network : Network)
    (number : Nat) (missing : α) (change : Server → α × Server) :
    (network.withServer number missing change).2.servers.length =
      network.servers.length := by
  unfold withServer
  cases network.server? number with
  | none => rfl
  | some server => exact List.length_set ..

theorem notices_perform (network : Network) (action : Action) :
    (network.perform action).2.notices = network.notices := by
  cases action with
  | insertRow server table columns => exact notices_withServer network.draw ..
  | commit server operations => exact notices_withServer network ..
  | setLock handle name =>
      simp only [perform]
      split <;> rfl
  | stop handle =>
      simp only [perform, stopHandle, stopSession]
      split
      · split
        · rfl
        · split
          · split <;> rfl
          · rfl
      · rfl
  | _ => rfl

theorem addresses_stopSession (network : Network) (id : SessionId)
    (timeout : Span) :
    (network.stopSession id timeout).2.addresses = network.addresses := by
  unfold stopSession
  split
  · split <;> rfl
  · rfl

theorem addresses_stopHandle (network : Network) (handle : Nat) :
    (network.stopHandle handle).2.addresses = network.addresses := by
  unfold stopHandle
  split
  · split
    · rfl
    · exact addresses_stopSession { network with handles := _ } _ _
  · rfl

/-- Actions add and remove servers as they say and not otherwise. -/
theorem addresses_perform_eq (network : Network) (action : Action) :
    (network.perform action).2.addresses =
      action.change?.elim network.addresses fun change =>
        network.addresses.put change.1 change.2 := by
  cases action with
  | insertRow server table columns => exact addresses_withServer network.draw ..
  | commit server operations => exact addresses_withServer network ..
  | setLock handle name =>
      simp only [perform]
      split <;> rfl
  | stop handle => exact network.addresses_stopHandle handle
  | _ => rfl

/-- Actions make no address but that of a server that is to be added. -/
theorem addresses_perform (network : Network) (action : Action)
    {text : String} {number : Nat}
    (here : (network.perform action).2.addresses.get? text = some number) :
    network.addresses.get? text = some number ∨
      ∃ endpoint, action = .addServer endpoint number := by
  rw [addresses_perform_eq] at here
  cases changes : action.change? with
  | none =>
      rw [changes] at here
      exact .inl here
  | some change =>
      rw [changes, Option.elim_some, SortedMap.get?_put] at here
      split at here
      case isTrue =>
        obtain ⟨changed, new⟩ := change
        cases here
        exact .inr (Action.exists_added_of_change? changes)
      case isFalse => exact .inl here

theorem Grounded.moveTo (grounded : network.Grounded) (time : Nat) :
    (network.moveTo time).Grounded := by
  unfold Network.moveTo
  dsimp only
  split
  case h_2 => exact grounded.congr rfl rfl rfl
  case h_1 plan agenda listed =>
    split
    case isFalse => exact grounded.congr rfl rfl rfl
    case isTrue =>
      let begun : Network := { network with clock := time, agenda }
      have same : (begun.perform plan.action).2.servers.length =
          network.servers.length :=
        (begun.grows_perform plan.action).length_eq.symm
      constructor
      · intro text number here
        change number < (begun.perform plan.action).2.servers.length
        rw [same]
        rcases begun.addresses_perform plan.action here with old |
          ⟨endpoint, added⟩
        · exact grounded.addresses text number old
        · exact grounded.agenda plan (listed ▸ List.mem_cons_self) endpoint
            number added
      · intro other member endpoint number added
        change number < (begun.perform plan.action).2.servers.length
        rw [same]
        refine grounded.agenda other ?_ endpoint number added
        change other ∈ (begun.perform plan.action).2.agenda at member
        rw [agenda_perform] at member
        exact listed ▸ List.mem_cons_of_mem _ member

theorem Grounded.advance (grounded : network.Grounded) (span : Span) :
    (network.advance span).Grounded := by
  apply happen_keeps
  · intro network grounded
    refine grounded.congr rfl rfl ?_
    simp only [settle, note, List.length_map]
  · exact fun network time grounded => grounded.moveTo time
  · exact fun network clock grounded => grounded.congr rfl rfl rfl
  · exact grounded

theorem retries_advance (network : Network) (span : Span) :
    (network.advance span).notices.filter Notice.isRetry =
      network.notices.filter Notice.isRetry := by
  let same (other : Network) : Prop :=
    other.notices.filter Notice.isRetry =
      network.notices.filter Notice.isRetry
  apply @happen_keeps network same
  · intro other holds
    have quiet : ((other.servers.map fun server =>
        server.settle other.clock).flatMap Prod.snd).filter Notice.isRetry =
          [] := by
      rw [List.filter_flatMap, List.flatMap_eq_nil_iff]
      intro settled member
      obtain ⟨server, _, rfl⟩ := List.mem_map.mp member
      exact server.isRetry_settle other.clock
    simp only [same, settle, note, List.filter_append, List.filter_reverse,
      quiet]
    exact holds
  · intro other time holds
    change (other.moveTo time).notices.filter _ = _
    unfold moveTo
    dsimp only
    split
    · split
      · rw [notices_perform]
        exact holds
      · exact holds
    · exact holds
  · exact fun other clock holds => holds
  · rfl

/-! ## Asking the remotes once -/

/-- A server answers at an endpoint, and is not about to reset connections. -/
def Serves (network : Network) (endpoint : Endpoint) (server : Server) : Prop :=
  ∃ number, network.serverAt? endpoint = some number ∧
    network.server? number = some server ∧ server.outages = 0

def Reachable (network : Network) (endpoint : Endpoint) : Prop :=
  ∃ server, network.Serves endpoint server

/-- Remotes are asked for a schema in turn, and none can be reached when it is
its turn. -/
inductive Passes (schema : String) :
    Network → List Endpoint → Network → Prop where
  | nil (network : Network) : Passes schema network [] network
  | cons {network after : Network} {endpoint : Endpoint}
      {remotes : List Endpoint} :
      ¬network.Reachable endpoint →
      Passes schema (network.fetchSchema endpoint schema).2 remotes after →
      Passes schema network (endpoint :: remotes) after

/-- A server is at the first remote that can be reached when it is its turn. -/
def Chooses (network : Network) (settings : ConnectionSettings)
    (endpoint : Endpoint) (server : Server) : Prop :=
  ∃ before others passed, settings.remotes = before ++ endpoint :: others ∧
    network.Passes settings.schema before passed ∧
    passed.Serves endpoint server

theorem Grounded.fetchSchema (grounded : network.Grounded)
    (endpoint : Endpoint) (schema : String) :
    (network.fetchSchema endpoint schema).2.Grounded := by
  unfold Network.fetchSchema
  split
  · exact grounded
  · refine grounded.congr (addresses_withServer ..) (agenda_withServer ..) ?_
    exact length_servers_withServer ..

theorem notices_fetchSchema (network : Network) (endpoint : Endpoint)
    (schema : String) :
    (network.fetchSchema endpoint schema).2.notices = network.notices := by
  unfold Network.fetchSchema
  split
  · rfl
  · exact notices_withServer ..

theorem fetchSchema_of_serves {server : Server}
    (serves : network.Serves endpoint server) (schema : String) :
    (network.fetchSchema endpoint schema).1 =
      if server.schema.name = schema then .ok (.ofSchema server.schema)
      else .error (.schemaNotFound schema) := by
  obtain ⟨number, located, here, ready⟩ := serves
  have reached : network.reach endpoint schema = .ok number := by
    simp only [reach, located, orFault]
  simp only [Network.fetchSchema, reached, withServer, here,
    Server.fetchSchema, ready]
  by_cases same : server.schema.name = schema <;> simp [same]

theorem Grounded.fetchSchema_of_not_reachable (grounded : network.Grounded)
    (away : ¬network.Reachable endpoint) (schema : String) :
    ∃ reason, (network.fetchSchema endpoint schema).1 =
      .error (.connectionUnavailable schema reason) := by
  unfold Network.fetchSchema reach
  cases located : network.serverAt? endpoint with
  | none => exact ⟨_, rfl⟩
  | some number =>
      have low := grounded.addresses _ number located
      have here : network.server? number = some network.servers[number] :=
        List.getElem?_eq_getElem low
      have resets : network.servers[number].outages ≠ 0 := by
        intro ready
        exact away ⟨_, number, located, here, ready⟩
      simp only [orFault, withServer, here, Server.fetchSchema, if_pos resets]
      exact ⟨_, rfl⟩

theorem Passes.grounded (passes : network.Passes schema remotes after)
    (grounded : network.Grounded) : after.Grounded := by
  induction passes with
  | nil => exact grounded
  | cons _ _ induction => exact induction (grounded.fetchSchema _ _)

theorem Passes.notices (passes : network.Passes schema remotes after) :
    after.notices = network.notices := by
  induction passes with
  | nil => rfl
  | cons _ _ induction => exact induction.trans (notices_fetchSchema ..)

theorem askRemotes_cons (network : Network) (schema : String)
    (last : Option Fault) (endpoint : Endpoint) (remotes : List Endpoint) :
    network.askRemotes schema last (endpoint :: remotes) =
      match (network.fetchSchema endpoint schema).1 with
      | .ok selection =>
          (.ok (endpoint, selection), (network.fetchSchema endpoint schema).2)
      | .error fault =>
          if fault.isConnectivity then
            (network.fetchSchema endpoint schema).2.askRemotes schema
              (some fault) remotes
          else
            (.error fault, (network.fetchSchema endpoint schema).2) := by
  rw [askRemotes]
  cases network.fetchSchema endpoint schema with
  | mk result after => cases result <;> rfl

/-- Asking remotes ends at the first that can be reached, or with the last fault
if there is none. -/
theorem Grounded.askRemotes (grounded : network.Grounded) (schema : String)
    (last : Option Fault) (remotes : List Endpoint) :
    (∃ after, network.Passes schema remotes after ∧
      ∃ fault, network.askRemotes schema last remotes = (.error fault, after) ∧
        (remotes = [] ∧ fault = last.getD
            (.configuration ("no remotes configured for " ++ schema)) ∨
          ∃ reason, fault = .connectionUnavailable schema reason)) ∨
      ∃ before endpoint others passed server,
        remotes = before ++ endpoint :: others ∧
          network.Passes schema before passed ∧
          passed.Serves endpoint server ∧
          network.askRemotes schema last remotes =
            (if server.schema.name = schema then
                .ok (endpoint, .ofSchema server.schema)
              else .error (.schemaNotFound schema),
              (passed.fetchSchema endpoint schema).2) := by
  induction remotes generalizing network last with
  | nil => exact .inl ⟨network, .nil network, _, rfl, .inl ⟨rfl, rfl⟩⟩
  | cons endpoint remotes induction =>
      by_cases reached : network.Reachable endpoint
      · obtain ⟨server, serves⟩ := reached
        refine .inr ⟨[], endpoint, remotes, network, server, rfl, .nil network,
          serves, ?_⟩
        rw [askRemotes_cons, fetchSchema_of_serves serves]
        by_cases same : server.schema.name = schema
        · simp only [if_pos same]
        · simp only [if_neg same]
          rfl
      · obtain ⟨reason, answer⟩ :=
          grounded.fetchSchema_of_not_reachable reached schema
        rw [askRemotes_cons, answer]
        simp only [Fault.isConnectivity, if_true]
        rcases induction (grounded.fetchSchema endpoint schema) (some
            (.connectionUnavailable schema reason)) with
          ⟨after, passes, fault, answer, kind⟩ |
          ⟨before, chosen, others, passed, server, rfl, passes, serves,
            answer⟩
        · refine .inl ⟨after, .cons reached passes, fault, answer, .inr ?_⟩
          rcases kind with ⟨_, rfl⟩ | unavailable
          · exact ⟨reason, rfl⟩
          · exact unavailable
        · exact .inr ⟨endpoint :: before, chosen, others, passed, server, rfl,
            .cons reached passes, serves, answer⟩

/-! ## Asking again and again -/

/-- Attempts in a row at which no remote can be reached.  Each is reported and
followed by a wait, in which whatever is planned happens. -/
inductive Fails (settings : ConnectionSettings) (draws : Draws) :
    Network → List Fault → Network → Prop where
  | nil (network : Network) : Fails settings draws network [] network
  | wait {network before after : Network} {faults : List Fault}
      {fault : Fault} :
      Fails settings draws network faults before →
      before.Passes settings.schema settings.remotes after →
      before.askRemotes settings.schema none settings.remotes =
        (.error fault, after) →
      fault.isConnectivity = true →
      Fails settings draws network (faults ++ [fault])
        ((after.note [settings.retryNotice draws faults.length fault]).advance
          (settings.bootstrapRetry.wait draws faults.length))

variable {draws : Draws}

theorem Fails.grounded {faults : List Fault}
    (fails : network.Fails settings draws faults later)
    (grounded : network.Grounded) : later.Grounded := by
  induction fails with
  | nil => exact grounded
  | wait _ passes _ _ induction =>
      refine Grounded.advance ?_ _
      exact (passes.grounded induction).congr rfl rfl rfl

theorem Fails.retries {faults : List Fault}
    (fails : network.Fails settings draws faults later) :
    later.notices.filter Notice.isRetry =
      (settings.retryNotices draws faults).reverse ++
        network.notices.filter Notice.isRetry := by
  induction fails with
  | nil => rfl
  | wait _ passes _ _ induction =>
      rw [retries_advance, ConnectionSettings.retryNotices, List.mapIdx_concat,
        List.reverse_append]
      simp only [note, List.filter_append, passes.notices, induction]
      rfl

/-- Every round comes after as many attempts that failed. -/
theorem exists_fails_of_round? (grounded : network.Grounded) {number : Nat}
    {last : Retriable.Round Fetching}
    (here : (fetching settings).round? Fault.isConnectivity
      ((fetching settings).opening settings.bootstrapRetry draws ⟨network, 0⟩)
        number = some last) :
    ∃ faults, faults.length = number ∧ last.state.attempts = number ∧
      network.Fails settings draws faults last.state.network := by
  induction number generalizing last with
  | zero =>
      cases here
      exact ⟨[], rfl, rfl, .nil network⟩
  | succ number induction =>
      obtain ⟨round, there, following⟩ := Option.bind_eq_some_iff.mp here
      obtain ⟨faults, length, attempts, fails⟩ := induction there
      obtain ⟨fault, after, failed, retried, _, rfl⟩ :=
        Retriable.next?_eq_some_iff.mp following
      have wait := Retriable.backoff_round? there
      rcases (fails.grounded grounded).askRemotes settings.schema none
          settings.remotes with
        ⟨asked, passes, other, answer, _⟩ |
        ⟨_, _, _, _, server, _, _, _, answer⟩
      · simp only [fetching, answer] at failed
        cases failed
        refine ⟨faults ++ [fault], ?_, ?_, ?_⟩
        · rw [List.length_append, length]
          rfl
        · exact congrArg (· + 1) attempts
        · rw [wait, RetryPolicy.wait_backoff, ← length]
          have noticed : settings.retryNotice draws faults.length fault =
              .fetchFailed (round.state.attempts + 1) settings.schema fault
                (settings.bootstrapRetry.wait draws faults.length) := by
            rw [attempts, ← length]
            rfl
          simp only [fetching, ← noticed]
          exact .wait fails passes answer retried
      · simp only [fetching, answer] at failed
        by_cases same : server.schema.name = settings.schema
        · rw [if_pos same] at failed
          cases failed
        · rw [if_neg same] at failed
          cases failed
          cases retried

/-- Without a budget attempts end only with an answer or a fault that is not
about reaching servers. -/
theorem exists_fails_of_run? {fuel : Nat} {state : Fetching}
    {answer : Except Fault (Endpoint × Selection)}
    (endless : settings.bootstrapRetry.maxElapsedMillis = none)
    (grounded : network.Grounded)
    (answered : (fetching settings).run? settings.bootstrapRetry
      Fault.isConnectivity fuel ⟨network, 0⟩ draws = some (answer, state)) :
    ∃ faults current, network.Fails settings draws faults current ∧
      (state.network.notices.filter Notice.isRetry =
        (settings.retryNotices draws faults).reverse ++
          network.notices.filter Notice.isRetry) ∧
      ((settings.remotes = [] ∧ ∃ reason,
          answer = .error (.configuration reason)) ∨
        ∃ endpoint server, current.Chooses settings endpoint server ∧
          answer = if server.schema.name = settings.schema then
              .ok (endpoint, .ofSchema server.schema)
            else .error (.schemaNotFound settings.schema)) := by
  obtain ⟨number, _, last, here, ends, attempt⟩ :=
    Retriable.run?_eq_some_iff.mp answered
  obtain ⟨faults, _, _, fails⟩ := exists_fails_of_round? grounded here
  refine ⟨faults, last.state.network, fails, ?_⟩
  rcases (fails.grounded grounded).askRemotes settings.schema none
      settings.remotes with
    ⟨asked, passes, fault, asks, kind⟩ |
    ⟨before, endpoint, others, passed, server, split, passes, serves, asks⟩
  · simp only [fetching, asks] at attempt
    cases attempt
    refine ⟨?_, .inl ?_⟩
    · rw [passes.notices]
      exact fails.retries
    rcases kind with ⟨none, rfl⟩ | ⟨reason, rfl⟩
    · exact ⟨none, _, rfl⟩
    · -- A fault about reaching servers would have led to a further round.
      have failed : (fetching settings).attempt last.state =
          (.error (.connectionUnavailable settings.schema reason),
            ⟨asked, last.state.attempts + 1⟩) := by
        simp only [fetching, asks]
      have left : ¬last.backoff.Spent asked.clock := by
        rw [Retriable.backoff_round? here]
        exact Backoff.not_spent_of_unlimited endless _
      have retried : Fault.isConnectivity
          (.connectionUnavailable settings.schema reason) = true := rfl
      have further := Retriable.next?_eq_some_iff.mpr
        ⟨_, _, failed, retried, left, rfl⟩
      cases ends.symm.trans further
  · simp only [fetching, asks] at attempt
    cases attempt
    refine ⟨?_, .inr ⟨endpoint, server, ?_, rfl⟩⟩
    · rw [notices_fetchSchema, passes.notices]
      exact fails.retries
    · exact ⟨before, others, passed, split, passes, serves⟩

/-- Without a budget, bringing a connection up ends at the first remote that can
be reached, in the first attempt in which there is one, and every attempt before
it is reported by a notice with its number.  If that remote does not serve the
schema, there is no other fault than that, except for settings that cannot be
used. -/
theorem bootstrap_takes_first_reachable_remote
    (endless : settings.bootstrapRetry.maxElapsedMillis = none)
    (grounded : network.Grounded) {fuel : Nat} {answer : Except Fault Nat}
    (answered : network.bootstrap? settings fuel draws = some (answer, later)) :
    match answer with
    | .ok number =>
        ∃ faults current endpoint server connector,
          network.Fails settings draws faults current ∧
            current.Chooses settings endpoint server ∧
            server.schema.name = settings.schema ∧
            later.connectors[number]? = some connector ∧
            connector.settings = settings ∧ connector.endpoint = endpoint ∧
            connector.selection.schema = server.schema ∧
            later.notices.filter Notice.isRetry =
              (settings.retryNotices draws faults).reverse ++
                network.notices.filter Notice.isRetry
    | .error fault =>
        fault.isConnectivity = false ∧
          ((settings.remotes = [] ∨ settings.LacksTls) ∧
              (∃ reason, fault = .configuration reason) ∨
            fault = .schemaNotFound settings.schema ∧
              ∃ faults current endpoint server,
                network.Fails settings draws faults current ∧
                  current.Chooses settings endpoint server ∧
                  server.schema.name ≠ settings.schema ∧
                  later.notices.filter Notice.isRetry =
                    (settings.retryNotices draws faults).reverse ++
                      network.notices.filter Notice.isRetry) := by
  unfold bootstrap? at answered
  split at answered
  case h_1 fault refused =>
    cases answered
    obtain ⟨lacks, reason, rfl⟩ :=
      ConnectionSettings.lacksTls_of_checkTls refused
    exact ⟨rfl, .inl ⟨.inr lacks, reason, rfl⟩⟩
  case h_2 =>
    dsimp only at answered
    split at answered
    case h_1 => cases answered
    case h_2 fault state ran =>
      cases answered
      obtain ⟨faults, current, fails, retries, ends⟩ :=
        exists_fails_of_run? endless grounded ran
      rcases ends with ⟨none, reason, same⟩ | ⟨endpoint, server, first, same⟩
      · cases same
        exact ⟨rfl, .inl ⟨.inl none, reason, rfl⟩⟩
      · by_cases served : server.schema.name = settings.schema
        · rw [if_pos served] at same
          cases same
        · rw [if_neg served] at same
          cases same
          exact ⟨rfl, .inr ⟨rfl, faults, current, endpoint, server, fails,
            first, served, retries⟩⟩
    case h_3 endpoint selection state ran =>
      cases answered
      obtain ⟨faults, current, fails, retries, ends⟩ :=
        exists_fails_of_run? endless grounded ran
      rcases ends with ⟨_, _, same⟩ | ⟨chosen, server, first, same⟩
      · cases same
      · by_cases served : server.schema.name = settings.schema
        · rw [if_pos served] at same
          cases same
          refine ⟨faults, current, endpoint, server, _, fails, first, served,
            List.getElem?_concat_length, rfl, rfl, ?_, ?_⟩
          · exact Selection.schema_registerAll ..
          · simp only [note, List.filter_append, List.filter_reverse,
              Selection.isRetry_registerAll]
            exact retries
        · rw [if_neg served] at same
          cases same

/-- Two remotes, of which the second resets the first connection, and a server
that is started at the first one half a second later. -/
def lateServer : Network :=
  let network : Network := { empty with
    servers := [{ Server.ofSchema .small with outages := 1 },
      .ofSchema .small] }
  (network.addServer (.tcp "127.0.0.1" 6642) 0).schedule (.ofMillis 500)
    (.addServer (.tcp "127.0.0.1" 6641) 1) []

theorem late_server_is_taken :
    let settings := ConnectionSettings.plain
      [.tcp "127.0.0.1" 6641, .tcp "127.0.0.1" 6642] "OVN_Northbound"
      ["NB_Global"]
    let reset := Fault.connectionUnavailable "OVN_Northbound"
      "tcp:127.0.0.1:6642: connection reset by peer"
    lateServer.Grounded ∧ ∃ later,
      lateServer.bootstrap? settings 2 = some (.ok 0, later) ∧
        later.notices.filter Notice.isRetry =
          [.fetchFailed 1 "OVN_Northbound" reset (.ofSecs 1)] ∧
        ∃ current server, lateServer.Fails settings .zero [reset] current ∧
          current.Chooses settings (.tcp "127.0.0.1" 6641) server := by
  intro settings reset
  have grounded : lateServer.Grounded := by
    constructor
    · intro text number here
      change (SortedMap.insert .empty _ 0).get? text = some number at here
      rw [SortedMap.get?_insert] at here
      split at here
      · cases here
        decide
      · cases here
    · intro plan member endpoint number adds
      have planned : lateServer.agenda =
          [⟨500, .addServer (.tcp "127.0.0.1" 6641) 1, []⟩] := rfl
      rw [planned, List.mem_singleton] at member
      subst member
      cases adds
      decide
  have ran : (lateServer.bootstrap? settings 2).map (fun answer =>
      (answer.1.toOption, answer.2.connectors.map (·.endpoint),
        answer.2.notices.filter Notice.isRetry)) =
      some (some 0, [.tcp "127.0.0.1" 6641],
        [.fetchFailed 1 "OVN_Northbound" reset (.ofSecs 1)]) := by
    decide +kernel
  obtain ⟨⟨answer, later⟩, answered, shown⟩ := Option.map_eq_some_iff.mp ran
  simp only [Prod.mk.injEq] at shown
  obtain ⟨number, endpoints, notices⟩ := shown
  cases answer with
  | error fault => cases number
  | ok started =>
      cases number
      obtain ⟨faults, current, _, server, connector, fails, first, _, there,
        _, rfl, _, retries⟩ :=
        bootstrap_takes_first_reachable_remote rfl grounded answered
      have chosen : connector.endpoint = .tcp "127.0.0.1" 6641 := by
        have only := congrArg (·[0]?) endpoints
        simpa [there] using only
      have one : faults = [reset] := by
        have quiet : lateServer.notices.filter Notice.isRetry = [] := rfl
        have length := congrArg List.length (notices.symm.trans retries)
        rw [quiet, ConnectionSettings.retryNotices, List.append_nil,
          List.length_reverse, List.length_mapIdx] at length
        obtain ⟨fault, rfl⟩ := List.length_eq_one_iff.mp length.symm
        have same := List.cons.inj (notices.symm.trans retries)
        exact congrArg ([·]) (Notice.fetchFailed.inj same.1).2.2.1.symm
      exact ⟨grounded, later, answered, notices, current, server, one ▸ fails,
        chosen ▸ first⟩

end Network

end OvsdbClient
