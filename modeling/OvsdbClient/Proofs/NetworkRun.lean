import OvsdbClient.Network.Submission
import OvsdbClient.Proofs.Traffic

/-!
# Servers on a network

Whatever happens on a network, to each of its servers it is a list of events.
Submitting a transaction there is one way for a submission to go, with the
server's events in between.
-/

namespace OvsdbClient

namespace Server

variable {server : Server}

private theorem modify_length_append (first rest : List Session)
    (session : Session) (change : Session → Session) :
    (first ++ session :: rest).modify first.length change =
      first ++ change session :: rest := by
  induction first with
  | nil => rfl
  | cons head first induction =>
      exact congrArg (head :: ·) induction

private theorem work_eq_of_step {server : Server} {now : Nat}
    {first rest : List Session} {session next : Session}
    {notices : List Notice}
    (stepped : session.step? server.database server.delay now =
      some (next, notices)) :
    { server with sessions := first ++ session :: rest }.work first.length now =
      { server with sessions := first ++ next :: rest } := by
  have proceeds : session.proceed? server.database server.delay now =
      some (next, notices) := by
    unfold Session.step? at stepped
    split at stepped
    · exact stepped
    · cases stepped
  have here : { server with sessions := first ++ session :: rest }.session?
      first.length = some session := by
    simp [session?]
  simp only [work, here, Option.bind_some, proceeds, modifySession,
    modify_length_append]

/-- What a session does without waiting is work of the server. -/
private theorem run_steps (server : Server) (now : Nat)
    (first rest : List Session) (fuel : Nat) (session : Session) :
    ∃ events,
      { server with sessions := first ++ session :: rest }.run events =
        { server with sessions := first ++
          (session.steps server.database server.delay now fuel).1 ::
            rest } := by
  induction fuel generalizing session with
  | zero => exact ⟨[], rfl⟩
  | succ fuel induction =>
      simp only [Session.steps]
      split
      case h_1 next notices stepped =>
        obtain ⟨events, ran⟩ := induction next
        refine ⟨.work first.length now :: events, ?_⟩
        exact (congrArg (run · events) (work_eq_of_step stepped)).trans ran
      case h_2 => exact ⟨[], rfl⟩

private theorem run_settled (server : Server) (now : Nat)
    (first rest : List Session) :
    ∃ events,
      { server with sessions := first ++ rest }.run events =
        { server with sessions := first ++ rest.map fun session =>
          (session.settle server.database server.delay now).1 } := by
  induction rest generalizing first with
  | nil => exact ⟨[], rfl⟩
  | cons session rest induction =>
      obtain ⟨events, ran⟩ := run_steps server now first rest
        (session.workload server.database) session
      obtain ⟨others, rests⟩ := induction (first ++
        [(session.settle server.database server.delay now).1])
      refine ⟨events ++ others, ?_⟩
      simp only [List.append_assoc, List.singleton_append] at rests
      rw [run_append, ran]
      exact rests

theorem settle_eq_run (server : Server) (now : Nat) :
    ∃ events, (server.settle now).1 = server.run events := by
  obtain ⟨events, ran⟩ := run_settled server now [] server.sessions
  refine ⟨events, Eq.trans ?_ ran.symm⟩
  simp only [settle, List.map_map, List.nil_append]
  rfl

end Server

namespace Network

variable {network later last : Network}

/-- Every server of a network becomes by events what it is later on. -/
def Leads (network later : Network) : Prop :=
  ∀ number, ∃ events,
    later.server? number = (network.server? number).map (·.run events)

theorem leads_of_servers_eq (same : later.servers = network.servers) :
    network.Leads later := by
  intro number
  refine ⟨[], ?_⟩
  simp only [server?, same, Server.run_nil, Option.map_id']

theorem Leads.trans (first : network.Leads later) (second : later.Leads last) :
    network.Leads last := by
  intro number
  obtain ⟨events, became⟩ := first number
  obtain ⟨others, becomes⟩ := second number
  refine ⟨events ++ others, ?_⟩
  rw [becomes, became, Option.map_map]
  simp only [Function.comp_def, Server.run_append]

theorem leads_modifyServer {change : Server → Server} (network : Network)
    (number : Nat)
    (acts : ∀ server, network.server? number = some server →
      ∃ events, change server = server.run events) :
    network.Leads (network.modifyServer number change) := by
  intro other
  simp only [server?, modifyServer]
  rw [List.getElem?_modify]
  cases here : network.servers[other]? with
  | none => exact ⟨[], rfl⟩
  | some server =>
      by_cases same : number = other
      · obtain ⟨events, acted⟩ := acts server (same ▸ here)
        exact ⟨events, by simp [same, acted]⟩
      · exact ⟨[], by simp [same]⟩

theorem leads_withServer {α : Type} {missing : α}
    {change : Server → α × Server} (network : Network) (number : Nat)
    (acts : ∀ server, ∃ events, (change server).2 = server.run events) :
    network.Leads (network.withServer number missing change).2 := by
  intro other
  unfold withServer
  split
  case h_2 => exact leads_of_servers_eq rfl other
  case h_1 server here =>
    by_cases same : number = other
    · subst same
      obtain ⟨events, acted⟩ := acts server
      obtain ⟨low, _⟩ := List.getElem?_eq_some_iff.mp here
      refine ⟨events, ?_⟩
      rw [here, Option.map_some, ← acted]
      exact List.getElem?_set_self low
    · refine ⟨[], ?_⟩
      simp only [Server.run_nil, Option.map_id']
      exact List.getElem?_set_ne same

theorem leads_commit (network : Network) (number : Nat)
    (operations : List Operation) :
    network.Leads (network.commit number operations).2 :=
  leads_withServer network number fun _ => ⟨[.commit operations], rfl⟩

theorem leads_setLock (network : Network) (id : SessionId) (name : String) :
    network.Leads (network.setLock id name) :=
  leads_modifyServer network id.server fun _ _ =>
    ⟨[.setLock id.number name], rfl⟩

theorem leads_stopSession (network : Network) (id : SessionId)
    (timeout : Span) : network.Leads (network.stopSession id timeout).2 := by
  unfold stopSession
  split
  case h_2 => exact leads_of_servers_eq rfl
  case h_1 session found =>
    split
    case isTrue => exact leads_of_servers_eq rfl
    case isFalse running =>
      refine leads_modifyServer network id.server fun server here => ?_
      refine ⟨[.stop id.number], ?_⟩
      simp only [session?, here, Option.bind_some] at found
      have goesOn : (server.session? id.number).any (·.stopped) = false := by
        simpa [found] using running
      simp only [Server.run, List.foldl_cons, List.foldl_nil, Server.handle,
        goesOn]
      rfl

theorem leads_stopHandle (network : Network) (number : Nat) :
    network.Leads (network.stopHandle number).2 := by
  unfold stopHandle
  split
  · split
    · exact leads_of_servers_eq rfl
    · refine Leads.trans (leads_of_servers_eq rfl) (leads_stopSession _ _ _)
  · exact leads_of_servers_eq rfl

theorem leads_perform (network : Network) (action : Action) :
    network.Leads (network.perform action).2 := by
  cases action with
  | addServer endpoint server => exact leads_of_servers_eq rfl
  | removeServer endpoint => exact leads_of_servers_eq rfl
  | insertRow server table columns => exact leads_commit network.draw server _
  | commit server operations => exact leads_commit network server operations
  | setDelay server delay =>
      exact leads_modifyServer network server
        fun _ _ => ⟨[.setDelay delay], rfl⟩
  | failSchemaFetches server count =>
      exact leads_modifyServer network server
        fun _ _ => ⟨[.failSchemaFetches count], rfl⟩
  | failNextCommit server reason =>
      exact leads_modifyServer network server
        fun _ _ => ⟨[.failNextCommit reason], rfl⟩
  | setLock handle name =>
      simp only [perform]
      split
      · exact leads_setLock _ _ _
      · exact leads_of_servers_eq rfl
  | stop handle => exact leads_stopHandle network handle
  | impossible fault => exact leads_of_servers_eq rfl

theorem leads_settle (network : Network) : network.Leads network.settle := by
  intro number
  simp only [server?, settle, note, List.map_map, List.getElem?_map]
  cases network.servers[number]? with
  | none => exact ⟨[], rfl⟩
  | some server =>
      obtain ⟨events, settled⟩ := server.settle_eq_run network.clock
      exact ⟨events, congrArg some settled⟩

theorem leads_moveTo (network : Network) (time : Nat) :
    network.Leads (network.moveTo time) := by
  unfold moveTo
  dsimp only
  split
  · split
    · refine Leads.trans (leads_of_servers_eq rfl) (leads_perform _ _)
    · exact leads_of_servers_eq rfl
  · exact leads_of_servers_eq rfl

theorem leads_happen (done : Network → Bool) (deadline fuel : Nat)
    (network : Network) :
    network.Leads (happen done deadline fuel network) := by
  induction fuel generalizing network with
  | zero => exact leads_of_servers_eq rfl
  | succ fuel induction =>
      refine (leads_settle network).trans ?_
      simp only [happen]
      split
      · exact leads_of_servers_eq rfl
      · split
        · split
          · exact (leads_moveTo _ _).trans (induction _)
          · exact leads_of_servers_eq rfl
        · exact leads_of_servers_eq rfl

theorem leads_runUntil (network : Network) (done : Network → Bool)
    (deadline : Nat) : network.Leads (network.runUntil done deadline) :=
  leads_happen done deadline network.workload network

end Network

/-! ## Submitting on a network -/

namespace Traffic

private def single (server : Server) (session : Nat)
    (transaction : Transaction) (progress : Progress) : Traffic :=
  ⟨server, [⟨session, transaction, progress⟩]⟩

variable {server : Server} {number : Nat} {session : Session}
  {transaction : Transaction}

private theorem run_events_single (events : List Event) (progress : Progress) :
    (single server number transaction progress).run (events.map .event) =
      single (server.run events) number transaction progress := by
  induction events generalizing server with
  | nil => rfl
  | cons event events induction => exact induction

private theorem run_hooks_single {prepared : Transaction}
    {hooks : List CounterHook}
    (isOpen : server.session? number = some session)
    (done : hooks.foldlM (fun transaction hook =>
      transaction.runHook session hook) transaction = .ok prepared) :
    ∃ moves,
      (single server number transaction (.preparing hooks)).run moves =
        single server number prepared (.preparing []) := by
  induction hooks generalizing transaction with
  | nil =>
      cases done
      exact ⟨[], rfl⟩
  | cons hook hooks induction =>
      rw [List.foldlM_cons] at done
      obtain ⟨next, first, rest⟩ := bind_eq_ok_iff.mp done
      obtain ⟨moves, ran⟩ := induction rest
      refine ⟨.proceed 0 :: moves, ?_⟩
      rw [run_cons, ← ran]
      refine congrArg (run · moves) ?_
      simp [single, step, submission?, Submission.proceed, isOpen, first]

private theorem run_hooks_single_of_error {fault : Fault}
    {hooks : List CounterHook}
    (isOpen : server.session? number = some session)
    (failed : hooks.foldlM (fun transaction hook =>
      transaction.runHook session hook) transaction = .error fault) :
    ∃ moves prepared,
      (single server number transaction (.preparing hooks)).run moves =
        single server number prepared (.finished (.error fault)) := by
  induction hooks generalizing transaction with
  | nil => cases failed
  | cons hook hooks induction =>
      rw [List.foldlM_cons] at failed
      cases first : transaction.runHook session hook with
      | error other =>
          rw [first] at failed
          cases failed
          refine ⟨[.proceed 0], transaction, ?_⟩
          simp [single, run, step, submission?, Submission.proceed, isOpen,
            first, Submission.finish]
      | ok next =>
          rw [first] at failed
          obtain ⟨moves, prepared, ran⟩ := induction failed
          refine ⟨.proceed 0 :: moves, prepared, ?_⟩
          rw [run_cons, ← ran]
          refine congrArg (run · moves) ?_
          simp [single, step, submission?, Submission.proceed, isOpen, first]

private theorem run_shown_single {generation : Nat}
    (isOpen : server.session? number = some session)
    (shown : generation ≤ session.applied) :
    (single server number transaction (.waiting generation)).run [.proceed 0] =
      single server number transaction (.finished (.ok .committed)) := by
  simp [single, run, step, submission?, Submission.proceed, isOpen, shown,
    Submission.finish]

private theorem run_lost_single {generation : Nat}
    (isOpen : server.session? number = some session)
    (hidden : ¬generation ≤ session.applied)
    (stopped : session.stopped = true) :
    (single server number transaction (.waiting generation)).run [.proceed 0] =
      single server number transaction
        (.finished (.error .connectionClosed)) := by
  simp [single, run, step, submission?, Submission.proceed, isOpen, hidden,
    stopped, Submission.finish]

private theorem run_expire_single {generation : Nat} (ofSession : Bool)
    (isOpen : server.session? number = some session)
    (hidden : ¬generation ≤ session.applied) :
    (single server number transaction (.waiting generation)).run
        [.expire 0 ofSession] =
      single server number transaction (.finished (.error (.timeout
        (if ofSession then session.options.timeout
        else transaction.timeout)))) := by
  simp [single, run, step, submission?, Submission.expire, isOpen, hidden,
    Submission.finish]

end Traffic

namespace Network

open Traffic

variable {network : Network} {id : SessionId} {server : Server}
  {session : Session} {transaction : Transaction}

theorem session?_eq_some (here : network.server? id.server = some server)
    (isOpen : server.session? id.number = some session) :
    network.session? id = some session := by
  simp only [session?, here, Option.bind_some, isOpen]

theorem commit_eq (here : network.server? id.server = some server)
    (operations : List Operation) :
    network.commit id.server operations =
      ((server.commit operations).1,
        { network with servers :=
          network.servers.set id.server (server.commit operations).2 }) := by
  simp only [Network.commit, withServer, here]

/-- The wait for a replica is events of its server, and then the end. -/
private theorem await_eq_run {generation : Nat}
    (here : network.server? id.server = some server)
    (isOpen : server.session? id.number = some session) :
    ∃ moves later,
      (network.await id generation session.options.timeout
        (some transaction.timeout)).2.server? id.server = some later ∧
      (single server id.number transaction (.waiting generation)).run moves =
        single later id.number transaction (.finished (Outcome.ofAnswer
          (network.await id generation session.options.timeout
            (some transaction.timeout)).1)) := by
  have limits : ∃ ofSession : Bool,
      (if transaction.timeout.ceilMillis < session.options.timeout.ceilMillis
        then transaction.timeout else session.options.timeout) =
      if ofSession then session.options.timeout else transaction.timeout := by
    split
    · exact ⟨false, rfl⟩
    · exact ⟨true, rfl⟩
  obtain ⟨ofSession, limits⟩ := limits
  unfold await
  simp only [limits]
  generalize waited : (if ofSession = true then session.options.timeout
    else transaction.timeout) = allowed
  by_cases shown : generation ≤ session.applied
  · have shows : network.shows id generation = true := by
      simp [Network.shows, session?_eq_some here isOpen, shown]
    rw [if_pos shows]
    exact ⟨[.proceed 0], server, here, run_shown_single isOpen shown⟩
  · have hides : ¬network.shows id generation = true := by
      simp [Network.shows, session?_eq_some here isOpen, shown]
    rw [if_neg hides]
    split
    case isTrue =>
      refine ⟨[.expire 0 ofSession], server, here, ?_⟩
      rw [run_expire_single ofSession isOpen shown, waited]
      rfl
    case isFalse =>
      let ended (network : Network) :=
        network.shows id generation || network.isStopped id
      let final :=
        network.runUntil ended (network.clock + allowed.ceilMillis)
      obtain ⟨events, became⟩ := leads_runUntil network ended
        (network.clock + allowed.ceilMillis) id.server
      rw [here, Option.map_some] at became
      obtain ⟨last, still, _, options⟩ := Server.session?_run isOpen events
      have found : final.session? id = some last :=
        session?_eq_some became still
      by_cases reached : generation ≤ last.applied
      · have shows : final.shows id generation = true := by
          simp [Network.shows, found, reached]
        rw [if_pos shows]
        refine ⟨events.map .event ++ [.proceed 0], _, became, ?_⟩
        rw [run_append, run_events_single, run_shown_single still reached]
        rfl
      · have hides : ¬final.shows id generation = true := by
          simp [Network.shows, found, reached]
        rw [if_neg hides]
        split
        case isTrue stopped =>
          change final.isStopped id = true at stopped
          unfold Network.isStopped at stopped
          rw [found] at stopped
          refine ⟨events.map .event ++ [.proceed 0], _, became, ?_⟩
          rw [run_append, run_events_single,
            run_lost_single still reached stopped]
          rfl
        case isFalse =>
          refine ⟨events.map .event ++ [.expire 0 ofSession], _, became, ?_⟩
          rw [run_append, run_events_single,
            run_expire_single ofSession still reached, options, waited]
          rfl

/-- From the check that its session runs to its end, a submission is steps of
its own and events of its server. -/
private theorem transact_eq_run
    (here : network.server? id.server = some server)
    (isOpen : server.session? id.number = some session)
    (nonempty : ¬transaction.isEmpty = true) :
    ∃ moves later,
      (network.transact id transaction.operations
        (some transaction.timeout)).2.server? id.server = some later ∧
      (single server id.number transaction (.preparing [])).run moves =
        single later id.number transaction (.finished (Outcome.ofAnswer
          (network.transact id transaction.operations
            (some transaction.timeout)).1)) := by
  unfold transact
  rw [session?_eq_some here isOpen]
  simp only
  by_cases stopped : session.stopped = true
  · rw [if_pos stopped]
    refine ⟨[.proceed 0], server, here, ?_⟩
    simp [single, run, step, submission?, Submission.proceed, isOpen, nonempty,
      stopped, Submission.finish, Outcome.ofAnswer]
  · rw [if_neg stopped, commit_eq here]
    have admitted : (single server id.number transaction (.preparing [])).run
        [.proceed 0] = single server id.number transaction .admitted := by
      simp [single, run, step, submission?, Submission.proceed, isOpen,
        nonempty, stopped]
    cases answered : server.commit transaction.operations with
    | mk answer after =>
        obtain ⟨low, _⟩ := List.getElem?_eq_some_iff.mp here
        have now : ({ network with
            servers := network.servers.set id.server after } :
              Network).server? id.server = some after :=
          List.getElem?_set_self low
        cases answer with
        | error fault =>
            refine ⟨[.proceed 0] ++ [.proceed 0], after, now, ?_⟩
            rw [run_append, admitted]
            simp [single, run, step, submission?, Submission.proceed, isOpen,
              answered, Submission.finish]
        | ok generation =>
            have kept := (server.sessions_commit transaction.operations).1
            rw [answered] at kept
            have still : after.session? id.number = some session := by
              unfold Server.session?
              rw [kept]
              exact isOpen
            obtain ⟨moves, later, became, rest⟩ := await_eq_run now still
            refine ⟨[.proceed 0] ++ ([.proceed 0] ++ moves), later, became, ?_⟩
            rw [run_append, admitted, run_append, ← rest]
            refine congrArg (run · moves) ?_
            simp [single, run, step, submission?, Submission.proceed, isOpen,
              answered]

/-- Submitting a transaction on a network is a way for a submission at its
server to go, from its beginning to its end. -/
theorem submit_eq_run (here : network.server? id.server = some server)
    (isOpen : server.session? id.number = some session) :
    ∃ moves later prepared,
      (network.submit id transaction).2.server? id.server = some later ∧
      (ofServer server).run (.submit id.number transaction :: moves) =
        ⟨later, [⟨id.number, prepared,
          .finished (network.submit id transaction).1⟩]⟩ := by
  have begun : (ofServer server).step (.submit id.number transaction) =
      single server id.number transaction (.preparing transaction.hooks) := rfl
  simp only [run_cons, begun]
  unfold submit
  rw [session?_eq_some here isOpen]
  simp only
  cases hooked : transaction.runHooks session with
  | error fault =>
      obtain ⟨moves, prepared, ran⟩ := run_hooks_single_of_error isOpen hooked
      exact ⟨moves, server, prepared, here, ran⟩
  | ok prepared =>
      obtain ⟨moves, ran⟩ := run_hooks_single isOpen hooked
      simp only
      by_cases empty : prepared.isEmpty = true
      · rw [if_pos empty]
        refine ⟨moves ++ [.proceed 0], server, prepared, here, ?_⟩
        rw [run_append, ran]
        simp [single, run, step, submission?, Submission.proceed, isOpen,
          empty, Submission.finish]
      · rw [if_neg empty]
        obtain ⟨others, later, became, rest⟩ :=
          transact_eq_run here isOpen empty
        refine ⟨moves ++ others, later, prepared, became, ?_⟩
        rw [run_append, ran, rest]
        rfl

end Network

end OvsdbClient
