import OvsdbClient.Network.Submission

/-!
# What waiting depends on

When a replica shows a generation depends on how many commits there are and on
delays, but not on what they changed.  Without the contents of tables and
updates a network therefore goes through the same times, as long as no further
commit is on the agenda.
-/

namespace OvsdbClient

/-- An announcement without what it tells. -/
def Announcement.bare (announcement : Announcement) : Announcement :=
  ⟨announcement.generation, []⟩

/-- A database without its rows. -/
def Database.bare (database : Database) : Database where
  tables := .empty
  generation := database.generation
  announcements := database.announcements.map Announcement.bare

namespace Session

/-- A session without the rows that it shows or holds back. -/
def bare (session : Session) : Session :=
  { session with
    replica := ⟨.empty, session.replica.seqno⟩
    inHand := session.inHand.map fun held => (held.1.bare, held.2) }

variable (session : Session) (database : Database) (delay : Span) (now : Nat)

theorem backlog_bare :
    session.bare.backlog database.bare = session.backlog database := by
  simp [backlog, bare, Database.bare]

theorem receive_bare (announcement : Announcement) :
    session.bare.receive announcement.bare delay now =
      (session.receive announcement delay now).bare := by
  unfold receive
  split <;> rfl

theorem resync_bare :
    session.bare.resync database.bare = (session.resync database).bare := by
  have size : database.bare.announcements.size =
      database.announcements.size := Array.size_map
  simp only [resync, size]
  rfl

theorem proceed?_bare :
    session.bare.proceed? database.bare delay now =
      (session.proceed? database delay now).map fun found =>
        (found.1.bare, found.2) := by
  have held : session.bare.inHand =
      session.inHand.map fun held => (held.1.bare, held.2) := rfl
  have coming : database.bare.announcements[session.bare.received]? =
      (database.announcements[session.received]?).map Announcement.bare :=
    Array.getElem?_map
  unfold proceed?
  rw [backlog_bare, held, coming]
  cases session.inHand with
  | some found =>
      simp only [Option.map_some]
      split <;> rfl
  | none =>
      simp only [Option.map_none]
      split
      · rw [resync_bare]
        rfl
      · cases database.announcements[session.received]? with
        | none => rfl
        | some announcement =>
            simp only [Option.map_some]
            rw [receive_bare]

theorem step?_bare :
    session.bare.step? database.bare delay now =
      (session.step? database delay now).map fun found =>
        (found.1.bare, found.2) := by
  unfold step?
  split
  case isTrue following =>
    have same : session.state = .following := following
    rw [if_pos same]
    exact proceed?_bare session database delay now
  case isFalse other =>
    have differs : ¬session.state = .following := other
    rw [if_neg differs]
    rfl

theorem steps_bare (fuel : Nat) :
    steps database.bare delay now fuel session.bare =
      ((steps database delay now fuel session).1.bare,
        (steps database delay now fuel session).2) := by
  induction fuel generalizing session with
  | zero => rfl
  | succ fuel induction =>
      simp only [steps]
      rw [step?_bare]
      cases session.step? database delay now with
      | none => rfl
      | some found =>
          simp only [Option.map_some]
          rw [induction]

theorem workload_bare :
    session.bare.workload database.bare = session.workload database := by
  unfold workload
  rw [backlog_bare]
  cases held : session.inHand <;> simp [bare, held]

theorem settle_bare :
    session.bare.settle database.bare delay now =
      ((session.settle database delay now).1.bare,
        (session.settle database delay now).2) := by
  unfold settle
  rw [workload_bare, steps_bare]

theorem due?_bare : session.bare.due? = session.due? := by
  unfold due?
  cases held : session.inHand <;> simp [bare, held]

end Session

/-- A change that commutes with erasing does so at one place of a list. -/
private theorem modify_map {α β : Type} {erase : α → β} {change : α → α}
    {other : β → β}
    (commutes : ∀ item, other (erase item) = erase (change item))
    (items : List α) (number : Nat) :
    (items.map erase).modify number other =
      (items.modify number change).map erase := by
  apply List.ext_getElem?
  intro place
  simp only [List.getElem?_modify, List.getElem?_map]
  cases items[place]? with
  | none => rfl
  | some item =>
      by_cases here : number = place
      · simp [here, commutes]
      · simp [here]

namespace Server

/-- A server without rows. -/
def bare (server : Server) : Server :=
  { server with
    database := server.database.bare
    sessions := server.sessions.map Session.bare }

variable (server : Server)

theorem session?_bare (number : Nat) :
    server.bare.session? number = (server.session? number).map Session.bare :=
  List.getElem?_map

theorem modifySession_bare (number : Nat) (change : Session → Session)
    (commutes : ∀ session, change session.bare = (change session).bare) :
    server.bare.modifySession number change =
      (server.modifySession number change).bare := by
  simp only [modifySession, bare, modify_map commutes]

theorem settle_bare (now : Nat) :
    server.bare.settle now =
      ((server.settle now).1.bare, (server.settle now).2) := by
  simp only [settle, bare, List.map_map, List.flatMap_map, Function.comp_def,
    Session.settle_bare]

theorem workload_bare : server.bare.workload = server.workload := by
  simp only [workload, bare, List.foldl_map, Session.workload_bare]

theorem due?_bare : server.bare.due? = server.due? := by
  simp only [due?, bare, List.filterMap_map, Function.comp_def,
    Session.due?_bare]

theorem lock_bare (number : Nat) :
    (server.bare.session? number).bind (·.lock) =
      (server.session? number).bind (·.lock) := by
  rw [session?_bare]
  cases server.session? number <;> rfl

theorem setLock_bare (number : Nat) (name : String) :
    server.bare.setLock number name = (server.setLock number name).bare := by
  have asks (locks : LockTable) := modifySession_bare { server with locks }
    number (fun session => { session with lock := some name }) fun _ => rfl
  unfold setLock
  rw [lock_bare]
  cases (server.session? number).bind (·.lock) with
  | none => exact asks (server.locks.request name number)
  | some held =>
      by_cases same : held = name
      · simp only [if_pos same]
        exact asks (server.locks.request name number)
      · simp only [if_neg same]
        exact asks ((server.locks.release held number).request name number)

theorem stopSession_bare (number : Nat) :
    server.bare.stopSession number = (server.stopSession number).bare := by
  have stops (locks : LockTable) := modifySession_bare { server with locks }
    number (fun session => { session with state := .stopped }) fun _ => rfl
  unfold stopSession
  rw [lock_bare]
  cases (server.session? number).bind (·.lock) with
  | none => exact stops server.locks
  | some held => exact stops (server.locks.release held number)

end Server

/-- Whether an action commits something. -/
def Action.commits : Action → Bool
  | .insertRow .. | .commit .. => true
  | _ => false

namespace Network

/-- A network without the rows of its servers. -/
def bare (network : Network) : Network :=
  { network with servers := network.servers.map Server.bare }

/-- No further commit is on the agenda. -/
def Quiet (network : Network) : Prop :=
  ∀ plan ∈ network.agenda, plan.action.commits = false

variable (network : Network)

theorem server?_bare (number : Nat) :
    network.bare.server? number = (network.server? number).map Server.bare :=
  List.getElem?_map

theorem session?_bare (id : SessionId) :
    network.bare.session? id = (network.session? id).map Session.bare := by
  unfold session?
  rw [server?_bare]
  cases network.server? id.server with
  | none => rfl
  | some server => exact server.session?_bare id.number

theorem shows_bare (id : SessionId) (generation : Nat) :
    network.bare.shows id generation = network.shows id generation := by
  unfold shows
  rw [session?_bare]
  cases network.session? id <;> rfl

theorem isStopped_bare (id : SessionId) :
    network.bare.isStopped id = network.isStopped id := by
  unfold isStopped
  rw [session?_bare]
  cases network.session? id <;> rfl

theorem modifyServer_bare (number : Nat) (change : Server → Server)
    (commutes : ∀ server, change server.bare = (change server).bare) :
    network.bare.modifyServer number change =
      (network.modifyServer number change).bare := by
  simp only [modifyServer, bare, modify_map commutes]

theorem stopSession_bare (id : SessionId) (timeout : Span) :
    network.bare.stopSession id timeout =
      ((network.stopSession id timeout).1,
        (network.stopSession id timeout).2.bare) := by
  unfold stopSession
  rw [session?_bare]
  cases network.session? id with
  | none => rfl
  | some session =>
      simp only [Option.map_some]
      split
      case isTrue stopped =>
        have already : session.stopped = true := stopped
        rw [if_pos already]
      case isFalse running =>
        have goesOn : ¬session.stopped = true := running
        rw [if_neg goesOn]
        refine congrArg (_, ·) ?_
        exact network.modifyServer_bare id.server _
          fun server => server.stopSession_bare id.number

theorem stopHandle_bare (number : Nat) :
    network.bare.stopHandle number =
      ((network.stopHandle number).1, (network.stopHandle number).2.bare) := by
  have same : network.bare.handle? number = network.handle? number := rfl
  unfold stopHandle
  rw [same]
  cases network.handle? number with
  | none => rfl
  | some handle =>
      simp only
      split
      · rfl
      · let handles :=
          network.handles.set number { handle with stopped := true }
        exact stopSession_bare { network with handles } handle.session
          handle.timeout

/-- Actions that commit nothing do not depend on rows. -/
theorem perform_bare {action : Action} (quiet : action.commits = false) :
    network.bare.perform action =
      ((network.perform action).1, (network.perform action).2.bare) := by
  cases action with
  | addServer endpoint server => rfl
  | removeServer endpoint =>
      refine congrArg (fun reply => (Except.ok (Reply.schema reply), _)) ?_
      change ((network.serverAt? endpoint).bind network.bare.server?).map _ =
        ((network.serverAt? endpoint).bind network.server?).map _
      cases network.serverAt? endpoint with
      | none => rfl
      | some number =>
          simp only [Option.bind_some, server?_bare]
          cases network.server? number <;> rfl
  | insertRow server table columns => cases quiet
  | commit server operations => cases quiet
  | setDelay server delay =>
      exact congrArg (_, ·) (network.modifyServer_bare server _ fun _ => rfl)
  | failSchemaFetches server count =>
      exact congrArg (_, ·) (network.modifyServer_bare server _ fun _ => rfl)
  | failNextCommit server reason =>
      exact congrArg (_, ·) (network.modifyServer_bare server _ fun _ => rfl)
  | setLock handle name =>
      have same : network.bare.handle? handle = network.handle? handle := rfl
      simp only [perform, same]
      cases network.handle? handle with
      | none => rfl
      | some handle =>
          exact congrArg (_, ·) (network.modifyServer_bare handle.session.server
            _ fun server => server.setLock_bare handle.session.number name)
  | stop handle =>
      simp only [perform, stopHandle_bare]
  | impossible fault => rfl

theorem agenda_withServer {α : Type} (number : Nat) (missing : α)
    (change : Server → α × Server) :
    (network.withServer number missing change).2.agenda = network.agenda := by
  unfold withServer
  cases network.server? number <;> rfl

theorem agenda_stopSession (id : SessionId) (timeout : Span) :
    (network.stopSession id timeout).2.agenda = network.agenda := by
  unfold stopSession
  cases network.session? id with
  | none => rfl
  | some session =>
      simp only
      split <;> rfl

theorem agenda_perform (action : Action) :
    (network.perform action).2.agenda = network.agenda := by
  cases action with
  | addServer endpoint server => rfl
  | removeServer endpoint => rfl
  | insertRow server table columns =>
      exact network.draw.agenda_withServer server _ _
  | commit server operations =>
      exact network.agenda_withServer server _ _
  | setDelay server delay => rfl
  | failSchemaFetches server count => rfl
  | failNextCommit server reason => rfl
  | setLock handle name =>
      simp only [perform]
      cases network.handle? handle <;> rfl
  | stop handle =>
      simp only [perform, stopHandle]
      cases network.handle? handle with
      | none => rfl
      | some opened =>
          simp only
          split
          · rfl
          · exact agenda_stopSession { network with handles := _ } _ _
  | impossible fault => rfl

theorem settle_bare : network.bare.settle = network.settle.bare := by
  simp only [settle, bare, note, List.map_map, List.flatMap_map,
    Function.comp_def, Server.settle_bare]

theorem due?_bare : network.bare.due? = network.due? := by
  simp only [due?, bare, List.filterMap_map, Function.comp_def,
    Server.due?_bare]

theorem workload_bare : network.bare.workload = network.workload := by
  have sessions (server : Server) :
      server.bare.sessions.length = server.sessions.length :=
    List.length_map ..
  simp only [workload, bare, List.foldl_map, Server.workload_bare, sessions]

theorem moveTo_bare (quiet : network.Quiet) (time : Nat) :
    network.bare.moveTo time = (network.moveTo time).bare := by
  have same : network.bare.agenda = network.agenda := rfl
  unfold moveTo
  simp only [same]
  split
  case h_2 => rfl
  case h_1 plan agenda first =>
    split
    · have harmless : plan.action.commits = false :=
        quiet plan (first ▸ List.mem_cons_self)
      have performed := perform_bare { network with clock := time, agenda }
        harmless
      simp only [bare] at performed ⊢
      rw [performed]
    · rfl

theorem quiet_moveTo (quiet : network.Quiet) (time : Nat) :
    (network.moveTo time).Quiet := by
  intro plan member
  refine quiet plan ?_
  unfold moveTo at member
  simp only at member
  split at member
  case h_2 => exact member
  case h_1 next agenda first =>
    split at member
    · simp only [agenda_perform] at member
      exact first ▸ List.mem_cons_of_mem _ member
    · exact member

/-- What happens does not depend on rows, if no further commit is due. -/
theorem happen_bare {done : Network → Bool}
    (blind : ∀ network, done network.bare = done network) (deadline fuel : Nat)
    (quiet : network.Quiet) :
    happen done deadline fuel network.bare =
      (happen done deadline fuel network).bare := by
  induction fuel generalizing network with
  | zero => rfl
  | succ fuel induction =>
      have clock : network.settle.bare.clock = network.settle.clock := rfl
      have calm : network.settle.Quiet := quiet
      simp only [happen]
      rw [settle_bare, blind, due?_bare, clock]
      split
      · rfl
      · split
        · split
          · rw [moveTo_bare _ calm]
            exact induction _ (quiet_moveTo _ calm _)
          · rfl
        · rfl

private theorem ended_bare (id : SessionId) (generation : Nat) :
    (network.bare.shows id generation || network.bare.isStopped id) =
      (network.shows id generation || network.isStopped id) := by
  rw [shows_bare, isStopped_bare]

/-- How the wait for a generation ends does not depend on rows, if no further
commit is due. -/
theorem await_bare (quiet : network.Quiet) (id : SessionId) (generation : Nat)
    (timeout limit : Span) :
    (network.bare.await id generation timeout (some limit)).1 =
      (network.await id generation timeout (some limit)).1 := by
  let ended (network : Network) :=
    network.shows id generation || network.isStopped id
  have waits (deadline : Nat) : network.bare.runUntil ended deadline =
      (network.runUntil ended deadline).bare := by
    unfold runUntil
    rw [workload_bare]
    exact happen_bare network (fun other => other.ended_bare id generation) _ _
      quiet
  have clock : network.bare.clock = network.clock := rfl
  unfold await
  simp only [shows_bare, clock]
  generalize (if limit.ceilMillis < timeout.ceilMillis then limit
    else timeout) = allowed
  split
  · rfl
  · split
    · rfl
    · rw [waits]
      simp only [shows_bare, isStopped_bare]
      split
      · rfl
      · split <;> rfl

end Network

end OvsdbClient
