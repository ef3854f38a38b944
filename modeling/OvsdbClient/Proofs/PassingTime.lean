import Mathlib.Algebra.Order.BigOperators.Group.List
import Mathlib.Algebra.Order.Ring.Nat
import OvsdbClient.Proofs.NetworkRun
import OvsdbClient.Proofs.Timing

/-!
# How far time gets

Letting time run ends when what is waited for holds, or else exactly at the
deadline, and never before because too many things happen.  Every session that
works off an announcement lowers what is left to do, and so does every action
that is taken off the agenda, since it leaves the sessions at most one more
announcement each.
-/

namespace OvsdbClient

namespace Session

variable {session next : Session} {database : Database} {delay : Span}
  {now : Nat}

theorem workload_of_step? {notices : List Notice}
    (stepped : session.step? database delay now = some (next, notices)) :
    next.workload database < session.workload database := by
  unfold step? proceed? at stepped
  split at stepped
  case isFalse => cases stepped
  case isTrue =>
    split at stepped
    case h_1 announcement due held =>
      split at stepped
      case isFalse => cases stepped
      case isTrue =>
        cases stepped
        simp [workload, backlog, apply, held]
    case h_2 held =>
      split at stepped
      case isTrue behind =>
        cases stepped
        simp only [workload, backlog, resync, held, backlogLimit] at behind ⊢
        simp only [Option.isSome_none, Bool.false_eq_true, if_false]
        omega
      case isFalse =>
        split at stepped
        case h_2 => cases stepped
        case h_1 announcement coming =>
          cases stepped
          obtain ⟨low, _⟩ := Array.getElem?_eq_some_iff.mp coming
          unfold receive
          split
          · simp [workload, backlog, apply, held]
            omega
          · simp [workload, backlog, held]
            omega

theorem workload_steps_le (fuel : Nat) (session : Session) :
    (steps database delay now fuel session).1.workload database ≤
      session.workload database := by
  induction fuel generalizing session with
  | zero => exact Nat.le_refl _
  | succ fuel induction =>
      simp only [steps]
      split
      case h_1 next notices stepped =>
        exact Nat.le_trans (induction next)
          (Nat.le_of_lt (workload_of_step? stepped))
      case h_2 => exact Nat.le_refl _

theorem workload_settle_le (session : Session) (database : Database)
    (delay : Span) (now : Nat) :
    (session.settle database delay now).1.workload database ≤
      session.workload database :=
  workload_steps_le _ session

theorem workload_settle_lt
    (ready : session.step? database delay now ≠ none) :
    (session.settle database delay now).1.workload database <
      session.workload database := by
  obtain ⟨⟨next, notices⟩, stepped⟩ := Option.ne_none_iff_exists'.mp ready
  have less := workload_of_step? stepped
  unfold settle
  cases amount : session.workload database with
  | zero => omega
  | succ fuel =>
      simp only [steps, stepped]
      exact Nat.lt_of_le_of_lt (workload_steps_le fuel next) (amount ▸ less)

/-- A session that waits for nothing but the time has something to do then. -/
theorem step?_of_due {time : Nat} (waits : session.due? = some time)
    (due : time ≤ now) : session.step? database delay now ≠ none := by
  unfold due? at waits
  split at waits
  case isFalse => cases waits
  case isTrue following =>
    obtain ⟨⟨announcement, _⟩, held, rfl⟩ := Option.map_eq_some_iff.mp waits
    simp [step?, proceed?, following, held, due]

end Session

namespace Server

variable {server next : Server} {now : Nat}

theorem workload_eq (server : Server) :
    server.workload =
      (server.sessions.map (·.workload server.database)).sum := by
  rw [List.sum_eq_foldl, List.foldl_map]
  rfl

theorem workload_settle (server : Server) (now : Nat) :
    (server.settle now).1.workload = (server.sessions.map fun session =>
      (session.settle server.database server.delay now).1.workload
        server.database).sum := by
  rw [workload_eq]
  simp only [settle, List.map_map]
  rfl

theorem workload_settle_le (server : Server) (now : Nat) :
    (server.settle now).1.workload ≤ server.workload := by
  rw [workload_settle, workload_eq]
  exact List.sum_le_sum fun session _ =>
    session.workload_settle_le server.database server.delay now

theorem workload_settle_lt {session : Session}
    (member : session ∈ server.sessions)
    (ready : session.step? server.database server.delay now ≠ none) :
    (server.settle now).1.workload < server.workload := by
  rw [workload_settle, workload_eq]
  refine List.sum_lt_sum _ _ (fun session _ => ?_) ⟨session, member, ?_⟩
  · exact session.workload_settle_le server.database server.delay now
  · exact Session.workload_settle_lt ready

theorem length_sessions_settle (server : Server) (now : Nat) :
    (server.settle now).1.sessions.length = server.sessions.length := by
  simp only [settle, List.length_map]

/-- A server has the same sessions as before, each with at most one more
announcement to work off. -/
def Grows (server next : Server) : Prop :=
  next.sessions.length = server.sessions.length ∧
    next.workload ≤ server.workload + 2 * server.sessions.length

theorem grows_of_workload_eq
    (length : next.sessions.length = server.sessions.length)
    (workload : next.workload = server.workload) : server.Grows next :=
  ⟨length, by omega⟩

theorem Grows.refl (server : Server) : server.Grows server :=
  grows_of_workload_eq rfl rfl

theorem grows_modifySession (server : Server) (number : Nat)
    {change : Session → Session}
    (keeps : ∀ session, (change session).received = session.received ∧
      (change session).inHand = session.inHand) :
    server.Grows (server.modifySession number change) := by
  refine grows_of_workload_eq (List.length_modify ..) ?_
  have same : ∀ session, (change session).workload server.database =
      session.workload server.database := by
    intro session
    simp only [Session.workload, Session.backlog, keeps session]
  simp only [workload_eq, modifySession]
  refine congrArg List.sum (List.ext_getElem? fun place => ?_)
  simp only [List.getElem?_map, List.getElem?_modify]
  cases server.sessions[place]? with
  | none => rfl
  | some session =>
      simp only [Option.map_some]
      split
      · exact congrArg some (same session)
      · rfl

theorem grows_setLock (server : Server) (number : Nat) (name : String) :
    server.Grows (server.setLock number name) :=
  grows_modifySession { server with locks := _ } number fun _ => ⟨rfl, rfl⟩

theorem grows_stopSession (server : Server) (number : Nat) :
    server.Grows (server.stopSession number) :=
  grows_modifySession { server with locks := _ } number fun _ => ⟨rfl, rfl⟩

/-- A commit makes at most one announcement. -/
theorem grows_commit (server : Server) (operations : List Operation) :
    server.Grows (server.commit operations).2 := by
  obtain ⟨sessions, _⟩ := sessions_commit server operations
  have size : (server.commit operations).2.database.announcements.size ≤
      server.database.announcements.size + 1 := by
    rcases database_handle server (.commit operations) with same |
      ⟨_, _, done⟩
    · exact Nat.le_succ_of_le
        (Nat.le_of_eq (congrArg (·.announcements.size) same))
    · obtain ⟨staged, _, after⟩ := Database.commit_eq_ok_iff.mp done
      change
        (server.handle (.commit operations)).database.announcements.size ≤ _
      rw [after]
      split
      · exact Nat.le_succ _
      · simp [Database.advance]
  refine ⟨congrArg List.length sessions, ?_⟩
  rw [workload_eq, workload_eq, sessions]
  have each : ∀ session ∈ server.sessions,
      session.workload (server.commit operations).2.database ≤
        session.workload server.database + 2 := by
    intro session _
    simp only [Session.workload, Session.backlog]
    omega
  refine (List.sum_le_sum each).trans (Nat.le_of_eq ?_)
  rw [List.sum_map_add, List.map_const', List.sum_replicate]
  simp [Nat.mul_comm]

end Server

namespace Network

variable {network later : Network} {time : Nat}

def sessionCount (network : Network) : Nat :=
  (network.servers.map (·.sessions.length)).sum

def held (network : Network) : Nat :=
  (network.servers.map (·.workload)).sum

/-- The number of things that can happen still. -/
def load (network : Network) : Nat :=
  network.agenda.length * (1 + 2 * network.sessionCount) + network.held

theorem workload_eq (network : Network) :
    network.workload = network.load + 2 := by
  simp only [workload, load, sessionCount, held, List.sum_eq_foldl,
    List.foldl_map]

/-- Every server grows. -/
def Grows (network later : Network) : Prop :=
  List.Forall₂ Server.Grows network.servers later.servers

theorem grows_of_servers_eq (same : later.servers = network.servers) :
    network.Grows later := by
  unfold Grows
  rw [same]
  exact List.forall₂_same.mpr fun server _ => .refl server

private theorem forall₂_modify {change : Server → Server}
    (grows : ∀ server : Server, server.Grows (change server))
    (servers : List Server) (number : Nat) :
    List.Forall₂ Server.Grows servers (servers.modify number change) := by
  induction servers generalizing number with
  | nil =>
      rw [List.modify_nil]
      exact .nil
  | cons server servers induction =>
      cases number with
      | zero =>
          exact .cons (grows server)
            (List.forall₂_same.mpr fun server _ => .refl server)
      | succ number => exact .cons (.refl server) (induction number)

theorem grows_modifyServer (network : Network) (number : Nat)
    {change : Server → Server}
    (grows : ∀ server : Server, server.Grows (change server)) :
    network.Grows (network.modifyServer number change) :=
  forall₂_modify grows network.servers number

theorem grows_commit (network : Network) (number : Nat)
    (operations : List Operation) :
    network.Grows (network.commit number operations).2 := by
  cases here : network.server? number with
  | none =>
      refine grows_of_servers_eq ?_
      simp only [Network.commit, withServer, here]
  | some server =>
      have changed : (network.commit number operations).2 =
          network.modifyServer number fun server =>
            (server.commit operations).2 := by
        have found : network.servers[number]? = some server := here
        simp only [Network.commit, withServer, here, modifyServer]
        rw [List.modify_eq_set_getElem?, found]
        rfl
      rw [changed]
      exact network.grows_modifyServer number
        fun server => server.grows_commit operations

theorem grows_stopSession (network : Network) (id : SessionId)
    (timeout : Span) : network.Grows (network.stopSession id timeout).2 := by
  unfold stopSession
  split
  case h_2 => exact grows_of_servers_eq rfl
  case h_1 session found =>
    split
    · exact grows_of_servers_eq rfl
    · exact network.grows_modifyServer id.server
        fun server => server.grows_stopSession id.number

theorem grows_perform (network : Network) (action : Action) :
    network.Grows (network.perform action).2 := by
  cases action with
  | addServer endpoint server => exact grows_of_servers_eq rfl
  | removeServer endpoint => exact grows_of_servers_eq rfl
  | insertRow server table columns => exact network.draw.grows_commit server _
  | commit server operations => exact network.grows_commit server operations
  | setDelay server delay =>
      exact network.grows_modifyServer server
        fun server => Server.grows_of_workload_eq rfl rfl
  | failSchemaFetches server count =>
      exact network.grows_modifyServer server
        fun server => Server.grows_of_workload_eq rfl rfl
  | failNextCommit server reason =>
      exact network.grows_modifyServer server
        fun server => Server.grows_of_workload_eq rfl rfl
  | setLock handle name =>
      simp only [perform]
      split
      case h_1 opened _ =>
        exact network.grows_modifyServer opened.session.server
          fun server => server.grows_setLock opened.session.number name
      case h_2 => exact grows_of_servers_eq rfl
  | stop handle =>
      simp only [perform, stopHandle]
      split
      case h_2 => exact grows_of_servers_eq rfl
      case h_1 opened _ =>
        split
        · exact grows_of_servers_eq rfl
        · let stopped := { opened with stopped := true }
          let handles := network.handles.set handle stopped
          exact grows_stopSession { network with handles } opened.session
            opened.timeout
  | impossible fault => exact grows_of_servers_eq rfl

theorem Grows.sessionCount (grows : network.Grows later) :
    later.sessionCount = network.sessionCount := by
  unfold Network.sessionCount
  unfold Grows at grows
  generalize network.servers = servers, later.servers = others at grows
  induction grows with
  | nil => rfl
  | cons grows _ induction =>
      rw [List.map_cons, List.map_cons, List.sum_cons, List.sum_cons,
        induction, grows.1]

theorem Grows.held (grows : network.Grows later) :
    later.held ≤ network.held + 2 * network.sessionCount := by
  unfold Network.held Network.sessionCount
  unfold Grows at grows
  generalize network.servers = servers, later.servers = others at grows
  induction grows with
  | nil => exact Nat.le_refl _
  | cons grows _ induction =>
      simp only [List.map_cons, List.sum_cons]
      have one := grows.2
      omega

theorem held_settle_le (network : Network) :
    network.settle.held ≤ network.held := by
  simp only [held, settle, note, List.map_map]
  exact List.sum_le_sum fun server _ => server.workload_settle_le network.clock

theorem sessionCount_settle (network : Network) :
    network.settle.sessionCount = network.sessionCount := by
  simp only [sessionCount, settle, note, List.map_map]
  refine congrArg List.sum (List.map_congr_left fun server _ => ?_)
  exact server.length_sessions_settle network.clock

theorem load_settle_le (network : Network) :
    network.settle.load ≤ network.load := by
  have held := network.held_settle_le
  unfold load
  rw [sessionCount_settle]
  exact Nat.add_le_add_left held _

theorem load_settle_lt {server : Server} {session : Session}
    (member : server ∈ network.servers) (opened : session ∈ server.sessions)
    (ready : session.step? server.database server.delay network.clock ≠ none) :
    network.settle.load < network.load := by
  have held : network.settle.held < network.held := by
    simp only [Network.held, settle, note, List.map_map]
    refine List.sum_lt_sum _ _ (fun server _ => ?_) ⟨server, member, ?_⟩
    · exact server.workload_settle_le network.clock
    · exact Server.workload_settle_lt opened ready
  unfold load
  rw [sessionCount_settle]
  exact Nat.add_lt_add_left held _

/-- What is due is the first action of the agenda or something that a session
waits for. -/
theorem exists_of_due? (due : network.due? = some time) :
    (∃ plan agenda, network.agenda = plan :: agenda ∧ plan.time = time) ∨
      ∃ server ∈ network.servers, ∃ session ∈ server.sessions,
        session.due? = some time := by
  have member := List.min?_mem due
  rcases List.mem_append.mp member with planned | waiting
  · left
    obtain ⟨plan, first, same⟩ :=
      Option.map_eq_some_iff.mp (Option.mem_toList.mp planned)
    obtain ⟨agenda, listed⟩ := List.head?_eq_some_iff.mp first
    exact ⟨plan, agenda, listed, same⟩
  · right
    obtain ⟨server, here, waits⟩ := List.mem_filterMap.mp waiting
    obtain ⟨session, opened, same⟩ :=
      List.mem_filterMap.mp (List.min?_mem waits)
    exact ⟨server, here, session, opened, same⟩

/-- Whatever is due, less is left to do once it has happened. -/
theorem load_moveTo_lt (due : network.due? = some time) :
    (network.moveTo (max time network.clock)).settle.load < network.load := by
  have low : time ≤ max time network.clock := Nat.le_max_left ..
  generalize max time network.clock = now at low
  by_cases first : ∃ plan agenda, network.agenda = plan :: agenda ∧
      plan.time ≤ now
  · obtain ⟨plan, agenda, listed, reached⟩ := first
    let begun : Network := { network with clock := now, agenda }
    have moved : (network.moveTo now).load =
        (begun.perform plan.action).2.load := by
      simp only [moveTo, listed, if_pos reached]
      rfl
    have grows := begun.grows_perform plan.action
    have held := grows.held
    have agendas : (begun.perform plan.action).2.agenda = agenda :=
      agenda_perform begun plan.action
    refine Nat.lt_of_le_of_lt (load_settle_le _) ?_
    rw [moved]
    have shorter : (agenda.length + 1) * (1 + 2 * network.sessionCount) =
        agenda.length * (1 + 2 * network.sessionCount) +
          (1 + 2 * network.sessionCount) := Nat.succ_mul ..
    unfold load
    rw [grows.sessionCount, agendas, listed, List.length_cons, shorter]
    change _ ≤ network.held + 2 * network.sessionCount at held
    change _ * (1 + 2 * network.sessionCount) + _ < _
    omega
  · have moved : network.moveTo now = { network with clock := now } := by
      unfold moveTo
      dsimp only
      split
      case h_1 plan agenda listed =>
        exact if_neg fun reached => first ⟨plan, agenda, listed, reached⟩
      case h_2 => rfl
    rcases exists_of_due? due with ⟨plan, agenda, listed, rfl⟩ |
      ⟨server, here, session, opened, waits⟩
    · exact absurd ⟨plan, agenda, listed, low⟩ first
    · rw [moved]
      exact @load_settle_lt { network with clock := now } server session here
        opened (Session.step?_of_due waits low)

theorem clock_withServer {α : Type} (network : Network) (number : Nat)
    (missing : α) (change : Server → α × Server) :
    (network.withServer number missing change).2.clock = network.clock := by
  unfold withServer
  cases network.server? number <;> rfl

theorem clock_perform (network : Network) (action : Action) :
    (network.perform action).2.clock = network.clock := by
  cases action with
  | insertRow server table columns => exact clock_withServer network.draw ..
  | commit server operations => exact clock_withServer network ..
  | setLock handle name =>
      simp only [perform]
      split <;> rfl
  | stop handle =>
      simp only [perform, stopHandle, stopSession]
      split
      · split
        · rfl
        · split
          · split <;> rfl
          · rfl
      · rfl
  | _ => rfl

theorem clock_moveTo (network : Network) (time : Nat) :
    (network.moveTo time).clock = time := by
  unfold moveTo
  dsimp only
  split
  case h_1 plan agenda listed =>
    split
    · exact clock_perform _ plan.action
    · rfl
  case h_2 => rfl

/-- What lets time run ends when what it waits for holds, or at the deadline. -/
theorem clock_happen {done : Network → Bool} {deadline fuel : Nat}
    (enough : network.settle.load < fuel) (early : network.clock ≤ deadline) :
    done (happen done deadline fuel network) = true ∨
      (happen done deadline fuel network).clock = deadline := by
  induction fuel generalizing network with
  | zero => exact absurd enough (Nat.not_lt_zero _)
  | succ fuel induction =>
      have settled : network.settle.clock = network.clock := rfl
      simp only [happen]
      split
      case isTrue reached => exact .inl reached
      case isFalse =>
        split
        case h_1 time due =>
          split
          case isTrue sooner =>
            apply induction
            · have less := load_moveTo_lt due
              omega
            · rw [clock_moveTo, settled]
              exact Nat.max_le.mpr ⟨sooner, early⟩
          case isFalse => exact .inr (Nat.max_eq_left early)
        case h_2 => exact .inr (Nat.max_eq_left early)

theorem clock_runUntil {done : Network → Bool} {deadline : Nat}
    (early : network.clock ≤ deadline) :
    done (network.runUntil done deadline) = true ∨
      (network.runUntil done deadline).clock = deadline := by
  refine clock_happen ?_ early
  have less := network.load_settle_le
  rw [workload_eq]
  omega

/-- A wait takes its time in whole milliseconds. -/
theorem clock_advance (network : Network) (span : Span) :
    (network.advance span).clock = network.clock + span.ceilMillis := by
  have early : network.clock ≤ network.clock + span.ceilMillis :=
    Nat.le_add_right ..
  rcases @clock_runUntil network (fun _ => false) _ early with never | reached
  · cases never
  · exact reached

theorem leads_advance (network : Network) (span : Span) :
    network.Leads (network.advance span) :=
  leads_runUntil network _ _

end Network

end OvsdbClient
