import Mathlib.Data.List.Induction
import Mathlib.Tactic.Tauto
import OvsdbClient.Proofs.LockQueues
import OvsdbClient.Proofs.ServerRunSoundness

/-!
# Locks of stopped sessions

A session that is stopped gives its lock up.  It can ask for one again all the
same, and as stopping it once more does nothing, it then keeps it for good.
-/

namespace OvsdbClient.Server

variable {schema : DatabaseSchema} {server : Server} {events : List Event}
  {number : Nat}

/-- Along a run only sessions that are open ask for locks. -/
def AsksOpen (server : Server) : List Event → Prop
  | [] => True
  | event :: events =>
      (∀ number name, event = .setLock number name →
          ∃ session, server.session? number = some session) ∧
        (server.handle event).AsksOpen events

theorem asksOpen_append_iff {event : Event} :
    server.AsksOpen (events ++ [event]) ↔
      server.AsksOpen events ∧ ∀ number name, event = .setLock number name →
        ∃ session, (server.run events).session? number = some session := by
  induction events generalizing server with
  | nil => simp [AsksOpen]
  | cons first events induction =>
      rw [List.cons_append, AsksOpen, AsksOpen, induction, and_assoc]
      exact Iff.rfl

/-- A session asks for a lock after it was stopped. -/
def AsksLate (schema : DatabaseSchema) (events : List Event) (number : Nat) :
    Prop :=
  ∃ past name session, past ++ [.setLock number name] <+: events ∧
    ((ofSchema schema).run past).session? number = some session ∧
    session.stopped = true

theorem asksLate_append_iff {event : Event} :
    AsksLate schema (events ++ [event]) number ↔
      AsksLate schema events number ∨
        ∃ name session, event = .setLock number name ∧
          ((ofSchema schema).run events).session? number = some session ∧
          session.stopped = true := by
  constructor
  · rintro ⟨past, name, session, before, here, stopped⟩
    rcases List.prefix_concat_iff.mp before with whole | earlier
    · obtain ⟨rfl, same⟩ := List.append_inj' whole rfl
      cases same
      exact .inr ⟨name, session, rfl, here, stopped⟩
    · exact .inl ⟨past, name, session, earlier, here, stopped⟩
  · rintro (⟨past, name, session, before, here, stopped⟩ |
      ⟨name, session, rfl, here, stopped⟩)
    · exact ⟨past, name, session, before.trans (List.prefix_append _ _), here,
        stopped⟩
    · exact ⟨events, name, session, List.prefix_rfl, here, stopped⟩

/-- What a session has asked for last, and whether it is stopped. -/
def Claims (server : Server) (number : Nat) (name : String) (stopped : Bool) :
    Prop :=
  ∃ session, server.session? number = some session ∧
    session.lock = some name ∧ session.stopped = stopped

theorem claims_iff {session : Session} {name : String} {stopped : Bool}
    (here : server.session? number = some session) :
    server.Claims number name stopped ↔
      session.lock = some name ∧ session.stopped = stopped := by
  simp [Claims, here]

/-- Sessions stand in line for the lock that they asked for last, and for no
other.  Of those that are stopped only the ones that asked `late` do. -/
structure Lined (server : Server) (late : Nat → Prop) : Prop where
  sound : server.locks.Sound
  queued : ∀ name number, number ∈ server.locks.queue name ↔
    ∃ stopped, server.Claims number name stopped ∧
      (stopped = true → late number)
  asked : ∀ number, late number → ∃ name, server.Claims number name true

variable {late : Nat → Prop} {next : Server} {name : String} {stopped : Bool}

theorem lined_ofSchema (none : ∀ number, ¬late number) :
    (ofSchema schema).Lined late where
  sound := LockTable.sound_empty
  queued := by
    intro name number
    refine iff_of_false List.not_mem_nil ?_
    rintro ⟨stopped, ⟨session, here, _⟩, _⟩
    cases here
  asked := fun number asked => absurd asked (none number)

theorem Lined.of_claims (lined : server.Lined late)
    (locks : next.locks = server.locks)
    (claims : ∀ number name stopped, next.Claims number name stopped ↔
      server.Claims number name stopped) : next.Lined late where
  sound := locks ▸ lined.sound
  queued := by
    intro name number
    rw [locks, lined.queued name number]
    simp only [claims]
  asked := by
    intro number late
    obtain ⟨name, asked⟩ := lined.asked number late
    exact ⟨name, (claims number name true).mpr asked⟩

theorem Lined.congr {others : Nat → Prop} (lined : server.Lined late)
    (same : ∀ number, late number ↔ others number) : server.Lined others :=
  (funext fun number => propext (same number) : late = others) ▸ lined

/-! ## What events do to claims -/

theorem claims_of_sessions (same : next.sessions = server.sessions) :
    next.Claims number name stopped ↔ server.Claims number name stopped := by
  unfold Claims session?
  rw [same]

theorem claims_openSession (server : Server) (endpoint : Endpoint)
    (selected : DatabaseSchema) (options : SessionOptions) :
    (server.openSession endpoint selected options).2.Claims number name
        stopped ↔
      server.Claims number name stopped := by
  have found : ∀ session, session.lock = some name →
      ((server.openSession endpoint selected options).2.session? number =
          some session ↔
        server.session? number = some session) := by
    intro session holds
    simp only [openSession, session?]
    rw [List.getElem?_append]
    split
    case isTrue => rfl
    case isFalse high =>
      have absent : server.sessions[number]? = none :=
        List.getElem?_eq_none_iff.mpr (Nat.le_of_not_lt high)
      rw [absent, List.getElem?_singleton]
      have unknown : none ≠ some session := (Option.some_ne_none session).symm
      refine iff_of_false ?_ unknown
      split
      · intro opened
        cases opened
        cases holds
      · exact unknown
  unfold Claims
  constructor
  · rintro ⟨session, here, lock, is⟩
    exact ⟨session, (found session lock).mp here, lock, is⟩
  · rintro ⟨session, here, lock, is⟩
    exact ⟨session, (found session lock).mpr here, lock, is⟩

theorem claims_modifySession {other : Nat} {change : Session → Session}
    (keeps : ∀ session, server.session? other = some session →
      (change session).lock = session.lock ∧
        (change session).stopped = session.stopped) :
    (server.modifySession other change).Claims number name stopped ↔
      server.Claims number name stopped := by
  unfold Claims
  rw [session?_modifySession]
  split
  case isFalse => exact Iff.rfl
  case isTrue same =>
    subst same
    cases here : server.session? other with
    | none => simp
    | some session =>
        obtain ⟨lock, stops⟩ := keeps session here
        simp [lock, stops]

/-- Events other than requests for a lock and stops leave all claims alone. -/
theorem claims_handle {event : Event}
    (noRequest : ∀ number name, event ≠ .setLock number name)
    (noStop : ∀ number, event ≠ .stop number) :
    (server.handle event).locks = server.locks ∧
      ∀ number name stopped,
        (server.handle event).Claims number name stopped ↔
          server.Claims number name stopped := by
  cases event with
  | commit operations =>
      refine ⟨?_, fun _ _ _ =>
        claims_of_sessions (sessions_commit server operations).1⟩
      simp only [handle, commit]
      split
      · rfl
      · split <;> rfl
  | fetchSchema endpoint schema =>
      simp only [handle, fetchSchema]
      split
      · exact ⟨rfl, fun _ _ _ => claims_of_sessions rfl⟩
      · split <;> exact ⟨rfl, fun _ _ _ => claims_of_sessions rfl⟩
  | openSession endpoint schema options =>
      exact ⟨rfl, fun _ _ _ => claims_openSession server _ _ _⟩
  | work other now =>
      simp only [handle, work]
      split
      case h_2 => exact ⟨rfl, fun _ _ _ => Iff.rfl⟩
      case h_1 worked notices found =>
        refine ⟨rfl, fun _ _ _ => claims_modifySession ?_⟩
        intro session here
        rw [here] at found
        obtain ⟨_, _, _, _, rfl⟩ := Session.exists_of_proceed found
        exact ⟨rfl, rfl⟩
  | setLock other name => exact absurd rfl (noRequest other name)
  | stop other => exact absurd rfl (noStop other)
  | abandon other =>
      refine ⟨rfl, fun _ _ _ => claims_modifySession ?_⟩
      intro session _
      unfold Session.abandon
      split
      case isTrue following => exact ⟨rfl, by simp [Session.stopped, following]⟩
      case isFalse => exact ⟨rfl, rfl⟩
  | setDelay delay => exact ⟨rfl, fun _ _ _ => Iff.rfl⟩
  | failSchemaFetches count => exact ⟨rfl, fun _ _ _ => Iff.rfl⟩
  | failNextCommit reason => exact ⟨rfl, fun _ _ _ => Iff.rfl⟩

/-! ## Requests and stops -/

theorem claims_setLock {other : Nat} {session : Session}
    (here : server.session? other = some session) (held : String) :
    (server.setLock other held).Claims number name stopped ↔
      if other = number then name = held ∧ session.stopped = stopped
      else server.Claims number name stopped := by
  unfold Claims setLock
  rw [session?_modifySession]
  split
  case isTrue same =>
    subst same
    have unchanged : ∀ locks, ({ server with locks } : Server).session? other =
        some session := fun _ => here
    rw [unchanged]
    simp [Session.stopped, eq_comm]
  case isFalse => exact Iff.rfl

/-- A request moves a session from the line it stands in to another one. -/
theorem locks_setLock {other : Nat} {session : Session}
    (sound : server.locks.Sound)
    (here : server.session? other = some session) (held : String) :
    (server.setLock other held).locks.Sound ∧
      ∀ name number,
        number ∈ (server.setLock other held).locks.queue name ↔
          (number ∈ server.locks.queue name ∧
              ¬(number = other ∧ session.lock = some name)) ∨
            (number = other ∧ held = name) := by
  simp only [setLock, modifySession, here, Option.bind_some]
  split
  case h_2 unset =>
    refine ⟨sound.request held other, fun name number => ?_⟩
    rw [sound.mem_queue_request_iff, unset]
    simp
  case h_1 previous lock =>
    rw [lock]
    split
    case isTrue same =>
      subst same
      refine ⟨sound.request previous other, fun name number => ?_⟩
      rw [sound.mem_queue_request_iff, Option.some.injEq]
      tauto
    case isFalse =>
      have freed := sound.release previous other
      refine ⟨freed.request held other, fun name number => ?_⟩
      rw [freed.mem_queue_request_iff, LockTable.mem_queue_release_iff,
        Option.some.injEq]

theorem Lined.setLock (lined : server.Lined late) {other : Nat}
    {session : Session} (here : server.session? other = some session)
    (held : String) :
    (server.setLock other held).Lined fun number =>
      late number ∨ (number = other ∧ session.stopped = true) := by
  obtain ⟨sound, members⟩ := locks_setLock lined.sound here held
  refine ⟨sound, fun name number => ?_, fun number asked => ?_⟩
  · rw [members, lined.queued]
    simp only [claims_setLock here]
    by_cases own : other = number
    · subst own
      simp only [if_true, true_and]
      constructor
      · rintro (⟨⟨stopped, claims, _⟩, elsewhere⟩ | rfl)
        · exact absurd ((claims_iff here).mp claims).1 elsewhere
        · exact ⟨session.stopped, ⟨rfl, rfl⟩, .inr⟩
      · rintro ⟨stopped, ⟨rfl, _⟩, _⟩
        exact .inr rfl
    · have foreign : number ≠ other := fun same => own same.symm
      simp [own, foreign]
  · simp only [claims_setLock here]
    by_cases own : other = number
    · subst own
      refine ⟨held, (if_pos rfl).mpr ⟨rfl, ?_⟩⟩
      rcases asked with before | ⟨_, stopped⟩
      · obtain ⟨name, claims⟩ := lined.asked other before
        exact ((claims_iff here).mp claims).2
      · exact stopped
    · simp only [if_neg own]
      rcases asked with before | ⟨same, _⟩
      · exact lined.asked number before
      · exact absurd same.symm own

theorem claims_stopSession {other : Nat} {session : Session}
    (here : server.session? other = some session) :
    (server.stopSession other).Claims number name stopped ↔
      if other = number then session.lock = some name ∧ stopped = true
      else server.Claims number name stopped := by
  unfold Claims stopSession
  rw [session?_modifySession]
  split
  case isTrue same =>
    subst same
    have unchanged : ∀ locks, ({ server with locks } : Server).session? other =
        some session := fun _ => here
    rw [unchanged]
    simp [Session.stopped, eq_comm]
  case isFalse => exact Iff.rfl

theorem locks_stopSession {other : Nat} {session : Session}
    (sound : server.locks.Sound)
    (here : server.session? other = some session) :
    (server.stopSession other).locks.Sound ∧
      ∀ name number,
        number ∈ (server.stopSession other).locks.queue name ↔
          number ∈ server.locks.queue name ∧
            ¬(number = other ∧ session.lock = some name) := by
  simp only [stopSession, modifySession, here, Option.bind_some]
  split
  case h_1 held lock =>
    refine ⟨sound.release held other, fun name number => ?_⟩
    rw [LockTable.mem_queue_release_iff, lock, Option.some.injEq]
  case h_2 unset =>
    refine ⟨sound, fun name number => ?_⟩
    simp [unset]

theorem Lined.stop (lined : server.Lined late) (other : Nat) :
    (server.handle (.stop other)).Lined late := by
  simp only [handle]
  split
  case isTrue => exact lined
  case isFalse running =>
    cases here : server.session? other with
    | none =>
        refine lined.of_claims ?_ fun number name stopped => ?_
        · simp only [stopSession, here]
          rfl
        · refine claims_modifySession fun session there => ?_
          cases there.symm.trans here
    | some session =>
        rw [here] at running
        -- Whoever is late is stopped already, and this session still runs.
        have notLate : ¬late other := by
          intro asked
          obtain ⟨name, claims⟩ := lined.asked other asked
          exact running ((claims_iff here).mp claims).2
        obtain ⟨sound, members⟩ := locks_stopSession lined.sound here
        refine ⟨sound, fun name number => ?_, fun number asked => ?_⟩
        · rw [members, lined.queued]
          simp only [claims_stopSession here]
          by_cases own : other = number
          · subst own
            refine iff_of_false ?_ ?_
            · rintro ⟨⟨stopped, claims, _⟩, elsewhere⟩
              exact elsewhere ⟨rfl, ((claims_iff here).mp claims).1⟩
            · rintro ⟨stopped, claims, asked⟩
              rw [if_pos rfl] at claims
              exact notLate (asked claims.2)
          · have foreign : number ≠ other := fun same => own same.symm
            simp [own, foreign]
        · have own : other ≠ number := by
            rintro rfl
            exact notLate asked
          simp only [claims_stopSession here, if_neg own]
          exact lined.asked number asked

/-- Only a session that asks for a lock while it is stopped is late. -/
theorem Lined.handle (lined : server.Lined late) (event : Event)
    (opened : ∀ number name, event = .setLock number name →
      ∃ session, server.session? number = some session) :
    (server.handle event).Lined fun number => late number ∨
      ∃ name session, event = .setLock number name ∧
        server.session? number = some session ∧ session.stopped = true := by
  by_cases requests : ∃ other held, event = .setLock other held
  · obtain ⟨other, held, rfl⟩ := requests
    obtain ⟨session, here⟩ := opened other held rfl
    refine (lined.setLock here held).congr fun number => or_congr_right ⟨?_, ?_⟩
    · rintro ⟨rfl, stopped⟩
      exact ⟨held, session, rfl, here, stopped⟩
    · rintro ⟨name, found, same, there, stopped⟩
      cases same
      cases there.symm.trans here
      exact ⟨rfl, stopped⟩
  · have quiet : ∀ number, late number ↔ late number ∨
        ∃ name session, event = .setLock number name ∧
          server.session? number = some session ∧ session.stopped = true := by
      intro number
      refine (or_iff_left ?_).symm
      rintro ⟨name, session, same, _⟩
      exact requests ⟨number, name, same⟩
    refine Lined.congr ?_ quiet
    by_cases stops : ∃ other, event = .stop other
    · obtain ⟨other, rfl⟩ := stops
      exact lined.stop other
    · obtain ⟨locks, claims⟩ := claims_handle
        (fun number name same => requests ⟨number, name, same⟩)
        fun number same => stops ⟨number, same⟩
      exact lined.of_claims locks claims

theorem lined_run (opened : (ofSchema schema).AsksOpen events) :
    ((ofSchema schema).run events).Lined (AsksLate schema events) := by
  induction events using List.reverseRecOn with
  | nil =>
      refine lined_ofSchema fun number => ?_
      rintro ⟨past, name, session, before, _⟩
      simp at before
  | append_singleton events event induction =>
      obtain ⟨earlier, last⟩ := asksOpen_append_iff.mp opened
      rw [run_append]
      refine ((induction earlier).handle event last).congr fun number => ?_
      exact asksLate_append_iff.symm

theorem hasLock_iff {session : Session}
    (here : server.session? number = some session) :
    server.hasLock number = true ↔
      ∃ name, session.lock = some name ∧
        server.locks.holds name number = true := by
  rw [hasLock, here, Option.bind_some]
  cases session.lock <;> simp

/-- A stopped session holds a lock or waits for one just if it asked for one
after it was stopped.  While a session that is not stopped wants a lock, someone
holds it, who is not stopped either or asked for it late. -/
theorem stopped_session_in_line_iff
    (opened : (ofSchema schema).AsksOpen events) :
    let server := (ofSchema schema).run events
    (∀ number session, server.session? number = some session →
      session.stopped = true →
      ((server.hasLock number = true ∨
          ∃ name, number ∈ server.locks.waiting name) ↔
        AsksLate schema events number)) ∧
      ∀ number session name, server.session? number = some session →
        session.stopped = false → session.lock = some name →
        ∃ holder owner, server.session? holder = some owner ∧
          owner.lock = some name ∧ server.hasLock holder = true ∧
          (owner.stopped = true → AsksLate schema events holder) := by
  intro server
  have lined : server.Lined (AsksLate schema events) := lined_run opened
  constructor
  · intro number session here stopped
    have late : ∀ name, number ∈ server.locks.queue name →
        AsksLate schema events number := by
      intro name member
      obtain ⟨_, claims, asked⟩ := (lined.queued name number).mp member
      exact asked (((claims_iff here).mp claims).2.symm.trans stopped)
    constructor
    · rintro (has | ⟨name, waits⟩)
      · obtain ⟨name, _, holds⟩ := (hasLock_iff here).mp has
        exact late name (LockTable.mem_queue_iff.mpr (.inl holds))
      · exact late name (LockTable.mem_queue_iff.mpr (.inr waits))
    · intro asked
      obtain ⟨name, claims⟩ := lined.asked number asked
      have member : number ∈ server.locks.queue name :=
        (lined.queued name number).mpr ⟨true, claims, fun _ => asked⟩
      have lock : session.lock = some name := ((claims_iff here).mp claims).1
      rcases LockTable.mem_queue_iff.mp member with holds | waits
      · exact .inl ((hasLock_iff here).mpr ⟨name, lock, holds⟩)
      · exact .inr ⟨name, waits⟩
  · intro number session name here running lock
    have member : number ∈ server.locks.queue name :=
      (lined.queued name number).mpr
        ⟨false, (claims_iff here).mpr ⟨lock, running⟩, nofun⟩
    obtain ⟨holder, holds⟩ := lined.sound.exists_holds member
    obtain ⟨stopped, ⟨owner, there, claimed, is⟩, asked⟩ :=
      (lined.queued name holder).mp (LockTable.mem_queue_iff.mpr (.inl holds))
    refine ⟨holder, owner, there, claimed, ?_, fun stops => ?_⟩
    · exact (hasLock_iff there).mpr ⟨name, claimed, holds⟩
    · exact asked (is.symm.trans stops)

/-- A session asks for a lock after it was stopped, and is stopped once more.
Another one waits for the lock. -/
def lateRequest : List Event :=
  [.openSession default .small default, .openSession default .small default,
    .stop 0, .setLock 0 "leader", .stop 0, .setLock 1 "leader"]

theorem stopped_session_blocks_lock :
    let server := (ofSchema .small).run lateRequest
    (server.session? 0).any (·.stopped) = true ∧ server.hasLock 0 = true ∧
      (server.session? 1).any (·.stopped) = false ∧
      server.hasLock 1 = false ∧ 1 ∈ server.locks.waiting "leader" := by
  decide +kernel

theorem late_request_is_in_line :
    let server := (ofSchema .small).run lateRequest
    AsksLate .small lateRequest 0 ∧
      (server.hasLock 0 = true ∨ ∃ name, 0 ∈ server.locks.waiting name) ∧
      ∃ holder owner, server.session? holder = some owner ∧
        owner.lock = some "leader" ∧ server.hasLock holder = true ∧
        (owner.stopped = true → AsksLate .small lateRequest holder) := by
  have opened : (ofSchema .small).AsksOpen lateRequest := by
    refine ⟨nofun, nofun, nofun, ?_, nofun, ?_, trivial⟩
    · rintro number name ⟨⟩
      exact ⟨_, rfl⟩
    · rintro number name ⟨⟩
      exact ⟨_, rfl⟩
  have late : AsksLate .small lateRequest 0 :=
    ⟨lateRequest.take 3, "leader", _, ⟨lateRequest.drop 4, rfl⟩, rfl, rfl⟩
  obtain ⟨stopped, wanted⟩ := stopped_session_in_line_iff opened
  refine ⟨late, (stopped 0 _ rfl rfl).mpr late, ?_⟩
  exact wanted 1 _ "leader" rfl rfl rfl

end OvsdbClient.Server
