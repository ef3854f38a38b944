import OvsdbClient.Proofs.PassingTime

/-!
# Moments

Time can be let pass in pieces.  Where a piece ends makes no difference to what
happens later, since sessions that have settled have nothing to do again before
the next thing is due.  So what a network becomes some time from now can be
named by that time alone.
-/

namespace OvsdbClient

theorem Span.ceilMillis_ofMillis (millis : Nat) :
    (Span.ofMillis millis).ceilMillis = millis := by
  simp only [Span.ceilMillis, Span.ofMillis]
  omega

namespace Session

variable {session next : Session} {database : Database} {delay : Span}
  {now later : Nat}

theorem step?_steps {fuel : Nat} (enough : session.workload database ≤ fuel) :
    (steps database delay now fuel session).1.step? database delay now =
      none := by
  induction fuel generalizing session with
  | zero =>
      cases stepped : session.step? database delay now with
      | none => exact stepped
      | some done =>
          have less := workload_of_step? stepped
          omega
  | succ fuel induction =>
      simp only [steps]
      split
      case h_1 next notices stepped =>
        have less := workload_of_step? stepped
        exact induction (by omega)
      case h_2 ready => exact ready

theorem step?_settle (session : Session) (database : Database) (delay : Span)
    (now : Nat) :
    (session.settle database delay now).1.step? database delay now = none :=
  step?_steps (Nat.le_refl _)

theorem settle_of_step?_eq_none
    (still : session.step? database delay now = none) :
    session.settle database delay now = (session, []) := by
  unfold settle
  cases session.workload database with
  | zero => rfl
  | succ fuel => simp only [steps, still]

/-- A session with nothing to do has nothing to do either before its next
announcement is due. -/
theorem step?_eq_none_of_le (still : session.step? database delay now = none)
    (waits : ∀ time, session.due? = some time → later < time) :
    session.step? database delay later = none := by
  unfold step? at still ⊢
  split
  case isFalse => rfl
  case isTrue following =>
    rw [if_pos following] at still
    unfold proceed? at still ⊢
    cases held : session.inHand with
    | some held' =>
        obtain ⟨announcement, due⟩ := held'
        have soon := waits due (by simp [due?, following, held])
        exact if_neg (by omega)
    | none =>
        rw [held] at still
        dsimp only at still ⊢
        split at still
        case isTrue => cases still
        case isFalse behind =>
          rw [if_neg behind]
          cases coming : database.announcements[session.received]? with
          | none => rfl
          | some announcement =>
              rw [coming] at still
              cases still

end Session

namespace Network

variable {network : Network} {done : Network → Bool}
  {first second fuel more rest : Nat}

/-- No session has anything to do without waiting. -/
def Still (network : Network) : Prop :=
  ∀ server ∈ network.servers, ∀ session ∈ server.sessions,
    session.step? server.database server.delay network.clock = none

theorem still_settle (network : Network) : network.settle.Still := by
  intro server member session opened
  obtain ⟨settled, listed, rfl⟩ := List.mem_map.mp member
  obtain ⟨before, here, rfl⟩ := List.mem_map.mp listed
  obtain ⟨left, among, rfl⟩ := List.mem_map.mp opened
  obtain ⟨was, there, rfl⟩ := List.mem_map.mp among
  exact was.step?_settle before.database before.delay network.clock

theorem Still.settle (still : network.Still) : network.settle = network := by
  have each : ∀ server ∈ network.servers,
      server.settle network.clock = (server, []) := by
    intro server member
    have alone : ∀ session ∈ server.sessions,
        session.settle server.database server.delay network.clock =
          (session, []) := fun session opened =>
      Session.settle_of_step?_eq_none (still server member session opened)
    simp only [Server.settle, List.map_congr_left alone, List.map_map]
    simp [Function.comp_def]
  have quiet : (network.servers.map fun server =>
      server.settle network.clock).flatMap Prod.snd = [] := by
    apply List.flatMap_eq_nil_iff.mpr
    intro settled member
    obtain ⟨server, here, rfl⟩ := List.mem_map.mp member
    rw [each server here]
  simp only [Network.settle, quiet]
  simp only [List.map_congr_left each, List.map_map]
  simp [Function.comp_def, note]

private theorem exists_min?_le {times : List Nat} {time : Nat}
    (member : time ∈ times) :
    ∃ least, times.min? = some least ∧ least ≤ time := by
  obtain ⟨least, found⟩ :=
    Option.isSome_iff_exists.mp (List.isSome_min?_of_mem member)
  exact ⟨least, found, (List.min?_eq_some_iff.mp found).2 time member⟩

theorem exists_due?_le {server : Server} {session : Session} {time : Nat}
    (member : server ∈ network.servers) (opened : session ∈ server.sessions)
    (waits : session.due? = some time) :
    ∃ sooner, network.due? = some sooner ∧ sooner ≤ time := by
  obtain ⟨next, isNext, low⟩ :=
    exists_min?_le (List.mem_filterMap.mpr ⟨session, opened, waits⟩)
  have inServer : server.due? = some next := isNext
  obtain ⟨sooner, due, lower⟩ := exists_min?_le (List.mem_append_right
    (network.agenda.head?.map (·.time)).toList
    (List.mem_filterMap.mpr ⟨server, member, inServer⟩))
  exact ⟨sooner, due, Nat.le_trans lower low⟩

theorem Still.until (still : network.Still) {later : Nat}
    (waits : ∀ time, network.due? = some time → later < time) :
    ({ network with clock := later } : Network).Still := by
  intro server member session opened
  refine Session.step?_eq_none_of_le (still server member session opened) ?_
  intro time due
  obtain ⟨sooner, first, low⟩ := exists_due?_le member opened due
  exact Nat.lt_of_lt_of_le (waits sooner first) low

theorem happen_eq_of_enough (enough : network.settle.load < fuel)
    (also : network.settle.load < more) (deadline : Nat) :
    happen done deadline fuel network = happen done deadline more network := by
  induction fuel generalizing network more with
  | zero => exact absurd enough (Nat.not_lt_zero _)
  | succ fuel induction =>
      cases more with
      | zero => exact absurd also (Nat.not_lt_zero _)
      | succ more =>
          simp only [happen]
          split
          case isTrue => rfl
          case isFalse =>
            split
            case h_1 time due =>
              split
              case isTrue =>
                have less := load_moveTo_lt due
                exact induction (by omega) (by omega)
              case isFalse => rfl
            case h_2 => rfl

theorem moveTo_withClock (network : Network) (now time : Nat) :
    ({ network with clock := now } : Network).moveTo time =
      network.moveTo time :=
  rfl

abbrev never : Network → Bool := fun _ => false

theorem happen_of_due {time : Nat} (due : network.settle.due? = some time)
    (sooner : time ≤ first) :
    happen never first (fuel + 1) network =
      happen never first fuel
        (network.settle.moveTo (max time network.clock)) := by
  simp only [happen, Bool.false_eq_true, if_false, due, if_pos sooner]
  rfl

theorem happen_of_not_due
    (waits : ∀ time, network.settle.due? = some time → first < time) :
    happen never first (fuel + 1) network =
      { network.settle with clock := max first network.clock } := by
  simp only [happen, Bool.false_eq_true, if_false]
  cases due : network.settle.due? with
  | none => rfl
  | some time =>
      have late := waits time due
      exact if_neg (by omega)

/-- Letting time pass to a moment before which nothing is due changes nothing of
what happens later. -/
theorem happen_paused
    (waits : ∀ time, network.settle.due? = some time → first < time)
    (order : first ≤ second) (early : network.clock ≤ first)
    (enough : network.settle.load < fuel)
    (also : network.settle.load < more) :
    happen never second fuel { network.settle with clock := first } =
      happen never second more network := by
  generalize paused_eq : { network.settle with clock := first } = paused
  have quiet : paused.settle = paused := by
    rw [← paused_eq]
    exact (network.still_settle.until waits).settle
  have same : paused.due? = network.settle.due? := by
    rw [← paused_eq]
    rfl
  have clock : paused.clock = first := by rw [← paused_eq]
  obtain ⟨fuel, rfl⟩ := Nat.exists_eq_succ_of_ne_zero (Nat.ne_zero_of_lt enough)
  obtain ⟨more, rfl⟩ := Nat.exists_eq_succ_of_ne_zero (Nat.ne_zero_of_lt also)
  by_cases soon : ∃ time, network.settle.due? = some time ∧ time ≤ second
  · obtain ⟨time, due, low⟩ := soon
    have late := waits time due
    -- Moving on forgets at what time it began.
    have moved : paused.settle.moveTo (max time paused.clock) =
        network.settle.moveTo (max time network.clock) := by
      rw [quiet, clock, Nat.max_eq_left (by omega), Nat.max_eq_left (by omega),
        ← paused_eq, moveTo_withClock]
    have less : (network.settle.moveTo (max time network.clock)).settle.load <
        network.settle.load := load_moveTo_lt due
    rw [happen_of_due (by rw [quiet, same, due]) low, happen_of_due due low,
      moved]
    exact happen_eq_of_enough (by omega) (by omega) second
  · have nothing : ∀ time, network.settle.due? = some time → second < time :=
      fun time due => Nat.lt_of_not_le fun low => soon ⟨time, due, low⟩
    rw [happen_of_not_due (by rwa [quiet, same]), happen_of_not_due nothing,
      quiet, clock, Nat.max_eq_left order,
      Nat.max_eq_left (Nat.le_trans early order), ← paused_eq]

/-- What happens by a deadline and then by a later one is what happens by the
later one. -/
theorem happen_happen (order : first ≤ second) (early : network.clock ≤ first)
    (enough : network.settle.load < fuel) (also : network.settle.load < more)
    (left : (happen never first fuel network).settle.load < rest) :
    happen never second rest (happen never first fuel network) =
      happen never second more network := by
  -- Both go through the same things up to the first deadline, and there the
  -- pause makes no difference.
  induction fuel generalizing network more with
  | zero => exact absurd enough (Nat.not_lt_zero _)
  | succ fuel induction =>
      by_cases soon : ∃ time, network.settle.due? = some time ∧ time ≤ first
      · obtain ⟨time, due, sooner⟩ := soon
        obtain ⟨more, rfl⟩ :=
          Nat.exists_eq_succ_of_ne_zero (Nat.ne_zero_of_lt also)
        have less :
            (network.settle.moveTo (max time network.clock)).settle.load <
              network.settle.load := load_moveTo_lt due
        rw [happen_of_due due sooner] at left ⊢
        rw [happen_of_due due (Nat.le_trans sooner order)]
        refine induction ?_ (by omega) (by omega) left
        rw [clock_moveTo]
        exact Nat.max_le.mpr ⟨sooner, early⟩
      · have waits : ∀ time, network.settle.due? = some time →
            first < time := fun time due =>
          Nat.lt_of_not_le fun sooner => soon ⟨time, due, sooner⟩
        rw [happen_of_not_due waits, Nat.max_eq_left early] at left ⊢
        refine happen_paused waits order early ?_ also
        have quiet := (network.still_settle.until waits).settle
        rwa [quiet] at left

variable (network)

theorem advance_eq (span : Span) :
    network.advance span = happen never (network.clock + span.ceilMillis)
      (network.load + 2) network := by
  rw [← workload_eq]
  rfl

theorem advance_eq_of_ceilMillis_eq {span other : Span}
    (same : span.ceilMillis = other.ceilMillis) :
    network.advance span = network.advance other := by
  rw [advance_eq, same, ← advance_eq]

/-- Time can be let pass in pieces. -/
theorem advance_advance (span other : Span) :
    (network.advance span).advance other =
      network.advance (.ofMillis (span.ceilMillis + other.ceilMillis)) := by
  have enough := network.load_settle_le
  have left := (network.advance span).load_settle_le
  rw [advance_eq _ other, clock_advance, advance_eq _ (.ofMillis _),
    Span.ceilMillis_ofMillis, ← Nat.add_assoc, advance_eq _ span] at *
  apply happen_happen <;> omega

end Network

end OvsdbClient
