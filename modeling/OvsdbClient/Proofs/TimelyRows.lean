import OvsdbClient.Proofs.RowWaits

/-!
# When rows are looked for

Whoever waits for a row looks for it at certain moments only: at once, and after
every wait that fits into the budget.  A row that shows up later than the last
of these moments is missed, even if it does so within the budget.
-/

namespace OvsdbClient

namespace RetryPolicy

/-- As long as nothing succeeds, a policy comes to the attempt after a number of
waits. -/
def Allows (policy : RetryPolicy) (draws : Draws) (waits : Nat) : Prop :=
  ∀ earlier < waits, ¬policy.Overruns draws earlier

theorem Allows.slept_le {policy : RetryPolicy} {draws : Draws}
    {budget waits : Nat}
    (allowed : policy.Allows draws waits)
    (limited : policy.maxElapsedMillis = some budget) :
    policy.slept draws waits ≤ budget := by
  cases waits with
  | zero => exact Nat.zero_le budget
  | succ waits =>
      exact slept_le_of_not_overruns limited
        (allowed waits (Nat.lt_succ_self waits))

end RetryPolicy

namespace Network

/-- What a network has become after some milliseconds. -/
def afterMillis (network : Network) (millis : Nat) : Network :=
  network.advance (.ofMillis millis)

/-- What a network has become when the attempt after a number of waits is
made. -/
def attempted (network : Network) (policy : RetryPolicy) (draws : Draws) :
    (waits : Nat) → Network
  | 0 => network
  | waits + 1 => network.afterMillis (policy.slept draws (waits + 1))

/-- A session shows a row of a table with a value in a column. -/
def ShowsRow (network : Network) (id : SessionId) (table column : String)
    (atom : Atom) (row : Row) : Prop :=
  ∃ session, network.session? id = some session ∧
    row ∈ session.replica.rows table ∧ row.holds column atom = true

/-- A session shows some such row. -/
def Shows (network : Network) (id : SessionId) (table column : String)
    (atom : Atom) : Prop :=
  ∃ row, network.ShowsRow id table column atom row

variable {network : Network} {id : SessionId} {table column : String}
  {atom : Atom} {policy : RetryPolicy} {draws : Draws}

/-! ## Moments at which rows are looked for -/

theorem clock_afterMillis (network : Network) (millis : Nat) :
    (network.afterMillis millis).clock = network.clock + millis := by
  rw [afterMillis, clock_advance, Span.ceilMillis_ofMillis]

theorem clock_attempted (network : Network) (policy : RetryPolicy)
    (draws : Draws) (waits : Nat) :
    (network.attempted policy draws waits).clock =
      network.clock + policy.slept draws waits := by
  cases waits with
  | zero => rfl
  | succ waits => exact network.clock_afterMillis _

theorem advance_attempted (network : Network) (policy : RetryPolicy)
    (draws : Draws) (waits : Nat) :
    (network.attempted policy draws waits).advance (policy.wait draws waits) =
      network.attempted policy draws (waits + 1) := by
  cases waits with
  | zero =>
      apply advance_eq_of_ceilMillis_eq
      rw [Span.ceilMillis_ofMillis, RetryPolicy.slept, RetryPolicy.slept,
        Nat.zero_add]
  | succ waits =>
      simp only [attempted, afterMillis]
      rw [advance_advance, Span.ceilMillis_ofMillis, ← RetryPolicy.slept]

theorem afterMillis_of_not_due {millis : Nat}
    (waits : ∀ time, network.settle.due? = some time →
      network.clock + millis < time) :
    network.afterMillis millis =
      { network.settle with clock := network.clock + millis } := by
  have whole : (Span.ofMillis millis).ceilMillis = millis :=
    Span.ceilMillis_ofMillis millis
  rw [afterMillis, advance_eq, whole, happen_of_not_due waits,
    Nat.max_eq_left (Nat.le_add_right ..)]

theorem afterMillis_of_idle {reached millis : Nat}
    (idle : (network.afterMillis reached).Idle) (late : reached ≤ millis) :
    network.afterMillis millis =
      { network.afterMillis reached with clock := network.clock + millis } := by
  obtain ⟨rest, rfl⟩ := Nat.exists_eq_add_of_le late
  have pieces := network.advance_advance (.ofMillis reached) (.ofMillis rest)
  rw [Span.ceilMillis_ofMillis, Span.ceilMillis_ofMillis] at pieces
  rw [afterMillis, ← pieces]
  refine (idle.advance _).trans ?_
  rw [clock_afterMillis, Span.ceilMillis_ofMillis, Nat.add_assoc]

theorem leads_attempted (network : Network) (policy : RetryPolicy)
    (draws : Draws) (waits : Nat) :
    network.Leads (network.attempted policy draws waits) := by
  cases waits with
  | zero => exact leads_of_servers_eq rfl
  | succ waits => exact network.leads_advance _

/-! ## What is found then -/

theorem shows_iff : network.Shows id table column atom ↔
    (network.session? id).any (fun session =>
      (session.replica.rows table).any (·.holds column atom)) = true := by
  simp only [Shows, ShowsRow, Option.any_eq_true, List.any_eq_true]
  constructor
  · rintro ⟨row, session, found, here⟩
    exact ⟨session, found, row, here⟩
  · rintro ⟨session, found, row, here⟩
    exact ⟨row, session, found, here⟩

instance : Decidable (network.Shows id table column atom) :=
  decidable_of_iff' _ shows_iff

theorem attempt_lookup_of_shows (mirrors : network.Mirrors id table)
    (shown : network.Shows id table column atom) :
    ∃ row, network.ShowsRow id table column atom row ∧
      (lookup id table column atom).attempt network = (.ok row, network) := by
  obtain ⟨session, found, attempted⟩ :=
    @exists_attempt_lookup_eq network id table column atom mirrors
  obtain ⟨some, other, there, member, holds⟩ := shown
  cases found.symm.trans there
  have isSome : (session.replica.findFirst? table
      (·.holds column atom)).isSome :=
    List.find?_isSome.mpr ⟨some, member, holds⟩
  obtain ⟨row, first⟩ := Option.isSome_iff_exists.mp isSome
  have holds := List.find?_some first
  refine ⟨row, ⟨session, found, List.mem_of_find?_eq_some first, holds⟩, ?_⟩
  rw [attempted, first]
  rfl

theorem attempt_lookup_of_not_shows (mirrors : network.Mirrors id table)
    (hidden : ¬network.Shows id table column atom) :
    (lookup id table column atom).attempt network =
      (.error (.rowNotFound table column atom.text), network) := by
  obtain ⟨session, found, attempted⟩ :=
    @exists_attempt_lookup_eq network id table column atom mirrors
  have missing : session.replica.findFirst? table (·.holds column atom) =
      none := by
    refine List.find?_eq_none.mpr fun row member holds => ?_
    exact hidden ⟨row, session, found, member, holds⟩
  rw [attempted, missing]
  rfl

/-- The round after a number of waits. -/
def lookupRound (network : Network) (policy : RetryPolicy) (draws : Draws)
    (waits : Nat) : Retriable.Round Network :=
  ⟨policy.backoff draws network.clock waits,
    network.attempted policy draws waits⟩

theorem next?_lookupRound_eq_some_iff (mirrors : network.Mirrors id table)
    {waits : Nat} {later : Retriable.Round Network} :
    (lookup id table column atom).next? Fault.isRowNotFound
        (network.lookupRound policy draws waits) = some later ↔
      (¬(network.attempted policy draws waits).Shows id table column atom ∧
        ¬policy.Overruns draws waits) ∧
        later = network.lookupRound policy draws (waits + 1) := by
  have copied := mirrors.leads (network.leads_attempted policy draws waits)
  have spent := policy.spent_backoff_iff draws network.clock waits
  rw [← clock_attempted] at spent
  have goesOn := network.advance_attempted policy draws waits
  rw [Retriable.next?_eq_some_iff]
  constructor
  · rintro ⟨fault, state, failed, _, left, rfl⟩
    have hidden : ¬(network.attempted policy draws waits).Shows id table column
        atom := by
      intro shown
      obtain ⟨row, _, found⟩ := attempt_lookup_of_shows copied shown
      cases found.symm.trans failed
    cases (attempt_lookup_of_not_shows copied hidden).symm.trans failed
    refine ⟨⟨hidden, fun overrun => left (spent.mpr overrun)⟩, ?_⟩
    exact congrArg (Retriable.Round.mk _) goesOn
  · rintro ⟨⟨hidden, fits⟩, rfl⟩
    refine ⟨_, _, attempt_lookup_of_not_shows copied hidden, rfl,
      fun overrun => fits (spent.mp overrun), ?_⟩
    exact congrArg (Retriable.Round.mk _) goesOn.symm

theorem round?_lookup_eq_some_iff (mirrors : network.Mirrors id table)
    {waits : Nat} {last : Retriable.Round Network} :
    (lookup id table column atom).round? Fault.isRowNotFound
        ((lookup id table column atom).opening policy draws network) waits =
          some last ↔
      (∀ earlier < waits,
        ¬(network.attempted policy draws earlier).Shows id table column atom ∧
          ¬policy.Overruns draws earlier) ∧
        last = network.lookupRound policy draws waits := by
  induction waits generalizing last with
  | zero =>
      constructor
      · intro here
        cases here
        exact ⟨nofun, rfl⟩
      · rintro ⟨_, rfl⟩
        rfl
  | succ waits induction =>
      rw [Retriable.round?, Option.bind_eq_some_iff]
      constructor
      · rintro ⟨round, there, following⟩
        obtain ⟨before, rfl⟩ := induction.mp there
        obtain ⟨here, rfl⟩ :=
          (next?_lookupRound_eq_some_iff mirrors).mp following
        refine ⟨fun earlier low => ?_, rfl⟩
        rcases Nat.lt_succ_iff_lt_or_eq.mp low with lower | rfl
        · exact before earlier lower
        · exact here
      · rintro ⟨before, rfl⟩
        refine ⟨network.lookupRound policy draws waits, ?_, ?_⟩
        · exact induction.mpr
            ⟨fun earlier low => before earlier (Nat.lt_succ_of_lt low), rfl⟩
        · exact (next?_lookupRound_eq_some_iff mirrors).mpr
            ⟨before waits (Nat.lt_succ_self waits), rfl⟩

/-- The answer is that of the first attempt at which the row is shown or after
which the budget is used up. -/
theorem awaitRow?_eq_some_iff (mirrors : network.Mirrors id table)
    {attempts : Nat} {answer : Except Fault Row × Network} :
    network.awaitRow? id policy table column atom attempts draws = some answer ↔
      ∃ waits < attempts,
        (∀ earlier < waits,
          ¬(network.attempted policy draws earlier).Shows id table column atom ∧
            ¬policy.Overruns draws earlier) ∧
          ((network.attempted policy draws waits).Shows id table column atom ∨
            policy.Overruns draws waits) ∧
          (lookup id table column atom).attempt
            (network.attempted policy draws waits) = answer := by
  rw [awaitRow?_eq, Retriable.run?_eq_some_iff]
  refine exists_congr fun waits => and_congr_right fun _ => ?_
  -- The last round is the first that has no next one.
  have ends : (lookup id table column atom).next? Fault.isRowNotFound
        (network.lookupRound policy draws waits) = none ↔
      (network.attempted policy draws waits).Shows id table column atom ∨
        policy.Overruns draws waits := by
    rw [Option.eq_none_iff_forall_ne_some]
    simp only [ne_eq, next?_lookupRound_eq_some_iff mirrors]
    constructor
    · intro last
      apply Classical.byContradiction
      intro neither
      exact last _ ⟨not_or.mp neither, rfl⟩
    · rintro either later ⟨neither, _⟩
      exact not_or.mpr neither either
  constructor
  · rintro ⟨last, here, final, attempted⟩
    obtain ⟨before, rfl⟩ := (round?_lookup_eq_some_iff mirrors).mp here
    exact ⟨before, ends.mp final, attempted⟩
  · rintro ⟨before, final, attempted⟩
    exact ⟨_, (round?_lookup_eq_some_iff mirrors).mpr ⟨before, rfl⟩,
      ends.mpr final, attempted⟩

private theorem exists_first {holds : Nat → Prop} {limit : Nat}
    (reached : ∃ number < limit, holds number) :
    ∃ number < limit, (∀ earlier < number, ¬holds earlier) ∧ holds number := by
  classical
  obtain ⟨low, here⟩ := Nat.find_spec reached
  refine ⟨Nat.find reached, low, fun earlier before there => ?_, here⟩
  exact Nat.find_min reached before ⟨Nat.lt_trans before low, there⟩

/-- An answer comes with the attempt that it is about, which the policy
allows. -/
theorem exists_attempted_of_awaitRow? (mirrors : network.Mirrors id table)
    {attempts : Nat} {answer : Except Fault Row × Network}
    (answered : network.awaitRow? id policy table column atom attempts draws =
      some answer) :
    ∃ waits < attempts, policy.Allows draws waits ∧
      answer.2 = network.attempted policy draws waits ∧
      ((∃ row, answer.1 = .ok row ∧
          answer.2.ShowsRow id table column atom row) ∨
        (answer.1 = .error (.rowNotFound table column atom.text) ∧
          ¬answer.2.Shows id table column atom)) := by
  obtain ⟨waits, low, before, _, rfl⟩ :=
    (awaitRow?_eq_some_iff mirrors).mp answered
  have copied := mirrors.leads (network.leads_attempted policy draws waits)
  refine ⟨waits, low, fun earlier sooner => (before earlier sooner).2, ?_⟩
  by_cases shown :
    (network.attempted policy draws waits).Shows id table column atom
  · obtain ⟨row, here, found⟩ := attempt_lookup_of_shows copied shown
    rw [found]
    exact ⟨rfl, .inl ⟨row, rfl, here⟩⟩
  · rw [attempt_lookup_of_not_shows copied shown]
    exact ⟨rfl, .inr ⟨rfl, shown⟩⟩

theorem exists_awaitRow?_iff_shows_or_overruns
    (mirrors : network.Mirrors id table) (attempts : Nat) :
    (∃ answer, network.awaitRow? id policy table column atom attempts draws =
        some answer) ↔
      ∃ waits < attempts,
        (network.attempted policy draws waits).Shows id table column atom ∨
          policy.Overruns draws waits := by
  constructor
  · rintro ⟨answer, answered⟩
    obtain ⟨waits, low, _, ends, _⟩ :=
      (awaitRow?_eq_some_iff mirrors).mp answered
    exact ⟨waits, low, ends⟩
  · intro reached
    obtain ⟨waits, low, before, ends⟩ := exists_first reached
    exact ⟨_, (awaitRow?_eq_some_iff mirrors).mpr ⟨waits, low,
      fun earlier sooner => not_or.mp (before earlier sooner), ends, rfl⟩⟩

/-- A row is found exactly if it is shown at an attempt that the policy
allows. -/
theorem exists_found_iff (mirrors : network.Mirrors id table)
    (attempts : Nat) :
    (∃ row later, network.awaitRow? id policy table column atom attempts draws =
        some (.ok row, later)) ↔
      ∃ waits < attempts, policy.Allows draws waits ∧
        (network.attempted policy draws waits).Shows id table column atom := by
  constructor
  · rintro ⟨row, later, answered⟩
    obtain ⟨waits, low, allowed, rfl, found | ⟨missing, _⟩⟩ :=
      exists_attempted_of_awaitRow? mirrors answered
    · obtain ⟨other, _, shown⟩ := found
      exact ⟨waits, low, allowed, other, shown⟩
    · cases missing
  · intro reached
    obtain ⟨waits, low, before, allowed, shown⟩ := exists_first reached
    have copied := mirrors.leads (network.leads_attempted policy draws waits)
    obtain ⟨row, _, found⟩ := attempt_lookup_of_shows copied shown
    refine ⟨row, _, (awaitRow?_eq_some_iff mirrors).mpr
      ⟨waits, low, fun earlier sooner => ?_, .inl shown, found⟩⟩
    have fits := allowed earlier sooner
    refine ⟨fun already => before earlier sooner ⟨?_, already⟩, fits⟩
    exact fun first low => allowed first (Nat.lt_trans low sooner)

/-! ## Rows that show up in time -/

/-- From some milliseconds on a session shows some such row, until a limit is
reached. -/
def StaysFrom (network : Network) (id : SessionId) (table column : String)
    (atom : Atom) (arrival limit : Nat) : Prop :=
  ∀ millis, arrival ≤ millis → millis ≤ limit →
    (network.afterMillis millis).Shows id table column atom

/-- A session shows no such row, neither now nor later, until some milliseconds
have passed. -/
structure HiddenUntil (network : Network) (id : SessionId)
    (table column : String) (atom : Atom) (arrival : Nat) : Prop where
  now : ¬network.Shows id table column atom
  before : ∀ millis < arrival,
    ¬(network.afterMillis millis).Shows id table column atom

theorem staysFrom_of_idle {arrival : Nat}
    (idle : (network.afterMillis arrival).Idle)
    (shown : (network.afterMillis arrival).Shows id table column atom)
    (limit : Nat) : network.StaysFrom id table column atom arrival limit := by
  intro millis late _
  rw [afterMillis_of_idle idle late]
  exact shown

theorem hiddenUntil_of_due {arrival : Nat}
    (now : ¬network.Shows id table column atom)
    (settled : ¬network.settle.Shows id table column atom)
    (due : network.settle.due? = some (network.clock + arrival)) :
    network.HiddenUntil id table column atom arrival where
  now := now
  before millis early := by
    rw [afterMillis_of_not_due]
    · exact settled
    · intro time first
      cases due.symm.trans first
      exact Nat.add_lt_add_left early _

theorem StaysFrom.shows_attempted {arrival budget waits : Nat}
    (stays : network.StaysFrom id table column atom arrival budget)
    (limited : policy.maxElapsedMillis = some budget)
    (allowed : policy.Allows draws waits) (some : 0 < waits)
    (late : arrival ≤ policy.slept draws waits) :
    (network.attempted policy draws waits).Shows id table column atom := by
  cases waits with
  | zero => exact absurd some (Nat.lt_irrefl 0)
  | succ waits => exact stays _ late (allowed.slept_le limited)

theorem HiddenUntil.of_shows_attempted {arrival waits : Nat}
    (hidden : network.HiddenUntil id table column atom arrival)
    (shown :
      (network.attempted policy draws waits).Shows id table column atom) :
    0 < waits ∧ arrival ≤ policy.slept draws waits := by
  cases waits with
  | zero => exact absurd shown hidden.now
  | succ waits =>
      exact ⟨Nat.succ_pos waits,
        Nat.le_of_not_lt fun early => hidden.before _ early shown⟩

theorem HiddenUntil.mono {arrival sooner : Nat}
    (hidden : network.HiddenUntil id table column atom arrival)
    (order : sooner ≤ arrival) :
    network.HiddenUntil id table column atom sooner :=
  ⟨hidden.now, fun millis early =>
    hidden.before millis (Nat.lt_of_lt_of_le early order)⟩

theorem HiddenUntil.not_shows_attempted {arrival budget waits : Nat}
    (hidden : network.HiddenUntil id table column atom arrival)
    (late : budget < arrival)
    (limited : policy.maxElapsedMillis = some budget)
    (allowed : policy.Allows draws waits) :
    ¬(network.attempted policy draws waits).Shows id table column atom := by
  intro shown
  have soon := allowed.slept_le limited
  have reached := (hidden.of_shows_attempted shown).2
  omega

/-- A row that is never shown when it is looked for is reported as missing. -/
theorem onlyMisses_of_hidden (mirrors : network.Mirrors id table)
    (hidden : ∀ waits, policy.Allows draws waits →
      ¬(network.attempted policy draws waits).Shows id table column atom) :
    network.OnlyMisses id policy draws table column atom where
  reported attempts answer answered := by
    obtain ⟨waits, _, allowed, same, ⟨row, _, shown⟩ | ⟨failed, _⟩⟩ :=
      exists_attempted_of_awaitRow? mirrors answered
    · rw [same] at shown
      exact absurd ⟨row, shown⟩ (hidden waits allowed)
    · exact failed
  ends attempts := by
    constructor
    · rintro ⟨answer, answered⟩
      obtain ⟨waits, low, before, shown | overrun, _⟩ :=
        (awaitRow?_eq_some_iff mirrors).mp answered
      · have allowed : policy.Allows draws waits := fun earlier sooner =>
          (before earlier sooner).2
        exact absurd shown (hidden waits allowed)
      · exact ⟨waits, low, overrun⟩
    · rintro ⟨waits, low, overrun⟩
      exact (exists_awaitRow?_iff_shows_or_overruns mirrors attempts).mpr
        ⟨waits, low, .inr overrun⟩

/-- What waiting for a row comes to within a budget. -/
structure FindsInTime (network : Network) (id : SessionId)
    (policy : RetryPolicy) (draws : Draws) (table column : String) (atom : Atom)
    (budget : Nat) : Prop where
  /-- No answer comes later than the budget allows. -/
  inTime : ∀ attempts answer,
    network.awaitRow? id policy table column atom attempts draws =
      some answer → answer.2.clock ≤ network.clock + budget
  /-- What is found is shown at that moment. -/
  right : ∀ attempts answer,
    network.awaitRow? id policy table column atom attempts draws =
      some answer →
        (∃ row, answer.1 = .ok row ∧
          answer.2.ShowsRow id table column atom row) ∨
        answer.1 = .error (.rowNotFound table column atom.text)
  atOnce : network.Shows id table column atom →
    ∃ row, network.awaitRow? id policy table column atom 1 draws =
      some (.ok row, network)
  /-- A row that shows up and stays is found if a further attempt is made when
  it is there. -/
  found : ∀ arrival, network.StaysFrom id table column atom arrival budget →
    ∀ waits, policy.Allows draws waits → 0 < waits →
      arrival ≤ policy.slept draws waits →
      ∃ row later,
        network.awaitRow? id policy table column atom (waits + 1) draws =
          some (.ok row, later)
  /-- Nothing is found otherwise, unless another row was there before. -/
  onlyThen : ∀ arrival, network.HiddenUntil id table column atom arrival →
    ∀ attempts row later,
      network.awaitRow? id policy table column atom attempts draws =
        some (.ok row, later) →
      ∃ waits < attempts, policy.Allows draws waits ∧ 0 < waits ∧
        arrival ≤ policy.slept draws waits
  missed : network.HiddenUntil id table column atom (budget + 1) →
    network.OnlyMisses id policy draws table column atom
  missedInTime : network.HiddenUntil id table column atom (budget + 1) →
    policy.validate = .ok () → policy.Steady →
      network.MissesWithin id policy draws table column atom budget

/-- A row that shows up within the budget and stays is found if an attempt is
made when it is there, and otherwise it is not, whatever is drawn. -/
theorem row_is_found_iff_attempt_in_time {budget : Nat}
    (limited : policy.maxElapsedMillis = some budget)
    (mirrors : network.Mirrors id table) (draws : Draws)
    (column : String) (atom : Atom) :
    network.FindsInTime id policy draws table column atom budget := by
  have missed : network.HiddenUntil id table column atom (budget + 1) →
      network.OnlyMisses id policy draws table column atom := fun hidden =>
    onlyMisses_of_hidden mirrors fun _ =>
      hidden.not_shows_attempted (Nat.lt_succ_self budget) limited
  constructor
  case inTime => exact fun _ _ answered => clock_awaitRow?_le limited answered
  case right =>
    intro attempts answer answered
    obtain ⟨_, _, _, _, found | ⟨failed, _⟩⟩ :=
      exists_attempted_of_awaitRow? mirrors answered
    · exact .inl found
    · exact .inr failed
  case atOnce =>
    intro shown
    obtain ⟨row, _, found⟩ := attempt_lookup_of_shows mirrors shown
    exact ⟨row, (awaitRow?_eq_some_iff mirrors).mpr
      ⟨0, Nat.one_pos, nofun, .inl shown, found⟩⟩
  case found =>
    intro arrival stays waits allowed some late
    exact (exists_found_iff mirrors (waits + 1)).mpr ⟨waits,
      Nat.lt_succ_self waits, allowed,
      stays.shows_attempted limited allowed some late⟩
  case onlyThen =>
    intro arrival hidden attempts row later found
    obtain ⟨waits, low, allowed, shown⟩ :=
      (exists_found_iff mirrors attempts).mp ⟨row, later, found⟩
    exact ⟨waits, low, allowed, hidden.of_shows_attempted shown⟩
  case missed => exact missed
  case missedInTime =>
    exact fun hidden valid steady => (missed hidden).within valid steady limited

/-! ## Waits by default -/

/-- A network with a session that follows a table, into which the only row is
put after some milliseconds. -/
def expecting (arrival : Nat) : Network :=
  let endpoint := Endpoint.tcp "127.0.0.1" 6641
  let server := (Server.ofSchema .small).openSession endpoint .small default
  { empty with servers := [server.2] }.schedule (.ofMillis arrival)
    (.insertRow 0 "NB_Global" [("nb_cfg", .atom (.integer 1))]) []

theorem mirrors_expecting (arrival : Nat) :
    (expecting arrival).Mirrors ⟨0, 0⟩ "NB_Global" :=
  ⟨_, rfl, by decide +kernel⟩

/-- The session comes to show the row at that time, and goes on to until ten
seconds have passed. -/
structure Expected (arrival : Nat) : Prop where
  hidden : (expecting arrival).HiddenUntil ⟨0, 0⟩ "NB_Global" "nb_cfg"
    (.integer 1) arrival
  stays : (expecting arrival).StaysFrom ⟨0, 0⟩ "NB_Global" "nb_cfg"
    (.integer 1) arrival 10000

theorem hidden_expecting : (expecting 20000).HiddenUntil ⟨0, 0⟩ "NB_Global"
    "nb_cfg" (.integer 1) 20000 := by
  apply hiddenUntil_of_due <;> decide +kernel

theorem overruns_rowVisibility :
    RetryPolicy.rowVisibility.Overruns .zero 3 :=
  ⟨_, rfl, by decide +kernel⟩

theorem allows_rowVisibility_iff (waits : Nat) :
    RetryPolicy.rowVisibility.Allows .zero waits ↔ waits < 4 := by
  have fits : ∀ earlier < 3,
      ¬RetryPolicy.rowVisibility.Overruns .zero earlier := by
    rintro earlier low ⟨budget, limited, overrun⟩
    cases limited
    revert overrun
    interval_cases earlier <;> decide +kernel
  constructor
  · intro allowed
    exact Nat.lt_of_not_le fun late => allowed 3 late overruns_rowVisibility
  · intro few earlier low
    exact fits earlier (by omega)

theorem slept_rowVisibility_le {waits : Nat} (few : waits < 4) :
    RetryPolicy.rowVisibility.slept .zero waits ≤ 7000 := by
  revert waits
  decide +kernel

/-- By default a row that shows up after six seconds is found after seven, one
that is there already is found at once, and one that shows up after twenty
seconds is reported as missing. -/
theorem row_is_found_in_time_by_default :
    Expected 6000 ∧
      (∃ row later, (expecting 6000).awaitRow? ⟨0, 0⟩ .rowVisibility "NB_Global"
        "nb_cfg" (.integer 1) 4 = some (.ok row, later)) ∧
      (∃ row later, ((expecting 6000).afterMillis 6000).awaitRow? ⟨0, 0⟩
        .rowVisibility "NB_Global" "nb_cfg" (.integer 1) 1 =
          some (.ok row, later)) ∧
      ∀ draws, (expecting 20000).MissesWithin ⟨0, 0⟩ .rowVisibility draws
        "NB_Global" "nb_cfg" (.integer 1) 10000 := by
  have expected : Expected 6000 := by
    refine ⟨hiddenUntil_of_due ?_ ?_ ?_, staysFrom_of_idle ?_ ?_ _⟩ <;>
      decide +kernel
  have steady : RetryPolicy.rowVisibility.Steady :=
    ⟨by decide, by decide +kernel, by decide +kernel⟩
  have mirrors := mirrors_expecting 6000
  refine ⟨expected, ?_, ?_, fun draws => ?_⟩
  · have finds := @row_is_found_iff_attempt_in_time (expecting 6000) ⟨0, 0⟩
      "NB_Global" .rowVisibility 10000 rfl mirrors .zero "nb_cfg" (.integer 1)
    have allowed := (allows_rowVisibility_iff 3).mpr (by decide)
    exact finds.found 6000 expected.stays 3 allowed (by decide)
      (by decide +kernel)
  · have finds := @row_is_found_iff_attempt_in_time
      ((expecting 6000).afterMillis 6000) ⟨0, 0⟩ "NB_Global" .rowVisibility
      10000 rfl (mirrors.leads (leads_advance _ _)) .zero "nb_cfg" (.integer 1)
    obtain ⟨row, found⟩ := finds.atOnce (by decide +kernel)
    exact ⟨row, _, found⟩
  · have finds := @row_is_found_iff_attempt_in_time (expecting 20000) ⟨0, 0⟩
      "NB_Global" .rowVisibility 10000 rfl (mirrors_expecting 20000) draws
      "nb_cfg" (.integer 1)
    have hidden := hidden_expecting.mono (by decide : 10001 ≤ 20000)
    exact finds.missedInTime hidden (by decide +kernel) steady

/-- By default a row that shows up after eight seconds is missed, although the
budget is ten; and a policy whose waits vanish never comes to the end of its
budget. -/
theorem row_within_budget_may_be_missed :
    (RetryPolicy.rowVisibility.maxElapsedMillis = some 10000 ∧
      (expecting 8000).Mirrors ⟨0, 0⟩ "NB_Global" ∧ Expected 8000 ∧
      let wait := (expecting 8000).awaitRow? ⟨0, 0⟩ .rowVisibility "NB_Global"
        "nb_cfg" (.integer 1)
      (∃ answer, wait 4 = some answer) ∧
        ∀ attempts answer, wait attempts = some answer →
          answer.1 = .error (.rowNotFound "NB_Global" "nb_cfg" "1") ∧
            answer.2.clock ≤ 7000) ∧
      let policy : RetryPolicy := ⟨1, 1, 1.0, 0.9999999, some 10000⟩
      policy.validate = .ok () ∧
        (expecting 20000).Mirrors ⟨0, 0⟩ "NB_Global" ∧
        (expecting 20000).HiddenUntil ⟨0, 0⟩ "NB_Global" "nb_cfg" (.integer 1)
          20000 ∧
        ∀ attempts, (expecting 20000).awaitRow? ⟨0, 0⟩ policy "NB_Global"
          "nb_cfg" (.integer 1) attempts = none := by
  have expected : Expected 8000 := by
    refine ⟨hiddenUntil_of_due ?_ ?_ ?_, staysFrom_of_idle ?_ ?_ _⟩ <;>
      decide +kernel
  have mirrors := mirrors_expecting 8000
  refine ⟨⟨rfl, mirrors, expected, ?_, ?_⟩, by decide +kernel,
    mirrors_expecting 20000, hidden_expecting, ?_⟩
  · exact (exists_awaitRow?_iff_shows_or_overruns mirrors 4).mpr
      ⟨3, by decide, .inr overruns_rowVisibility⟩
  · intro attempts answer answered
    obtain ⟨waits, _, allowed, same, outcome⟩ :=
      exists_attempted_of_awaitRow? mirrors answered
    have soon := slept_rowVisibility_le
      ((allows_rowVisibility_iff waits).mp allowed)
    rw [same, clock_attempted]
    refine ⟨?_, Nat.le_trans (Nat.le_of_eq (Nat.zero_add _)) soon⟩
    rcases outcome with ⟨row, _, shown⟩ | ⟨missing, _⟩
    · rw [same] at shown
      have late := (expected.hidden.of_shows_attempted ⟨row, shown⟩).2
      omega
    · exact missing
  · have missed := @onlyMisses_of_hidden _ _ _ "nb_cfg" (.integer 1)
      ⟨1, 1, 1.0, 0.9999999, some 10000⟩ .zero (mirrors_expecting 20000)
      fun _ => hidden_expecting.not_shows_attempted
        (by decide : 10000 < 20000) rfl
    intro attempts
    rw [Option.eq_none_iff_forall_ne_some]
    intro answer answered
    obtain ⟨waits, _, overrun⟩ :=
      (missed.ends attempts).mp ⟨answer, answered⟩
    exact RetryPolicy.not_overruns_of_vanishing rfl (by decide +kernel)
      (fun _ => rfl) (by decide +kernel) (by decide +kernel) waits overrun

end Network

end OvsdbClient
