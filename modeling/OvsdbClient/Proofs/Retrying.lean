import OvsdbClient.Retry.Run

/-!
# Rounds of a retried operation

An operation that is retried goes through rounds, each an attempt with the wait
after it.  It ends with the first round that has no next one, and what it
answers is what that round's attempt answered.  As long as attempts fail in a
way that is retried, the policy alone decides which round is the last.
-/

namespace OvsdbClient

namespace Backoff

variable {backoff : Backoff} {now : Nat}

def later (backoff : Backoff) : Backoff :=
  { backoff with
    interval := backoff.policy.grown backoff.interval
    used := backoff.used + 1 }

/-- The next wait would overrun the budget. -/
def Spent (backoff : Backoff) (now : Nat) : Prop :=
  ∃ budget, backoff.policy.maxElapsed? = some budget ∧
    budget.nanos <
      (Span.ofMillis (now - backoff.start)).nanos + backoff.wait.nanos

theorem not_spent_of_unlimited
    (unlimited : backoff.policy.maxElapsedMillis = none) (now : Nat) :
    ¬backoff.Spent now := by
  rintro ⟨budget, limited, _⟩
  simp [RetryPolicy.maxElapsed?, unlimited] at limited

theorem next_of_spent (spent : backoff.Spent now) :
    (backoff.next now).1 = none := by
  obtain ⟨budget, limited, overrun⟩ := spent
  unfold next
  simp only [limited]
  split
  · rfl
  · rw [if_neg (by omega)]

theorem next_of_not_spent (left : ¬backoff.Spent now) :
    backoff.next now = (some backoff.wait, backoff.later) := by
  unfold next
  cases limited : backoff.policy.maxElapsed? with
  | none => rfl
  | some budget =>
      have fits : ¬budget.nanos <
          (Span.ofMillis (now - backoff.start)).nanos + backoff.wait.nanos :=
        fun overrun => left ⟨budget, limited, overrun⟩
      simp only
      rw [if_neg (by omega), if_pos (by omega)]
      rfl

end Backoff

namespace RetryPolicy

variable {policy : RetryPolicy} {draws : Draws}

def interval (policy : RetryPolicy) : (waits : Nat) → Span
  | 0 => .ofMillis policy.initialMillis
  | waits + 1 => policy.grown (policy.interval waits)

def backoff (policy : RetryPolicy) (draws : Draws) (start waits : Nat) :
    Backoff :=
  ⟨policy, policy.interval waits, start, draws, waits⟩

/-- The wait that comes after a number of others. -/
def wait (policy : RetryPolicy) (draws : Draws) (waits : Nat) : Span :=
  (policy.backoff draws 0 waits).wait

/-- How long a number of waits takes, in milliseconds. -/
def slept (policy : RetryPolicy) (draws : Draws) : (waits : Nat) → Nat
  | 0 => 0
  | waits + 1 => policy.slept draws waits + (policy.wait draws waits).ceilMillis

/-- After a number of waits the next one would overrun the budget. -/
def Overruns (policy : RetryPolicy) (draws : Draws) (waits : Nat) : Prop :=
  ∃ budget, policy.maxElapsed? = some budget ∧
    budget.nanos < (Span.ofMillis (policy.slept draws waits)).nanos +
      (policy.wait draws waits).nanos

theorem later_backoff (policy : RetryPolicy) (draws : Draws)
    (start waits : Nat) :
    (policy.backoff draws start waits).later =
      policy.backoff draws start (waits + 1) :=
  rfl

theorem wait_backoff (policy : RetryPolicy) (draws : Draws)
    (start waits : Nat) :
    (policy.backoff draws start waits).wait = policy.wait draws waits :=
  rfl

theorem spent_backoff_iff (policy : RetryPolicy) (draws : Draws)
    (start waits : Nat) :
    (policy.backoff draws start waits).Spent
        (start + policy.slept draws waits) ↔
      policy.Overruns draws waits := by
  unfold Backoff.Spent
  rw [wait_backoff]
  simp only [backoff, Nat.add_sub_cancel_left]
  rfl

theorem not_overruns_of_unlimited (unlimited : policy.maxElapsedMillis = none)
    (waits : Nat) : ¬policy.Overruns draws waits := by
  rw [← policy.spent_backoff_iff draws 0 waits]
  exact Backoff.not_spent_of_unlimited unlimited _

/-- If no wait vanishes, each takes at least a millisecond, so that a budget is
overrun after as many waits as it has milliseconds. -/
theorem overruns_of_limited {budget : Nat}
    (limited : policy.maxElapsedMillis = some budget)
    (positive : ∀ waits, 0 < (policy.wait draws waits).nanos) :
    policy.Overruns draws budget := by
  have slept : ∀ waits, waits ≤ policy.slept draws waits := by
    intro waits
    induction waits with
    | zero => exact Nat.zero_le _
    | succ waits induction =>
        have some := positive waits
        simp only [RetryPolicy.slept, Span.ceilMillis]
        omega
  have long := slept budget
  have last := positive budget
  refine ⟨Span.ofMillis budget, by simp [maxElapsed?, limited], ?_⟩
  simp only [Span.ofMillis]
  omega

theorem interval_of_fixed (fixed : policy.interval 2 = policy.interval 1)
    (waits : Nat) : policy.interval (waits + 1) = policy.interval 1 := by
  induction waits with
  | zero => rfl
  | succ waits induction =>
      rw [interval, induction]
      exact fixed

theorem wait_congr {waits others : Nat}
    (intervals : policy.interval waits = policy.interval others)
    (drawn : draws waits = draws others) :
    policy.wait draws waits = policy.wait draws others := by
  simp only [wait, backoff, Backoff.wait, intervals, drawn]

/-- A budget is never overrun if no wait but the first takes time. -/
theorem not_overruns_of_vanishing {budget : Nat}
    (limited : policy.maxElapsedMillis = some budget)
    (fixed : policy.interval 2 = policy.interval 1)
    (level : ∀ waits, draws (waits + 1) = draws 1)
    (gone : policy.wait draws 1 = .zero)
    (fits : (policy.wait draws 0).nanos ≤ (Span.ofMillis budget).nanos)
    (waits : Nat) : ¬policy.Overruns draws waits := by
  have none : ∀ waits, policy.wait draws (waits + 1) = .zero :=
    fun waits =>
      (wait_congr (interval_of_fixed fixed waits) (level waits)).trans gone
  have slept : ∀ waits,
      policy.slept draws (waits + 1) = (policy.wait draws 0).ceilMillis := by
    intro waits
    induction waits with
    | zero => rw [RetryPolicy.slept, RetryPolicy.slept, Nat.zero_add]
    | succ waits induction =>
        rw [RetryPolicy.slept, induction, none]
        exact Nat.add_zero _
  intro ⟨_, same, overrun⟩
  rw [maxElapsed?, limited] at same
  cases same
  cases waits with
  | zero =>
      have nothing : policy.slept draws 0 = 0 := rfl
      simp only [nothing, Span.ofMillis] at overrun fits
      omega
  | succ waits =>
      rw [slept, none] at overrun
      simp only [Span.ofMillis, Span.ceilMillis, Span.zero] at overrun fits
      omega

theorem slept_le_of_not_overruns {budget waits : Nat}
    (limited : policy.maxElapsedMillis = some budget)
    (fits : ¬policy.Overruns draws waits) :
    policy.slept draws (waits + 1) ≤ budget := by
  have short : ¬(Span.ofMillis budget).nanos <
      (Span.ofMillis (policy.slept draws waits)).nanos +
        (policy.wait draws waits).nanos :=
    fun overrun => fits ⟨_, by rw [maxElapsed?, limited]; rfl, overrun⟩
  simp only [Span.ofMillis] at short
  simp only [slept, Span.ceilMillis]
  omega

end RetryPolicy

namespace Retriable

variable {σ α : Type} {operation : Retriable σ α} {retryable : Fault → Bool}
  {policy : RetryPolicy} {draws : Draws} {state : σ}

/-- The backoff and the state right before an attempt. -/
structure Round (σ : Type) where
  backoff : Backoff
  state : σ

/-- The round after one whose attempt is to be repeated. -/
def next? (operation : Retriable σ α) (retryable : Fault → Bool)
    (round : Round σ) : Option (Round σ) :=
  match operation.attempt round.state with
  | (.ok _, _) => none
  | (.error fault, state) =>
      if retryable fault then
        match round.backoff.next (operation.clock state) with
        | (some delay, backoff) =>
            some ⟨backoff, operation.pause fault delay state⟩
        | (none, _) => none
      else
        none

def round? (operation : Retriable σ α) (retryable : Fault → Bool)
    (first : Round σ) : (number : Nat) → Option (Round σ)
  | 0 => some first
  | number + 1 =>
      (operation.round? retryable first number).bind
        (operation.next? retryable)

def opening (operation : Retriable σ α) (policy : RetryPolicy) (draws : Draws)
    (state : σ) : Round σ :=
  ⟨.begin policy (operation.clock state) draws, state⟩

theorem round?_succ (operation : Retriable σ α) (retryable : Fault → Bool)
    (first : Round σ) (number : Nat) :
    operation.round? retryable first (number + 1) =
      (operation.next? retryable first).bind
        (operation.round? retryable · number) := by
  induction number with
  | zero => exact (Option.bind_fun_some _).symm
  | succ number induction =>
      rw [round?, induction, Option.bind_assoc]
      rfl

/-- An attempt is repeated if it failed in a way that is retried and the wait
before the next one fits into the budget. -/
theorem next?_eq_some_iff {round later : Round σ} :
    operation.next? retryable round = some later ↔
      ∃ fault state, operation.attempt round.state = (.error fault, state) ∧
        retryable fault = true ∧
        ¬round.backoff.Spent (operation.clock state) ∧
        later = ⟨round.backoff.later,
          operation.pause fault round.backoff.wait state⟩ := by
  unfold next?
  split
  case h_1 value state done => simp [done]
  case h_2 fault state failed =>
    simp only [failed, Prod.mk.injEq, Except.error.injEq]
    by_cases retried : retryable fault = true
    · rw [if_pos retried]
      by_cases spent : round.backoff.Spent (operation.clock state)
      · have ends := Backoff.next_of_spent spent
        constructor
        · intro following
          split at following
          case h_1 delay backoff same =>
            rw [same] at ends
            cases ends
          case h_2 => cases following
        · rintro ⟨_, _, ⟨rfl, rfl⟩, _, left, _⟩
          exact absurd spent left
      · simp only [Backoff.next_of_not_spent spent]
        constructor
        · intro same
          exact ⟨fault, state, ⟨rfl, rfl⟩, retried, spent,
            (Option.some.inj same).symm⟩
        · rintro ⟨_, _, ⟨rfl, rfl⟩, _, _, same⟩
          rw [same]
    · rw [if_neg retried]
      constructor
      · exact nofun
      · rintro ⟨_, _, ⟨rfl, rfl⟩, accepted, _⟩
        exact absurd accepted retried

theorem exists_round?_of_le {first last : Round σ} {number earlier : Nat}
    (here : operation.round? retryable first number = some last)
    (before : earlier ≤ number) :
    ∃ round, operation.round? retryable first earlier = some round := by
  induction number generalizing last with
  | zero => exact ⟨last, Nat.le_zero.mp before ▸ here⟩
  | succ number induction =>
      rcases Nat.lt_or_eq_of_le before with lower | same
      · obtain ⟨previous, there, _⟩ := Option.bind_eq_some_iff.mp here
        exact induction there (Nat.le_of_lt_succ lower)
      · exact ⟨last, same ▸ here⟩

theorem backoff_round? {number : Nat} {last : Round σ}
    (here : operation.round? retryable (operation.opening policy draws state)
      number = some last) :
    last.backoff = policy.backoff draws (operation.clock state) number := by
  induction number generalizing last with
  | zero =>
      cases here
      rfl
  | succ number induction =>
      obtain ⟨round, there, following⟩ := Option.bind_eq_some_iff.mp here
      obtain ⟨_, _, _, _, _, rfl⟩ := next?_eq_some_iff.mp following
      rw [← RetryPolicy.later_backoff, ← induction there]

theorem continue?_succ (operation : Retriable σ α) (retryable : Fault → Bool)
    (fuel : Nat) (first : Round σ) :
    operation.continue? retryable (fuel + 1) first.backoff first.state =
      match operation.next? retryable first with
      | none => some (operation.attempt first.state)
      | some later =>
          operation.continue? retryable fuel later.backoff later.state := by
  simp only [continue?, next?]
  split
  case h_1 value state done => simp only [done]
  case h_2 fault state failed =>
    simp only [failed]
    cases retryable fault with
    | false => rfl
    | true =>
        simp only [if_true]
        cases first.backoff.next (operation.clock state) with
        | mk delay backoff => cases delay <;> rfl

/-- A retried operation answers what the attempt of its last round answers. -/
theorem continue?_eq_some_iff {fuel : Nat} {first : Round σ}
    {answer : Except Fault α × σ} :
    operation.continue? retryable fuel first.backoff first.state =
        some answer ↔
      ∃ number < fuel, ∃ last,
        operation.round? retryable first number = some last ∧
          operation.next? retryable last = none ∧
          operation.attempt last.state = answer := by
  induction fuel generalizing first with
  | zero => simp [continue?]
  | succ fuel induction =>
      rw [continue?_succ]
      cases following : operation.next? retryable first with
      | none =>
          have alone : ∀ number, operation.round? retryable first
              (number + 1) = none := by
            intro number
            rw [round?_succ, following]
            rfl
          constructor
          · intro same
            exact ⟨0, by omega, first, rfl, following, Option.some.inj same⟩
          · rintro ⟨number, _, last, here, _, same⟩
            cases number with
            | zero =>
                cases here
                exact congrArg some same
            | succ number =>
                rw [alone] at here
                cases here
      | some later =>
          refine induction.trans ?_
          constructor
          · rintro ⟨number, low, last, here, rest⟩
            refine ⟨number + 1, by omega, last, ?_, rest⟩
            rw [round?_succ, following]
            exact here
          · rintro ⟨number, low, last, here, rest⟩
            cases number with
            | zero =>
                cases here
                rw [following] at rest
                cases rest.1
            | succ number =>
                rw [round?_succ, following] at here
                exact ⟨number, by omega, last, here, rest⟩

theorem run?_eq_some_iff {fuel : Nat} {answer : Except Fault α × σ} :
    operation.run? policy retryable fuel state draws = some answer ↔
      ∃ number < fuel, ∃ last,
        operation.round? retryable (operation.opening policy draws state)
            number = some last ∧
          operation.next? retryable last = none ∧
          operation.attempt last.state = answer := by
  rw [← continue?_eq_some_iff]
  rfl

/-- What attempts and the waits between them keep holds before every round. -/
theorem round?_keeps (invariant : σ → Prop)
    (attempts : ∀ state, invariant state →
      invariant (operation.attempt state).2)
    (pauses : ∀ fault delay state, invariant state →
      invariant (operation.pause fault delay state))
    (holds : invariant state) {number : Nat} {last : Round σ}
    (here : operation.round? retryable (operation.opening policy draws state)
      number = some last) : invariant last.state := by
  induction number generalizing last with
  | zero =>
      cases here
      exact holds
  | succ number induction =>
      obtain ⟨round, there, following⟩ := Option.bind_eq_some_iff.mp here
      obtain ⟨fault, after, failed, _, _, rfl⟩ :=
        next?_eq_some_iff.mp following
      have kept := attempts round.state (induction there)
      rw [failed] at kept
      exact pauses fault _ after kept

theorem exists_attempt_of_run? (invariant : σ → Prop)
    (attempts : ∀ state, invariant state →
      invariant (operation.attempt state).2)
    (pauses : ∀ fault delay state, invariant state →
      invariant (operation.pause fault delay state))
    (holds : invariant state) {fuel : Nat} {answer : Except Fault α × σ}
    (ran : operation.run? policy retryable fuel state draws = some answer) :
    ∃ last, invariant last ∧ operation.attempt last = answer := by
  obtain ⟨number, _, last, here, _, attempted⟩ := run?_eq_some_iff.mp ran
  exact ⟨last.state, round?_keeps invariant attempts pauses holds here,
    attempted⟩

theorem run?_keeps (invariant : σ → Prop)
    (attempts : ∀ state, invariant state →
      invariant (operation.attempt state).2)
    (pauses : ∀ fault delay state, invariant state →
      invariant (operation.pause fault delay state))
    (holds : invariant state) {fuel : Nat} {answer : Except Fault α × σ}
    (ran : operation.run? policy retryable fuel state draws = some answer) :
    invariant answer.2 := by
  obtain ⟨last, kept, rfl⟩ :=
    exists_attempt_of_run? invariant attempts pauses holds ran
  exact attempts last kept

/-! ## How long it takes -/

/-- Attempts take no time, and a wait takes its time in whole milliseconds. -/
structure Timely (operation : Retriable σ α) : Prop where
  attempt : ∀ state,
    operation.clock (operation.attempt state).2 = operation.clock state
  pause : ∀ fault delay state,
    operation.clock (operation.pause fault delay state) =
      operation.clock state + delay.ceilMillis

theorem Timely.clock_round? (timely : operation.Timely) {number : Nat}
    {last : Round σ}
    (here : operation.round? retryable (operation.opening policy draws state)
      number = some last) :
    operation.clock last.state =
      operation.clock state + policy.slept draws number := by
  induction number generalizing last with
  | zero =>
      cases here
      rfl
  | succ number induction =>
      obtain ⟨round, there, following⟩ := Option.bind_eq_some_iff.mp here
      obtain ⟨fault, after, failed, _, _, rfl⟩ :=
        next?_eq_some_iff.mp following
      have same : operation.clock after = operation.clock round.state := by
        have still := timely.attempt round.state
        rwa [failed] at still
      rw [timely.pause, same, induction there, backoff_round? there,
        RetryPolicy.wait_backoff]
      exact Nat.add_assoc ..

theorem Timely.clock_run?_le (timely : operation.Timely) {budget fuel : Nat}
    (limited : policy.maxElapsedMillis = some budget)
    {answer : Except Fault α × σ}
    (ran : operation.run? policy retryable fuel state draws = some answer) :
    operation.clock answer.2 ≤ operation.clock state + budget := by
  obtain ⟨number, _, last, here, _, rfl⟩ := run?_eq_some_iff.mp ran
  rw [timely.attempt, timely.clock_round? here]
  apply Nat.add_le_add_left
  cases number with
  | zero => exact Nat.zero_le budget
  | succ number =>
      obtain ⟨round, there, following⟩ := Option.bind_eq_some_iff.mp here
      obtain ⟨_, after, failed, _, left, _⟩ := next?_eq_some_iff.mp following
      have still := timely.attempt round.state
      rw [failed, timely.clock_round? there] at still
      apply RetryPolicy.slept_le_of_not_overruns limited
      rw [← policy.spent_backoff_iff draws (operation.clock state), ← still,
        ← backoff_round? there]
      exact left

/-! ## Attempts that all fail -/

/-- Every attempt that it comes to fails in a way that is retried. -/
def Failing (operation : Retriable σ α) (retryable : Fault → Bool)
    (policy : RetryPolicy) (draws : Draws) (state : σ) : Prop :=
  ∀ number round,
    operation.round? retryable (operation.opening policy draws state)
      number = some round →
    ∃ fault after, operation.attempt round.state = (.error fault, after) ∧
      retryable fault = true

theorem Timely.next?_eq_none_iff (timely : operation.Timely)
    (failing : operation.Failing retryable policy draws state) {number : Nat}
    {round : Round σ}
    (here : operation.round? retryable (operation.opening policy draws state)
      number = some round) :
    operation.next? retryable round = none ↔ policy.Overruns draws number := by
  have backoff := backoff_round? here
  have clock := timely.clock_round? here
  obtain ⟨fault, after, failed, retried⟩ := failing number round here
  have still := timely.attempt round.state
  rw [failed, clock] at still
  have spent := policy.spent_backoff_iff draws (operation.clock state) number
  rw [← backoff, ← still] at spent
  rw [← spent, Option.eq_none_iff_forall_ne_some]
  constructor
  · intro last
    apply Classical.byContradiction
    intro left
    exact last _ (next?_eq_some_iff.mpr
      ⟨fault, after, failed, retried, left, rfl⟩)
  · intro overrun later following
    obtain ⟨_, _, same, _, left, _⟩ := next?_eq_some_iff.mp following
    cases failed.symm.trans same
    exact left overrun

theorem Timely.exists_round?_iff (timely : operation.Timely)
    (failing : operation.Failing retryable policy draws state) (number : Nat) :
    (∃ round, operation.round? retryable (operation.opening policy draws state)
        number = some round) ↔
      ∀ earlier < number, ¬policy.Overruns draws earlier := by
  induction number with
  | zero => exact iff_of_true ⟨_, rfl⟩ nofun
  | succ number induction =>
      constructor
      · rintro ⟨last, here⟩ earlier low
        obtain ⟨round, there⟩ :=
          exists_round?_of_le here (Nat.le_of_lt low)
        obtain ⟨later, next⟩ :=
          exists_round?_of_le here (Nat.succ_le_of_lt low)
        obtain ⟨same, again, following⟩ := Option.bind_eq_some_iff.mp next
        cases there.symm.trans again
        intro overrun
        rw [(timely.next?_eq_none_iff failing there).mpr overrun] at following
        cases following
      · intro fits
        obtain ⟨round, here⟩ := induction.mpr fun earlier low =>
          fits earlier (Nat.lt_succ_of_lt low)
        have goesOn := mt (timely.next?_eq_none_iff failing here).mp
          (fits number (Nat.lt_succ_self number))
        obtain ⟨later, following⟩ := Option.ne_none_iff_exists'.mp goesOn
        exact ⟨later, Option.bind_eq_some_iff.mpr ⟨round, here, following⟩⟩

/-- If all attempts fail, some answer comes exactly if some wait would overrun
the budget. -/
theorem Timely.exists_run?_iff (timely : operation.Timely)
    (failing : operation.Failing retryable policy draws state) (fuel : Nat) :
    (∃ answer, operation.run? policy retryable fuel state draws = some answer) ↔
      ∃ waits < fuel, policy.Overruns draws waits := by
  constructor
  · rintro ⟨answer, answered⟩
    obtain ⟨number, low, last, here, ends, _⟩ := run?_eq_some_iff.mp answered
    exact ⟨number, low, (timely.next?_eq_none_iff failing here).mp ends⟩
  · rintro ⟨waits, low, overrun⟩
    induction waits using Nat.strongRecOn with
    | ind waits induction =>
        by_cases sooner : ∃ earlier < waits, policy.Overruns draws earlier
        · obtain ⟨earlier, before, already⟩ := sooner
          exact induction earlier before (Nat.lt_trans before low) already
        · obtain ⟨last, here⟩ := (timely.exists_round?_iff failing waits).mpr
            fun earlier before overrun => sooner ⟨earlier, before, overrun⟩
          have ends := (timely.next?_eq_none_iff failing here).mpr overrun
          exact ⟨_, run?_eq_some_iff.mpr
            ⟨waits, low, last, here, ends, rfl⟩⟩

end Retriable

end OvsdbClient
