import Mathlib.Tactic.IntervalCases
import OvsdbClient.Proofs.Retrying
import OvsdbClient.Retry.Script

/-!
# What a retry does

A script fixes what every attempt would answer and how long it would take.  A
retry follows it up to the first attempt that is not to be repeated, which is
one that succeeds, fails for good, or after which the backoff yields no further
interval.  Between two attempts the interval is told of and then slept.
-/

namespace OvsdbClient

namespace Retriable

variable {σ α ν : Type} {operation : Retriable σ α} {retryable : Fault → Bool}
  {notify : Fault → Span → Nat → ν → ν} {policy : RetryPolicy} {draws : Draws}

theorem attempt_notifying {state after : σ} {answer : Except Fault α}
    (attempted : operation.attempt state = (answer, after)) (seen : ν) :
    (operation.notifying notify).attempt (state, seen) =
      (answer, after, seen) := by
  simp only [notifying, attempted]

theorem clock_notifying (state : σ) (seen : ν) :
    (operation.notifying notify).clock (state, seen) = operation.clock state :=
  rfl

/-- Telling of waits changes nothing but what was told. -/
theorem map_continue?_notifying (fuel : Nat) (backoff : Backoff) (state : σ)
    (seen : ν) :
    ((operation.notifying notify).continue? retryable fuel backoff
        (state, seen)).map (fun ended => (ended.1, ended.2.1)) =
      operation.continue? retryable fuel backoff state := by
  induction fuel generalizing backoff state seen with
  | zero => rfl
  | succ fuel induction =>
      rw [continue?, continue?]
      cases attempted : operation.attempt state with
      | mk answer after =>
          rw [attempt_notifying attempted]
          cases answer with
          | ok value => rfl
          | error fault =>
              dsimp only
              cases retryable fault with
              | false => rfl
              | true =>
                  simp only [if_true, clock_notifying]
                  cases backoff.next (operation.clock after) with
                  | mk delay later =>
                      cases delay with
                      | none => rfl
                      | some delay => exact induction ..

theorem map_run?_notifying (fuel : Nat) (state : σ) (seen : ν) :
    ((operation.notifying notify).run? policy retryable fuel (state, seen)
        draws).map (fun ended => (ended.1, ended.2.1)) =
      operation.run? policy retryable fuel state draws :=
  map_continue?_notifying ..

end Retriable

namespace Script

variable {α ν : Type}

/-! ## What a script prescribes -/

section

variable (script : Script α) (policy : RetryPolicy) (draws : Draws) (now : Nat)

/-- With which backoff and when an attempt is begun, if it comes to that. -/
def schedule : (number : Nat) → Backoff × Nat
  | 0 => (.begin policy now draws, now)
  | number + 1 =>
      let (backoff, begun) := schedule number
      let ended := begun + script.millis number
      let (interval, later) := backoff.next ended
      (later, ended + (interval.getD .zero).ceilMillis)

def begins (number : Nat) : Nat := (script.schedule policy draws now number).2

def ends (number : Nat) : Nat :=
  script.begins policy draws now number + script.millis number

/-- The interval that the backoff yields after an attempt. -/
def interval? (number : Nat) : Option Span :=
  ((script.schedule policy draws now number).1.next
    (script.ends policy draws now number)).1

/-- How long is waited after an attempt, if it is repeated. -/
def wait (number : Nat) : Span :=
  (script.interval? policy draws now number).getD .zero

def fault (number : Nat) : Fault :=
  match script.answer number with
  | .ok _ => default
  | .error fault => fault

/-- An attempt is repeated: it fails in a way that is retried, and the backoff
yields an interval to wait. -/
structure Repeats (retryable : Fault → Bool) (number : Nat) : Prop where
  failed : script.answer number = .error (script.fault number)
  retried : retryable (script.fault number) = true
  yields : script.interval? policy draws now number =
    some (script.wait policy draws now number)

/-- An attempt is the last one: it succeeds, fails in a way that is not retried,
or fails when the backoff yields no interval. -/
inductive Stops (retryable : Fault → Bool) (number : Nat) : Prop where
  | succeeded {value : α} (answered : script.answer number = .ok value)
  | rejected {fault : Fault} (failed : script.answer number = .error fault)
      (final : retryable fault = false)
  | exhausted {fault : Fault} (failed : script.answer number = .error fault)
      (retried : retryable fault = true)
      (spent : script.interval? policy draws now number = none)

/-- It comes to an attempt: all before it are repeated. -/
def Reaches (retryable : Fault → Bool) (number : Nat) : Prop :=
  ∀ earlier < number, script.Repeats policy draws now retryable earlier

def trial (number : Nat) : Trial where
  clock := script.begins policy draws now number
  begun := (List.range number).map (script.begins policy draws now)
  waits := (List.range number).map (script.wait policy draws now)

def ended (number : Nat) : Trial where
  clock := script.ends policy draws now number
  begun := (List.range (number + 1)).map (script.begins policy draws now)
  waits := (List.range number).map (script.wait policy draws now)

/-- What telling of the waits after the first attempts makes of `seen`: each is
told of when its attempt has ended. -/
def told (notify : Fault → Span → Nat → ν → ν) (seen : ν) (number : Nat) : ν :=
  (List.range number).foldl (fun seen earlier =>
    notify (script.fault earlier) (script.wait policy draws now earlier)
      (script.ends policy draws now earlier) seen) seen

end

variable {script : Script α} {policy : RetryPolicy} {draws : Draws} {now : Nat}
  {retryable : Fault → Bool} {notify : Fault → Span → Nat → ν → ν} {seen : ν}

theorem begins_succ (script : Script α) (policy : RetryPolicy)
    (draws : Draws) (now number : Nat) :
    script.begins policy draws now (number + 1) =
      script.ends policy draws now number +
        (script.wait policy draws now number).ceilMillis :=
  rfl

/-- An attempt begins only after the interval before it was slept. -/
theorem slept_before_begins (script : Script α) (policy : RetryPolicy)
    (draws : Draws) (now number : Nat) :
    (Span.ofMillis (script.ends policy draws now number)).nanos +
        (script.wait policy draws now number).nanos ≤
      (Span.ofMillis (script.begins policy draws now (number + 1))).nanos := by
  rw [begins_succ]
  simp only [Span.ofMillis, Span.ceilMillis]
  omega

theorem fault_eq {number : Nat} {fault : Fault}
    (failed : script.answer number = .error fault) :
    script.fault number = fault := by
  simp only [Script.fault, failed]

theorem not_repeats_iff_stops {number : Nat} :
    ¬script.Repeats policy draws now retryable number ↔
      script.Stops policy draws now retryable number := by
  constructor
  · intro kept
    cases answered : script.answer number with
    | ok value => exact .succeeded answered
    | error fault =>
        cases retried : retryable fault with
        | false => exact .rejected answered retried
        | true =>
            refine .exhausted answered retried ?_
            cases yielded : script.interval? policy draws now number with
            | none => rfl
            | some delay =>
                have named := fault_eq answered
                refine absurd ⟨?_, ?_, ?_⟩ kept
                · rw [answered, named]
                · rw [named, retried]
                · rw [wait, yielded, Option.getD_some]
  · intro stops repeats
    have failed := repeats.failed
    cases stops with
    | succeeded answered => cases answered.symm.trans failed
    | rejected answered final =>
        cases (fault_eq answered ▸ final).symm.trans repeats.retried
    | exhausted _ _ spent => cases spent.symm.trans repeats.yields

theorem reaches_succ_iff {number : Nat} :
    script.Reaches policy draws now retryable (number + 1) ↔
      script.Reaches policy draws now retryable number ∧
        script.Repeats policy draws now retryable number :=
  Nat.forall_lt_succ_right

/-! ## Following a script -/

def round (script : Script α) (policy : RetryPolicy)
    (draws : Draws) (now : Nat)
    (notify : Fault → Span → Nat → ν → ν) (seen : ν) (number : Nat) :
    Retriable.Round (Trial × ν) :=
  ⟨(script.schedule policy draws now number).1,
    script.trial policy draws now number,
    script.told policy draws now notify seen number⟩

theorem attempt_round (number : Nat) :
    (script.operation.notifying notify).attempt
        (script.round policy draws now notify seen number).state =
      (script.answer number, script.ended policy draws now number,
        script.told policy draws now notify seen number) := by
  simp only [Retriable.notifying, operation, round, trial, ended,
    List.length_map, List.length_range, List.range_succ, List.map_append,
    List.map_singleton, ends]

theorem pause_ended (number : Nat) :
    (script.operation.notifying notify).pause (script.fault number)
        (script.wait policy draws now number)
        (script.ended policy draws now number,
          script.told policy draws now notify seen number) =
      (script.trial policy draws now (number + 1),
        script.told policy draws now notify seen (number + 1)) := by
  simp only [Retriable.notifying, operation, ended, trial, told,
    List.range_succ, List.map_append, List.map_singleton, List.foldl_append,
    List.foldl_cons, List.foldl_nil, begins_succ]

theorem next?_round_eq_some_iff {number : Nat}
    {later : Retriable.Round (Trial × ν)} :
    (script.operation.notifying notify).next? retryable
        (script.round policy draws now notify seen number) = some later ↔
      script.Repeats policy draws now retryable number ∧
        later = script.round policy draws now notify seen (number + 1) := by
  -- The backoff threads its state through `next`, as the schedule does.
  have stepped : (script.round policy draws now notify seen number).backoff.next
      ((script.operation.notifying notify).clock
        (script.ended policy draws now number,
          script.told policy draws now notify seen number)) =
      (script.interval? policy draws now number,
        (script.schedule policy draws now (number + 1)).1) :=
    rfl
  by_cases repeats : script.Repeats policy draws now retryable number
  · simp only [Retriable.next?, attempt_round, repeats.failed,
      repeats.retried, if_true, stepped, repeats.yields, pause_ended]
    simp only [Option.some.injEq, eq_comm, repeats, true_and, round]
  · simp only [repeats, false_and, iff_false, ne_eq]
    cases not_repeats_iff_stops.mp repeats with
    | succeeded answered => simp [Retriable.next?, attempt_round, answered]
    | rejected failed final =>
        simp [Retriable.next?, attempt_round, failed, final]
    | exhausted failed retried spent =>
        simp [Retriable.next?, attempt_round, failed, retried, stepped, spent]

/-- It comes to an attempt just if all before it are repeated. -/
theorem round?_eq_some_iff {number : Nat}
    {last : Retriable.Round (Trial × ν)} :
    (script.operation.notifying notify).round? retryable
        ((script.operation.notifying notify).opening policy draws
          (.fresh now, seen)) number = some last ↔
      script.Reaches policy draws now retryable number ∧
        last = script.round policy draws now notify seen number := by
  induction number generalizing last with
  | zero =>
      constructor
      · intro here
        cases here
        exact ⟨nofun, rfl⟩
      · rintro ⟨_, rfl⟩
        rfl
  | succ number induction =>
      rw [Retriable.round?, Option.bind_eq_some_iff]
      constructor
      · rintro ⟨round, here, following⟩
        obtain ⟨reaches, rfl⟩ := induction.mp here
        obtain ⟨repeats, rfl⟩ := next?_round_eq_some_iff.mp following
        exact ⟨reaches_succ_iff.mpr ⟨reaches, repeats⟩, rfl⟩
      · rintro ⟨reaches, rfl⟩
        obtain ⟨earlier, repeats⟩ := reaches_succ_iff.mp reaches
        exact ⟨_, induction.mpr ⟨earlier, rfl⟩,
          next?_round_eq_some_iff.mpr ⟨repeats, rfl⟩⟩

theorem retryNotify?_eq_some_iff {fuel : Nat}
    {result : Except Fault α × Trial × ν} :
    script.retryNotify? policy retryable notify fuel now seen draws =
        some result ↔
      ∃ last < fuel, script.Reaches policy draws now retryable last ∧
        script.Stops policy draws now retryable last ∧
        result = (script.answer last, script.ended policy draws now last,
          script.told policy draws now notify seen last) := by
  refine Retriable.run?_eq_some_iff.trans (exists_congr fun last =>
    and_congr_right fun _ => ?_)
  constructor
  · rintro ⟨round, here, ends, rfl⟩
    obtain ⟨reaches, rfl⟩ := round?_eq_some_iff.mp here
    refine ⟨reaches, not_repeats_iff_stops.mp fun repeats => ?_,
      attempt_round last⟩
    cases ends.symm.trans (next?_round_eq_some_iff.mpr ⟨repeats, rfl⟩)
  · rintro ⟨reaches, stops, rfl⟩
    refine ⟨_, round?_eq_some_iff.mpr ⟨reaches, rfl⟩, ?_,
      attempt_round last⟩
    refine Option.eq_none_iff_forall_ne_some.mpr fun later following => ?_
    exact not_repeats_iff_stops.mpr stops
      (next?_round_eq_some_iff.mp following).1

/-- A retry comes to an attempt just if all before it failed in a way that is
retried and were followed by an interval of the backoff.  It ends with the first
attempt that succeeds, fails for good, or fails when there is no further
interval, and it answers what that attempt answers.  After each attempt before,
and after no other, the fault and the interval were told of when it had ended,
and the interval was slept.  A retry that tells of nothing does the same.  All
this is so whatever is drawn. -/
theorem retry_follows_script (script : Script α) (policy : RetryPolicy)
    (draws : Draws) (retryable : Fault → Bool)
    (notify : Fault → Span → Nat → ν → ν) (now : Nat) (seen : ν) :
    let retrying := script.operation.notifying notify
    let first := retrying.opening policy draws (.fresh now, seen)
    (∀ number state,
      (retrying.round? retryable first number).map (·.state) = some state ↔
        script.Reaches policy draws now retryable number ∧
          state = (script.trial policy draws now number,
            script.told policy draws now notify seen number)) ∧
      (∀ fuel result,
        script.retryNotify? policy retryable notify fuel now seen draws =
            some result ↔
          ∃ last < fuel, script.Reaches policy draws now retryable last ∧
            script.Stops policy draws now retryable last ∧
            result = (script.answer last, script.ended policy draws now last,
              script.told policy draws now notify seen last)) ∧
      (∀ number,
        (Span.ofMillis (script.ends policy draws now number)).nanos +
            (script.wait policy draws now number).nanos ≤
          (Span.ofMillis
            (script.begins policy draws now (number + 1))).nanos) ∧
      ∀ fuel, script.retry? policy retryable fuel now draws =
        (script.retryNotify? policy retryable notify fuel now seen draws).map
          fun (answer, trial, _) => (answer, trial) := by
  intro retrying first
  refine ⟨fun number state => ?_, fun fuel result => retryNotify?_eq_some_iff,
    script.slept_before_begins policy draws now,
    fun fuel => (Retriable.map_run?_notifying fuel _ seen).symm⟩
  rw [Option.map_eq_some_iff]
  constructor
  · rintro ⟨round, here, rfl⟩
    obtain ⟨reaches, rfl⟩ := round?_eq_some_iff.mp here
    exact ⟨reaches, rfl⟩
  · rintro ⟨reaches, rfl⟩
    exact ⟨_, round?_eq_some_iff.mpr ⟨reaches, rfl⟩, rfl⟩

/-- A row is missing in the first two attempts, of which one takes a while. -/
def lateRow : Script Nat where
  answer number :=
    if number < 2 then .error (.rowNotFound "Logical_Switch" "name" "ls0")
    else .ok number
  millis number := if number = 0 then 300 else 0

theorem late_row_is_found_in_third_attempt :
    let missing := Fault.rowNotFound "Logical_Switch" "name" "ls0"
    lateRow.retryNotify? .rowVisibility Fault.isRowNotFound
        (fun fault delay time told => told ++ [(fault, delay, time)])
        1000 50 [] .zero =
      some (.ok 2,
        ⟨3350, [50, 1350, 3350], [.ofMillis 1000, .ofMillis 2000]⟩,
        [(missing, .ofMillis 1000, 350), (missing, .ofMillis 2000, 1350)]) := by
  intro missing
  obtain ⟨_, ends, _⟩ := retry_follows_script lateRow .rowVisibility .zero
    Fault.isRowNotFound
    (fun fault delay time told => told ++ [(fault, delay, time)]) 50 []
  have reaches :
      lateRow.Reaches .rowVisibility .zero 50 Fault.isRowNotFound 2 := by
    intro earlier low
    interval_cases earlier
    · exact ⟨rfl, rfl, by decide +kernel⟩
    · exact ⟨rfl, rfl, by decide +kernel⟩
  refine (ends 1000 _).mpr ⟨2, by decide, reaches, .succeeded rfl, ?_⟩
  refine congrArg (Prod.mk _) (Prod.ext ?_ ?_)
  · decide +kernel
  · decide +kernel

end Script

end OvsdbClient
