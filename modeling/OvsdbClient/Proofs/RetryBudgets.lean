import OvsdbClient.Proofs.RetryTraces

/-!
# Retrying within a budget

A budget bounds when attempts begin, not when they end: an interval is yielded
only if it ends within the budget, whatever the attempts before it took.  That
stays so although sleeping takes whole milliseconds.
-/

namespace OvsdbClient

namespace Backoff

variable {backoff : Backoff} {now : Nat}

theorem of_next {delay : Span} (yielded : (backoff.next now).1 = some delay) :
    ¬backoff.Spent now ∧ delay = backoff.wait ∧
      (backoff.next now).2 = backoff.later := by
  have left : ¬backoff.Spent now := fun spent =>
    nomatch (next_of_spent spent).symm.trans yielded
  have following := next_of_not_spent left
  rw [following] at yielded ⊢
  exact ⟨left, (Option.some.inj yielded).symm, rfl⟩

end Backoff

namespace Script

variable {α ν : Type} {script : Script α} {policy : RetryPolicy} {draws : Draws}
  {now : Nat} {retryable : Fault → Bool} {notify : Fault → Span → Nat → ν → ν}
  {seen : ν}

theorem Reaches.schedule_fst {number : Nat}
    (reaches : script.Reaches policy draws now retryable number) :
    (script.schedule policy draws now number).1 =
      policy.backoff draws now number := by
  induction number with
  | zero => rfl
  | succ number induction =>
      obtain ⟨before, last⟩ := reaches_succ_iff.mp reaches
      obtain ⟨_, _, later⟩ := Backoff.of_next last.yields
      rw [← RetryPolicy.later_backoff, ← induction before]
      exact later

theorem le_begins (script : Script α) (policy : RetryPolicy)
    (draws : Draws) (now number : Nat) :
    now ≤ script.begins policy draws now number := by
  induction number with
  | zero => exact Nat.le_refl now
  | succ number induction =>
      rw [begins_succ, ends]
      omega

theorem Reaches.begins_le {budget number : Nat}
    (limited : policy.maxElapsedMillis = some budget)
    (reaches : script.Reaches policy draws now retryable number) :
    script.begins policy draws now number ≤ now + budget := by
  cases number with
  | zero => exact Nat.le_add_right now budget
  | succ number =>
      obtain ⟨before, last⟩ := reaches_succ_iff.mp reaches
      obtain ⟨left, same, _⟩ := Backoff.of_next last.yields
      rw [before.schedule_fst] at left same
      have fits : ¬(Span.ofMillis budget).nanos <
          (Span.ofMillis (script.ends policy draws now number - now)).nanos +
            (script.wait policy draws now number).nanos := fun overrun =>
        left ⟨_, by rw [RetryPolicy.backoff, RetryPolicy.maxElapsed?, limited,
          Option.map_some], same ▸ overrun⟩
      have began := script.le_begins policy draws now number
      rw [begins_succ]
      simp only [ends, Span.ofMillis, Span.ceilMillis] at fits ⊢
      omega

theorem add_le_begins {number : Nat} (positive : ∀ earlier < number,
      0 < (script.wait policy draws now earlier).nanos) :
    now + number ≤ script.begins policy draws now number := by
  induction number with
  | zero => exact Nat.le_refl now
  | succ number induction =>
      have before := induction fun earlier low =>
        positive earlier (Nat.lt_succ_of_lt low)
      have last := positive number (Nat.lt_succ_self number)
      rw [begins_succ, ends, Span.ceilMillis]
      omega

theorem reaches_or_stops (script : Script α) (policy : RetryPolicy)
    (draws : Draws) (now : Nat) (retryable : Fault → Bool) (number : Nat) :
    script.Reaches policy draws now retryable number ∨
      ∃ last < number, script.Reaches policy draws now retryable last ∧
        script.Stops policy draws now retryable last := by
  induction number with
  | zero => exact .inl nofun
  | succ number induction =>
      rcases induction with reaches | ⟨last, low, ends⟩
      · by_cases repeats : script.Repeats policy draws now retryable number
        · exact .inl (reaches_succ_iff.mpr ⟨reaches, repeats⟩)
        · exact .inr ⟨number, Nat.lt_succ_self number, reaches,
            not_repeats_iff_stops.mp repeats⟩
      · exact .inr ⟨last, Nat.lt_succ_of_lt low, ends⟩

/-- With a budget every attempt begins within it, however long attempts take,
so that a retry ends within the budget and what its last attempt takes.  If no
wait is empty, it does end, after at most one attempt more than the budget has
milliseconds.  All this is so whatever is drawn. -/
theorem retry_keeps_within_budget {budget : Nat}
    (limited : policy.maxElapsedMillis = some budget) (script : Script α)
    (draws : Draws) (retryable : Fault → Bool)
    (notify : Fault → Span → Nat → ν → ν) (now : Nat) (seen : ν) :
    let retrying := script.operation.notifying notify
    let first := retrying.opening policy draws (.fresh now, seen)
    let retry? (fuel : Nat) :=
      script.retryNotify? policy retryable notify fuel now seen draws
    (∀ number round,
      retrying.round? retryable first number = some round →
        round.state.1.clock ≤ now + budget) ∧
      (∀ fuel answer trial told,
        retry? fuel = some (answer, trial, told) →
          (∀ begun ∈ trial.begun, begun ≤ now + budget) ∧
            ∃ last, trial.begun.length = last + 1 ∧
              trial.clock ≤ now + budget + script.millis last) ∧
      ((∀ number round,
        retrying.round? retryable first number = some round →
          ∀ wait ∈ round.state.1.waits, 0 < wait.nanos) →
        (∀ number round,
          retrying.round? retryable first number = some round →
            number ≤ budget) ∧
          ∃ result, retry? (budget + 1) = some result) := by
  intro retrying first retry?
  refine ⟨?begins, ?ends, ?settles⟩
  case begins =>
    intro number round here
    obtain ⟨reaches, rfl⟩ := round?_eq_some_iff.mp here
    exact reaches.begins_le limited
  case ends =>
    intro fuel answer trial told done
    obtain ⟨last, _, reaches, _, same⟩ := retryNotify?_eq_some_iff.mp done
    cases same
    refine ⟨fun begun member => ?_, last, by simp [ended], ?_⟩
    · obtain ⟨earlier, low, rfl⟩ := List.mem_map.mp member
      have before := List.mem_range.mp low
      exact Reaches.begins_le limited fun other sooner =>
        reaches other (by omega)
    · exact Nat.add_le_add_right (reaches.begins_le limited) _
  case settles =>
    intro positive
    have few : ∀ number, script.Reaches policy draws now retryable number →
        number ≤ budget := by
      intro number reaches
      have long : now + number ≤ script.begins policy draws now number :=
        add_le_begins fun earlier low =>
          positive _ _ (round?_eq_some_iff.mpr ⟨reaches, rfl⟩) _
            (List.mem_map_of_mem (List.mem_range.mpr low))
      have short := reaches.begins_le limited
      omega
    refine ⟨fun number round here =>
      few number (round?_eq_some_iff.mp here).1, ?_⟩
    rcases script.reaches_or_stops policy draws now retryable (budget + 1) with
      reaches | ⟨last, low, reaches, stops⟩
    · exact absurd (few _ reaches) (Nat.not_succ_le_self budget)
    · exact ⟨_, retryNotify?_eq_some_iff.mpr
        ⟨last, low, reaches, stops, rfl⟩⟩

def slowMiss : Script Nat where
  answer _ := .error (.rowNotFound "Logical_Switch" "name" "ls0")
  millis _ := 8500

theorem slow_miss_ends_late :
    ∃ answer trial told,
      slowMiss.retryNotify? .rowVisibility Fault.isRowNotFound
          (fun _ _ _ told => told + 1) 10001 0 0 .zero =
        some (answer, trial, told) ∧
      trial = ⟨18000, [0, 9500], [.ofMillis 1000]⟩ ∧
      (∀ begun ∈ trial.begun, begun ≤ 10000) ∧
      trial.clock ≤ 10000 + 8500 := by
  have reaches :
      slowMiss.Reaches .rowVisibility .zero 0 Fault.isRowNotFound 1 := by
    intro earlier low
    interval_cases earlier
    exact ⟨rfl, rfl, by decide +kernel⟩
  have stops : slowMiss.Stops .rowVisibility .zero 0 Fault.isRowNotFound 1 :=
    .exhausted rfl rfl (by decide +kernel)
  have limited : RetryPolicy.rowVisibility.maxElapsedMillis = some 10000 := rfl
  obtain ⟨_, within, settles⟩ := retry_keeps_within_budget limited slowMiss
    .zero Fault.isRowNotFound (fun _ _ _ told => told + 1) 0 0
  obtain ⟨_, ⟨answer, trial, told⟩, done⟩ := settles fun number round here => by
    obtain ⟨before, rfl⟩ := round?_eq_some_iff.mp here
    have low : number ≤ 1 := Nat.le_of_not_lt fun beyond =>
      not_repeats_iff_stops.mpr stops (before 1 beyond)
    change ∀ wait ∈ (slowMiss.trial .rowVisibility .zero 0 number).waits, _
    interval_cases number <;> decide +kernel
  obtain ⟨inTime, _, _, soon⟩ := within _ _ _ _ done
  refine ⟨answer, trial, told, done, ?_, inTime, soon⟩
  have second : slowMiss.retryNotify? .rowVisibility Fault.isRowNotFound
      (fun _ _ _ told => told + 1) (10000 + 1) 0 0 .zero = some _ :=
    retryNotify?_eq_some_iff.mpr ⟨1, by decide, reaches, stops, rfl⟩
  cases done.symm.trans second
  decide +kernel

end Script

end OvsdbClient
