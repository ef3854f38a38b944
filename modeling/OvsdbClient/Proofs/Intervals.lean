import OvsdbClient.Proofs.Comparison
import OvsdbClient.Proofs.Retrying

/-!
# Intervals between attempts

Intervals never get shorter than the least first one, so that no wait vanishes,
whatever is drawn, unless the randomization takes almost all of it.
-/

namespace OvsdbClient

namespace Binary64

theorem isNumber_zero : IsNumber 0.0 0 :=
  .zero .positive rfl

theorem isNumber_billion : IsNumber 1e9 1000000000 := by
  have positive : 0 < 8388608000000000 := by decide
  have same : (1000000000 : Rat) = scaled 8388608000000000 (-23) := by
    unfold scaled
    norm_num
  exact .finite positive (by decide) (by decide) (.inl (by decide)) same

theorem exists_isNumber_narrow :
    ∃ number, IsNumber 0.99999 number ∧ number ≤ 1 - 1 / 2 ^ 17 := by
  have positive : 0 < 9007109182748445 := by decide
  refine ⟨scaled 9007109182748445 (-53), ?_, ?_⟩
  · exact .finite positive (by decide) (by decide) (.inl (by decide)) rfl
  · unfold scaled
    norm_num

end Binary64

open Binary64

namespace Span

variable {span : Span} {x : Float}

theorem isNumber_toFloat (bounded : span.secs ≤ 2 ^ 64) :
    ∃ number, IsNumber span.toFloat number ∧ number ≤ 2 ^ 95 ∧
      (1000000 ≤ span.nanos → ((1000000 : Nat) : Rat) ≤ number) := by
  have limit : (span.secs : Rat) ≤ 2 ^ 64 := by exact_mod_cast bounded
  have part : span.subsecNanos < 1000000000 := Nat.mod_lt _ (by decide)
  have small : (span.subsecNanos : Rat) < 1000000000 := by exact_mod_cast part
  obtain ⟨secs, whole, rounded⟩ := isNumber_ofNat (bounded.trans (by decide))
  have few := rounded.le_two_pow limit
  obtain ⟨product, times, near⟩ := whole.mul isNumber_billion (by linarith)
  have less : product ≤ 2 ^ 94 := near.le_two_pow (by linarith)
  obtain ⟨rest, fraction, exact⟩ :=
    @isNumber_ofNat span.subsecNanos (by omega)
  rw [exact.eq (representable_natCast (by omega))] at fraction
  obtain ⟨sum, plus, close⟩ := times.add fraction (by linarith)
  refine ⟨sum, plus, close.le_two_pow (by linarith), fun long => ?_⟩
  apply close.natCast_le (by decide)
  have nonneg := fraction.nonneg
  by_cases none : span.secs = 0
  · have all : 1000000 ≤ span.subsecNanos := by
      simp only [Span.secs] at none
      simp only [Span.subsecNanos]
      omega
    calc ((1000000 : Nat) : Rat) ≤ span.subsecNanos := by exact_mod_cast all
      _ ≤ product + span.subsecNanos := le_add_of_nonneg_left times.nonneg
  · have one : ((1 : Nat) : Rat) ≤ secs := by
      apply rounded.natCast_le (by decide)
      exact_mod_cast Nat.pos_of_ne_zero none
    have much : ((1000000000 : Nat) : Rat) ≤ product := by
      apply near.natCast_le (by decide)
      push_cast at one ⊢
      linarith
    push_cast at much ⊢
    linarith

theorem nanos_ofFloat (x : Float) : (ofFloat x).nanos =
    (x / 1e9).toUInt64.toNat * 1000000000 + x.toUInt64.toNat % 1000000000 :=
  rfl

/-- Cutting seconds and nanoseconds apart does not lose a number of nanoseconds
that makes up a second at most. -/
theorem le_nanos_ofFloat {least : Nat} (above : AtLeast x least)
    (short : least ≤ 1000000000) : least ≤ (ofFloat x).nanos := by
  have cut := above.le_toUInt64 (by omega)
  rw [nanos_ofFloat]
  by_cases few : x.toUInt64.toNat < 1000000000
  · rw [Nat.mod_eq_of_lt few]
    omega
  · have much : AtLeast x 1000000000 := by
      rcases above with infinite | ⟨number, here, _⟩
      · exact .inl infinite
      · refine .inr ⟨number, here, ?_⟩
        exact_mod_cast (here.le_toUInt64_iff (by decide)).mp (not_lt.mp few)
    have quotient : AtLeast (x / 1e9) (1 : Nat) := by
      rw [Nat.cast_one]
      exact much.div isNumber_billion (by norm_num) (le_refl _)
    have secs := quotient.le_toUInt64 (by decide)
    omega

theorem secs_ofFloat_lt (x : Float) : (ofFloat x).secs < 2 ^ 64 := by
  have least := (x / 1e9).toUInt64.toNat_lt
  rw [secs, nanos_ofFloat]
  omega

end Span

theorem Draw.exists_isNumber (draw : Draw) :
    ∃ number ≤ 1, IsNumber draw.number number := by
  have nonneg := AtLeast.of_le isNumber_zero draw.least
  obtain ⟨number, below, drawn⟩ := isNumber_one.of_lt nonneg draw.below
  exact ⟨number, below.le, drawn⟩

namespace Backoff

variable {backoff : Backoff}

/-- Unless the randomization takes almost all of an interval, a wait does not
vanish. -/
theorem wait_pos {spread : Rat} (bounded : backoff.interval.secs ≤ 2 ^ 64)
    (long : 1000000 ≤ backoff.interval.nanos)
    (random : IsNumber backoff.policy.randomization spread)
    (narrow : spread ≤ 1 - 1 / 2 ^ 17) : 0 < backoff.wait.nanos := by
  obtain ⟨interval, here, most, enough⟩ := Span.isNumber_toFloat bounded
  have large : 2 ^ 18 ≤ interval := le_trans (by norm_num) (enough long)
  obtain ⟨bound, exact, above, below⟩ := here.exists_gap large
  have reduced : spread * interval ≤ bound :=
    (mul_le_mul_of_nonneg_right narrow here.nonneg).trans above
  obtain ⟨part, taken, near⟩ := random.mul here (by linarith)
  have fits : part ≤ bound := near.above _ exact reduced
  have nonneg : 0 ≤ part := taken.nonneg
  -- The lower end of the range is a nanosecond at least, ...
  obtain ⟨lowest, low, under⟩ := here.sub taken (by linarith) (by linarith)
  have some : ((1 : Nat) : Rat) ≤ lowest := by
    apply under.natCast_le (by decide)
    push_cast
    linarith
  -- ... and the range is not too wide for the draw to be multiplied by it.
  obtain ⟨highest, high, beyond⟩ := here.add taken (by linarith)
  have order : lowest ≤ highest := by
    calc lowest ≤ interval := under.above _ here.representable (by linarith)
      _ ≤ highest := beyond.below _ here.representable (by linarith)
  have top : highest ≤ 2 ^ 97 := beyond.le_two_pow (by linarith)
  have bottom : 0 ≤ lowest := low.nonneg
  obtain ⟨width, wide, apart⟩ := high.sub low order (by linarith)
  have range : width ≤ 2 ^ 97 := apart.le_two_pow (by linarith)
  obtain ⟨total, sum, about⟩ := wide.add isNumber_one (by linarith)
  have limit : total ≤ 2 ^ 98 := about.le_two_pow (by linarith)
  obtain ⟨draw, small, drawn⟩ :=
    (backoff.draws backoff.used).exists_isNumber
  have less : draw * total ≤ 2 ^ 98 :=
    (mul_le_of_le_one_left sum.nonneg small).trans limit
  obtain ⟨added, product, rounded⟩ := drawn.mul sum (by linarith)
  have few : added ≤ 2 ^ 98 := rounded.le_two_pow less
  obtain ⟨wait, result, last⟩ := low.add product (by linarith)
  have one : ((1 : Nat) : Rat) ≤ wait := by
    apply last.natCast_le (by decide)
    linarith [product.nonneg]
  exact Span.le_nanos_ofFloat (.inr ⟨wait, result, one⟩) (by decide)

end Backoff

namespace RetryPolicy

variable {policy : RetryPolicy}

theorem validate_eq_ok_iff : policy.validate = .ok () ↔
    0 < policy.initialMillis ∧ policy.initialMillis ≤ policy.maxMillis ∧
      ¬policy.multiplier < 1.0 ∧
      0.0 ≤ policy.randomization ∧ policy.randomization < 1.0 := by
  unfold validate
  split
  case isTrue zero =>
    constructor
    · exact nofun
    · omega
  case isFalse positive =>
    split
    case isTrue shrinks =>
      constructor
      · exact nofun
      · omega
    case isFalse grows =>
      split
      case isTrue less =>
        constructor
        · exact nofun
        · intro ⟨_, _, notLess, _⟩
          exact absurd less notLess
      case isFalse notLess =>
        split
        case isTrue within =>
          exact iff_of_true rfl ⟨by omega, by omega, notLess, within⟩
        case isFalse beyond =>
          constructor
          · exact nofun
          · intro ⟨_, _, _, within⟩
            exact absurd within beyond

/-- The intervals of a policy fit into 64 bits, its multiplier is a number, and
its randomization leaves something of every interval. -/
structure Steady (policy : RetryPolicy) : Prop where
  held : policy.maxMillis ≤ maxUnsigned64
  comparable : policy.multiplier.isNaN = false
  narrow : policy.randomization ≤ 0.99999

/-- Intervals do not get shorter than a millisecond. -/
theorem interval_bounds (valid : policy.validate = .ok ())
    (steady : policy.Steady) (waits : Nat) :
    1000000 ≤ (policy.interval waits).nanos ∧
      (policy.interval waits).secs ≤ 2 ^ 64 := by
  obtain ⟨positive, ordered, grows, _⟩ := validate_eq_ok_iff.mp valid
  have held := steady.held
  have limit : maxUnsigned64 < 2 ^ 64 := by decide
  have inRange : ∀ millis, 0 < millis → millis ≤ policy.maxMillis →
      1000000 ≤ (Span.ofMillis millis).nanos ∧
        (Span.ofMillis millis).secs ≤ 2 ^ 64 := by
    intro millis some most
    simp only [Span.secs, Span.ofMillis]
    omega
  induction waits with
  | zero => exact inRange _ positive ordered
  | succ waits induction =>
      rw [interval, grown]
      split
      · exact inRange _ (by omega) (le_refl _)
      · obtain ⟨long, bounded⟩ := induction
        obtain ⟨number, here, _, enough⟩ := Span.isNumber_toFloat bounded
        have factor := AtLeast.of_not_lt isNumber_one steady.comparable grows
        have large := enough long
        have some : 0 < number := lt_of_lt_of_le (by norm_num) large
        have exact : Representable (1000000 : Nat) :=
          representable_natCast (by decide)
        have product := factor.mul here some exact (by rwa [mul_one])
        exact ⟨Span.le_nanos_ofFloat product (by decide),
          (Span.secs_ofFloat_lt _).le⟩

theorem wait_pos (valid : policy.validate = .ok ()) (steady : policy.Steady)
    (draws : Draws) (waits : Nat) : 0 < (policy.wait draws waits).nanos := by
  obtain ⟨long, bounded⟩ := interval_bounds valid steady waits
  obtain ⟨_, _, _, least, _⟩ := validate_eq_ok_iff.mp valid
  obtain ⟨almost, here, less⟩ := exists_isNumber_narrow
  obtain ⟨spread, below, random⟩ :=
    here.of_le (.of_le isNumber_zero least) steady.narrow
  exact Backoff.wait_pos bounded long random (below.trans less)

theorem Steady.overruns (steady : policy.Steady)
    (valid : policy.validate = .ok ()) {budget : Nat}
    (limited : policy.maxElapsedMillis = some budget) (draws : Draws) :
    policy.Overruns draws budget :=
  overruns_of_limited limited (wait_pos valid steady draws)

end RetryPolicy

end OvsdbClient
