import OvsdbClient.Database.Mutation

/-!
# What mutations do

A mutation is told by what can be read after it: which atoms a value holds, what
a map has at its keys, which integer a counter is at.  It fails only where it
does not suit the value, or where a counter would leave 64 bits.  Mutations of
sets that name different atoms can be applied in either order, and so can
mutations of maps that name different keys.
-/

namespace OvsdbClient

namespace Mutation

variable {mutation first second : Mutation} {current : Option Value}
  {value : Value} {atom : Atom} {key : String}

/-! ## What is read of a value that may be missing -/

/-- An atom is held by a value; a missing one holds none. -/
def IsHeld (current : Option Value) (atom : Atom) : Prop :=
  ∃ value, current = some value ∧ value.holds atom = true

/-- What a map has at a key; a missing one is empty. -/
def entry? (current : Option Value) (key : String) : Option String :=
  (current.bind Value.asMap?).bind (·.get? key)

/-- A counter is at an integer; a missing one is at zero. -/
inductive Counts : Option Value → Int → Prop where
  | missing : Counts none 0
  | stored (base : Int) : Counts (some (.atom (.integer base))) base

/-! ## What mutations are meant to do -/

/-- A mutation is of the kind of a value: mutations of maps go with maps, those
of sets with everything else, and increments with integers.  A missing value is
of every kind. -/
def Suits (mutation : Mutation) (current : Option Value) : Prop :=
  match mutation with
  | .increment _ => ∃ base, Counts current base
  | .mapSet .. | .mapDelete _ =>
      ∀ value, current = some value → ∃ entries, value = .map entries
  | .setAdd _ | .setRemove _ => ∀ entries, current ≠ some (.map entries)

/-- A mutation would count beyond what has 64 bits. -/
def Overflows (mutation : Mutation) (current : Option Value) : Prop :=
  ∃ delta base, mutation = .increment delta ∧ Counts current base ∧
    (base + delta < minSigned64 ∨ maxSigned64 < base + delta)

/-- A value is what a mutation is meant to make of another one. -/
def Does (mutation : Mutation) (current : Option Value) (value : Value) :
    Prop :=
  match mutation with
  | .increment delta =>
      ∃ base, Counts current base ∧ value = .atom (.integer (base + delta))
  | .mapSet key text =>
      ∃ entries, value = .map entries ∧ entries.get? key = some text ∧
        ∀ other, other ≠ key → entries.get? other = entry? current other
  | .mapDelete key =>
      ∃ entries, value = .map entries ∧ entries.get? key = none ∧
        ∀ other, other ≠ key → entries.get? other = entry? current other
  | .setAdd atom =>
      ∃ members, value = .set members ∧ ∀ other,
        value.holds other = true ↔ other = atom ∨ IsHeld current other
  | .setRemove atom =>
      ∃ members, value = .set members ∧ ∀ other,
        value.holds other = true ↔ other ≠ atom ∧ IsHeld current other

def atom? : Mutation → Option Atom
  | .setAdd atom | .setRemove atom => some atom
  | _ => none

def key? : Mutation → Option String
  | .mapSet key _ | .mapDelete key => some key
  | _ => none

/-- Two mutations are of sets and name different atoms, or they are of maps and
name different keys. -/
def Apart (first second : Mutation) : Prop :=
  (∃ one other, first.atom? = some one ∧ second.atom? = some other ∧
      one ≠ other) ∨
    ∃ one other, first.key? = some one ∧ second.key? = some other ∧
      one ≠ other

/-- The value after two mutations, one after the other. -/
def then? (first second : Mutation) (current : Option Value) : Option Value :=
  (first.result? current).bind fun value => second.result? (some value)

/-! ## Counters -/

theorem counts_iff {base : Int} :
    Counts current base ↔
      current.elim (some 0) Value.asInteger? = some base := by
  constructor
  · intro counts
    cases counts <;> rfl
  · intro read
    cases current with
    | none =>
        cases read
        exact .missing
    | some value =>
        cases value with
        | atom atom =>
            cases atom with
            | integer found =>
                cases read
                exact .stored base
            | _ => cases read
        | _ => cases read

theorem fits_iff {total : Int} :
    fits total = true ↔ ¬(total < minSigned64 ∨ maxSigned64 < total) := by
  simp only [fits, Bool.and_eq_true, decide_eq_true_eq]
  omega

theorem result?_increment_eq_some_iff {delta : Int} :
    (increment delta).result? current = some value ↔
      ∃ base, Counts current base ∧ fits (base + delta) = true ∧
        value = .atom (.integer (base + delta)) := by
  simp only [counts_iff]
  refine Option.bind_eq_some_iff.trans (exists_congr fun base => ?_)
  refine and_congr_right fun _ => ?_
  cases fits (base + delta) <;> simp [eq_comm]

/-! ## Sets -/

def adds : Mutation → Bool
  | .setAdd _ => true
  | _ => false

/-- What is not a map is read as a set of what it holds. -/
theorem exists_setOf? (suits : ∀ entries, current ≠ some (.map entries)) :
    ∃ members, current.elim (some .empty) setOf? = some members ∧
      ∀ other, members.contains other = true ↔ IsHeld current other := by
  cases current with
  | none => exact ⟨.empty, rfl, fun other => by simp [IsHeld]⟩
  | some value =>
      cases value with
      | atom atom =>
          refine ⟨SortedSet.empty.insert atom, rfl, fun other => ?_⟩
          simp [SortedSet.contains_insert, IsHeld, Value.holds]
      | set members =>
          exact ⟨members, rfl, fun other => by simp [IsHeld, Value.holds]⟩
      | map entries => exact absurd rfl (suits entries)

/-- A mutation of sets decides about its own atom and about no other. -/
theorem exists_result?_of_atom? (named : mutation.atom? = some atom)
    (suits : mutation.Suits current) :
    ∃ members, mutation.result? current = some (.set members) ∧
      ∀ other, members.contains other = true ↔
        if other = atom then mutation.adds = true
        else IsHeld current other := by
  cases mutation with
  | setAdd added =>
      cases named
      obtain ⟨members, read, held⟩ := exists_setOf? suits
      refine ⟨members.insert atom, ?_, fun other => ?_⟩
      · simp only [result?, read]
        rfl
      · rw [SortedSet.contains_insert, held]
        split
        case isTrue same => simp [same, adds]
        case isFalse differ => simp [Ne.symm differ]
  | setRemove removed =>
      cases named
      obtain ⟨members, read, held⟩ := exists_setOf? suits
      refine ⟨members.erase atom, ?_, fun other => ?_⟩
      · simp only [result?, read]
        rfl
      · rw [SortedSet.contains_erase, held]
        split
        case isTrue same => simp [same, adds]
        case isFalse differ => simp [Ne.symm differ]
  | increment delta => cases named
  | mapSet key text => cases named
  | mapDelete key => cases named

/-! ## Maps -/

def text? : Mutation → Option String
  | .mapSet _ text => some text
  | _ => none

theorem exists_asMap?
    (suits : ∀ value, current = some value → ∃ entries, value = .map entries) :
    ∃ entries, current.elim (some .empty) Value.asMap? = some entries ∧
      ∀ key, entries.get? key = entry? current key := by
  cases current with
  | none => exact ⟨.empty, rfl, fun _ => rfl⟩
  | some value =>
      obtain ⟨entries, rfl⟩ := suits value rfl
      exact ⟨entries, rfl, fun _ => rfl⟩

/-- A mutation of maps writes its own key and no other. -/
theorem exists_result?_of_key? (named : mutation.key? = some key)
    (suits : mutation.Suits current) :
    ∃ entries, mutation.result? current = some (.map entries) ∧
      ∀ other, entries.get? other =
        if other = key then mutation.text? else entry? current other := by
  cases mutation with
  | mapSet own text =>
      cases named
      obtain ⟨entries, read, found⟩ := exists_asMap? suits
      refine ⟨entries.insert key text, ?_, fun other => ?_⟩
      · simp only [result?, read]
        rfl
      · simp only [SortedMap.get?_insert, found, eq_comm, text?]
  | mapDelete own =>
      cases named
      obtain ⟨entries, read, found⟩ := exists_asMap? suits
      refine ⟨entries.erase key, ?_, fun other => ?_⟩
      · simp only [result?, read]
        rfl
      · simp only [SortedMap.get?_erase, found, eq_comm, text?]
  | increment delta => cases named
  | setAdd atom => cases named
  | setRemove atom => cases named

/-! ## When a mutation fails -/

theorem suits_of_result? (done : mutation.result? current = some value) :
    mutation.Suits current := by
  cases mutation with
  | increment delta =>
      obtain ⟨base, counts, _⟩ := result?_increment_eq_some_iff.mp done
      exact ⟨base, counts⟩
  | mapSet key text | mapDelete key =>
      rintro found rfl
      cases found with
      | map entries => exact ⟨entries, rfl⟩
      | _ => cases done
  | setAdd atom | setRemove atom =>
      rintro entries rfl
      cases done

theorem atom?_or_key?_of_ne_increment
    (other : ∀ delta, mutation ≠ .increment delta) :
    (∃ atom, mutation.atom? = some atom) ∨ ∃ key, mutation.key? = some key := by
  cases mutation with
  | increment delta => exact absurd rfl (other delta)
  | mapSet key text => exact .inr ⟨key, rfl⟩
  | mapDelete key => exact .inr ⟨key, rfl⟩
  | setAdd atom => exact .inl ⟨atom, rfl⟩
  | setRemove atom => exact .inl ⟨atom, rfl⟩

theorem exists_result?_iff :
    (∃ value, mutation.result? current = some value) ↔
      mutation.Suits current ∧ ¬mutation.Overflows current := by
  by_cases counter : ∃ delta, mutation = .increment delta
  case pos =>
    obtain ⟨delta, rfl⟩ := counter
    constructor
    · rintro ⟨value, done⟩
      refine ⟨suits_of_result? done, ?_⟩
      rintro ⟨_, other, same, alike, beyond⟩
      cases same
      obtain ⟨base, counts, inside, _⟩ := result?_increment_eq_some_iff.mp done
      cases Option.some.inj
        ((counts_iff.mp counts).symm.trans (counts_iff.mp alike))
      exact fits_iff.mp inside beyond
    · rintro ⟨⟨base, counts⟩, within⟩
      have inside : fits (base + delta) = true :=
        fits_iff.mpr fun beyond => within ⟨delta, base, rfl, counts, beyond⟩
      exact ⟨_, result?_increment_eq_some_iff.mpr ⟨base, counts, inside, rfl⟩⟩
  case neg =>
    have other : ∀ delta, mutation ≠ .increment delta :=
      fun delta same => counter ⟨delta, same⟩
    constructor
    · rintro ⟨value, done⟩
      exact ⟨suits_of_result? done,
        fun ⟨delta, _, same, _⟩ => other delta same⟩
    · rintro ⟨suits, _⟩
      rcases atom?_or_key?_of_ne_increment other with
        ⟨atom, named⟩ | ⟨key, named⟩
      · obtain ⟨_, done, _⟩ := exists_result?_of_atom? named suits
        exact ⟨_, done⟩
      · obtain ⟨_, done, _⟩ := exists_result?_of_key? named suits
        exact ⟨_, done⟩

/-! ## What a mutation does -/

theorem does_of_result? (done : mutation.result? current = some value) :
    mutation.Does current value := by
  have suits := suits_of_result? done
  cases mutation with
  | increment delta =>
      obtain ⟨base, counts, _, rfl⟩ := result?_increment_eq_some_iff.mp done
      exact ⟨base, counts, rfl⟩
  | mapSet key text | mapDelete key =>
      obtain ⟨entries, stored, found⟩ := exists_result?_of_key? rfl suits
      cases done.symm.trans stored
      refine ⟨entries, rfl, (found key).trans (if_pos rfl), ?_⟩
      exact fun other differ => (found other).trans (if_neg differ)
  | setAdd atom | setRemove atom =>
      obtain ⟨members, stored, held⟩ := exists_result?_of_atom? rfl suits
      cases done.symm.trans stored
      refine ⟨members, rfl, fun other => (held other).trans ?_⟩
      by_cases same : other = atom <;> simp [same, adds]

/-! ## Two mutations -/

theorem isHeld_set {members : SortedSet Atom} :
    IsHeld (some (.set members)) atom ↔ members.contains atom = true := by
  simp [IsHeld, Value.holds]

theorem suits_iff_of_atom? (named : mutation.atom? = some atom) :
    mutation.Suits current ↔ ∀ entries, current ≠ some (.map entries) := by
  cases mutation <;> cases named <;> rfl

theorem suits_iff_of_key? (named : mutation.key? = some key) :
    mutation.Suits current ↔
      ∀ value, current = some value → ∃ entries, value = .map entries := by
  cases mutation <;> cases named <;> rfl

theorem Apart.suits_iff (apart : Apart first second) :
    first.Suits current ↔ second.Suits current := by
  rcases apart with ⟨one, other, here, there, _⟩ | ⟨one, other, here, there, _⟩
  · rw [suits_iff_of_atom? here, suits_iff_of_atom? there]
  · rw [suits_iff_of_key? here, suits_iff_of_key? there]

theorem exists_then?_of_atom? {one other : Atom}
    (here : first.atom? = some one) (there : second.atom? = some other)
    (differ : one ≠ other) (suits : first.Suits current) :
    ∃ members, then? first second current = some (.set members) ∧
      ∀ atom, members.contains atom = true ↔
        if atom = one then first.adds = true
        else if atom = other then second.adds = true
        else IsHeld current atom := by
  obtain ⟨middle, done, held⟩ := exists_result?_of_atom? here suits
  have next : second.Suits (some (.set middle)) :=
    (suits_iff_of_atom? there).mpr fun _ same => by cases same
  obtain ⟨members, stored, kept⟩ := exists_result?_of_atom? there next
  refine ⟨members, by rw [then?, done]; exact stored, fun atom => ?_⟩
  rw [kept, isHeld_set, held]
  by_cases same : atom = one
  · subst same
    rw [if_neg differ]
    simp only [if_pos]
  · rw [if_neg same, if_neg same]

theorem exists_then?_of_key? {one other : String}
    (here : first.key? = some one) (there : second.key? = some other)
    (differ : one ≠ other) (suits : first.Suits current) :
    ∃ entries, then? first second current = some (.map entries) ∧
      ∀ key, entries.get? key =
        if key = one then first.text?
        else if key = other then second.text?
        else entry? current key := by
  obtain ⟨middle, done, found⟩ := exists_result?_of_key? here suits
  have next : second.Suits (some (.map middle)) :=
    (suits_iff_of_key? there).mpr fun _ same => by cases same; exact ⟨_, rfl⟩
  obtain ⟨entries, stored, kept⟩ := exists_result?_of_key? there next
  refine ⟨entries, by rw [then?, done]; exact stored, fun key => ?_⟩
  have read : entry? (some (.map middle)) key = middle.get? key := rfl
  rw [kept, read, found]
  by_cases same : key = one
  · subst same
    rw [if_neg differ]
    simp only [if_pos]
  · rw [if_neg same, if_neg same]

/-- Mutations that name different things can be applied in either order: what
both orders leave is told in the same way. -/
theorem Apart.exists_then? (apart : Apart first second)
    (suits : first.Suits current) :
    ∃ value, then? first second current = some value ∧
      then? second first current = some value := by
  have suits' := apart.suits_iff.mp suits
  rcases apart with ⟨one, other, here, there, differ⟩ |
      ⟨one, other, here, there, differ⟩
  case inl =>
    obtain ⟨members, done, held⟩ :=
      exists_then?_of_atom? here there differ suits
    obtain ⟨swapped, alike, kept⟩ :=
      exists_then?_of_atom? there here differ.symm suits'
    have same : swapped = members := by
      refine SortedSet.ext_contains fun atom => ?_
      rw [Bool.eq_iff_iff, held, kept]
      by_cases here : atom = one <;> by_cases there : atom = other <;>
        simp_all
    exact ⟨_, done, same ▸ alike⟩
  case inr =>
    obtain ⟨entries, done, found⟩ :=
      exists_then?_of_key? here there differ suits
    obtain ⟨swapped, alike, kept⟩ :=
      exists_then?_of_key? there here differ.symm suits'
    have same : swapped = entries := by
      refine SortedMap.ext_get? fun key => ?_
      rw [found, kept]
      by_cases here : key = one <;> by_cases there : key = other <;>
        simp_all
    exact ⟨_, done, same ▸ alike⟩

theorem then?_eq_none (unfit : ¬first.Suits current) :
    then? first second current = none := by
  cases done : first.result? current with
  | none => rw [then?, done]; rfl
  | some value => exact absurd (suits_of_result? done) unfit

/-- A mutation makes of a value what it is meant to, and it fails only where it
does not suit the value or would count too far.  Mutations that name different
atoms, or different keys, can be applied in either order, and neither order
fails from a value that they suit. -/
theorem mutation_does_as_meant (mutation : Mutation)
    (current : Option Value) :
    (∀ value, mutation.result? current = some value →
      mutation.Does current value) ∧
    (mutation.result? current = none ↔
      ¬mutation.Suits current ∨ mutation.Overflows current) ∧
    ∀ other, Apart mutation other →
      then? mutation other current = then? other mutation current ∧
        ((then? mutation other current).isSome ↔ mutation.Suits current) := by
  refine ⟨fun value => does_of_result?, ?_, fun other apart => ?_⟩
  · have succeeds : (∃ value, mutation.result? current = some value) ↔
        mutation.Suits current ∧ ¬mutation.Overflows current :=
      exists_result?_iff
    rw [← Option.isSome_iff_exists] at succeeds
    rw [← Option.not_isSome_iff_eq_none, succeeds,
      Classical.not_and_iff_not_or_not, Classical.not_not]
  · by_cases suits : mutation.Suits current
    · obtain ⟨value, done, swapped⟩ := apart.exists_then? suits
      rw [done, swapped]
      simp [suits]
    · rw [then?_eq_none suits, then?_eq_none (mt apart.suits_iff.mpr suits)]
      simp [suits]

theorem text_is_mutated_as_a_set :
    let current := some (Value.atom (.string "left"))
    let added := setAdd (.string "right")
    let removed := setRemove (.string "left")
    (∃ value, added.result? current = some value ∧
      value.holds (.string "left") = true ∧
      value.holds (.string "right") = true) ∧
    then? added removed current = then? removed added current ∧
    (increment 1).result? (some (.atom (.integer maxSigned64))) = none := by
  refine ⟨?_, ?_, ?_⟩
  · obtain ⟨does, fails, _⟩ := mutation_does_as_meant
      (setAdd (.string "right")) (some (.atom (.string "left")))
    cases done : (setAdd (.string "right")).result?
        (some (.atom (.string "left"))) with
    | none =>
        rcases fails.mp done with unfit | ⟨_, _, same, _⟩
        · exact absurd (fun _ same => by cases same) unfit
        · cases same
    | some value =>
        obtain ⟨_, _, held⟩ := does value done
        refine ⟨value, rfl, (held _).mpr (.inr ?_), (held _).mpr (.inl rfl)⟩
        exact ⟨_, rfl, by decide⟩
  · exact ((mutation_does_as_meant (setAdd (.string "right"))
      (some (.atom (.string "left")))).2.2 (setRemove (.string "left"))
      (.inl ⟨_, _, rfl, rfl, by decide⟩)).1
  · refine (mutation_does_as_meant (increment 1)
      (some (.atom (.integer maxSigned64)))).2.1.mpr (.inr ?_)
    exact ⟨1, maxSigned64, rfl, .stored _, .inr (by decide)⟩

end Mutation

end OvsdbClient
