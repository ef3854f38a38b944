import Mathlib.Data.List.Induction
import OvsdbClient.Shutdown

/-!
# Calls on a registry

Registering and shutting down are calls that take time.  What a call does to the
registry it does at once, when it begins; then it stops things one after
another, and other calls come in while it does.  A course is any order in which
calls begin and go on, and in which the state changes otherwise.

What a call has to stop is settled when it begins, by what was asked for before
it (`due?`).  Every step of a course keeps that each call has begun to stop a
first part of its due, in order (`Call.Meets`), and that the registry is what
the calls so far leave (`after`).
-/

namespace OvsdbClient

namespace Registry

/-- What a call on a registry asks for. -/
inductive Wish (κ : Type) where
  | register (item : κ)
  | shutdown
deriving DecidableEq

structure Stop (σ κ : Type) where
  item : κ
  clean : Bool
  after : σ
deriving DecidableEq

/-- How far a call is.  Until it returns it holds whether all was clean. -/
inductive Stage (κ : Type) where
  /-- About to stop the first of what is left. -/
  | between (left : List κ) (clean : Bool)
  /-- Waiting for a stop to answer. -/
  | during (item : κ) (left : List κ) (clean : Bool)
  | returned (answer : Bool)
deriving DecidableEq

/-- A call with the stops it has begun, those of them that are over, and what
it has reported. -/
structure Call (σ κ : Type) where
  wish : Wish κ
  stage : Stage κ
  begun : List κ
  ended : List (Stop σ κ)
  notices : List Notice
deriving DecidableEq

/-- A registry in use: the calls made on it so far, the earliest first. -/
structure Custody (σ κ : Type) where
  registry : Registry κ
  state : σ
  calls : List (Call σ κ)

inductive Turn (σ κ : Type) where
  /-- A call begins. -/
  | begin (wish : Wish κ)
  /-- A call that is under way goes on to its next point of waiting. -/
  | proceed (number : Nat)
  /-- Something else changes the state. -/
  | become (state : σ)

variable {σ κ : Type}

/-- The registry and the call itself as soon as a call has begun. -/
def receive (registry : Registry κ) (stopping : Stopping σ κ) (state : σ) :
    Wish κ → Registry κ × Call σ κ
  | .register item =>
      if registry.closed then
        (registry,
          { wish := .register item
            stage := .between [item] true
            begun := []
            ended := []
            notices := [.registeredLate (stopping.name state item)] })
      else
        ({ registry with owned := registry.owned ++ [item] },
          ⟨.register item, .returned true, [], [], []⟩)
  | .shutdown =>
      if registry.closed then
        (registry, ⟨.shutdown, .returned true, [], [], []⟩)
      else
        (⟨[], true⟩,
          ⟨.shutdown, .between registry.owned.reverse true, [], [], []⟩)

/-- What is reported of a stop.  Who registers late is told by the answer. -/
def Wish.complaint (wish : Wish κ) (stopping : Stopping σ κ)
    (stop : Stop σ κ) : List Notice :=
  match wish with
  | .register _ => []
  | .shutdown =>
      if stop.clean then []
      else [.stoppedUncleanly (stopping.name stop.after stop.item)]

namespace Call

/-- Lets a call go on, as far as it gets without waiting. -/
def proceed (stopping : Stopping σ κ) (state : σ) (call : Call σ κ) :
    σ × Call σ κ :=
  match call.stage with
  | .between [] clean => (state, { call with stage := .returned clean })
  | .between (item :: left) clean =>
      (state,
        { call with
          stage := .during item left clean
          begun := call.begun ++ [item] })
  | .during item left clean =>
      let (answer, after) := stopping.stop state item
      let stop := ⟨item, answer, after⟩
      (after,
        { call with
          stage := .between left (clean && answer)
          ended := call.ended ++ [stop]
          notices := call.notices ++ call.wish.complaint stopping stop })
  | .returned _ => (state, call)

/-- A call is over, and this is its answer. -/
def Answers (call : Call σ κ) (answer : Bool) : Prop :=
  call.stage = .returned answer

end Call

namespace Custody

def empty (state : σ) : Custody σ κ := ⟨.empty, state, []⟩

def wishes (custody : Custody σ κ) : List (Wish κ) :=
  custody.calls.map (·.wish)

def take (custody : Custody σ κ) (stopping : Stopping σ κ) :
    Turn σ κ → Custody σ κ
  | .begin wish =>
      let (registry, call) :=
        custody.registry.receive stopping custody.state wish
      { custody with registry, calls := custody.calls ++ [call] }
  | .proceed number =>
      match custody.calls[number]? with
      | none => custody
      | some call =>
          let (state, call) := call.proceed stopping custody.state
          { custody with state, calls := custody.calls.set number call }
  | .become state => { custody with state }

def run (custody : Custody σ κ) (stopping : Stopping σ κ)
    (turns : List (Turn σ κ)) : Custody σ κ :=
  turns.foldl (·.take stopping ·) custody

end Custody

/-! ## What a call has to stop -/

def registered (wishes : List (Wish κ)) : List κ :=
  wishes.filterMap fun
    | .register item => some item
    | .shutdown => none

def asksForShutdown (wishes : List (Wish κ)) : Bool :=
  wishes.any fun
    | .register _ => false
    | .shutdown => true

/-- What a call has to stop, by what was asked for before it.  A call with
nothing to do with stopping answers at once. -/
def due? (before : List (Wish κ)) : Wish κ → Option (List κ)
  | .register item => if asksForShutdown before then some [item] else none
  | .shutdown =>
      if asksForShutdown before then none else some (registered before).reverse

@[simp] theorem asksForShutdown_append (wishes others : List (Wish κ)) :
    asksForShutdown (wishes ++ others) =
      (asksForShutdown wishes || asksForShutdown others) :=
  List.any_append

@[simp] theorem registered_append (wishes others : List (Wish κ)) :
    registered (wishes ++ others) = registered wishes ++ registered others :=
  List.filterMap_append

@[simp] theorem asksForShutdown_register (item : κ) :
    asksForShutdown [.register item] = false :=
  rfl

@[simp] theorem asksForShutdown_shutdown :
    asksForShutdown ([.shutdown] : List (Wish κ)) = true :=
  rfl

@[simp] theorem registered_register (item : κ) :
    registered [.register item] = [item] :=
  rfl

@[simp] theorem registered_shutdown :
    registered ([.shutdown] : List (Wish κ)) = [] :=
  rfl

theorem asksForShutdown_iff {wishes : List (Wish κ)} :
    asksForShutdown wishes = true ↔ .shutdown ∈ wishes := by
  rw [asksForShutdown, List.any_eq_true]
  constructor
  · rintro ⟨wish, made, asks⟩
    cases wish with
    | register item => simp at asks
    | shutdown => exact made
  · exact fun made => ⟨.shutdown, made, rfl⟩

def after (wishes : List (Wish κ)) : Registry κ :=
  if asksForShutdown wishes then ⟨[], true⟩ else ⟨registered wishes, false⟩

namespace Stage

def left : Stage κ → List κ
  | .between left _ => left
  | .during _ left _ => left
  | .returned _ => []

def underway : Stage κ → List κ
  | .between _ _ => []
  | .during item _ _ => [item]
  | .returned _ => []

def clean : Stage κ → Bool
  | .between _ clean => clean
  | .during _ _ clean => clean
  | .returned answer => answer

end Stage

namespace Call

/-- A call has begun to stop a first part of the items, one after another, and
knows of each that is over what it answered. -/
structure Pursues (stopping : Stopping σ κ) (items : List κ)
    (call : Call σ κ) : Prop where
  begun : call.begun ++ call.stage.left = items
  ended : call.ended.map (·.item) ++ call.stage.underway = call.begun
  clean : call.stage.clean = call.ended.all (·.clean)
  answered : ∀ stop ∈ call.ended, ∃ state,
    stopping.stop state stop.item = (stop.clean, stop.after)

def opening (stopping : Stopping σ κ) (state : σ) : Wish κ → List Notice
  | .register item => [.registeredLate (stopping.name state item)]
  | .shutdown => []

/-- A call has returned at once, with nothing stopped or reported. -/
def Idle (call : Call σ κ) : Prop :=
  call = ⟨call.wish, .returned true, [], [], []⟩

/-- A call does what it has to do after the given ones, and no more. -/
def Meets (stopping : Stopping σ κ) (before : List (Wish κ))
    (call : Call σ κ) : Prop :=
  match due? before call.wish with
  | none => call.Idle
  | some items => call.Pursues stopping items ∧ ∃ state,
      call.notices = opening stopping state call.wish ++
        call.ended.flatMap (call.wish.complaint stopping)

variable {stopping : Stopping σ κ} {state : σ} {call : Call σ κ}
  {items : List κ}

@[simp] theorem wish_proceed :
    (call.proceed stopping state).2.wish = call.wish := by
  unfold proceed
  split <;> rfl

theorem Pursues.proceed (pursues : call.Pursues stopping items) :
    (call.proceed stopping state).2.Pursues stopping items := by
  obtain ⟨wish, stage, begun, ended, notices⟩ := call
  obtain ⟨begins, ends, clean, answered⟩ := pursues
  match stage with
  | .between [] so =>
      exact ⟨begins, ends, clean, answered⟩
  | .between (item :: left) so =>
      refine ⟨?_, ?_, clean, answered⟩
      · simpa [Call.proceed, Stage.left] using begins
      · simpa [Call.proceed, Stage.underway] using ends
  | .during item left so =>
      refine ⟨begins, ?_, ?_, ?_⟩
      · simpa [Call.proceed, Stage.underway] using ends
      · have soFar : so = ended.all (·.clean) := clean
        simp [Call.proceed, Stage.clean, soFar]
      · intro stop mem
        rcases List.mem_append.mp mem with old | new
        · exact answered stop old
        · exact ⟨state, by rw [List.mem_singleton.mp new]⟩
  | .returned answer => exact ⟨begins, ends, clean, answered⟩

theorem notices_proceed {first : List Notice}
    (told : call.notices =
      first ++ call.ended.flatMap (call.wish.complaint stopping)) :
    (call.proceed stopping state).2.notices =
      first ++ (call.proceed stopping state).2.ended.flatMap
        (call.wish.complaint stopping) := by
  obtain ⟨wish, stage, begun, ended, notices⟩ := call
  match stage with
  | .between [] so => exact told
  | .between (item :: left) so => exact told
  | .during item left so =>
      have before : notices =
        first ++ ended.flatMap (wish.complaint stopping) := told
      simp [Call.proceed, before]
  | .returned answer => exact told

/-- What a call has to do is not changed by going on. -/
theorem Meets.proceed {before : List (Wish κ)}
    (meets : call.Meets stopping before) :
    (call.proceed stopping state).2.Meets stopping before := by
  unfold Meets at meets ⊢
  rw [wish_proceed]
  cases owed : due? before call.wish with
  | none =>
      rw [owed] at meets
      have stays : (call.proceed stopping state).2 = call := by
        rw [meets, Call.proceed]
      rw [stays]
      exact meets
  | some items =>
      rw [owed] at meets
      obtain ⟨pursues, told, reports⟩ := meets
      exact ⟨pursues.proceed, told, notices_proceed reports⟩

end Call

/-- A call that has just begun has to do what was not done before it. -/
theorem meets_receive {stopping : Stopping σ κ} {state : σ}
    (before : List (Wish κ)) (wish : Wish κ) :
    ((after before).receive stopping state wish).2.Meets stopping before := by
  cases wish with
  | register item =>
      cases closed : asksForShutdown before with
      | false => simp [receive, after, closed, Call.Meets, Call.Idle, due?]
      | true =>
          have starts (first : List Notice) : Call.Pursues stopping [item]
              ⟨.register item, .between [item] true, [], [], first⟩ :=
            ⟨rfl, rfl, rfl, by simp⟩
          simpa [receive, after, closed, Call.Meets, due?, starts, Call.opening]
            using ⟨state, rfl⟩
  | shutdown =>
      cases closed : asksForShutdown before with
      | false =>
          have starts : Call.Pursues stopping (registered before).reverse
              (⟨.shutdown, .between (registered before).reverse true,
                [], [], []⟩ : Call σ κ) :=
            ⟨rfl, rfl, rfl, by simp⟩
          have inhabited : ∃ _ : σ, True := ⟨state, trivial⟩
          simpa [receive, after, closed, Call.Meets, due?, starts, Call.opening]
            using inhabited
      | true => simp [receive, after, closed, Call.Meets, Call.Idle, due?]

@[simp] theorem wish_receive {registry : Registry κ} {stopping : Stopping σ κ}
    {state : σ} (wish : Wish κ) :
    (registry.receive stopping state wish).2.wish = wish := by
  cases wish <;> simp only [receive] <;> split <;> rfl

theorem registry_receive {stopping : Stopping σ κ} {state : σ}
    (before : List (Wish κ)) (wish : Wish κ) :
    ((after before).receive stopping state wish).1 =
      after (before ++ [wish]) := by
  cases wish <;> cases closed : asksForShutdown before <;>
    simp [receive, after, closed]

namespace Custody

variable {stopping : Stopping σ κ} {custody : Custody σ κ}

/-- The registry is what the calls so far leave, and each call meets what was
asked for before it. -/
structure Sound (stopping : Stopping σ κ) (custody : Custody σ κ) : Prop where
  registry : custody.registry = after custody.wishes
  calls : ∀ (number : Nat) (call : Call σ κ),
    custody.calls[number]? = some call →
    call.Meets stopping (custody.wishes.take number)

theorem sound_empty (state : σ) :
    (empty state : Custody σ κ).Sound stopping :=
  ⟨rfl, by simp [empty]⟩

theorem wishes_begin (wish : Wish κ) :
    (custody.take stopping (.begin wish)).wishes =
      custody.wishes ++ [wish] := by
  simp [Custody.take, wishes]

theorem Sound.begin (sound : custody.Sound stopping) (wish : Wish κ) :
    (custody.take stopping (.begin wish)).Sound stopping := by
  -- The calls before keep what came before them; the new one comes last.
  constructor
  · rw [wishes_begin, ← registry_receive custody.wishes, ← sound.registry]
    rfl
  · intro number call there
    have listed : (custody.calls ++
        [(custody.registry.receive stopping custody.state wish).2])[number]? =
          some call := there
    have length : custody.wishes.length = custody.calls.length :=
      List.length_map _
    rw [List.getElem?_append] at listed
    rw [wishes_begin]
    split at listed
    · rename_i earlier
      rw [List.take_append_of_le_length (by omega)]
      exact sound.calls number call listed
    · rename_i last
      obtain ⟨within, is⟩ := List.getElem?_eq_some_iff.mp listed
      have newest : number = custody.wishes.length := by
        simp only [List.length_singleton] at within
        omega
      rw [List.getElem_singleton] at is
      rw [newest, List.take_left, ← is, sound.registry]
      exact meets_receive custody.wishes wish

theorem wishes_proceed (number : Nat) :
    (custody.take stopping (.proceed number)).wishes = custody.wishes := by
  cases there : custody.calls[number]? with
  | none => simp [Custody.take, there]
  | some call =>
      obtain ⟨within, is⟩ := List.getElem?_eq_some_iff.mp there
      apply List.ext_getElem
      · simp [Custody.take, there, wishes]
      · intro other _ _
        by_cases same : number = other
        · subst same
          simp [Custody.take, there, wishes, is]
        · simp [Custody.take, there, wishes, same]

theorem Sound.proceed (sound : custody.Sound stopping) (number : Nat) :
    (custody.take stopping (.proceed number)).Sound stopping := by
  constructor
  · rw [wishes_proceed, ← sound.registry, Custody.take]
    split <;> rfl
  · intro other found seen
    rw [wishes_proceed]
    cases there : custody.calls[number]? with
    | none =>
        rw [Custody.take, there] at seen
        exact sound.calls other found seen
    | some call =>
        simp only [Custody.take, there, List.getElem?_set] at seen
        split at seen
        · split at seen
          · subst number
            rw [← Option.some.inj seen]
            exact (sound.calls other call there).proceed
          · cases seen
        · exact sound.calls other found seen

theorem Sound.take (sound : custody.Sound stopping) (turn : Turn σ κ) :
    (custody.take stopping turn).Sound stopping := by
  cases turn with
  | begin wish => exact sound.begin wish
  | proceed number => exact sound.proceed number
  | become state => exact ⟨sound.registry, sound.calls⟩

theorem Sound.run (sound : custody.Sound stopping) (turns : List (Turn σ κ)) :
    (custody.run stopping turns).Sound stopping := by
  induction turns generalizing custody with
  | nil => exact sound
  | cons turn turns induction => exact induction (sound.take turn)

theorem Sound.meets (sound : custody.Sound stopping)
    {earlier later : List (Call σ κ)} {call : Call σ κ}
    (made : custody.calls = earlier ++ call :: later) :
    call.Meets stopping (earlier.map (·.wish)) := by
  have there : custody.calls[earlier.length]? = some call := by
    rw [made, List.getElem?_append_right (Nat.le_refl _), Nat.sub_self]
    rfl
  have before : custody.wishes.take earlier.length =
      earlier.map (·.wish) := by
    rw [wishes, ← List.map_take, made, List.take_left]
  exact before ▸ sound.calls earlier.length call there

end Custody

/-! ## What is stopped in the end -/

namespace Call

variable {stopping : Stopping σ κ} {call : Call σ κ} {items : List κ}
  {answer : Bool}

/-- A call that has returned has stopped all it had to. -/
theorem Pursues.begun_eq (pursues : call.Pursues stopping items)
    (answers : call.Answers answer) : call.begun = items := by
  have begun := pursues.begun
  rwa [answers, Stage.left, List.append_nil] at begun

theorem Pursues.ended_eq (pursues : call.Pursues stopping items)
    (answers : call.Answers answer) : call.ended.map (·.item) = items := by
  have ended := pursues.ended
  rwa [answers, Stage.underway, List.append_nil,
    pursues.begun_eq answers] at ended

theorem Pursues.answer_eq (pursues : call.Pursues stopping items)
    (answers : call.Answers answer) : answer = call.ended.all (·.clean) := by
  have clean := pursues.clean
  rwa [answers] at clean

end Call

theorem flatMap_complaint (stopping : Stopping σ κ) (stops : List (Stop σ κ)) :
    stops.flatMap (Wish.complaint .shutdown stopping) =
      (stops.filter (!·.clean)).map fun stop =>
        .stoppedUncleanly (stopping.name stop.after stop.item) := by
  induction stops with
  | nil => rfl
  | cons stop stops induction =>
      cases clean : stop.clean <;>
        simp [Wish.complaint, clean, induction]

def dues (wishes : List (Wish κ)) : List κ :=
  if asksForShutdown wishes then registered wishes else []

theorem dues_concat {wishes : List (Wish κ)} {stopped : List κ} (wish : Wish κ)
    (soFar : stopped.Perm (dues wishes)) :
    (stopped ++ (due? wishes wish).getD []).Perm (dues (wishes ++ [wish])) := by
  cases closed : asksForShutdown wishes with
  | false =>
      have nothing : stopped = [] := by simpa [dues, closed] using soFar
      cases wish with
      | register item => simp [dues, due?, closed, nothing]
      | shutdown => simp [dues, due?, closed, nothing, List.reverse_perm]
  | true =>
      have all : stopped.Perm (registered wishes) := by
        simpa [dues, closed] using soFar
      cases wish with
      | register item =>
          simpa [dues, due?, closed] using all.append_right [item]
      | shutdown => simpa [dues, due?, closed] using all

/-- Calls that have each stopped their due have stopped all there was to. -/
theorem perm_begun {calls : List (Call σ κ)}
    (paid : ∀ earlier call later, calls = earlier ++ call :: later →
      call.begun = (due? (earlier.map (·.wish)) call.wish).getD []) :
    (calls.flatMap (·.begun)).Perm (dues (calls.map (·.wish))) := by
  induction calls using List.reverseRecOn with
  | nil => exact .nil
  | append_singleton calls last induction =>
      have soFar := induction fun earlier call later made =>
        paid earlier call (later ++ [last]) (by simp [made])
      have newest := paid calls last [] rfl
      rw [List.flatMap_append, List.flatMap_singleton, newest, List.map_append]
      exact dues_concat last.wish soFar

/-! ## Calls that nothing comes in between -/

/-- What a call does to a registry, and its answer, where it is alone. -/
def serve (registry : Registry κ) (stopping : Stopping σ κ) (state : σ) :
    Wish κ → Bool × Registry κ × σ × List Notice
  | .register item => registry.register stopping state item
  | .shutdown => registry.shutdown stopping state

namespace Custody

variable (stopping : Stopping σ κ) {custody : Custody σ κ}

theorem run_append (turns others : List (Turn σ κ)) :
    custody.run stopping (turns ++ others) =
      (custody.run stopping turns).run stopping others :=
  List.foldl_append

theorem take_proceed_newest {earlier : List (Call σ κ)} {call : Call σ κ}
    (newest : custody.calls = earlier ++ [call]) :
    custody.take stopping (.proceed earlier.length) =
      { custody with
        state := (call.proceed stopping custody.state).1
        calls := earlier ++ [(call.proceed stopping custody.state).2] } := by
  have there : custody.calls[earlier.length]? = some call := by
    rw [newest, List.getElem?_append_right (Nat.le_refl _), Nat.sub_self]
    rfl
  rw [Custody.take, there]
  simp [newest]

/-- In two steps the newest call begins and ends its next stop. -/
theorem run_stop_next {earlier : List (Call σ κ)} {wish : Wish κ} {item : κ}
    {items : List κ} {clean : Bool} {begun : List κ} {ended : List (Stop σ κ)}
    {notices : List Notice}
    (newest : custody.calls = earlier ++
      [⟨wish, .between (item :: items) clean, begun, ended, notices⟩]) :
    custody.run stopping (.replicate 2 (.proceed earlier.length)) =
      let answer := (stopping.stop custody.state item).1
      let after := (stopping.stop custody.state item).2
      { custody with
        state := after
        calls := earlier ++
          [⟨wish, .between items (clean && answer), begun ++ [item],
            ended ++ [⟨item, answer, after⟩],
            notices ++ wish.complaint stopping ⟨item, answer, after⟩⟩] } := by
  have waits := take_proceed_newest stopping newest
  have ends := take_proceed_newest stopping (congrArg Custody.calls waits)
  rw [waits] at ends
  simpa [run, waits, Call.proceed] using ends

theorem run_stopAll {earlier : List (Call σ κ)} {items : List κ} {clean : Bool}
    {begun : List κ} {ended : List (Stop σ κ)} {notices : List Notice}
    (newest : custody.calls =
      earlier ++ [⟨.shutdown, .between items clean, begun, ended, notices⟩]) :
    ∃ moves call,
      custody.run stopping (.replicate moves (.proceed earlier.length)) =
        { custody with
          state := (stopAll stopping items custody.state).2.1
          calls := earlier ++ [call] } ∧
      call.Answers (clean && (stopAll stopping items custody.state).1) ∧
      call.notices =
        notices ++ (stopAll stopping items custody.state).2.2 := by
  induction items generalizing custody clean begun ended notices with
  | nil =>
      refine ⟨1, _, take_proceed_newest stopping newest, ?_, ?_⟩
      · simp [stopAll, Call.proceed, Call.Answers]
      · simp [stopAll, Call.proceed]
  | cons item items induction =>
      have stops := run_stop_next stopping newest
      obtain ⟨moves, call, goes, answers, notes⟩ :=
        induction (congrArg Custody.calls stops)
      rw [stops] at goes answers notes
      refine ⟨2 + moves, call, ?_, ?_, ?_⟩
      · rw [← List.replicate_append_replicate, run_append, stops, goes]
        rfl
      · simpa [stopAll, Bool.and_assoc] using answers
      · simpa [stopAll, Wish.complaint] using notes

/-- A call that nothing comes in between does, in the end, what it does to a
registry where it is alone. -/
theorem run_alone (custody : Custody σ κ) (wish : Wish κ) :
    ∃ moves call,
      custody.run stopping (.begin wish ::
          .replicate moves (.proceed custody.calls.length)) =
        ⟨(custody.registry.serve stopping custody.state wish).2.1,
          (custody.registry.serve stopping custody.state wish).2.2.1,
          custody.calls ++ [call]⟩ ∧
      call.Answers (custody.registry.serve stopping custody.state wish).1 ∧
      call.notices =
        (custody.registry.serve stopping custody.state wish).2.2.2 := by
  obtain ⟨⟨owned, closed⟩, state, calls⟩ := custody
  cases closed with
  | false =>
    cases wish with
    | register item =>
        exact ⟨0, ⟨.register item, .returned true, [], [], []⟩, rfl, rfl, rfl⟩
    | shutdown =>
        let begun : Custody σ κ :=
          take ⟨⟨owned, false⟩, state, calls⟩ stopping (.begin .shutdown)
        have newest : begun.calls =
            calls ++ [⟨.shutdown, .between owned.reverse true, [], [], []⟩] :=
          rfl
        exact run_stopAll stopping newest
  | true =>
    cases wish with
    | register item =>
        let begun : Custody σ κ :=
          take ⟨⟨owned, true⟩, state, calls⟩ stopping (.begin (.register item))
        have newest : begun.calls =
            calls ++ [⟨.register item, .between [item] true, [], [],
              [.registeredLate (stopping.name state item)]⟩] :=
          rfl
        have stops := run_stop_next stopping newest
        have returns :=
          take_proceed_newest stopping (congrArg Custody.calls stops)
        rw [stops] at returns
        let stop : Stop σ κ := ⟨item, (stopping.stop state item).1,
          (stopping.stop state item).2⟩
        refine ⟨2 + 1, ⟨.register item, .returned stop.clean, [item], [stop],
          [.registeredLate (stopping.name state item)]⟩, ?_, rfl, rfl⟩
        calc begun.run stopping (.replicate (2 + 1) (.proceed calls.length))
          _ = (begun.run stopping (.replicate 2 (.proceed calls.length))).take
                stopping (.proceed calls.length) :=
              run_append stopping (.replicate 2 (.proceed calls.length)) [_]
          _ = _ := by rw [stops, returns]; rfl
    | shutdown =>
        exact ⟨0, ⟨.shutdown, .returned true, [], [], []⟩, rfl, rfl, rfl⟩

end Custody

/-! ## No handle is lost -/

/-- A call stops the items in this order, reports each that was not clean, and
once it has returned, has stopped them all and answers whether all was clean. -/
structure Call.Clears (stopping : Stopping σ κ) (items : List κ)
    (call : Call σ κ) : Prop where
  pursues : call.Pursues stopping items
  notices : call.notices =
    (call.ended.filter (!·.clean)).map fun stop =>
      .stoppedUncleanly (stopping.name stop.after stop.item)
  done : ∀ answer, call.Answers answer →
    call.begun = items ∧ call.ended.map (·.item) = items ∧
      (answer = true ↔ ∀ stop ∈ call.ended, stop.clean = true)

/-- A call stops one item, and its answer is that of the stop. -/
structure Call.Passes (stopping : Stopping σ κ) (item : κ)
    (call : Call σ κ) : Prop where
  pursues : call.Pursues stopping [item]
  notices : ∃ state,
    call.notices = [.registeredLate (stopping.name state item)]
  done : ∀ answer, call.Answers answer →
    call.begun = [item] ∧ ∃ after, call.ended = [⟨item, answer, after⟩]

/-- No call on a registry loses anything, whatever comes in between. -/
structure Custody.Accounts (stopping : Stopping σ κ)
    (custody : Custody σ κ) : Prop where
  /-- Before shutdown is asked for, all that was handed over is owned. -/
  owned : .shutdown ∉ custody.wishes →
    custody.registry = ⟨registered custody.wishes, false⟩
  /-- From the beginning of the first shutdown on, nothing is. -/
  emptied : .shutdown ∈ custody.wishes → custody.registry = ⟨[], true⟩
  early : ∀ earlier item call later, custody.calls = earlier ++ call :: later →
    call.wish = .register item → .shutdown ∉ earlier.map (·.wish) → call.Idle
  /-- The first shutdown stops what it finds, the newest first. -/
  first : ∀ earlier call later, custody.calls = earlier ++ call :: later →
    call.wish = .shutdown → .shutdown ∉ earlier.map (·.wish) →
    call.Clears stopping (registered (earlier.map (·.wish))).reverse
  /-- What is handed over later is stopped by the call that does so. -/
  late : ∀ earlier item call later, custody.calls = earlier ++ call :: later →
    call.wish = .register item → .shutdown ∈ earlier.map (·.wish) →
    call.Passes stopping item
  further : ∀ earlier call later, custody.calls = earlier ++ call :: later →
    call.wish = .shutdown → .shutdown ∈ earlier.map (·.wish) → call.Idle
  /-- When the first shutdown and all that hand something over have returned,
  everything that was handed over has been stopped once. -/
  once : .shutdown ∈ custody.wishes →
    (∀ earlier call later, custody.calls = earlier ++ call :: later →
      call.wish = .shutdown → .shutdown ∉ earlier.map (·.wish) →
      ∃ answer, call.Answers answer) →
    (∀ call ∈ custody.calls, ∀ item, call.wish = .register item →
      ∃ answer, call.Answers answer) →
    (custody.calls.flatMap (·.begun)).Perm (registered custody.wishes)

namespace Call

variable {stopping : Stopping σ κ} {before : List (Wish κ)} {call : Call σ κ}
  {items : List κ}

theorem Meets.idle (meets : call.Meets stopping before)
    (nothing : due? before call.wish = none) : call.Idle := by
  rwa [Meets, nothing] at meets

theorem Meets.pursues (meets : call.Meets stopping before)
    (owed : due? before call.wish = some items) :
    call.Pursues stopping items := by
  rw [Meets, owed] at meets
  exact meets.1

theorem Meets.clears (meets : call.Meets stopping before)
    (wish : call.wish = .shutdown) (is_first : asksForShutdown before = false) :
    call.Clears stopping (registered before).reverse := by
  have owed : due? before call.wish = some (registered before).reverse := by
    simp [wish, due?, is_first]
  have pursues := meets.pursues owed
  rw [Meets, owed] at meets
  obtain ⟨-, state, notices⟩ := meets
  refine ⟨pursues, ?_, fun answer answers => ?_⟩
  · rw [notices, wish, flatMap_complaint]
    rfl
  · refine ⟨pursues.begun_eq answers, pursues.ended_eq answers, ?_⟩
    rw [pursues.answer_eq answers, List.all_eq_true]

theorem Meets.passes {item : κ} (meets : call.Meets stopping before)
    (wish : call.wish = .register item)
    (closed : asksForShutdown before = true) : call.Passes stopping item := by
  have owed : due? before call.wish = some [item] := by
    simp [wish, due?, closed]
  have pursues := meets.pursues owed
  rw [Meets, owed] at meets
  obtain ⟨-, state, notices⟩ := meets
  refine ⟨pursues, ⟨state, ?_⟩, fun answer answers => ?_⟩
  · have silent : call.ended.flatMap (call.wish.complaint stopping) = [] := by
      simp [wish, Wish.complaint]
    rw [notices, silent, wish]
    rfl
  · have ended := pursues.ended_eq answers
    have clean := pursues.answer_eq answers
    obtain ⟨stop, only, is⟩ := List.map_eq_singleton_iff.mp ended
    refine ⟨pursues.begun_eq answers, stop.after, ?_⟩
    rw [only, clean, only, ← is]
    simp

/-- A call that has returned has stopped its due. -/
theorem Meets.paid {answer : Bool} (meets : call.Meets stopping before)
    (answers : call.Answers answer) :
    call.begun = (due? before call.wish).getD [] := by
  cases owed : due? before call.wish with
  | none => rw [meets.idle owed]; rfl
  | some items => exact (meets.pursues owed).begun_eq answers

end Call

theorem asksForShutdown_eq_false_iff {wishes : List (Wish κ)} :
    asksForShutdown wishes = false ↔ .shutdown ∉ wishes := by
  rw [← asksForShutdown_iff, Bool.not_eq_true]

namespace Custody

variable {stopping : Stopping σ κ} {custody : Custody σ κ}

/-- When first shutdowns and all that hand something over have returned, each
call has stopped its due. -/
theorem Sound.paid (sound : custody.Sound stopping)
    (cleared : ∀ earlier call later, custody.calls = earlier ++ call :: later →
      call.wish = .shutdown → .shutdown ∉ earlier.map (·.wish) →
      ∃ answer, call.Answers answer)
    (taken : ∀ call ∈ custody.calls, ∀ item, call.wish = .register item →
      ∃ answer, call.Answers answer)
    (earlier : List (Call σ κ)) (call : Call σ κ) (later : List (Call σ κ))
    (made : custody.calls = earlier ++ call :: later) :
    call.begun = (due? (earlier.map (·.wish)) call.wish).getD [] := by
  have meets := sound.meets made
  cases wish : call.wish with
  | register item =>
      obtain ⟨answer, answers⟩ := taken call (by simp [made]) item wish
      exact wish ▸ meets.paid answers
  | shutdown =>
      cases closed : asksForShutdown (earlier.map (·.wish)) with
      | false =>
          obtain ⟨answer, answers⟩ := cleared earlier call later made wish
            (asksForShutdown_eq_false_iff.mp closed)
          exact wish ▸ meets.paid answers
      | true =>
          have nothing : due? (earlier.map (·.wish)) call.wish = none := by
            rw [wish, due?, closed, if_pos rfl]
          rw [← wish, nothing, meets.idle nothing]
          rfl

theorem Sound.accounts (sound : custody.Sound stopping) :
    custody.Accounts stopping where
  owned never := by
    rw [sound.registry, after,
      if_neg (mt asksForShutdown_iff.mp never)]
  emptied asked := by
    rw [sound.registry, after, if_pos (asksForShutdown_iff.mpr asked)]
  early earlier item call later made wish never := by
    refine (sound.meets made).idle ?_
    rw [wish, due?, if_neg (mt asksForShutdown_iff.mp never)]
  first earlier call later made wish never :=
    (sound.meets made).clears wish (asksForShutdown_eq_false_iff.mpr never)
  late earlier item call later made wish asked :=
    (sound.meets made).passes wish (asksForShutdown_iff.mpr asked)
  further earlier call later made wish asked := by
    refine (sound.meets made).idle ?_
    rw [wish, due?, if_pos (asksForShutdown_iff.mpr asked)]
  once asked cleared taken := by
    have all := perm_begun (sound.paid cleared taken)
    rwa [← wishes, dues, if_pos (asksForShutdown_iff.mpr asked)] at all

end Custody

/-- In every course of calls on a registry that starts empty, and at every
moment of it, nothing is lost; and a call that nothing comes in between does
what it does to a registry where it is alone. -/
theorem every_registration_is_stopped_once (stopping : Stopping σ κ) (state : σ)
    (turns : List (Turn σ κ)) :
    let custody := (Custody.empty state).run stopping turns
    custody.Accounts stopping ∧
      ∀ wish, ∃ moves call,
        custody.run stopping (.begin wish ::
            .replicate moves (.proceed custody.calls.length)) =
          ⟨(custody.registry.serve stopping custody.state wish).2.1,
            (custody.registry.serve stopping custody.state wish).2.2.1,
            custody.calls ++ [call]⟩ ∧
        call.Answers (custody.registry.serve stopping custody.state wish).1 ∧
        call.notices =
          (custody.registry.serve stopping custody.state wish).2.2.2 :=
  ⟨((Custody.sound_empty state).run turns).accounts,
    Custody.run_alone stopping _⟩

def stubborn : Stopping Unit String :=
  ⟨fun _ item => item, fun _ item => (item != "south", ())⟩

/-- Something is handed over, and shutdown is asked for again, while the first
shutdown is waiting for a stop. -/
def busyShutdown : List (Turn Unit String) :=
  [.begin (.register "north"), .begin (.register "south"), .begin .shutdown,
    .proceed 2, .begin (.register "late"), .begin .shutdown, .proceed 3,
    .proceed 2, .proceed 3, .proceed 2, .proceed 2, .proceed 3, .proceed 2]

theorem busy_shutdown_stops_all :
    let custody := (Custody.empty ()).run stubborn busyShutdown
    custody.calls =
        [⟨.register "north", .returned true, [], [], []⟩,
          ⟨.register "south", .returned true, [], [], []⟩,
          ⟨.shutdown, .returned false, ["south", "north"],
            [⟨"south", false, ()⟩, ⟨"north", true, ()⟩],
            [.stoppedUncleanly "south"]⟩,
          ⟨.register "late", .returned true, ["late"], [⟨"late", true, ()⟩],
            [.registeredLate "late"]⟩,
          ⟨.shutdown, .returned true, [], [], []⟩] ∧
      custody.registry = ⟨[], true⟩ ∧
      (custody.calls.flatMap (·.begun)).Perm ["north", "south", "late"] := by
  intro custody
  have returned : ∀ call ∈ custody.calls, ∃ answer, call.Answers answer := by
    intro call made
    have all : custody.calls.all (·.stage matches .returned _) = true := rfl
    have settled := List.all_eq_true.mp all call made
    cases stage : call.stage with
    | returned answer => exact ⟨answer, stage⟩
    | _ => simp [stage] at settled
  have accounts := (every_registration_is_stopped_once stubborn ()
    busyShutdown).1
  refine ⟨rfl, accounts.emptied (by decide), accounts.once (by decide) ?_ ?_⟩
  · intro earlier call later made _ _
    have there : call ∈ earlier ++ call :: later := by simp
    exact returned call (made ▸ there)
  · exact fun call made _ _ => returned call made

end Registry

end OvsdbClient
