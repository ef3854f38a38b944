import OvsdbClient.Network.Client
import OvsdbClient.Proofs.Mutations
import OvsdbClient.Proofs.Outcomes

/-!
# The global counter

Clients of a northbound database may have its global counter incremented with
their transactions.  While nothing else touches the counter, it tells how many
of those were applied, and nobody sees a transaction without its increment.
-/

namespace OvsdbClient

/-- What a counter holds that began with something and was incremented a number
of times.  A missing one counts from zero. -/
inductive Value.Counted (first : Option Value) : Nat → Option Value → Prop where
  | zero : Counted first 0 first
  | succ {times : Nat} {held : Option Value} {base : Int} :
      Counted first times held → Mutation.Counts held base →
      Counted first (times + 1) (some (.atom (.integer (base + 1))))

namespace Value.Counted

variable {first held : Option Value} {times : Nat}

theorem eq_or (counted : Counted first times held) :
    (times = 0 ∧ held = first) ∨
      0 < times ∧ ∃ base, Mutation.Counts first base ∧
        held = some (.atom (.integer (base + times))) := by
  induction counted with
  | zero => exact .inl ⟨rfl, rfl⟩
  | @succ times held base _ counts induction =>
      refine .inr ⟨Nat.succ_pos times, ?_⟩
      rcases induction with ⟨rfl, rfl⟩ | ⟨_, start, began, rfl⟩
      · exact ⟨base, counts, rfl⟩
      · cases counts
        exact ⟨start, began, by simp [Int.add_assoc]⟩

theorem of_some {value : Value} (counted : Counted (some value) times held) :
    held.bind asInteger? = value.asInteger?.map (· + (times : Int)) := by
  rcases counted.eq_or with ⟨rfl, rfl⟩ | ⟨_, base, counts, rfl⟩
  · cases read : value.asInteger? <;> simp [read]
  · cases counts
    rfl

theorem of_none (counted : Counted none times held) :
    held.bind asInteger? = if times = 0 then none else some (times : Int) := by
  rcases counted.eq_or with ⟨rfl, rfl⟩ | ⟨some, base, counts, rfl⟩
  · rfl
  · cases counts
    rw [if_neg (Nat.ne_of_gt some), Int.zero_add]
    rfl

end Value.Counted

/-- An operation does nothing to the global table but verify rows of it. -/
def Operation.SparesCounter (operation : Operation) : Prop :=
  operation.table = globalTable → operation.isVerify = true

namespace Tables

variable {schema : DatabaseSchema} {tables next : Tables} {table : String}
  {uuid target : Uuid} {row : Row} {held : Option Value}
  {operations : List Operation}

theorem rows_eq_singleton_iff (keyed : tables.Keyed) :
    tables.rows table = [row] ↔
      ∀ other, tables.row? table other =
        if other = row.uuid then some row else none := by
  constructor
  · intro single
    unfold rows at single
    cases found : tables.get? table with
    | none =>
        rw [found] at single
        cases single
    | some stored =>
        rw [found, Option.getD_some] at single
        obtain ⟨⟨key, last⟩, entries, same⟩ :=
          List.map_eq_singleton_iff.mp single
        obtain rfl : last = row := same
        have here : ∀ {other another}, tables.row? table other = some another ↔
            (other, another) = (key, last) := by
          intro other another
          simp only [row?, found, Option.bind_some]
          rw [SortedMap.get?_eq_some_iff, entries, List.mem_singleton]
        have own : last.uuid = key := keyed table key last (here.mpr rfl)
        intro other
        split
        case isTrue same =>
          subst same
          exact here.mpr (by rw [own])
        case isFalse differ =>
          refine Option.eq_none_iff_forall_ne_some.mpr fun another stored => ?_
          obtain ⟨rfl, rfl⟩ := Prod.mk.inj (here.mp stored)
          exact differ own.symm
  · intro only
    have present : tables.row? table row.uuid = some row :=
      (only row.uuid).trans (if_pos rfl)
    obtain ⟨stored, found, _⟩ := Option.bind_eq_some_iff.mp present
    have singleton : stored = SortedMap.empty.insert row.uuid row := by
      refine SortedMap.ext_get? fun other => ?_
      have here := only other
      simp only [row?, found, Option.bind_some] at here
      rw [here, SortedMap.get?_insert, SortedMap.get?_empty]
      simp only [eq_comm]
    unfold rows
    rw [found, singleton]
    rfl

/-- The global table has one row only, whose counter is as given. -/
def Counts (tables : Tables) (uuid : Uuid) (held : Option Value) : Prop :=
  ∀ other, (tables.row? globalTable other).map (·.get? "nb_cfg") =
    if other = uuid then some held else none

theorem counts_iff (keyed : tables.Keyed) :
    tables.Counts uuid held ↔
      ∃ row, tables.rows globalTable = [row] ∧ row.uuid = uuid ∧
        row.get? "nb_cfg" = held := by
  constructor
  · intro counts
    have present := (counts uuid).trans (if_pos rfl)
    obtain ⟨row, stored, holds⟩ := Option.map_eq_some_iff.mp present
    have own : row.uuid = uuid := keyed globalTable uuid row stored
    refine ⟨row, (rows_eq_singleton_iff keyed).mpr fun other => ?_, own, holds⟩
    split
    case isTrue same => rw [same, own, stored]
    case isFalse differ =>
      rw [own] at differ
      exact Option.map_eq_none_iff.mp ((counts other).trans (if_neg differ))
  · rintro ⟨row, single, rfl, rfl⟩ other
    rw [(rows_eq_singleton_iff keyed).mp single other]
    split <;> rfl

theorem Counts.stage {staged : Tables} (counts : tables.Counts uuid held)
    (spared : ∀ operation ∈ operations, operation.SparesCounter)
    (staging : Database.stage schema tables operations = .ok staged) :
    staged.Counts uuid held := by
  intro other
  rw [Database.row?_stage_of_not_writes ?_ staging]
  · exact counts other
  · rintro operation member ⟨writes, table, _⟩
    rw [spared operation member table] at writes
    cases writes

/-- An increment finds the counter, and finds it to be an integer if it holds
anything. -/
theorem Counts.increment (counts : tables.Counts uuid held)
    (done : (Operation.mutate globalTable target "nb_cfg" (.increment 1)).apply
      schema tables = .ok next) :
    target = uuid ∧ ∃ base, Mutation.Counts held base ∧
      next.Counts uuid (some (.atom (.integer (base + 1)))) := by
  obtain ⟨shape, left, known, onRow, rfl⟩ := Operation.apply_eq_ok_iff.mp done
  obtain ⟨_, row, value, present, result, rfl⟩ :=
    Operation.onRow_mutate_eq_ok_iff.mp onRow
  have stored : tables.row? globalTable target = some row := present
  have counted := counts target
  rw [stored] at counted
  obtain rfl : target = uuid := by
    by_contra differ
    rw [if_neg differ] at counted
    cases counted
  rw [if_pos rfl] at counted
  have found : row.columns.get? "nb_cfg" = held := Option.some.inj counted
  rw [found] at result
  obtain ⟨base, integer, _, rfl⟩ :=
    Mutation.result?_increment_eq_some_iff.mp result
  refine ⟨rfl, base, integer, fun other => ?_⟩
  rw [row?_put]
  by_cases same : target = other
  · subst same
    rw [if_pos ⟨rfl, rfl⟩, if_pos rfl]
    exact congrArg some (SortedMap.get?_insert_self ..)
  · rw [if_neg fun named => same named.2, if_neg fun equal => same equal.symm]
    exact (counts other).trans (if_neg fun equal => same equal.symm)

theorem Counts.commit {database after : Database} {staged : Tables}
    (counts : staged.Counts uuid held)
    (staging : Database.stage schema database.tables operations = .ok staged)
    (done : database.commit schema operations = .ok after) :
    after.tables.Counts uuid held := fun other =>
  (Database.columns_commit staging done globalTable other "nb_cfg").trans
    (counts other)

theorem Counts.unique {another : Option Value}
    (counts : tables.Counts uuid held)
    (again : tables.Counts uuid another) : held = another := by
  have same := (counts uuid).symm.trans (again uuid)
  rw [if_pos rfl, if_pos rfl] at same
  exact Option.some.inj same

end Tables

/-! ## Requests of northbound clients -/

namespace Transaction

/-- A transaction of a northbound client, counting or not, has nothing queued
that touches the counter. -/
def SparesCounter (transaction : Transaction) : Prop :=
  (∀ operation ∈ transaction.operations, operation.SparesCounter) ∧
    ∃ handle bump, transaction.hooks = (Client.transaction
      ⟨.northbound, handle⟩ transaction.timeout bump).hooks

variable {transaction : Transaction} {operations : List Operation}

theorem SparesCounter.hooks (spares : transaction.SparesCounter) :
    transaction.hooks = [] ∨ transaction.hooks = [Client.globalCounter] := by
  obtain ⟨_, handle, bump, hooks⟩ := spares
  rw [hooks]
  cases bump
  · exact .inl rfl
  · exact .inr rfl

theorem Completed.of_uncounted (completed : transaction.Completed operations)
    (uncounted : transaction.hooks = []) :
    operations = transaction.operations := by
  obtain ⟨added, adds, rfl⟩ := completed
  rw [uncounted] at adds
  cases adds
  exact List.append_nil _

theorem Completed.of_counted (completed : transaction.Completed operations)
    (counted : transaction.hooks = [Client.globalCounter]) :
    ∃ target, operations = transaction.operations ++
      [.mutate globalTable target "nb_cfg" (.increment 1)] := by
  obtain ⟨added, adds, rfl⟩ := completed
  rw [counted] at adds
  cases adds with
  | cons one none =>
      cases none
      obtain ⟨target, rfl⟩ := one
      exact ⟨target, rfl⟩

end Transaction

/-- What the clients of a northbound database do.  Nothing touches its counter
but the increments that go with their transactions. -/
def Move.SparesCounter : Move → Prop
  | .event (.commit operations) =>
      ∀ operation ∈ operations, operation.SparesCounter
  | .submit _ transaction => transaction.SparesCounter
  | _ => True

namespace Request

variable {request : Request} {schema : DatabaseSchema} {uuid : Uuid}
  {held : Option Value} {queued : List Operation}

/-- A request for what was queued and an increment of the counter is answered
as a whole.  Either all of it takes effect in one step, or nothing does. -/
structure CountsWith (request : Request) (queued : List Operation)
    (uuid : Uuid) (target : Uuid) : Prop where
  operations : request.operations =
    queued ++ [.mutate globalTable target "nb_cfg" (.increment 1)]
  refused : request.isApplied = false →
    request.after.database = request.server.database
  applied : request.isApplied = true → target = uuid ∧ ∃ staged held base,
    Database.stage request.server.schema request.server.database.tables
        queued = .ok staged ∧
      (∀ table row column, table ≠ globalTable →
        (request.after.database.tables.row? table row).map (·.get? column) =
          (staged.row? table row).map (·.get? column)) ∧
      Mutation.Counts held base ∧
      request.server.database.tables.Counts uuid held ∧
      request.after.database.tables.Counts uuid
        (some (.atom (.integer (base + 1))))

theorem counts_after (counts : request.server.database.tables.Counts uuid held)
    (spared : ∀ operation ∈ request.operations, operation.SparesCounter) :
    request.after.database.tables.Counts uuid held := by
  cases answered : request.answer with
  | error fault =>
      rw [after, Server.database_commit_of_error answered]
      exact counts
  | ok generation =>
      have done := Server.database_commit answered
      obtain ⟨staged, staging, _⟩ := Database.commit_eq_ok_iff.mp done
      exact (counts.stage spared staging).commit staging done

theorem countsWith {target : Uuid}
    (counts : request.server.database.tables.Counts uuid held)
    (spared : ∀ operation ∈ queued, operation.SparesCounter)
    (operations : request.operations =
      queued ++ [.mutate globalTable target "nb_cfg" (.increment 1)]) :
    request.CountsWith queued uuid target := by
  refine ⟨operations, fun refused => ?_, fun applied => ?_⟩
  · cases answered : request.answer with
    | error fault => exact Server.database_commit_of_error answered
    | ok generation =>
        rw [isApplied_iff.mpr ⟨generation, answered⟩] at refused
        cases refused
  · obtain ⟨generation, answered⟩ := isApplied_iff.mp applied
    have done := Server.database_commit answered
    obtain ⟨final, staging, _⟩ := Database.commit_eq_ok_iff.mp done
    have split := staging
    rw [operations] at split
    obtain ⟨staged, first, last⟩ := Database.stage_append_eq_ok_iff.mp split
    obtain ⟨next, incremented, none⟩ := Database.stage_cons_eq_ok_iff.mp last
    obtain rfl : next = final := by cases none; rfl
    obtain ⟨found, base, integer, counted⟩ :=
      (counts.stage spared first).increment incremented
    refine ⟨found, staged, held, base, first, ?_, integer, counts,
      counted.commit staging done⟩
    intro table row column other
    refine (Database.columns_commit staging done table row column).trans ?_
    rw [Operation.row?_apply_of_not_writes _ incremented]
    rintro ⟨_, same, _⟩
    exact other same.symm

theorem CountsWith.counts {target : Uuid} {first : Option Value} {times : Nat}
    (whole : request.CountsWith queued uuid target)
    (counts : request.server.database.tables.Counts uuid held)
    (counted : Value.Counted first times held) :
    ∃ later, request.after.database.tables.Counts uuid later ∧
      Value.Counted first (if request.isApplied then times + 1 else times)
        later := by
  cases applied : request.isApplied with
  | false =>
      rw [whole.refused applied]
      exact ⟨held, counts, counted⟩
  | true =>
      obtain ⟨_, staged, _, base, _, _, integer, was, now⟩ :=
        whole.applied applied
      cases counts.unique was
      exact ⟨_, now, .succ counted integer⟩

end Request

namespace Traffic

/-- The submissions that were applied with an increment of the counter, in
order. -/
def bumped (traffic : Traffic) (moves : List Move) : List Nat :=
  (traffic.requests moves).filterMap fun request =>
    if request.isApplied ∧ request.hooks = [Client.globalCounter] then
      request.asker
    else none

variable {moves : List Move} {server : Server} {request : Request}
  {uuid : Uuid} {held : Option Value}

/-- What northbound clients ask for leaves the counter alone, or it is what a
counting transaction queued and one increment. -/
theorem request_of_spared (spared : ∀ move ∈ moves, move.SparesCounter)
    (member : request ∈ (ofServer server).requests moves) :
    (request.hooks = [] ∧
        ∀ operation ∈ request.operations, operation.SparesCounter) ∨
      (request.hooks = [Client.globalCounter] ∧
        ∃ number queued target, request.asker = some number ∧
          (∀ operation ∈ queued, operation.SparesCounter) ∧
          request.operations = queued ++
            [.mutate globalTable target "nb_cfg" (.increment 1)]) := by
  cases own : request.asker with
  | none =>
      obtain ⟨past, move, ⟨future, rfl⟩, asks⟩ := mem_requests_iff.mp member
      cases move with
      | event event =>
          cases event with
          | commit operations =>
              cases asks
              exact .inl ⟨rfl, spared (.event (.commit operations)) (by simp)⟩
          | _ => cases asks
      | submit session transaction => cases asks
      | proceed number =>
          cases ((asker_of_request? asks).mpr rfl).symm.trans own
      | expire number ofSession => cases asks
  | some number =>
      obtain ⟨session, transaction, submitted, hooks, completed⟩ :=
        exists_submit_of_asker member own
      have spares : transaction.SparesCounter := spared _ submitted
      rw [hooks]
      rcases spares.hooks with uncounted | counted
      · rw [completed.of_uncounted uncounted]
        exact .inl ⟨uncounted, spares.1⟩
      · obtain ⟨target, operations⟩ := completed.of_counted counted
        exact .inr ⟨counted, number, transaction.operations, target, rfl,
          spares.1, operations⟩

theorem bumped_append_singleton (traffic : Traffic) (moves : List Move)
    (move : Move) :
    traffic.bumped (moves ++ [move]) =
      traffic.bumped moves ++ (traffic.run moves).bumped [move] := by
  unfold bumped
  rw [requests_append, List.filterMap_append]

theorem bumped_singleton {traffic : Traffic} {move : Move}
    (asked : traffic.request? move = some request) :
    traffic.bumped [move] =
      if request.isApplied ∧ request.hooks = [Client.globalCounter] then
        request.asker.toList
      else [] := by
  simp only [bumped, requests, asked, Option.toList_some, List.append_nil]
  by_cases bumps : request.isApplied ∧ request.hooks = [Client.globalCounter]
  · rw [if_pos bumps]
    cases own : request.asker <;> simp [bumps, own]
  · simp [bumps]

theorem bumped_singleton_of_quiet {traffic : Traffic} {move : Move}
    (quiet : traffic.request? move = none) : traffic.bumped [move] = [] := by
  simp [bumped, requests, quiet]

/-- The counter has been incremented once for every submission that was applied
with an increment. -/
theorem counts_run (counts : server.database.tables.Counts uuid held)
    (spared : ∀ move ∈ moves, move.SparesCounter) :
    ∃ later,
      ((ofServer server).run moves).server.database.tables.Counts uuid later ∧
        Value.Counted held ((ofServer server).bumped moves).length later := by
  -- From the end, as what a request asked for is told by the whole run before.
  induction moves using List.reverseRecOn with
  | nil => exact ⟨held, counts, .zero⟩
  | append_singleton moves move induction =>
      obtain ⟨later, before, counted⟩ := induction fun move member =>
        spared move (List.mem_append_left _ member)
      rw [run_append, run_cons, run_nil, bumped_append_singleton]
      cases asked : ((ofServer server).run moves).request? move with
      | none =>
          rw [database_step_of_request?_eq_none asked,
            bumped_singleton_of_quiet asked, List.append_nil]
          exact ⟨later, before, counted⟩
      | some request =>
          have now : request.server = ((ofServer server).run moves).server :=
            server_of_request? asked
          have member :
              request ∈ (ofServer server).requests (moves ++ [move]) :=
            mem_requests_iff.mpr ⟨moves, move, List.prefix_rfl, asked⟩
          rw [server_step_of_request? asked, bumped_singleton asked]
          rw [← now] at before
          rcases request_of_spared spared member with ⟨uncounted, spares⟩ |
            ⟨hooked, number, queued, target, own, spares, operations⟩
          · have quiet : ¬(request.isApplied = true ∧
                request.hooks = [Client.globalCounter]) := by
              rw [uncounted]
              exact fun both => nomatch both.2
            rw [if_neg quiet, List.append_nil]
            exact ⟨later, Request.counts_after before spares, counted⟩
          · have whole := Request.countsWith before spares operations
            have after := whole.counts before counted
            cases applied : request.isApplied with
            | false => simpa [applied] using after
            | true => simpa [applied, hooked, own] using after

theorem mem_bumped_iff {traffic : Traffic} {number : Nat} :
    number ∈ traffic.bumped moves ↔
      ∃ request ∈ traffic.requestsOf moves number,
        request.isApplied = true ∧
          request.hooks = [Client.globalCounter] := by
  simp only [bumped, requestsOf, List.mem_filterMap, List.mem_filter,
    decide_eq_true_eq]
  constructor
  · rintro ⟨request, member, own⟩
    split at own
    case isTrue bumps => exact ⟨request, ⟨member, own⟩, bumps⟩
    case isFalse => cases own
  · rintro ⟨request, ⟨member, own⟩, bumps⟩
    exact ⟨request, member, (if_pos bumps).trans own⟩

/-- No submission increments the counter more than once. -/
theorem nodup_bumped (server : Server) (moves : List Move) :
    ((ofServer server).bumped moves).Nodup := by
  refine List.nodup_iff_count.mpr fun number => ?_
  have once := length_requestsOf_le_one (ofServer server) moves number
  refine Nat.le_trans ?_ once
  rw [bumped, List.count_filterMap, requestsOf, ← List.countP_eq_length_filter]
  refine List.countP_mono_left fun request _ found => ?_
  split at found
  case isTrue => simpa using found
  case isFalse => cases found

/-- The only row of the global table counts the transactions that were applied
with an increment. -/
structure CountsApplied (start : Traffic) (moves : List Move) (first : Row) :
    Prop where
  /-- The counter is ahead of where it began by the number of those
  transactions.  One that was missing counts from zero. -/
  counter : ∀ point, point <+: moves →
    ∃ row, (start.run point).server.database.tables.rows globalTable = [row] ∧
      row.uuid = first.uuid ∧
      ((first.get? "nb_cfg").isSome = true →
        row.integer? "nb_cfg" = (first.integer? "nb_cfg").map
          (· + ((start.bumped point).length : Int))) ∧
      (first.get? "nb_cfg" = none →
        row.integer? "nb_cfg" = if (start.bumped point).length = 0 then none
          else some ((start.bumped point).length : Int))
  once : ∀ point, point <+: moves → (start.bumped point).Nodup
  applied_iff : ∀ earlier session transaction later,
    moves = earlier ++ .submit session transaction :: later →
    transaction.hooks = [Client.globalCounter] →
    let number := (start.run earlier).submissions.length
    number ∈ start.bumped moves ↔
      ∃ request ∈ start.requestsOf moves number, request.isApplied = true
  /-- Each is applied as a whole with its increment. -/
  whole : ∀ earlier session transaction later,
    moves = earlier ++ .submit session transaction :: later →
    transaction.hooks = [Client.globalCounter] →
    ∀ request ∈ start.requestsOf moves (start.run earlier).submissions.length,
      ∃ target, request.CountsWith transaction.operations first.uuid target
  /-- Sessions show the tables as they were between two commits. -/
  shown : ∀ point number view, point <+: moves →
    (start.run point).server.session? number = some view →
    start.server.generation ≤ view.applied →
    ∃ shown, shown <+: point ∧ view.replica.tables =
      (start.run shown).server.database.tables.only view.schema

/-- While a server has one row in its global table, and clients touch it by
counting only, its counter tells how many of their transactions were applied. -/
theorem counter_counts_applied {schema : DatabaseSchema} {past : List Event}
    {first : Row}
    (single : ((Server.ofSchema schema).run past).database.tables.rows
      globalTable = [first])
    (spared : ∀ move ∈ moves, move.SparesCounter) :
    CountsApplied (ofServer ((Server.ofSchema schema).run past)) moves
      first := by
  let start := ofServer ((Server.ofSchema schema).run past)
  have sound : start.server.Sound := (Server.sound_ofSchema schema).run past
  have counts : start.server.database.tables.Counts first.uuid
      (first.get? "nb_cfg") :=
    (Tables.counts_iff sound.database.keyed).mpr ⟨first, single, rfl, rfl⟩
  have countsAt : ∀ point, point <+: moves → ∃ held,
      (start.run point).server.database.tables.Counts first.uuid held ∧
        Value.Counted (first.get? "nb_cfg") (start.bumped point).length
          held := by
    intro point before
    apply counts_run counts
    intro move member
    exact spared move (before.subset member)
  have carried : ∀ earlier session transaction later,
      moves = earlier ++ .submit session transaction :: later →
      ∀ request ∈ start.requestsOf moves (start.run earlier).submissions.length,
        request.hooks = transaction.hooks ∧
          transaction.Completed request.operations := by
    rintro earlier session transaction later rfl request member
    rw [requestsOf_submit] at member
    obtain ⟨hooks, completed, _⟩ := completed_of_mem_requestsOf member
    exact ⟨hooks, completed⟩
  constructor
  case counter =>
    intro point before
    obtain ⟨held, counts, counted⟩ := countsAt point before
    obtain ⟨row, only, own, rfl⟩ :=
      (Tables.counts_iff (sound_run sound point).database.keyed).mp counts
    refine ⟨row, only, own, fun there => ?_, fun none => ?_⟩
    · obtain ⟨value, found⟩ := Option.isSome_iff_exists.mp there
      rw [found] at counted
      rw [Row.integer?, Row.integer?, found]
      exact counted.of_some
    · rw [none] at counted
      exact counted.of_none
  case once => exact fun point _ => nodup_bumped _ point
  case applied_iff =>
    intro earlier session transaction later split counted number
    rw [mem_bumped_iff]
    refine exists_congr fun request => and_congr_right fun member => ?_
    rw [(carried _ _ _ _ split request member).1, and_iff_left counted]
  case whole =>
    intro earlier session transaction later split counted request member
    have spares : transaction.SparesCounter :=
      spared (.submit session transaction) (by simp [split])
    obtain ⟨target, operations⟩ :=
      (carried _ _ _ _ split request member).2.of_counted counted
    obtain ⟨among, _⟩ := List.mem_filter.mp member
    obtain ⟨point, move, before, asks⟩ := mem_requests_iff.mp among
    have now := server_of_request? asks
    obtain ⟨held, reached, _⟩ :=
      countsAt point ((List.prefix_append _ _).trans before)
    rw [← now] at reached
    exact ⟨target, Request.countsWith reached spares.1 operations⟩
  case shown =>
    intro point number view _ isOpen recent
    obtain ⟨shown, before, _, same⟩ := exists_shown sound isOpen recent
    exact ⟨shown, before, same⟩

def counterEvents : List Event :=
  [.commit [.insert "NB_Global" (.ofNat 1) .empty],
    .openSession default .small default]

def unusedCounter : Row :=
  ⟨.ofNat 1, 1, .ofList [("nb_cfg", .atom (.integer 0))]⟩

/-- Of two transactions that count, one is given up while it waits and the other
finds its row at another revision. -/
def countingMoves : List Move :=
  [.submit 0 ⟨.ofMillis 50, [.insert "Load_Balancer" (.ofNat 2) .empty],
      [Client.globalCounter]⟩,
    .submit 0 ⟨.ofMillis 50, [.verify "Load_Balancer" (.ofNat 2) 7],
      [Client.globalCounter]⟩,
    .proceed 0, .proceed 1, .proceed 0, .proceed 1, .proceed 0, .expire 0 false,
    .proceed 1, .event (.work 0 0)]

theorem given_up_bump_is_counted :
    let start := ofServer ((Server.ofSchema .small).run counterEvents)
    start.bumped countingMoves = [0] ∧
      (∃ row, (start.run countingMoves).server.database.tables.rows
          globalTable = [row] ∧ row.integer? "nb_cfg" = some 1) ∧
      (∀ request ∈ start.requestsOf countingMoves 0, ∃ target,
        request.CountsWith [.insert "Load_Balancer" (.ofNat 2) .empty]
          (.ofNat 1) target) ∧
      ∃ view, (start.run countingMoves).server.session? 0 = some view ∧
        ∃ shown, shown <+: countingMoves ∧ view.replica.tables =
          (start.run shown).server.database.tables.only view.schema := by
  intro start
  have spared : ∀ move ∈ countingMoves, move.SparesCounter := by
    simp only [countingMoves, List.forall_mem_cons]
    refine ⟨⟨?_, 0, true, rfl⟩, ⟨?_, 0, true, rfl⟩, ?_⟩
    · simp [Operation.SparesCounter, Operation.table, globalTable]
    · simp [Operation.SparesCounter, Operation.table, globalTable]
    · simp [Move.SparesCounter]
  have bumped : start.bumped countingMoves = [0] := by decide +kernel
  have single : start.server.database.tables.rows globalTable =
      [unusedCounter] := by decide +kernel
  have zero : unusedCounter.integer? "nb_cfg" = some 0 := by decide +kernel
  have counts : CountsApplied start countingMoves unusedCounter :=
    @counter_counts_applied countingMoves .small counterEvents unusedCounter
      single spared
  refine ⟨bumped, ?_, counts.whole [] 0 _ _ rfl rfl, ?_⟩
  · obtain ⟨row, only, _, reading, _⟩ :=
      counts.counter countingMoves List.prefix_rfl
    have counted := reading (by decide +kernel)
    rw [bumped, zero] at counted
    exact ⟨row, only, counted⟩
  · have applied : ((start.run countingMoves).server.session? 0).map
        (·.applied) = some 2 := by decide +kernel
    obtain ⟨view, isOpen, shows⟩ := Option.map_eq_some_iff.mp applied
    have recent : start.server.generation ≤ view.applied := by
      rw [shows]
      decide +kernel
    exact ⟨view, isOpen, counts.shown _ 0 view List.prefix_rfl isOpen recent⟩

end Traffic

end OvsdbClient
