import OvsdbClient.Proofs.AddressSpellings
import OvsdbClient.Proofs.MappingPrograms

/-!
# Removing a mapping again

A mapping is stored and removed at the stored form of its backend.  So a
mapping that was stored for one spelling of an address is removed by another
just if both are stored alike, which those of an IPv4 address are.
-/

namespace OvsdbClient

def Tables.mapping? (tables : Tables) (balancer : Uuid) (key : String) :
    Option String :=
  (tables.mappings? balancer).bind (·.get? key)

namespace SortedMap

universe u v

variable {κ : Type u} {ν : Type v} [Ord κ] [Std.TransOrd κ]
  [Std.LawfulEqOrd κ]

theorem get?_putAll_of_absent [DecidableEq κ] {map : SortedMap κ ν}
    {changes : List (κ × Option ν)} {key : κ}
    (absent : ∀ change ∈ changes, change.1 ≠ key) :
    (map.putAll changes).get? key = map.get? key := by
  induction changes generalizing map with
  | nil => rfl
  | cons change changes induction =>
      obtain ⟨other, others⟩ := List.forall_mem_cons.mp absent
      refine (induction others).trans ?_
      rw [get?_put, if_neg other]

end SortedMap

/-! ## What one change does -/

theorem Mutation.exists_asMap?_of_change? {mutation : Mutation}
    {before : Option Value} {new : Value} {key : String}
    {value? : Option String} (changes : mutation.change? = some (key, value?))
    (done : mutation.result? before = some new) :
    ∃ mappings : SortedMap String String,
      new.asMap? = some (mappings.put key value?) := by
  cases mutation with
  | mapSet | mapDelete =>
      cases changes
      obtain ⟨mappings, _, made⟩ := Option.bind_eq_some_iff.mp done
      cases made
      exact ⟨mappings, rfl⟩
  | increment | setAdd | setRemove => cases changes

namespace Operation

variable {schema : DatabaseSchema} {tables next : Tables}
  {operation : Operation} {balancer : Uuid} {change : String × Option String}

theorem exists_mappings?_of_apply {key : String} {value? : Option String}
    (changes : operation.change? balancer = some (key, value?))
    (done : operation.apply schema tables = .ok next) :
    ∃ mappings : SortedMap String String,
      next.mappings? balancer = some (mappings.put key value?) := by
  cases operation with
  | mutate table uuid column mutation =>
      simp only [change?, Option.ite_none_right_eq_some] at changes
      obtain ⟨⟨rfl, rfl, rfl⟩, changes⟩ := changes
      obtain ⟨shape, left, _, onRow, rfl⟩ := apply_eq_ok_iff.mp done
      obtain ⟨_, row, new, _, result, rfl⟩ := onRow_mutate_eq_ok_iff.mp onRow
      obtain ⟨mappings, isMap⟩ :=
        Mutation.exists_asMap?_of_change? changes result
      refine ⟨mappings, (Tables.mappings?_put ..).trans ?_⟩
      rw [Row.get?, SortedMap.get?_insert_self, Option.bind_some, isMap]
  | insert | update | delete | verify => cases changes

theorem not_replaces_of_change? (changes : operation.change? balancer =
    some change) : ¬operation.Replaces balancer := by
  cases operation with
  | mutate => exact id
  | insert | update | delete | verify => cases changes

/-- An operation leaves alone what a load balancer maps a key to. -/
def SparesKey (balancer : Uuid) (key : String) (operation : Operation) : Prop :=
  ¬operation.Replaces balancer ∧
    ∀ value?, operation.change? balancer ≠ some (key, value?)

theorem SparesMappings.sparesKey (spares : operation.SparesMappings balancer)
    (key : String) : operation.SparesKey balancer key :=
  ⟨spares.1, fun _ changes => by cases spares.2.symm.trans changes⟩

end Operation

namespace Database

variable {schema : DatabaseSchema} {before after : Database}
  {earlier operations : List Operation} {operation : Operation}
  {balancer : Uuid} {key value : String} {value? : Option String}

theorem changes_ne_of_sparesKey
    (spared : ∀ operation ∈ operations, operation.SparesKey balancer key) :
    ∀ change ∈ operations.filterMap (Operation.change? balancer),
      change.1 ≠ key := by
  rintro ⟨changed, new⟩ member rfl
  obtain ⟨operation, among, changes⟩ := List.mem_filterMap.mp member
  exact (spared operation among).2 new changes

theorem mapping?_commit_of_sparesKey
    (stored : before.tables.mapping? balancer key = some value)
    (spared : ∀ operation ∈ operations, operation.SparesKey balancer key)
    (done : before.commit schema operations = .ok after) :
    after.tables.mapping? balancer key = some value := by
  obtain ⟨mappings, held, found⟩ := Option.bind_eq_some_iff.mp stored
  have later := mappings?_commit held
    (fun operation member => (spared operation member).1) done
  rw [Tables.mapping?, later, Option.bind_some,
    SortedMap.get?_putAll_of_absent (changes_ne_of_sparesKey spared), found]

/-- The last change that a commit makes to a mapping counts. -/
theorem mapping?_commit_of_change?
    (changes : operation.change? balancer = some (key, value?))
    (spared : ∀ operation ∈ operations, operation.SparesKey balancer key)
    (done : before.commit schema (earlier ++ operation :: operations) =
      .ok after) :
    after.tables.mapping? balancer key = value? := by
  obtain ⟨staged, staging, _⟩ := commit_eq_ok_iff.mp done
  obtain ⟨reached, first, rest⟩ := stage_append_eq_ok_iff.mp staging
  obtain ⟨next, applied, last⟩ := stage_cons_eq_ok_iff.mp rest
  obtain ⟨mappings, held⟩ :=
    Operation.exists_mappings?_of_apply changes applied
  have final := mappings?_stage held
    (fun other member => (spared other member).1) last
  rw [Tables.mapping?, mappings?_of_staging staging done, final,
    Option.bind_some]
  refine (SortedMap.get?_putAll_of_absent
    (changes_ne_of_sparesKey spared)).trans ?_
  rw [SortedMap.get?_put, if_pos rfl]

end Database

/-! ## What one command does -/

/-- Whatever an entry queues leaves alone what a load balancer maps a key to. -/
def Entry.SparesKey (balancer : Uuid) (key : String) (entry : Entry) : Prop :=
  ∀ operation, entry.operation? = some operation →
    operation.SparesKey balancer key

/-- A server committed what entries queued, and then what hooks added. -/
def Request.Commits (request : Request) (entries : List Entry) : Prop :=
  ∃ hooks added, List.Forall₂ CounterHook.Adds hooks added ∧
    request.server.database.commit request.server.schema
      (entries.filterMap Entry.operation? ++ added) =
        .ok request.after.database

theorem Entry.sparesKey_of_change? {entry : Entry} {balancer : Uuid}
    {key other : String} {value? : Option String}
    (changes : entry.change? balancer = some (other, value?))
    (differ : other ≠ key) : entry.SparesKey balancer key := by
  intro operation queues
  obtain ⟨_, same, change⟩ := Option.bind_eq_some_iff.mp changes
  cases queues.symm.trans same
  refine ⟨Operation.not_replaces_of_change? change, fun value? touches => ?_⟩
  cases change.symm.trans touches
  exact differ rfl

namespace Request

variable {request : Request} {earlier later entries : List Entry}
  {entry : Entry} {balancer : Uuid} {key value : String}

theorem sparesKey_of_entries {hooks : List CounterHook}
    {added : List Operation} (adds : List.Forall₂ CounterHook.Adds hooks added)
    (spare : ∀ entry ∈ entries, entry.SparesKey balancer key) :
    ∀ operation ∈ entries.filterMap Entry.operation? ++ added,
      operation.SparesKey balancer key := by
  intro operation member
  rcases List.mem_append.mp member with queued | hooked
  · obtain ⟨entry, among, queues⟩ := List.mem_filterMap.mp queued
    exact spare entry among operation queues
  · have spares :=
      Traffic.sparesMappings_of_adds adds balancer operation hooked
    exact spares.sparesKey key

/-- The last command about a key says what it is mapped to. -/
theorem Commits.mapping?_eq {value? : Option String}
    (commits : request.Commits (earlier ++ entry :: later))
    (changes : entry.change? balancer = some (key, value?))
    (spare : ∀ entry ∈ later, entry.SparesKey balancer key) :
    request.after.database.tables.mapping? balancer key = value? := by
  obtain ⟨operation, queues, change⟩ := Option.bind_eq_some_iff.mp changes
  obtain ⟨hooks, added, adds, done⟩ := commits
  rw [List.filterMap_append, List.filterMap_cons_some queues,
    List.append_assoc, List.cons_append] at done
  exact Database.mapping?_commit_of_change? change
    (sparesKey_of_entries adds spare) done

theorem Commits.mapping?_of_sparesKey
    (commits : request.Commits entries)
    (spare : ∀ entry ∈ entries, entry.SparesKey balancer key)
    (stored : request.server.database.tables.mapping? balancer key =
      some value) :
    request.after.database.tables.mapping? balancer key = some value := by
  obtain ⟨hooks, added, adds, done⟩ := commits
  exact Database.mapping?_commit_of_sparesKey stored
    (sparesKey_of_entries adds spare) done

end Request

namespace Traffic

variable {schema : DatabaseSchema} {moves : List Move} {entries : List Entry}
  {asked : List Request}

/-- A transaction that was built from entries was submitted along a run, and
ended as committed when its server had been asked for what is listed. -/
def Commits (schema : DatabaseSchema) (moves : List Move)
    (entries : List Entry) (asked : List Request) : Prop :=
  ∃ past session timeout hooks future,
    moves = past ++
      .submit session (Entry.build timeout hooks entries) :: future ∧
    let number := ((fresh schema).run past).submissions.length
    (∃ submission,
      ((fresh schema).run moves).submission? number = some submission ∧
        submission.progress = .finished (.ok .committed)) ∧
    asked = (fresh schema).requestsOf moves number

/-- A committed transaction that queued anything asked its server once. -/
theorem Commits.exists_request {entry : Entry} {operation : Operation}
    (commits : Commits schema moves entries asked) (member : entry ∈ entries)
    (queues : entry.operation? = some operation) :
    ∃ request, asked = [request] ∧ request.Commits entries := by
  obtain ⟨past, session, timeout, hooks, future, rfl,
    ⟨submission, here, committed⟩, rfl⟩ := commits
  let before := (fresh schema).run past
  have sound : before.server.Sound :=
    sound_run (Server.sound_ofSchema schema) past
  have asked := requestsOf_submit (fresh schema) past
    (.submit session (Entry.build timeout hooks entries) :: future)
  rw [Entry.build_eq] at asked
  rw [run_append, Entry.build_eq] at here
  obtain ⟨last, final, truth⟩ := tellsTruth_of_submit sound session
    ⟨timeout, entries.filterMap Entry.operation?, hooks⟩ future
  cases final.symm.trans here
  rw [Entry.build_eq]
  rcases truth.committed committed with
    ⟨_, idle, _⟩ | ⟨request, generation, one, _, answered⟩
  · have nothing := List.filterMap_eq_nil_iff.mp idle entry member
    cases queues.symm.trans nothing
  · obtain ⟨added, adds, whole⟩ :=
      truth.whole request (one.symm ▸ List.mem_cons_self)
    have done : request.server.database.commit request.server.schema
        request.operations = .ok request.after.database :=
      Server.database_commit answered
    rw [whole] at done
    exact ⟨request, asked.trans one, hooks, added, adds, done⟩

/-- Two texts that denote the same address, and no network, are stored alike
just if they are spelled alike, as all texts of an IPv4 address are.  So a
mapping that a command left for one of them is removed by a command for the
other just then.  Otherwise it stays, if nothing else is done to it. -/
theorem mapping_is_removed_iff_stored_alike {first second : String}
    {address : IpAddress}
    (denotes : Address.Denotes (Address.bareOf first.toList) address none)
    (also : Address.Denotes (Address.bareOf second.toList) address none) :
    let alike := Address.bareOf first.toList = Address.bareOf second.toList
    (address.isV6 = false → alike) ∧
    ∃ key other, Address.bracketed first = .ok key ∧
      Address.bracketed second = .ok other ∧ (key = other ↔ alike) ∧
      ∀ schema moves balancer,
        (∀ seen port source earlier later asked,
          let adding := Entry.addMapping seen balancer first port source
          seen.IsOf schema → adding.operation?.isSome = true →
          (∀ entry ∈ later, entry.SparesKey balancer key) →
          Commits schema moves (earlier ++ adding :: later) asked →
          ∃ request stored, asked = [request] ∧
            Address.bracketed source = .ok stored ∧
            request.after.database.tables.mapping? balancer key =
              some (PortMapping.entry port stored)) ∧
        ∀ view earlier later asked,
          let removing := Entry.deleteMapping view balancer second
          view.IsOf schema → removing.operation?.isSome = true →
          (∀ entry ∈ later, entry.SparesKey balancer other) →
          Commits schema moves (earlier ++ removing :: later) asked →
          ∃ request, asked = [request] ∧
            (alike →
              request.after.database.tables.mapping? balancer key = none) ∧
            (¬alike →
              (∀ entry ∈ earlier ++ later, entry.SparesKey balancer key) →
              ∀ value, request.server.database.tables.mapping? balancer key =
                some value →
              request.after.database.tables.mapping? balancer key =
                some value) := by
  intro alike
  refine ⟨fun isV4 => Address.bareOf_eq_of_v4 isV4 denotes also, ?_⟩
  have isFirst := denotes.bracketed_eq rfl
  have isSecond := also.bracketed_eq rfl
  have same := Address.stored_eq_iff isFirst isSecond denotes
  refine ⟨_, _, isFirst, isSecond, same, fun schema moves balancer => ?_⟩
  constructor
  · intro seen port source earlier later asked adding isOf queues spare commits
    obtain ⟨operation, queues⟩ := Option.isSome_iff_exists.mp queues
    obtain ⟨key, stored, isKey, isStored, rfl⟩ :=
      Entry.operation_of_addMapping isOf queues
    cases isFirst.symm.trans isKey
    obtain ⟨request, one, committed⟩ :=
      commits.exists_request (List.mem_append_right _ List.mem_cons_self) queues
    have changes : adding.change? balancer = _ :=
      Option.bind_eq_some_iff.mpr ⟨_, queues,
        Operation.change?_mutate_eq_some_iff.mpr ⟨rfl, rfl⟩⟩
    exact ⟨request, stored, one, isStored, committed.mapping?_eq changes spare⟩
  · intro view earlier later asked removing isOf queues spare commits
    obtain ⟨operation, queues⟩ := Option.isSome_iff_exists.mp queues
    obtain ⟨other, isOther, rfl⟩ := Entry.operation_of_deleteMapping isOf queues
    cases isSecond.symm.trans isOther
    obtain ⟨request, one, committed⟩ :=
      commits.exists_request (List.mem_append_right _ List.mem_cons_self) queues
    have changes : removing.change? balancer = _ :=
      Option.bind_eq_some_iff.mpr ⟨_, queues,
        Operation.change?_mutate_eq_some_iff.mpr ⟨rfl, rfl⟩⟩
    refine ⟨request, one, fun isAlike => ?_,
      fun unlike spareKey value stored => ?_⟩
    · rw [same.mpr isAlike]
      exact committed.mapping?_eq changes spare
    · have removes : removing.SparesKey balancer _ :=
        Entry.sparesKey_of_change? changes fun isKey =>
          unlike (same.mp isKey.symm)
      refine committed.mapping?_of_sparesKey ?_ stored
      rw [List.forall_mem_append] at spareKey ⊢
      exact ⟨spareKey.1, List.forall_mem_cons.mpr ⟨removes, spareKey.2⟩⟩

/-- A mapping is stored for one text of a backend, and then removed for
another. -/
def storingAndRemoving (first second : String) : List Move :=
  let adding := Entry.addMapping keeper (.ofNat 2) first "web" "10.0.0.2"
  let removing := Entry.deleteMapping keeper (.ofNat 2) second
  balancerMoves ++
    [.submit 0 (Entry.build (.ofMillis 50) [] [adding]), .proceed 0,
      .proceed 0, .event (.work 0 0), .proceed 0,
      .submit 0 (Entry.build (.ofMillis 50) [] [removing]), .proceed 1,
      .proceed 1, .event (.work 0 0), .proceed 1]

theorem storingAndRemoving_commits (first second : String)
    (begun : ((fresh .small).run
      ((storingAndRemoving first second).take 7)).submissions.length = 1)
    (ended : ((fresh .small).run
      (storingAndRemoving first second)).submissions.map
        (·.progress matches .finished (.ok .committed)) = [true, true]) :
    (∃ added, Commits .small (storingAndRemoving first second)
      [.addMapping keeper (.ofNat 2) first "web" "10.0.0.2"] added) ∧
    ∃ removed, Commits .small (storingAndRemoving first second)
      [.deleteMapping keeper (.ofNat 2) second] removed := by
  have committed : ∀ number < 2, ∃ submission,
      ((fresh .small).run (storingAndRemoving first second)).submission?
          number = some submission ∧
        submission.progress = .finished (.ok .committed) := by
    intro number low
    have shown : [true, true][number]? = some true :=
      match number, low with
      | 0, _ | 1, _ => rfl
    rw [← ended, List.getElem?_map] at shown
    obtain ⟨submission, here, isCommitted⟩ := Option.map_eq_some_iff.mp shown
    refine ⟨submission, here, ?_⟩
    revert isCommitted
    cases submission.progress with
    | finished result =>
        rcases result with _ | (_ | _ | _) <;> simp
    | preparing | admitted | waiting => simp
  constructor
  · exact ⟨_, balancerMoves, 0, .ofMillis 50, [], _, rfl,
      committed 0 (by decide), rfl⟩
  · refine ⟨_, (storingAndRemoving first second).take 7, 0, .ofMillis 50, [],
      (storingAndRemoving first second).drop 8, rfl, ?_, rfl⟩
    rw [begun]
    exact committed 1 (by decide)

theorem mapping_is_removed_for_bracketed_text :
    let moves := storingAndRemoving "10.0.0.5" "[10.0.0.5] "
    (∃ addition, Commits .small moves
      [.addMapping keeper (.ofNat 2) "10.0.0.5" "web" "10.0.0.2"] [addition] ∧
      addition.after.database.tables.mapping? (.ofNat 2) "10.0.0.5" =
        some "web:10.0.0.2") ∧
    ∃ removal, Commits .small moves
      [.deleteMapping keeper (.ofNat 2) "[10.0.0.5] "] [removal] ∧
      removal.after.database.tables.mapping? (.ofNat 2) "10.0.0.5" = none := by
  intro moves
  obtain ⟨⟨added, adding⟩, ⟨removed, removing⟩⟩ :=
    storingAndRemoving_commits "10.0.0.5" "[10.0.0.5] " (by decide +kernel)
      (by decide +kernel)
  have denotes : ∀ text ∈ ["10.0.0.5", "[10.0.0.5] "],
      Address.Denotes (Address.bareOf text.toList) (.v4 0x0a000005) none := by
    have bare : ∀ text ∈ ["10.0.0.5", "[10.0.0.5] "],
        IpAddress.ofChars? (Address.bareOf text.toList) =
          some (.v4 0x0a000005) := by decide +kernel
    exact fun text member => .host (bare text member)
  obtain ⟨alike, key, other, isKey, _, _, commands⟩ :=
    mapping_is_removed_iff_stored_alike (denotes "10.0.0.5" (by simp))
      (denotes "[10.0.0.5] " (by simp))
  have stored : Address.bracketed "10.0.0.5" = .ok "10.0.0.5" := by
    decide +kernel
  cases stored.symm.trans isKey
  obtain ⟨stores, removes⟩ := commands .small moves (.ofNat 2)
  obtain ⟨addition, source, rfl, isSource, held⟩ := stores keeper "web"
    "10.0.0.2" [] [] added keeper_isOf (by decide +kernel)
    (List.forall_mem_nil _) adding
  obtain ⟨removal, rfl, gone, _⟩ := removes keeper [] [] removed keeper_isOf
    (by decide +kernel) (List.forall_mem_nil _) removing
  have alsoStored : Address.bracketed "10.0.0.2" = .ok "10.0.0.2" := by
    decide +kernel
  cases alsoStored.symm.trans isSource
  have text : PortMapping.entry "web" "10.0.0.2" = "web:10.0.0.2" := by decide
  rw [text] at held
  exact ⟨⟨addition, adding, held⟩, removal, removing, gone (alike rfl)⟩

theorem mapping_stays_for_other_letters :
    let moves := storingAndRemoving "2001:db8::1" "2001:DB8::1"
    (∃ address,
      Address.Denotes (Address.bareOf "2001:db8::1".toList) address none ∧
      Address.Denotes (Address.bareOf "2001:DB8::1".toList) address none) ∧
    Address.bracketed "2001:db8::1" = .ok "[2001:db8::1]" ∧
    Address.bracketed "2001:DB8::1" = .ok "[2001:DB8::1]" ∧
    (∃ added, Commits .small moves
      [.addMapping keeper (.ofNat 2) "2001:db8::1" "web" "10.0.0.2"] added) ∧
    (∃ removed, Commits .small moves
      [.deleteMapping keeper (.ofNat 2) "2001:DB8::1"] removed) ∧
    ((fresh .small).run moves).server.database.tables.mapping? (.ofNat 2)
      "[2001:db8::1]" = some "web:10.0.0.2" := by
  intro moves
  obtain ⟨adding, removing⟩ := storingAndRemoving_commits "2001:db8::1"
    "2001:DB8::1" (by decide +kernel) (by decide +kernel)
  have address : ∀ text ∈ ["2001:db8::1", "2001:DB8::1"],
      IpAddress.ofChars? (Address.bareOf text.toList) =
        some (.v6 0x20010db8000000000000000000000001) := by decide +kernel
  exact ⟨⟨_, .host (address "2001:db8::1" (by simp)),
    .host (address "2001:DB8::1" (by simp))⟩, by decide +kernel,
    by decide +kernel, adding, removing, by decide +kernel⟩

end Traffic

end OvsdbClient
