import OvsdbClient.Proofs.SubmissionFateInvariance

/-!
# Changes of port mappings

As long as a load balancer is stored, and nobody replaces its port mappings as a
whole, they change key by key.  What stands at a key then is what the last
command about that key left there.
-/

namespace OvsdbClient

/-! ## Changes in turn -/

/-- The last of the items that concern something is of a kind. -/
def LastIs {α : Type} (kind concerns : α → Prop) (items : List α) : Prop :=
  ∃ earlier last later, items = earlier ++ last :: later ∧ kind last ∧
    ∀ other ∈ later, ¬concerns other

namespace LastIs

variable {α : Type} {kind other concerns touches : α → Prop} {items : List α}

theorem concat_iff {last : α} :
    LastIs kind concerns (items ++ [last]) ↔
      kind last ∨ ¬concerns last ∧ LastIs kind concerns items := by
  constructor
  · rintro ⟨earlier, found, later, split, isKind, rest⟩
    rcases List.eq_nil_or_concat later with rfl | ⟨later, final, rfl⟩
    · obtain ⟨_, same⟩ := List.append_inj' split rfl
      cases same
      exact .inl isKind
    · rw [List.concat_eq_append, ← List.cons_append,
        ← List.append_assoc] at split
      obtain ⟨same, final⟩ := List.append_inj' split rfl
      cases final
      refine .inr ⟨rest last (by simp), earlier, found, later, same, isKind, ?_⟩
      intro item member
      exact rest item (by simp [member])
  · rintro (isKind | ⟨spared, earlier, found, later, rfl, isKind, rest⟩)
    · exact ⟨items, last, [], rfl, isKind, nofun⟩
    · refine ⟨earlier, found, later ++ [last], by simp, isKind, ?_⟩
      intro item member
      rcases List.mem_append.mp member with before | now
      · exact rest item before
      · cases List.mem_singleton.mp now
        exact spared

theorem congr (sameKind : ∀ item ∈ items, kind item ↔ other item)
    (sameConcern : ∀ item ∈ items, concerns item ↔ touches item) :
    LastIs kind concerns items ↔ LastIs other touches items := by
  refine exists_congr fun earlier => exists_congr fun last =>
    exists_congr fun later => and_congr_right ?_
  rintro rfl
  refine and_congr (sameKind last (by simp)) (forall₂_congr ?_)
  intro item member
  exact not_congr (sameConcern item (by simp [member]))

end LastIs

namespace SortedMap

universe u v

variable {κ : Type u} {ν : Type v} [Ord κ] [Std.TransOrd κ]
  [Std.LawfulEqOrd κ]

/-- Makes changes in turn, each of which stores a value at a key or drops what
is there. -/
def putAll (map : SortedMap κ ν) (changes : List (κ × Option ν)) :
    SortedMap κ ν :=
  changes.foldl (fun map change => map.put change.1 change.2) map

theorem putAll_append (map : SortedMap κ ν)
    (first second : List (κ × Option ν)) :
    map.putAll (first ++ second) = (map.putAll first).putAll second :=
  List.foldl_append

/-- A value is found just if the last change of its key stored it. -/
theorem get?_putAll_iff {α : Type} [DecidableEq κ] {key : κ} {value : ν}
    {change? : α → Option (κ × Option ν)} {items : List α} :
    ((empty : SortedMap κ ν).putAll (items.filterMap change?)).get? key =
        some value ↔
      LastIs (fun item => change? item = some (key, some value))
        (fun item => ∃ new, change? item = some (key, new)) items := by
  -- From the end, where the last change is.
  induction items using List.reverseRecOn with
  | nil => simp [putAll, LastIs]
  | append_singleton items last induction =>
      rw [LastIs.concat_iff, ← induction, List.filterMap_append, putAll_append]
      cases changes : change? last with
      | none => simp [changes, putAll]
      | some change =>
          obtain ⟨changed, new⟩ := change
          simp only [List.filterMap_cons, changes, List.filterMap_nil, putAll,
            List.foldl_cons, List.foldl_nil, get?_put, Option.some.injEq,
            Prod.mk.injEq, exists_eq_right']
          split <;> simp_all

end SortedMap

/-! ## What operations do to mappings -/

def Tables.mappings? (tables : Tables) (balancer : Uuid) :
    Option (SortedMap String String) :=
  (tables.row? balancerTable balancer).bind fun row =>
    (row.get? mappingColumn).bind Value.asMap?

theorem Tables.mappings?_put (tables : Tables) (balancer : Uuid) (row : Row) :
    (tables.put balancerTable balancer (some row)).mappings? balancer =
      (row.get? mappingColumn).bind Value.asMap? := by
  simp only [mappings?, row?_put, and_self, if_true, Option.bind_some]

/-- The key that a mutation changes in a map, and what it stores there, if
anything. -/
def Mutation.change? : Mutation → Option (String × Option String)
  | .mapSet key value => some (key, some value)
  | .mapDelete key => some (key, none)
  | _ => none

theorem Mutation.asMap?_of_result? {mutation : Mutation} {old new : Value}
    {entries : SortedMap String String}
    (isMap : old.asMap? = some entries)
    (done : mutation.result? (some old) = some new) :
    new.asMap? = some (entries.putAll mutation.change?.toList) := by
  cases old with
  | atom atom => cases isMap
  | set members => cases isMap
  | map held =>
      cases isMap
      cases mutation with
      | mapSet key value | mapDelete key => cases done; rfl
      | increment delta | setAdd atom | setRemove atom => cases done

namespace Operation

/-- The key of a load balancer's mappings that an operation changes, and what it
stores there, if anything. -/
def change? (balancer : Uuid) : Operation → Option (String × Option String)
  | .mutate table uuid column mutation =>
      if table = balancerTable ∧ uuid = balancer ∧ column = mappingColumn then
        mutation.change?
      else none
  | _ => none

/-- An operation replaces the mappings of a load balancer as a whole, or removes
the load balancer. -/
def Replaces (balancer : Uuid) : Operation → Prop
  | .update table uuid columns =>
      table = balancerTable ∧ uuid = balancer ∧
        columns.contains mappingColumn = true
  | .delete table uuid => table = balancerTable ∧ uuid = balancer
  | _ => False

/-- An operation does not write the mappings of a load balancer. -/
def SparesMappings (balancer : Uuid) (operation : Operation) : Prop :=
  ¬operation.Replaces balancer ∧ operation.change? balancer = none

theorem sparesMappings_of_adds {hook : CounterHook} {operation : Operation}
    (adds : hook.Adds operation) (balancer : Uuid) :
    operation.SparesMappings balancer := by
  obtain ⟨uuid, rfl⟩ := adds
  exact ⟨nofun, by simp [change?, Mutation.change?]⟩

variable {schema : DatabaseSchema} {tables next : Tables} {balancer : Uuid}
  {mappings : SortedMap String String} {operation : Operation}

theorem change?_mutate_eq_some_iff {target : Uuid} {mutation : Mutation}
    {change : String × Option String} :
    (mutate balancerTable target mappingColumn mutation).change? balancer =
        some change ↔
      target = balancer ∧ mutation.change? = some change := by
  simp [change?]

theorem change?_of_not_writes
    (spared : ¬operation.Writes balancerTable balancer) :
    operation.change? balancer = none := by
  cases operation with
  | mutate table uuid column mutation =>
      refine if_neg ?_
      rintro ⟨rfl, rfl, _⟩
      exact spared ⟨rfl, rfl, rfl⟩
  | _ => rfl

/-- An operation that does not replace the mappings of a load balancer changes
them at one key at most. -/
theorem mappings?_apply (stored : tables.mappings? balancer = some mappings)
    (kept : ¬operation.Replaces balancer)
    (done : operation.apply schema tables = .ok next) :
    next.mappings? balancer =
      some (mappings.putAll (operation.change? balancer).toList) := by
  by_cases writes : operation.Writes balancerTable balancer
  case neg =>
    rw [change?_of_not_writes writes]
    unfold Tables.mappings?
    rw [row?_apply_of_not_writes writes done]
    exact stored
  case pos =>
    obtain ⟨row, present, column⟩ := Option.bind_eq_some_iff.mp stored
    obtain ⟨value, found, isMap⟩ := Option.bind_eq_some_iff.mp column
    obtain ⟨shape, left, _, onRow, rfl⟩ := apply_eq_ok_iff.mp done
    obtain ⟨notVerify, onTable, named⟩ := writes
    rw [onTable, named] at onRow ⊢
    rw [present] at onRow
    cases operation with
    | insert table uuid columns =>
        cases (onRow_insert_eq_ok_iff.mp onRow).2.1
    | update table uuid columns =>
        obtain ⟨_, old, same, rfl⟩ := onRow_update_eq_ok_iff.mp onRow
        cases same
        have absent : columns.get? mappingColumn = none := by
          refine Option.eq_none_iff_forall_ne_some.mpr fun value given => ?_
          exact kept ⟨onTable, named,
            SortedMap.contains_eq_true_iff.mpr ⟨value, given⟩⟩
        rw [Tables.mappings?_put, Row.get?,
          SortedMap.get?_insertAll_toList, absent]
        exact column
    | delete table uuid => exact absurd ⟨onTable, named⟩ kept
    | mutate table uuid touched mutation =>
        obtain rfl : table = balancerTable := onTable
        obtain rfl : uuid = balancer := named
        obtain ⟨_, old, new, same, result, rfl⟩ :=
          onRow_mutate_eq_ok_iff.mp onRow
        cases same
        rw [Tables.mappings?_put, Row.get?]
        by_cases isMapping : touched = mappingColumn
        · subst isMapping
          have current : row.columns.get? mappingColumn = some value := found
          rw [current] at result
          rw [SortedMap.get?_insert_self, change?, if_pos ⟨rfl, rfl, rfl⟩]
          exact Mutation.asMap?_of_result? isMap result
        · rw [SortedMap.get?_insert_of_ne _ isMapping, change?,
            if_neg fun both => isMapping both.2.2]
          exact column
    | verify table uuid revision => cases notVerify

end Operation

namespace Database

variable {schema : DatabaseSchema} {database : Database} {balancer : Uuid}
  {mappings : SortedMap String String} {operations : List Operation}

theorem mappings?_stage {tables staged : Tables}
    (stored : tables.mappings? balancer = some mappings)
    (kept : ∀ operation ∈ operations, ¬operation.Replaces balancer)
    (staging : stage schema tables operations = .ok staged) :
    staged.mappings? balancer = some (mappings.putAll
      (operations.filterMap (Operation.change? balancer))) := by
  induction operations generalizing tables mappings with
  | nil =>
      cases staging
      exact stored
  | cons operation operations induction =>
      obtain ⟨next, first, rest⟩ := stage_cons_eq_ok_iff.mp staging
      obtain ⟨now, others⟩ := List.forall_mem_cons.mp kept
      rw [induction (Operation.mappings?_apply stored now first) others rest,
        ← SortedMap.putAll_append]
      cases changes : operation.change? balancer <;> simp [changes]

theorem mappings?_of_staging {after : Database} {staged : Tables}
    (staging : stage schema database.tables operations = .ok staged)
    (done : database.commit schema operations = .ok after) :
    after.tables.mappings? balancer = staged.mappings? balancer := by
  have same := congrArg (·.bind fun value => value.bind Value.asMap?)
    (columns_commit staging done balancerTable balancer mappingColumn)
  simp only [Option.bind_map] at same
  exact same

/-- A commit changes the mappings of a load balancer as its operations do, if
none of them replaces them. -/
theorem mappings?_commit {after : Database}
    (stored : database.tables.mappings? balancer = some mappings)
    (kept : ∀ operation ∈ operations, ¬operation.Replaces balancer)
    (done : database.commit schema operations = .ok after) :
    after.tables.mappings? balancer = some (mappings.putAll
      (operations.filterMap (Operation.change? balancer))) := by
  obtain ⟨staged, staging, _⟩ := commit_eq_ok_iff.mp done
  exact (mappings?_of_staging staging done).trans
    (mappings?_stage stored kept staging)

end Database

/-! ## What commands leave -/

/-- What a session of a server with a schema may show at some time. -/
def Session.IsOf (session : Session) (schema : DatabaseSchema) : Prop :=
  ∃ events number,
    ((Server.ofSchema schema).run events).session? number = some session

/-- Sessions show rows at their own identifiers. -/
theorem Session.IsOf.uuid_of_lookup {session : Session}
    {schema : DatabaseSchema} {table : String} {uuid : Uuid} {row : Row}
    (isOf : session.IsOf schema)
    (found : session.lookup table uuid = .ok row) : row.uuid = uuid := by
  obtain ⟨events, number, isOpen⟩ := isOf
  have start := Server.sound_ofSchema schema
  have sound := start.run events
  have follows := sound.following number session isOpen
  obtain ⟨past, before, reached⟩ := Server.exists_prefix_of_generation
    (Nat.zero_le session.applied)
    (Nat.le_trans follows.known (Nat.le_of_eq sound.database.counted))
  have shown := follows.shown
  rw [← reached, Server.schema_run, start.tables_of_past before] at shown
  obtain ⟨_, _, rest⟩ := bind_eq_ok_iff.mp found
  have present : session.replica.tables.row? table uuid = some row :=
    orFault_eq_ok_iff.mp rest
  rw [shown, Tables.row?_only] at present
  split at present
  case isTrue => exact (start.run past).database.keyed table uuid row present
  case isFalse => cases present

namespace Entry

/-- A command queued a mapping of a backend of a load balancer. -/
def Stores (balancer : Uuid) (key port source : String) (entry : Entry) :
    Prop :=
  ∃ seen backend address,
    entry = .addMapping seen balancer backend port address ∧
      Address.bracketed backend = .ok key ∧
      Address.bracketed address = .ok source ∧
      ∃ operation, entry.operation? = some operation

/-- A command queued the removal of a backend's mapping. -/
def Removes (balancer : Uuid) (key : String) (entry : Entry) : Prop :=
  ∃ seen backend, entry = .deleteMapping seen balancer backend ∧
    Address.bracketed backend = .ok key ∧
    ∃ operation, entry.operation? = some operation

/-- The last of the commands about a backend that queued anything stored a
mapping. -/
def Leave (entries : List Entry) (balancer : Uuid) (key port source : String) :
    Prop :=
  LastIs (Stores balancer key port source)
    (fun entry => entry.Removes balancer key ∨
      ∃ port source, entry.Stores balancer key port source) entries

/-- A mapping command looks at what a session may show.  Anything else does not
write the mappings of a load balancer. -/
def Tends (schema : DatabaseSchema) (balancer : Uuid) : Entry → Prop
  | .own operation => operation.SparesMappings balancer
  | .addMapping seen .. | .deleteMapping seen .. => seen.IsOf schema

/-- The key of a load balancer's mappings that the operation of an entry
changes, and what it stores there, if anything. -/
def change? (balancer : Uuid) (entry : Entry) :
    Option (String × Option String) :=
  entry.operation?.bind (Operation.change? balancer)

variable {schema : DatabaseSchema} {balancer : Uuid} {entry : Entry}
  {key : String}

theorem not_replaces_of_tends (tends : entry.Tends schema balancer)
    {operation : Operation} (queued : entry.operation? = some operation) :
    ¬operation.Replaces balancer := by
  cases own : entry.isOwn with
  | true =>
      cases entry with
      | own operation =>
          cases queued
          exact tends.1
      | _ => cases own
  | false =>
      obtain ⟨uuid, mutation, rfl, _⟩ := operation?_of_not_isOwn own queued
      exact id

theorem operation_of_addMapping {seen : Session} {target : Uuid}
    {backend port address : String} {operation : Operation}
    (isOf : seen.IsOf schema)
    (queued : (addMapping seen target backend port address).operation? =
      some operation) :
    ∃ key source, Address.bracketed backend = .ok key ∧
      Address.bracketed address = .ok source ∧
      operation = .mutate balancerTable target mappingColumn
        (.mapSet key (PortMapping.entry port source)) := by
  obtain ⟨key, source, row, isKey, isSource, found, rfl⟩ :=
    exists_of_operation?_addMapping queued
  rw [isOf.uuid_of_lookup found]
  exact ⟨key, source, isKey, isSource, rfl⟩

theorem operation_of_deleteMapping {seen : Session} {target : Uuid}
    {backend : String} {operation : Operation} (isOf : seen.IsOf schema)
    (queued : (deleteMapping seen target backend).operation? =
      some operation) :
    ∃ key, Address.bracketed backend = .ok key ∧
      operation =
        .mutate balancerTable target mappingColumn (.mapDelete key) := by
  obtain ⟨key, row, isKey, found, rfl⟩ :=
    exists_of_operation?_deleteMapping queued
  rw [isOf.uuid_of_lookup found]
  exact ⟨key, isKey, rfl⟩

theorem change?_eq_stored_iff (tends : entry.Tends schema balancer)
    {value : String} :
    entry.change? balancer = some (key, some value) ↔
      ∃ port source, entry.Stores balancer key port source ∧
        value = PortMapping.entry port source := by
  constructor
  · intro changes
    obtain ⟨operation, queued, change⟩ := Option.bind_eq_some_iff.mp changes
    cases entry with
    | own operation =>
        cases queued
        cases tends.2.symm.trans change
    | addMapping seen target backend port address =>
        obtain ⟨found, source, isKey, isSource, rfl⟩ :=
          operation_of_addMapping tends queued
        obtain ⟨rfl, stores⟩ := Operation.change?_mutate_eq_some_iff.mp change
        cases stores
        exact ⟨port, source,
          ⟨seen, backend, address, rfl, isKey, isSource, _, queued⟩, rfl⟩
    | deleteMapping seen target backend =>
        obtain ⟨found, _, rfl⟩ := operation_of_deleteMapping tends queued
        cases (Operation.change?_mutate_eq_some_iff.mp change).2
  · rintro ⟨port, source,
      ⟨seen, backend, address, rfl, isKey, isSource, operation, queued⟩, rfl⟩
    obtain ⟨found, other, isFound, isOther, rfl⟩ :=
      operation_of_addMapping tends queued
    cases isFound.symm.trans isKey
    cases isOther.symm.trans isSource
    exact Option.bind_eq_some_iff.mpr
      ⟨_, queued, Operation.change?_mutate_eq_some_iff.mpr ⟨rfl, rfl⟩⟩

theorem change?_eq_removed_iff (tends : entry.Tends schema balancer) :
    entry.change? balancer = some (key, none) ↔
      entry.Removes balancer key := by
  constructor
  · intro changes
    obtain ⟨operation, queued, change⟩ := Option.bind_eq_some_iff.mp changes
    cases entry with
    | own operation =>
        cases queued
        cases tends.2.symm.trans change
    | addMapping seen target backend port address =>
        obtain ⟨found, source, _, _, rfl⟩ :=
          operation_of_addMapping tends queued
        cases (Operation.change?_mutate_eq_some_iff.mp change).2
    | deleteMapping seen target backend =>
        obtain ⟨found, isKey, rfl⟩ := operation_of_deleteMapping tends queued
        obtain ⟨rfl, removes⟩ := Operation.change?_mutate_eq_some_iff.mp change
        cases removes
        exact ⟨seen, backend, rfl, isKey, _, queued⟩
  · rintro ⟨seen, backend, rfl, isKey, operation, queued⟩
    obtain ⟨found, isFound, rfl⟩ := operation_of_deleteMapping tends queued
    cases isFound.symm.trans isKey
    exact Option.bind_eq_some_iff.mpr
      ⟨_, queued, Operation.change?_mutate_eq_some_iff.mpr ⟨rfl, rfl⟩⟩

theorem exists_change?_iff (tends : entry.Tends schema balancer) :
    (∃ new, entry.change? balancer = some (key, new)) ↔
      entry.Removes balancer key ∨
        ∃ port source, entry.Stores balancer key port source := by
  rw [← change?_eq_removed_iff tends]
  constructor
  · rintro ⟨_ | value, changes⟩
    · exact .inl changes
    · obtain ⟨port, source, stores, _⟩ :=
        (change?_eq_stored_iff tends).mp changes
      exact .inr ⟨port, source, stores⟩
  · rintro (changes | ⟨port, source, stores⟩)
    · exact ⟨none, changes⟩
    · exact ⟨_, (change?_eq_stored_iff tends).mpr ⟨port, source, stores, rfl⟩⟩

/-- What commands make of a load balancer without mappings: each key holds what
the last of them about it left there. -/
theorem get?_putAll_change?_iff {entries : List Entry} {value : String}
    (tend : ∀ entry ∈ entries, entry.Tends schema balancer) :
    (SortedMap.empty.putAll (entries.filterMap (change? balancer))).get? key =
        some value ↔
      ∃ port source, Leave entries balancer key port source ∧
        value = PortMapping.entry port source := by
  have same : LastIs
      (fun entry => change? balancer entry = some (key, some value))
      (fun entry => ∃ new, change? balancer entry = some (key, new)) entries ↔
        LastIs (fun entry => ∃ port source,
            entry.Stores balancer key port source ∧
              value = PortMapping.entry port source)
          (fun entry => entry.Removes balancer key ∨
            ∃ port source, entry.Stores balancer key port source) entries :=
    LastIs.congr (fun entry member => change?_eq_stored_iff (tend entry member))
      fun entry member => exists_change?_iff (tend entry member)
  rw [SortedMap.get?_putAll_iff, same]
  constructor
  · rintro ⟨earlier, last, later, split, ⟨port, source, stores, isEntry⟩, rest⟩
    exact ⟨port, source, ⟨earlier, last, later, split, stores, rest⟩, isEntry⟩
  · rintro ⟨port, source, ⟨earlier, last, later, split, stores, rest⟩, isEntry⟩
    exact ⟨earlier, last, later, split, ⟨port, source, stores, isEntry⟩, rest⟩

end Entry

end OvsdbClient
