import OvsdbClient.Proofs.Agreement
import OvsdbClient.Proofs.History
import OvsdbClient.Transaction.Command

/-!
# Mapping commands in a transaction

A mapping command queues one mutation or nothing, and never fails.  The server
may still turn the mutation down when it comes to it, and with it the whole
transaction; if it does not, the commands change nothing but mappings.
-/

namespace OvsdbClient

namespace Session

/-- The mutation that stores a mapping, if nothing is wrong. -/
def mappingToStore (session : Session) (balancer : Uuid)
    (backend port source : String) : Except Fault Operation := do
  let key ← Address.bracketed backend
  let source ← Address.bracketed source
  let row ← session.lookup balancerTable balancer
  session.checkColumn balancerTable mappingColumn
  return .mutate balancerTable row.uuid mappingColumn
    (.mapSet key (PortMapping.entry port source))

/-- The mutation that removes a mapping, if nothing is wrong. -/
def mappingToRemove (session : Session) (balancer : Uuid) (backend : String) :
    Except Fault Operation := do
  let key ← Address.bracketed backend
  let row ← session.lookup balancerTable balancer
  session.checkColumn balancerTable mappingColumn
  return .mutate balancerTable row.uuid mappingColumn (.mapDelete key)

/-- The increment that a hook adds, if nothing is wrong. -/
def counting (session : Session) (hook : CounterHook) :
    Except Fault Operation := do
  session.checkColumn hook.table hook.column
  let row ← session.onlyRow hook.table
  return .mutate hook.table row.uuid hook.column (.increment 1)

end Session

namespace Transaction

variable (transaction : Transaction) (session : Session)

theorem mutate_eq (table : String) (uuid : Uuid) (column : String)
    (mutation : Mutation) :
    transaction.mutate session table uuid column mutation =
      (session.checkColumn table column).map fun _ =>
        transaction.push (.mutate table uuid column mutation) := by
  unfold mutate
  cases session.checkColumn table column <;> rfl

theorem tryAddMapping_eq (balancer : Uuid) (backend port source : String) :
    transaction.tryAddMapping session balancer backend port source =
      (session.mappingToStore balancer backend port source).map
        transaction.push := by
  unfold tryAddMapping Session.mappingToStore setKey
  cases Address.bracketed backend with
  | error fault => rfl
  | ok key =>
      cases Address.bracketed source with
      | error fault => rfl
      | ok address =>
          cases session.lookup balancerTable balancer with
          | error fault => rfl
          | ok row =>
              refine (mutate_eq transaction session _ _ _ _).trans ?_
              cases session.checkColumn balancerTable mappingColumn <;> rfl

theorem tryDeleteMapping_eq (balancer : Uuid) (backend : String) :
    transaction.tryDeleteMapping session balancer backend =
      (session.mappingToRemove balancer backend).map transaction.push := by
  unfold tryDeleteMapping Session.mappingToRemove deleteKey
  cases Address.bracketed backend with
  | error fault => rfl
  | ok key =>
      cases session.lookup balancerTable balancer with
      | error fault => rfl
      | ok row =>
          refine (mutate_eq transaction session _ _ _ _).trans ?_
          cases session.checkColumn balancerTable mappingColumn <;> rfl

theorem runHook_eq (hook : CounterHook) :
    transaction.runHook session hook =
      (session.counting hook).map transaction.push := by
  unfold runHook Session.counting
  cases checked : session.checkColumn hook.table hook.column with
  | error fault => rfl
  | ok _ =>
      cases session.onlyRow hook.table with
      | error fault => rfl
      | ok row =>
          refine (mutate_eq transaction session _ _ _ _).trans ?_
          rw [checked]
          rfl

/-- Hooks add operations that do not depend on what is queued. -/
theorem runHooks_eq :
    transaction.runHooks session =
      (transaction.hooks.mapM session.counting).map fun added =>
        { transaction with operations := transaction.operations ++ added } := by
  have general : ∀ (hooks : List CounterHook) (transaction : Transaction),
      hooks.foldlM (fun transaction hook =>
          transaction.runHook session hook) transaction =
        (hooks.mapM session.counting).map fun added =>
          { transaction with
            operations := transaction.operations ++ added } := by
    intro hooks
    induction hooks with
    | nil =>
        intro transaction
        refine congrArg Except.ok ?_
        simp
    | cons hook hooks induction =>
        intro transaction
        rw [List.foldlM_cons, List.mapM_cons, runHook_eq]
        cases session.counting hook with
        | error fault => rfl
        | ok operation =>
            refine (induction (transaction.push operation)).trans ?_
            cases hooks.mapM session.counting with
            | error fault => rfl
            | ok added =>
                simp [Except.map, bind, Except.bind, pure, Except.pure, push]
  exact general transaction.hooks transaction

end Transaction

/-- What is done to a transaction as it is built: an operation of the client's
own is queued, or a mapping command is run, which looks at what a session shows
at that time. -/
inductive Entry where
  | own (operation : Operation)
  | addMapping (seen : Session) (balancer : Uuid)
      (backend port source : String)
  | deleteMapping (seen : Session) (balancer : Uuid) (backend : String)

namespace Entry

def isOwn : Entry → Bool
  | .own _ => true
  | _ => false

def queue (transaction : Transaction) : Entry → Transaction
  | .own operation => transaction.push operation
  | .addMapping seen balancer backend port source =>
      (transaction.add seen
        (.addMapping balancer backend port source)).2.1
  | .deleteMapping seen balancer backend =>
      (transaction.add seen (.deleteMapping balancer backend)).2.1

def operation? : Entry → Option Operation
  | .own operation => some operation
  | .addMapping seen balancer backend port source =>
      (seen.mappingToStore balancer backend port source).toOption
  | .deleteMapping seen balancer backend =>
      (seen.mappingToRemove balancer backend).toOption

def build (timeout : Span) (hooks : List CounterHook) (entries : List Entry) :
    Transaction :=
  entries.foldl queue ⟨timeout, [], hooks⟩

theorem queue_eq (transaction : Transaction) (entry : Entry) :
    entry.queue transaction =
      { transaction with operations :=
        transaction.operations ++ entry.operation?.toList } := by
  cases entry with
  | own operation => rfl
  | addMapping seen balancer backend port source =>
      simp only [queue, operation?, Transaction.add, Transaction.addMapping,
        Transaction.tryAddMapping_eq]
      cases seen.mappingToStore balancer backend port source with
      | error fault => simp [Except.map, Except.toOption]
      | ok operation => rfl
  | deleteMapping seen balancer backend =>
      simp only [queue, operation?, Transaction.add, Transaction.deleteMapping,
        Transaction.tryDeleteMapping_eq]
      cases seen.mappingToRemove balancer backend with
      | error fault => simp [Except.map, Except.toOption]
      | ok operation => rfl

theorem build_eq (timeout : Span) (hooks : List CounterHook)
    (entries : List Entry) :
    build timeout hooks entries =
      ⟨timeout, entries.filterMap operation?, hooks⟩ := by
  have general : ∀ queued : List Operation,
      entries.foldl queue ⟨timeout, queued, hooks⟩ =
        ⟨timeout, queued ++ entries.filterMap operation?, hooks⟩ := by
    induction entries with
    | nil => simp
    | cons entry entries induction =>
        intro queued
        rw [List.foldl_cons, queue_eq, induction]
        cases queues : entry.operation? <;> simp [queues]
  exact general []

theorem exists_of_operation?_addMapping {seen : Session} {balancer : Uuid}
    {backend port source : String} {operation : Operation}
    (queued : (addMapping seen balancer backend port source).operation? =
      some operation) :
    ∃ key address row, Address.bracketed backend = .ok key ∧
      Address.bracketed source = .ok address ∧
      seen.lookup balancerTable balancer = .ok row ∧
      operation = .mutate balancerTable row.uuid mappingColumn
        (.mapSet key (PortMapping.entry port address)) := by
  cases stored : seen.mappingToStore balancer backend port source with
  | error fault => simp [operation?, stored, Except.toOption] at queued
  | ok found =>
      simp only [operation?, stored, Except.toOption,
        Option.some.injEq] at queued
      subst queued
      unfold Session.mappingToStore at stored
      simp only [bind_eq_ok_iff, pure_eq_ok_iff] at stored
      obtain ⟨key, isKey, address, isAddress, row, here, _, _, rfl⟩ := stored
      exact ⟨key, address, row, isKey, isAddress, here, rfl⟩

theorem exists_of_operation?_deleteMapping {seen : Session} {balancer : Uuid}
    {backend : String} {operation : Operation}
    (queued : (deleteMapping seen balancer backend).operation? =
      some operation) :
    ∃ key row, Address.bracketed backend = .ok key ∧
      seen.lookup balancerTable balancer = .ok row ∧
      operation = .mutate balancerTable row.uuid mappingColumn
        (.mapDelete key) := by
  cases removed : seen.mappingToRemove balancer backend with
  | error fault => simp [operation?, removed, Except.toOption] at queued
  | ok found =>
      simp only [operation?, removed, Except.toOption,
        Option.some.injEq] at queued
      subst queued
      unfold Session.mappingToRemove at removed
      simp only [bind_eq_ok_iff, pure_eq_ok_iff] at removed
      obtain ⟨key, isKey, row, here, _, _, rfl⟩ := removed
      exact ⟨key, row, isKey, here, rfl⟩

/-- A mapping command queues a mutation of maps in the column of mappings, or
nothing. -/
theorem operation?_of_not_isOwn {entry : Entry} {operation : Operation}
    (command : entry.isOwn = false)
    (queued : entry.operation? = some operation) :
    ∃ uuid mutation,
      operation = .mutate balancerTable uuid mappingColumn mutation ∧
        mutation.isOfMaps = true := by
  cases entry with
  | own operation => cases command
  | addMapping seen balancer backend port source =>
      obtain ⟨_, _, _, _, _, _, rfl⟩ := exists_of_operation?_addMapping queued
      exact ⟨_, _, rfl, rfl⟩
  | deleteMapping seen balancer backend =>
      obtain ⟨_, _, _, _, rfl⟩ := exists_of_operation?_deleteMapping queued
      exact ⟨_, _, rfl, rfl⟩

/-- Whether each mutation of a mapping command, when it comes to it, finds its
load balancer stored with a map of mappings. -/
def FindMaps (schema : DatabaseSchema) : Tables → List Entry → Prop
  | _, [] => True
  | tables, entry :: entries =>
      match entry.operation? with
      | none => FindMaps schema tables entries
      | some operation =>
          (entry.isOwn = false → ∃ row mappings,
            tables.row? balancerTable operation.uuid = some row ∧
              row.get? mappingColumn = some (.map mappings)) ∧
          ∀ next, operation.apply schema tables = .ok next →
            FindMaps schema next entries

/-- The column in which mapping commands change maps. -/
def OfMappings (table column : String) : Prop :=
  table = balancerTable ∧ column = mappingColumn

variable {schema : DatabaseSchema} {entries : List Entry}
  {tables left right staged : Tables}

theorem findMaps_cons_of_none {entry : Entry}
    (queues : entry.operation? = none) :
    FindMaps schema tables (entry :: entries) ↔
      FindMaps schema tables entries := by
  simp only [FindMaps, queues]

theorem findMaps_cons_of_some {entry : Entry} {operation : Operation}
    (queues : entry.operation? = some operation) :
    FindMaps schema tables (entry :: entries) ↔
      (entry.isOwn = false → ∃ row mappings,
        tables.row? balancerTable operation.uuid = some row ∧
          row.get? mappingColumn = some (.map mappings)) ∧
      ∀ next, operation.apply schema tables = .ok next →
        FindMaps schema next entries := by
  simp only [FindMaps, queues]

theorem stage_cons_of_some {entry : Entry} {operation : Operation}
    (queues : entry.operation? = some operation) :
    Database.stage schema tables ((entry :: entries).filterMap operation?) =
        .ok staged ↔
      ∃ next, operation.apply schema tables = .ok next ∧
        Database.stage schema next (entries.filterMap operation?) =
          .ok staged := by
  rw [List.filterMap_cons_some queues]
  exact Database.stage_cons_eq_ok_iff

theorem filterMap_isOwn_cons_of_none {entry : Entry}
    (queues : entry.operation? = none) :
    ((entry :: entries).filter isOwn).filterMap operation? =
      (entries.filter isOwn).filterMap operation? := by
  cases own : entry.isOwn with
  | true =>
      rw [List.filter_cons_of_pos own, List.filterMap_cons_none queues]
  | false => rw [List.filter_cons_of_neg (by simp [own])]

/-- The column of mappings goes by its key, if there is one. -/
def NamesMappings (schema : DatabaseSchema) : Prop :=
  ∀ shape, schema.table? balancerTable = some shape →
    (shape.Names mappingColumn ↔ shape.hasColumn mappingColumn = true)

private theorem finds_of_apply (names : NamesMappings schema) {uuid : Uuid}
    {mutation : Mutation} {next : Tables} (ofMaps : mutation.isOfMaps = true)
    (complete : tables.Complete schema)
    (done : Operation.apply (.mutate balancerTable uuid mappingColumn mutation)
      schema tables = .ok next) :
    ∃ row mappings, tables.row? balancerTable uuid = some row ∧
      row.get? mappingColumn = some (.map mappings) := by
  obtain ⟨shape, left, known, onRow, _⟩ := Operation.apply_eq_ok_iff.mp done
  obtain ⟨has, row, value, present, applies, _⟩ :=
    Operation.onRow_mutate_eq_ok_iff.mp onRow
  have covers := complete _ shape _ row known present
  obtain ⟨old, stored⟩ := SortedMap.contains_eq_true_iff.mp
    (covers.named mappingColumn ((names shape known).mpr has))
  have maplike := (Mutation.exists_result?_iff_maplike ofMaps _).mp
    ⟨value, applies⟩
  rw [stored] at maplike
  cases maplike with
  | map mappings => exact ⟨row, mappings, present, stored⟩

/-- If the operations of all entries can be staged, the mutations among them
find their maps. -/
theorem findMaps_of_stage (names : NamesMappings schema)
    (complete : tables.Complete schema)
    (done : Database.stage schema tables (entries.filterMap operation?) =
      .ok staged) : FindMaps schema tables entries := by
  induction entries generalizing tables with
  | nil => trivial
  | cons entry entries induction =>
      cases queues : entry.operation? with
      | none =>
          rw [List.filterMap_cons_none queues] at done
          exact (findMaps_cons_of_none queues).mpr (induction complete done)
      | some operation =>
          obtain ⟨next, first, rest⟩ := (stage_cons_of_some queues).mp done
          refine (findMaps_cons_of_some queues).mpr ⟨?_, ?_⟩
          · intro command
            obtain ⟨uuid, mutation, rfl, ofMaps⟩ :=
              operation?_of_not_isOwn command queues
            exact finds_of_apply names ofMaps complete first
          · intro other same
            cases same.symm.trans first
            exact induction (complete.apply first) rest

private theorem exists_apply_of_finds (names : NamesMappings schema)
    {uuid : Uuid} {mutation : Mutation} {row : Row}
    {mappings : SortedMap String String} (ofMaps : mutation.isOfMaps = true)
    (named : tables.Named schema) (complete : tables.Complete schema)
    (present : tables.row? balancerTable uuid = some row)
    (stored : row.get? mappingColumn = some (.map mappings)) :
    ∃ next, Operation.apply (.mutate balancerTable uuid mappingColumn mutation)
      schema tables = .ok next := by
  have known := (named balancerTable).symm.trans
    (Tables.contains_of_row? present)
  obtain ⟨shape, found⟩ := SortedMap.contains_eq_true_iff.mp known
  have covers := complete _ shape _ row found present
  have has : shape.hasColumn mappingColumn = true :=
    (covers.known mappingColumn
      (SortedMap.contains_eq_true_iff.mpr ⟨_, stored⟩)).elim
        (names shape found).mp id
  change row.columns.get? mappingColumn = some (.map mappings) at stored
  have maplike : Value.Maplike (row.columns.get? mappingColumn) :=
    stored.symm ▸ .map mappings
  obtain ⟨value, applies⟩ :=
    (Mutation.exists_result?_iff_maplike ofMaps _).mpr maplike
  exact ⟨_, Operation.apply_eq_ok_iff.mpr ⟨shape, _, found,
    Operation.onRow_mutate_eq_ok_iff.mpr
      ⟨has, row, value, present, applies, rfl⟩, rfl⟩⟩

private theorem alike_of_apply {uuid : Uuid} {mutation : Mutation}
    {next : Tables} (ofMaps : mutation.isOfMaps = true)
    (alike : left.Alike OfMappings right)
    (done : Operation.apply (.mutate balancerTable uuid mappingColumn mutation)
      schema right = .ok next) : left.Alike OfMappings next := by
  obtain ⟨shape, _, _, onRow, rfl⟩ := Operation.apply_eq_ok_iff.mp done
  obtain ⟨_, row, value, present, applies, rfl⟩ :=
    Operation.onRow_mutate_eq_ok_iff.mp onRow
  have before := (Mutation.exists_result?_iff_maplike ofMaps _).mp
    ⟨value, applies⟩
  have after := Mutation.maplike_of_result? ofMaps applies
  refine alike.put_right ?_
  have here := alike balancerTable uuid
  change right.row? balancerTable uuid = some row at present
  rw [present] at here
  change Row.StoredAlike _ (left.row? balancerTable uuid) _
  generalize left.row? balancerTable uuid = old at here ⊢
  cases here with
  | some rows => exact .some (rows.insert_right ⟨rfl, rfl⟩ before after)

/-- If all mutations of mappings apply, the entries can be staged with mapping
commands as they can be without, and leave alike tables. -/
theorem stage_of_mutationsApply (alike : left.Alike OfMappings right)
    (apply : Database.MutationsApply OfMappings schema right
      (entries.filterMap operation?))
    (done : Database.stage schema left
      ((entries.filter isOwn).filterMap operation?) = .ok staged) :
    ∃ other,
      Database.stage schema right (entries.filterMap operation?) = .ok other ∧
        staged.Alike OfMappings other := by
  induction entries generalizing left right with
  | nil =>
      cases done
      exact ⟨right, rfl, alike⟩
  | cons entry entries induction =>
      cases queues : entry.operation? with
      | none =>
          rw [filterMap_isOwn_cons_of_none queues] at done
          rw [List.filterMap_cons_none queues] at apply ⊢
          exact induction alike apply done
      | some operation =>
          rw [List.filterMap_cons_some queues] at apply
          obtain ⟨applies, further⟩ := apply
          suffices step : ∃ nextLeft nextRight,
              operation.apply schema right = .ok nextRight ∧
              nextLeft.Alike OfMappings nextRight ∧
              Database.stage schema nextLeft
                ((entries.filter isOwn).filterMap operation?) =
                  .ok staged by
            obtain ⟨nextLeft, nextRight, first, still, rest⟩ := step
            obtain ⟨other, restOther, alike⟩ :=
              induction still (further nextRight first) rest
            exact ⟨other, (stage_cons_of_some queues).mpr
              ⟨nextRight, first, restOther⟩, alike⟩
          cases own : entry.isOwn with
          | true =>
              rw [List.filter_cons_of_pos own] at done
              obtain ⟨nextLeft, first, rest⟩ :=
                (stage_cons_of_some queues).mp done
              obtain ⟨nextRight, firstRight, still⟩ :=
                Operation.apply_alike alike applies first
              exact ⟨nextLeft, nextRight, firstRight, still, rest⟩
          | false =>
              rw [List.filter_cons_of_neg (by simp [own])] at done
              obtain ⟨uuid, mutation, rfl, ofMaps⟩ :=
                operation?_of_not_isOwn own queues
              obtain ⟨nextRight, first⟩ := applies ⟨rfl, rfl⟩
              exact ⟨left, nextRight, first, alike_of_apply ofMaps alike first,
                done⟩

private theorem exists_apply_of_alike (names : NamesMappings schema)
    {operation : Operation} {next : Tables} (complete : left.Complete schema)
    (alike : left.Alike OfMappings right)
    (mutates : operation.MutatesIn OfMappings)
    (done : operation.apply schema left = .ok next) :
    ∃ other, operation.apply schema right = .ok other := by
  cases operation with
  | insert | update | delete | verify => cases mutates
  | mutate table uuid column mutation =>
      obtain ⟨rfl, rfl⟩ := mutates
      obtain ⟨shape, _, known, onRow, _⟩ := Operation.apply_eq_ok_iff.mp done
      obtain ⟨has, row, value, present, applies, rfl⟩ :=
        Operation.onRow_mutate_eq_ok_iff.mp onRow
      have covers := complete _ shape _ row known present
      obtain ⟨old, stored⟩ := SortedMap.contains_eq_true_iff.mp
        (covers.named mappingColumn ((names shape known).mpr has))
      suffices result : ∃ other result,
          right.row? balancerTable uuid = some other ∧
          mutation.result? (other.columns.get? mappingColumn) =
            some result by
        obtain ⟨other, result, there, again⟩ := result
        exact ⟨_, Operation.apply_eq_ok_iff.mpr ⟨shape, _, known,
          Operation.onRow_mutate_eq_ok_iff.mpr
            ⟨has, other, result, there, again, rfl⟩, rfl⟩⟩
      have here := alike balancerTable uuid
      change left.row? balancerTable uuid = some row at present
      rw [present] at here
      generalize right.row? balancerTable uuid = there at here ⊢
      cases here with
      | @some _ other rows =>
          rcases rows.columns mappingColumn with same | ⟨_, maps, maplike⟩
          · exact ⟨other, value, rfl, same ▸ applies⟩
          · rw [stored] at maps applies
            cases maps with
            | map entries =>
                have ofMaps := Mutation.isOfMaps_of_result? applies
                obtain ⟨result, again⟩ :=
                  (Mutation.exists_result?_iff_maplike ofMaps _).mpr maplike
                exact ⟨other, result, rfl, again⟩

/-- If all mutations of mapping commands find their maps, the entries can be
staged with them as they can be without. -/
theorem mutationsApply_of_findMaps (names : NamesMappings schema)
    (alike : left.Alike OfMappings right) (complete : left.Complete schema)
    (named : right.Named schema) (completeRight : right.Complete schema)
    (find : FindMaps schema right entries)
    (done : Database.stage schema left
      ((entries.filter isOwn).filterMap operation?) = .ok staged) :
    Database.MutationsApply OfMappings schema right
      (entries.filterMap operation?) := by
  induction entries generalizing left right with
  | nil => trivial
  | cons entry entries induction =>
      cases queues : entry.operation? with
      | none =>
          rw [filterMap_isOwn_cons_of_none queues] at done
          rw [List.filterMap_cons_none queues]
          exact induction alike complete named completeRight
            ((findMaps_cons_of_none queues).mp find) done
      | some operation =>
          obtain ⟨finds, further⟩ := (findMaps_cons_of_some queues).mp find
          rw [List.filterMap_cons_some queues]
          cases own : entry.isOwn with
          | true =>
              rw [List.filter_cons_of_pos own] at done
              obtain ⟨nextLeft, first, rest⟩ :=
                (stage_cons_of_some queues).mp done
              have applies (mutates : operation.MutatesIn OfMappings) :=
                exists_apply_of_alike names complete alike mutates first
              refine ⟨applies, fun nextRight firstRight => ?_⟩
              obtain ⟨_, again, still⟩ :=
                Operation.apply_alike alike applies first
              cases firstRight.symm.trans again
              exact induction still (complete.apply first)
                (named.apply firstRight) (completeRight.apply firstRight)
                (further nextRight firstRight) rest
          | false =>
              rw [List.filter_cons_of_neg (by simp [own])] at done
              obtain ⟨uuid, mutation, rfl, ofMaps⟩ :=
                operation?_of_not_isOwn own queues
              obtain ⟨row, mappings, present, stored⟩ := finds own
              refine ⟨fun _ => exists_apply_of_finds names ofMaps named
                completeRight present stored, fun nextRight first => ?_⟩
              exact induction (alike_of_apply ofMaps alike first) complete
                (named.apply first) (completeRight.apply first)
                (further nextRight first) done

end Entry

end OvsdbClient
