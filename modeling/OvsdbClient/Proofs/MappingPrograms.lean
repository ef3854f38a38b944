import OvsdbClient.Proofs.CommitEffects
import OvsdbClient.Proofs.MappingsReadBack

/-!
# Mapping commands as a program

Entries of a transaction can be read as a program that runs on the contents of
tables.  A mapping command stores or drops one key of one map, or does nothing
if it cannot be made sense of where it is given.  A transaction that was built
from entries and is applied does what their program does, and mapping commands
run no differently from the operations around them.
-/

namespace OvsdbClient

/-- A change of one key of a load balancer's mappings: what the key comes to
hold, or that it is dropped. -/
structure MappingEdit where
  balancer : Uuid
  key : String
  value? : Option String
deriving DecidableEq

namespace MappingEdit

/-- A map after an edit.  A value that is no map is lost by it, and where there
is no value the map is empty before. -/
def run (edit : MappingEdit) (stored : Option Value) : Option Value :=
  (stored.elim (some .empty) Value.asMap?).map fun mappings =>
    .map (mappings.put edit.key edit.value?)

def mutation (edit : MappingEdit) : Mutation :=
  match edit.value? with
  | some value => .mapSet edit.key value
  | none => .mapDelete edit.key

def operation (edit : MappingEdit) : Operation :=
  .mutate balancerTable edit.balancer mappingColumn edit.mutation

theorem result?_mutation (edit : MappingEdit) (stored : Option Value) :
    edit.mutation.result? stored = edit.run stored := by
  obtain ⟨balancer, key, value?⟩ := edit
  cases value? <;> simp only [mutation, Mutation.result?, run] <;>
    cases stored.elim (some SortedMap.empty) Value.asMap? <;> rfl

end MappingEdit

namespace Contents

/-- The contents after an edit, which leaves everything alone but one map. -/
def edit (contents : Contents) (edit : MappingEdit) : Contents :=
  fun table uuid =>
    if balancerTable = table ∧ edit.balancer = uuid then
      (contents table uuid).map fun content =>
        { content with
          value? := fun column =>
            if mappingColumn = column then
              edit.run (content.value? mappingColumn)
            else content.value? column }
    else contents table uuid

theorem after_operation (schema : DatabaseSchema) (contents : Contents)
    (edit : MappingEdit) :
    contents.after schema edit.operation = contents.edit edit := by
  funext table uuid
  simp only [after, Contents.edit, MappingEdit.operation, Operation.table,
    Operation.uuid, Operation.effect, MappingEdit.result?_mutation]

theorem edit_of_absent {contents : Contents} {edit : MappingEdit}
    {content : Content} {mappings : SortedMap String String}
    (stored : contents balancerTable edit.balancer = some content)
    (isMap : content.value? mappingColumn = some (.map mappings))
    (drops : edit.value? = none) (absent : mappings.get? edit.key = none) :
    contents.edit edit = contents := by
  have same : mappings.put edit.key edit.value? = mappings := by
    refine SortedMap.ext_get? fun key => ?_
    rw [SortedMap.get?_put, drops]
    split
    case isTrue isKey => rw [← isKey, absent]
    case isFalse => rfl
  funext table uuid
  unfold Contents.edit
  split
  case isFalse => rfl
  case isTrue here =>
    obtain ⟨rfl, rfl⟩ := here
    rw [stored]
    refine congrArg (fun value? => some (Content.mk content.revision value?))
      (funext fun column => ?_)
    split
    case isFalse => rfl
    case isTrue isMapping =>
      rw [← isMapping, isMap]
      exact congrArg (fun map => some (Value.map map)) same

end Contents

namespace Session

/-- A session that shows a load balancer, and follows the column of its
mappings. -/
def canMap (session : Session) (balancer : Uuid) : Bool :=
  session.schema.hasColumn balancerTable mappingColumn &&
    (session.replica.get? balancerTable balancer).isSome

theorem checkColumn_eq_ok_iff {session : Session} {table column : String} :
    session.checkColumn table column = .ok () ↔
      session.schema.hasColumn table column = true := by
  unfold checkColumn checkTable DatabaseSchema.hasColumn
  cases session.schema.table? table with
  | none => simp [orFault, bind, Except.bind]
  | some shape =>
      cases has : shape.hasColumn column <;>
        simp [orFault, bind, Except.bind, has, pure, Except.pure, throw,
          throwThe, MonadExceptOf.throw]

theorem canMap_iff {session : Session} {balancer : Uuid} :
    session.canMap balancer = true ↔
      (∃ row, session.lookup balancerTable balancer = .ok row) ∧
        session.checkColumn balancerTable mappingColumn = .ok () := by
  simp only [canMap, Bool.and_eq_true, checkColumn_eq_ok_iff, lookup_eq_ok_iff,
    Option.isSome_iff_exists, exists_and_left]
  constructor
  · rintro ⟨has, shown⟩
    refine ⟨⟨SortedMap.contains_eq_true_iff.mpr ?_, shown⟩, has⟩
    cases known : session.schema.table? balancerTable with
    | none => simp [DatabaseSchema.hasColumn, known] at has
    | some shape => exact ⟨shape, known⟩
  · rintro ⟨⟨_, shown⟩, has⟩
    exact ⟨has, shown⟩

/-- What is queued for a row that a session shows is queued for the balancer
itself, just if the session can map it. -/
theorem toOption_lookup {session : Session} {schema : DatabaseSchema}
    (isOf : session.IsOf schema) (balancer : Uuid) (make : Uuid → Operation) :
    (do
      let row ← session.lookup balancerTable balancer
      session.checkColumn balancerTable mappingColumn
      return make row.uuid : Except Fault Operation).toOption =
      if session.canMap balancer then some (make balancer) else none := by
  split
  case isTrue can =>
    obtain ⟨⟨row, found⟩, checked⟩ := canMap_iff.mp can
    rw [found, checked, ← isOf.uuid_of_lookup found]
    rfl
  case isFalse cannot =>
    rw [canMap_iff, not_and] at cannot
    cases found : session.lookup balancerTable balancer with
    | error fault => rfl
    | ok row =>
        cases checked : session.checkColumn balancerTable mappingColumn with
        | error fault => rfl
        | ok _ => exact absurd checked (cannot ⟨row, found⟩)

end Session

namespace Entry

/-- The edit that a mapping command stands for where it is given, if its
addresses can be parsed and its session can map the load balancer. -/
def edit? : Entry → Option MappingEdit
  | .own _ => none
  | .addMapping seen balancer backend port source =>
      match Address.bracketed backend, Address.bracketed source with
      | .ok key, .ok address =>
          if seen.canMap balancer then
            some ⟨balancer, key, some (port ++ ":" ++ address)⟩
          else none
      | _, _ => none
  | .deleteMapping seen balancer backend =>
      match Address.bracketed backend with
      | .ok key =>
          if seen.canMap balancer then some ⟨balancer, key, none⟩ else none
      | .error _ => none

def effect (schema : DatabaseSchema) (contents : Contents)
    (entry : Entry) : Contents :=
  match entry with
  | .own operation => contents.after schema operation
  | _ => entry.edit?.elim contents contents.edit

def notices (queued : Transaction) : Entry → List Notice
  | .own _ => []
  | .addMapping seen balancer backend port source =>
      (queued.add seen (.addMapping balancer backend port source)).2.2
  | .deleteMapping seen balancer backend =>
      (queued.add seen (.deleteMapping balancer backend)).2.2

/-- A mapping command looks at what some session may show. -/
def LooksAtSession : Entry → Prop
  | .own _ => True
  | .addMapping seen .. | .deleteMapping seen .. =>
      ∃ schema, seen.IsOf schema

def Touches (table : String) (uuid : Uuid) : Entry → Prop
  | .own operation => operation.Writes table uuid
  | entry => ∃ edit, entry.edit? = some edit ∧ table = balancerTable ∧
      uuid = edit.balancer

variable {entry : Entry} {schema : DatabaseSchema}

theorem own_or_command (entry : Entry) :
    (∃ operation, entry = .own operation) ∨ entry.isOwn = false := by
  cases entry with
  | own operation => exact .inl ⟨operation, rfl⟩
  | _ => exact .inr rfl

/-- A command queues the operation that makes its edit, if it stands for one. -/
theorem operation?_eq_map_edit? (command : entry.isOwn = false)
    (looks : entry.LooksAtSession) :
    entry.operation? = entry.edit?.map MappingEdit.operation := by
  cases entry with
  | own operation => cases command
  | addMapping seen balancer backend port source =>
      obtain ⟨schema, isOf⟩ := looks
      simp only [operation?, edit?, Session.mappingToStore]
      cases Address.bracketed backend with
      | error fault => rfl
      | ok key =>
          cases Address.bracketed source with
          | error fault => rfl
          | ok address =>
              refine (Session.toOption_lookup isOf balancer fun uuid =>
                .mutate balancerTable uuid mappingColumn
                  (.mapSet key (PortMapping.entry port address))).trans ?_
              dsimp only
              split <;> rfl
  | deleteMapping seen balancer backend =>
      obtain ⟨schema, isOf⟩ := looks
      simp only [operation?, edit?, Session.mappingToRemove]
      cases Address.bracketed backend with
      | error fault => rfl
      | ok key =>
          refine (Session.toOption_lookup isOf balancer fun uuid =>
            .mutate balancerTable uuid mappingColumn (.mapDelete key)).trans ?_
          dsimp only
          split <;> rfl

theorem of_operation?_eq_none (looks : entry.LooksAtSession)
    (queues : entry.operation? = none) :
    entry.isOwn = false ∧ entry.edit? = none := by
  rcases entry.own_or_command with ⟨operation, rfl⟩ | command
  · cases queues
  · rw [operation?_eq_map_edit? command looks] at queues
    exact ⟨command, Option.map_eq_none_iff.mp queues⟩

theorem notices_of_operation? (command : entry.isOwn = false)
    (queued : Transaction) :
    (entry.operation? = none →
      ∃ notice, entry.notices queued = [notice] ∧ notice.isError = true) ∧
    ∀ operation, entry.operation? = some operation →
      entry.notices queued = [] := by
  cases entry with
  | own operation => cases command
  | addMapping seen balancer backend port source =>
      simp only [operation?, notices, Transaction.add, Transaction.addMapping,
        Transaction.tryAddMapping_eq]
      cases seen.mappingToStore balancer backend port source with
      | error fault =>
          refine ⟨fun _ => ⟨_, rfl, rfl⟩, fun operation queues => ?_⟩
          cases queues
      | ok operation =>
          refine ⟨fun senseless => ?_, fun _ _ => rfl⟩
          cases senseless
  | deleteMapping seen balancer backend =>
      simp only [operation?, notices, Transaction.add,
        Transaction.deleteMapping, Transaction.tryDeleteMapping_eq]
      cases seen.mappingToRemove balancer backend with
      | error fault =>
          refine ⟨fun _ => ⟨_, rfl, rfl⟩, fun operation queues => ?_⟩
          cases queues
      | ok operation =>
          refine ⟨fun senseless => ?_, fun _ _ => rfl⟩
          cases senseless

theorem touches_of_writes (looks : entry.LooksAtSession)
    {operation : Operation} (queues : entry.operation? = some operation)
    {table : String} {uuid : Uuid} (writes : operation.Writes table uuid) :
    entry.Touches table uuid := by
  rcases entry.own_or_command with ⟨queued, rfl⟩ | command
  · cases queues
    exact writes
  · rw [operation?_eq_map_edit? command looks] at queues
    obtain ⟨edit, edits, rfl⟩ := Option.map_eq_some_iff.mp queues
    obtain ⟨_, isTable, isBalancer⟩ := writes
    have touches : ∃ edit, entry.edit? = some edit ∧
        table = balancerTable ∧ uuid = edit.balancer :=
      ⟨edit, edits, isTable.symm, isBalancer.symm⟩
    cases entry with
    | own queued => cases command
    | _ => exact touches

theorem effect_of_not_isOwn (contents : Contents)
    (command : entry.isOwn = false) :
    entry.effect schema contents =
      entry.edit?.elim contents contents.edit := by
  cases entry with
  | own operation => cases command
  | _ => rfl

theorem effect_eq (contents : Contents) (looks : entry.LooksAtSession) :
    entry.effect schema contents =
      entry.operation?.elim contents (contents.after schema) := by
  rcases entry.own_or_command with ⟨operation, rfl⟩ | command
  · rfl
  · rw [operation?_eq_map_edit? command looks,
      effect_of_not_isOwn contents command]
    cases entry.edit? with
    | none => rfl
    | some edit => exact (contents.after_operation schema edit).symm

/-- The program of entries does what the operations do that they queue. -/
theorem foldl_effect {entries : List Entry} (contents : Contents)
    (look : ∀ entry ∈ entries, entry.LooksAtSession) :
    entries.foldl (effect schema) contents =
      (entries.filterMap operation?).foldl (Contents.after schema)
        contents := by
  induction entries generalizing contents with
  | nil => rfl
  | cons entry entries induction =>
      obtain ⟨now, rest⟩ := List.forall_mem_cons.mp look
      rw [List.foldl_cons, induction _ rest, effect_eq contents now]
      cases queues : entry.operation? with
      | none => rw [List.filterMap_cons_none queues, Option.elim_none]
      | some operation =>
          rw [List.filterMap_cons_some queues, Option.elim_some,
            List.foldl_cons]

end Entry

/-! ## What commands leave alone -/

/-- Contents with the same rows, which hold the same but for some cells. -/
def Contents.AgreeBut (loose : String → Uuid → String → Prop)
    (left right : Contents) : Prop :=
  ∀ table uuid, Option.Rel (fun content other =>
    ∀ column, ¬loose table uuid column →
      content.value? column = other.value? column)
    (left table uuid) (right table uuid)

namespace Contents.AgreeBut

variable {loose : String → Uuid → String → Prop} {left right : Contents}
  {schema : DatabaseSchema}

theorem map_value? {table : String} {uuid : Uuid} {column : String}
    (agree : left.AgreeBut loose right) (strict : ¬loose table uuid column) :
    (left table uuid).map (·.value? column) =
      (right table uuid).map (·.value? column) := by
  have here := agree table uuid
  generalize left table uuid = content at here ⊢
  generalize right table uuid = other at here ⊢
  cases here with
  | none => rfl
  | some same => exact congrArg some (same column strict)

theorem refl (contents : Contents) : contents.AgreeBut loose contents := by
  intro table uuid
  cases contents table uuid with
  | none => exact .none
  | some content => exact .some fun _ _ => rfl

/-- Agreement is kept by an operation that is applied on both sides. -/
theorem after (agree : left.AgreeBut loose right) (operation : Operation) :
    (left.after schema operation).AgreeBut loose
      (right.after schema operation) := by
  intro table uuid
  have here := agree table uuid
  unfold Contents.after
  split
  case isFalse => exact here
  case isTrue =>
    generalize left table uuid = content at here ⊢
    generalize right table uuid = other at here ⊢
    cases operation with
    | insert named target given => exact .some fun _ _ => rfl
    | delete named target => exact .none
    | verify named target revision => exact here
    | update named target given =>
        cases here with
        | none => exact .none
        | some same =>
            refine .some fun column strict => ?_
            exact congrArg (Option.or (given.get? column)) (same column strict)
    | mutate named target touched mutation =>
        cases here with
        | none => exact .none
        | some same =>
            refine .some fun column strict => ?_
            dsimp only
            split
            case isTrue isTouched =>
              subst isTouched
              exact congrArg mutation.result? (same _ strict)
            case isFalse => exact same column strict

theorem edit (agree : left.AgreeBut loose right) {edit : MappingEdit}
    (free : loose balancerTable edit.balancer mappingColumn) :
    (left.edit edit).AgreeBut loose right := by
  intro table uuid
  have here := agree table uuid
  unfold Contents.edit
  split
  case isFalse => exact here
  case isTrue named =>
    obtain ⟨rfl, rfl⟩ := named
    generalize left balancerTable edit.balancer = content at here ⊢
    generalize right balancerTable edit.balancer = other at here ⊢
    cases here with
    | none => exact .none
    | some same =>
        refine .some fun column strict => ?_
        dsimp only
        split
        case isTrue isMapping => exact absurd (isMapping ▸ free) strict
        case isFalse => exact same column strict

theorem foldl (agree : left.AgreeBut loose right)
    (operations : List Operation) :
    (operations.foldl (Contents.after schema) left).AgreeBut loose
      (operations.foldl (Contents.after schema) right) := by
  induction operations generalizing left right with
  | nil => exact agree
  | cons operation operations induction =>
      exact induction (agree.after operation)

/-- Programs that differ in commands only agree in all cells but those that the
commands edit. -/
theorem foldl_effect {entries : List Entry}
    (agree : left.AgreeBut loose right)
    (free : ∀ entry ∈ entries, ∀ edit, entry.edit? = some edit →
      loose balancerTable edit.balancer mappingColumn) :
    (entries.foldl (Entry.effect schema) left).AgreeBut loose
      ((entries.filter Entry.isOwn).foldl (Entry.effect schema) right) := by
  induction entries generalizing left right with
  | nil => exact agree
  | cons entry entries induction =>
      obtain ⟨now, rest⟩ := List.forall_mem_cons.mp free
      rcases entry.own_or_command with ⟨operation, rfl⟩ | command
      · exact induction (agree.after operation) rest
      · rw [List.filter_cons_of_neg (by simp [command])]
        refine induction ?_ rest
        rw [Entry.effect_of_not_isOwn left command]
        cases edits : entry.edit? with
        | none => exact agree
        | some edit => exact agree.edit (now edit edits)

end Contents.AgreeBut

namespace Database

/-- Some mapping command edits a cell. -/
def EditedBy (entries : List Entry) (table : String) (uuid : Uuid)
    (column : String) : Prop :=
  ∃ entry ∈ entries, ∃ edit, entry.edit? = some edit ∧
    table = balancerTable ∧ uuid = edit.balancer ∧ column = mappingColumn

/-- What a commit makes of a database if it does what entries queued, and after
that what hooks added. -/
structure Runs (schema : DatabaseSchema) (entries : List Entry)
    (added : List Operation) (before after : Database) : Prop where
  /-- Every row holds what the program of the entries leaves in it. -/
  columns : ∀ table uuid,
    (after.tables.contents table uuid).map (·.value?) =
      (added.foldl (Contents.after schema)
        (entries.foldl (Entry.effect schema) before.tables.contents) table
          uuid).map (·.value?)
  /-- Without the commands only the cells that they edit are different. -/
  beside : ∀ table uuid column, ¬EditedBy entries table uuid column →
    (after.tables.contents table uuid).map (·.value? column) =
      (added.foldl (Contents.after schema)
        ((entries.filter Entry.isOwn).foldl (Entry.effect schema)
          before.tables.contents) table uuid).map (·.value? column)
  /-- Rows that no entry and no hook writes stay as they are. -/
  spared : ∀ table uuid, (∀ entry ∈ entries, ¬entry.Touches table uuid) →
    (∀ operation ∈ added, ¬operation.Writes table uuid) →
    after.tables.row? table uuid = before.tables.row? table uuid

variable {schema : DatabaseSchema} {entries : List Entry}
  {added : List Operation} {before after : Database}

theorem runs_of_commit (look : ∀ entry ∈ entries, entry.LooksAtSession)
    (done : before.commit schema (entries.filterMap Entry.operation? ++ added) =
      .ok after) : Runs schema entries added before after := by
  have takes := takes_of_commit done
  have columns : ∀ table uuid,
      (after.tables.contents table uuid).map (·.value?) =
        (added.foldl (Contents.after schema)
          (entries.foldl (Entry.effect schema) before.tables.contents) table
            uuid).map (·.value?) := by
    intro table uuid
    rw [takes.columns, List.foldl_append, Entry.foldl_effect _ look]
  refine ⟨columns, ?_, ?_⟩
  · intro table uuid column unedited
    have agree : Contents.AgreeBut (EditedBy entries)
        (added.foldl (Contents.after schema)
          (entries.foldl (Entry.effect schema) before.tables.contents))
        (added.foldl (Contents.after schema)
          ((entries.filter Entry.isOwn).foldl (Entry.effect schema)
            before.tables.contents)) :=
      ((Contents.AgreeBut.refl _).foldl_effect fun entry member edit edits =>
        ⟨entry, member, edit, edits, rfl, rfl, rfl⟩).foldl added
    have same := congrArg (Option.map (· column)) (columns table uuid)
    simp only [Option.map_map] at same
    exact same.trans (agree.map_value? unedited)
  · intro table uuid untouched unwritten
    refine takes.spared table uuid fun operation member => ?_
    rcases List.mem_append.mp member with queued | hooked
    · obtain ⟨entry, listed, queues⟩ := List.mem_filterMap.mp queued
      exact mt (Entry.touches_of_writes (look entry listed) queues)
        (untouched entry listed)
    · exact unwritten operation hooked

end Database

namespace Traffic

theorem schema_of_mem_requestsOf {schema : DatabaseSchema}
    {past moves : List Move} {number : Nat} {request : Request}
    (member : request ∈ ((ofServer (.ofSchema schema)).run past).requestsOf
      moves number) : request.server.schema = schema := by
  obtain ⟨shown, move, _, asks⟩ :=
    mem_requests_iff.mp (List.mem_filter.mp member).1
  rw [server_of_request? asks, ← run_append]
  obtain ⟨events, ran⟩ :=
    server_run (ofServer (.ofSchema schema)) (past ++ shown)
  rw [ran]
  exact Server.schema_run (.ofSchema schema) events

/-- Mapping commands in a transaction that commits do what their program does.
A command that cannot be made sense of where it is given queues nothing and
reports one error, and dropping a mapping that is not there changes nothing.
What commits is the program of the entries and what the hooks add, in one
commit, and it commits nothing at all just if there is nothing to do. -/
theorem mapping_commands_run_as_program (schema : DatabaseSchema)
    (past future : List Move) (session : Nat) (timeout : Span)
    (hooks : List CounterHook) (entries : List Entry)
    (look : ∀ entry ∈ entries, entry.LooksAtSession) :
    (∀ entry ∈ entries, entry.isOwn = false → ∀ queued : Transaction,
      (entry.edit? = none → entry.queue queued = queued ∧
        ∃ notice, entry.notices queued = [notice] ∧ notice.isError = true) ∧
      ∀ edit, entry.edit? = some edit →
        entry.queue queued = queued.push edit.operation ∧
          entry.notices queued = []) ∧
    (∀ entry ∈ entries, ∀ edit, entry.edit? = some edit → edit.value? = none →
      ∀ contents content mappings,
        contents balancerTable edit.balancer = some content →
        content.value? mappingColumn = some (.map mappings) →
        mappings.get? edit.key = none →
        entry.effect schema contents = contents) ∧
    (let before := (ofServer (.ofSchema schema)).run past
     let number := before.submissions.length
     let moves := .submit session (Entry.build timeout hooks entries) :: future
     ∀ submission, (before.run moves).submission? number = some submission →
       submission.progress = .finished (.ok .committed) →
       (before.requestsOf moves number = [] ∧ hooks = [] ∧
         ∀ entry ∈ entries, entry.isOwn = false ∧ entry.edit? = none) ∨
       ∃ request generation added,
         before.requestsOf moves number = [request] ∧
           request.answer = .ok generation ∧
           List.Forall₂ CounterHook.Adds hooks added ∧
           Database.Runs schema entries added request.server.database
             request.after.database) := by
  refine ⟨?commands, ?absent, ?commit⟩
  case commands =>
    intro entry member command queued
    have queues := Entry.operation?_eq_map_edit? command (look entry member)
    obtain ⟨fails, succeeds⟩ := Entry.notices_of_operation? command queued
    constructor
    · intro senseless
      rw [senseless, Option.map_none] at queues
      refine ⟨?_, fails queues⟩
      rw [Entry.queue_eq, queues, Option.toList_none, List.append_nil]
    · intro edit edits
      rw [edits, Option.map_some] at queues
      refine ⟨?_, succeeds _ queues⟩
      rw [Entry.queue_eq, queues]
      rfl
  case absent =>
    intro entry _ edit edits drops contents content mappings stored isMap absent
    rcases entry.own_or_command with ⟨operation, rfl⟩ | command
    · cases edits
    · rw [Entry.effect_of_not_isOwn contents command, edits]
      exact Contents.edit_of_absent stored isMap drops absent
  case commit =>
    intro before number moves submission here committed
    have sound : before.server.Sound :=
      sound_run (Server.sound_ofSchema schema) past
    obtain ⟨last, there, carries⟩ := carries_of_submit before session
      (Entry.build timeout hooks entries) future
    cases there.symm.trans here
    obtain ⟨same, final, fate⟩ := fate_of_submit sound session
      (Entry.build timeout hooks entries) future
    cases final.symm.trans here
    have truth := fate.tellsTruth carries fun request member =>
      (completed_of_mem_requestsOf member).2
    have operations : (Entry.build timeout hooks entries).operations =
        entries.filterMap Entry.operation? := by
      rw [Entry.build_eq]
    have sameHooks : (Entry.build timeout hooks entries).hooks = hooks := by
      rw [Entry.build_eq]
    rcases truth.committed committed with
      ⟨quiet, idle, unhooked⟩ | ⟨request, generation, asked, _, answered⟩
    · rw [operations] at idle
      rw [sameHooks] at unhooked
      refine .inl ⟨quiet, unhooked, fun entry member => ?_⟩
      exact Entry.of_operation?_eq_none (look entry member)
        (List.filterMap_eq_nil_iff.mp idle entry member)
    · have member : request ∈ before.requestsOf moves number :=
        asked.symm ▸ List.mem_cons_self
      obtain ⟨added, adds, queued⟩ := truth.whole request member
      rw [operations] at queued
      rw [sameHooks] at adds
      refine .inr ⟨request, generation, added, asked, answered, adds, ?_⟩
      have done : request.server.database.commit request.server.schema
          request.operations = .ok request.after.database :=
        Server.database_commit answered
      rw [schema_of_mem_requestsOf member, queued] at done
      exact Database.runs_of_commit look done

/-- Mappings are replaced as a whole between a command that stores one and a
command that removes it.  One command is for a load balancer that is not
there. -/
def mixedEntries : List Entry :=
  [.addMapping keeper (.ofNat 2) "10.0.0.5" "a" "10.0.0.2",
    .own (.update balancerTable (.ofNat 2) (.ofList
      [(mappingColumn, .map (.ofList [("10.0.0.6", "b:10.0.0.2")]))])),
    .deleteMapping keeper (.ofNat 2) "10.0.0.5",
    .addMapping keeper (.ofNat 3) "10.0.0.7" "c" "10.0.0.2",
    .addMapping keeper (.ofNat 2) "fd00::5" "d" "fd00::2"]

theorem mixed_entries_run_as_program :
    let start := (ofServer (.ofSchema .small)).run balancerMoves
    let moves := .submit 0 (Entry.build (.ofMillis 50) [] mixedEntries) ::
      [.proceed 0, .proceed 0, .event (.work 0 0), .proceed 0]
    ∃ request, start.requestsOf moves 0 = [request] ∧
      Database.Runs .small mixedEntries [] request.server.database
        request.after.database ∧
      request.after.database.tables.mappings? (.ofNat 2) =
        some (.ofList [("10.0.0.6", "b:10.0.0.2"),
          ("[fd00::5]", "d:[fd00::2]")]) := by
  intro start moves
  have look : ∀ entry ∈ mixedEntries, entry.LooksAtSession := by
    intro entry member
    have isOf : ∃ schema, keeper.IsOf schema := ⟨.small, keeper_isOf⟩
    simp only [mixedEntries, List.mem_cons, List.not_mem_nil,
      or_false] at member
    rcases member with rfl | rfl | rfl | rfl | rfl
    · exact isOf
    · trivial
    · exact isOf
    · exact isOf
    · exact isOf
  have requested : (start.requestsOf moves 0).map
      (·.after.database.tables.mappings? (.ofNat 2)) =
        [some (.ofList [("10.0.0.6", "b:10.0.0.2"),
          ("[fd00::5]", "d:[fd00::2]")])] := by
    decide +kernel
  obtain ⟨_, _, runs⟩ := mapping_commands_run_as_program .small balancerMoves
    [.proceed 0, .proceed 0, .event (.work 0 0), .proceed 0] 0 (.ofMillis 50)
    [] mixedEntries look
  rcases runs _ rfl rfl with
    ⟨quiet, _⟩ | ⟨request, generation, added, asked, _, adds, runs⟩
  · have none : start.requestsOf moves 0 = [] := quiet
    rw [none] at requested
    cases requested
  · have one : start.requestsOf moves 0 = [request] := asked
    rw [one] at requested
    cases adds
    exact ⟨request, one, runs, List.singleton_inj.mp requested⟩

end Traffic

end OvsdbClient
