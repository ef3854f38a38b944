import OvsdbClient.Proofs.SubmissionFateInvariance

/-!
# Reading one's own writes

A submission that ends with a commit has waited until its session shows what it
wrote, or something later.  A row that it inserted can be read there as it was
given, unless it has been changed since.
-/

namespace OvsdbClient

/-! ## What changes a row -/

/-- An operation changes the columns of a row, or adds or removes it. -/
def Operation.Alters (operation : Operation) (schema : DatabaseSchema)
    (tables : Tables) (table : String) (uuid : Uuid) : Prop :=
  ∃ next, operation.apply schema tables = .ok next ∧
    next.columns? table uuid ≠ tables.columns? table uuid

/-- A request changes the columns of a row, or adds or removes it. -/
def Request.Alters (request : Request) (table : String) (uuid : Uuid) : Prop :=
  request.after.database.tables.columns? table uuid ≠
    request.server.database.tables.columns? table uuid

theorem Database.columns?_stage_or {schema : DatabaseSchema}
    {tables staged : Tables} {operations : List Operation}
    (staging : stage schema tables operations = .ok staged) (table : String)
    (uuid : Uuid) :
    staged.columns? table uuid = tables.columns? table uuid ∨
      ∃ earlier operation later before,
        operations = earlier ++ operation :: later ∧
          stage schema tables earlier = .ok before ∧
          operation.Alters schema before table uuid := by
  induction operations generalizing tables with
  | nil =>
      cases staging
      exact .inl rfl
  | cons operation operations induction =>
      obtain ⟨next, first, rest⟩ := stage_cons_eq_ok_iff.mp staging
      by_cases same : next.columns? table uuid = tables.columns? table uuid
      · rcases induction rest with unchanged |
          ⟨earlier, other, later, before, rfl, reached, alters⟩
        · exact .inl (unchanged.trans same)
        · refine .inr ⟨operation :: earlier, other, later, before, rfl, ?_,
            alters⟩
          exact stage_cons_eq_ok_iff.mpr ⟨next, first, reached⟩
      · exact .inr ⟨[], operation, operations, tables, rfl, rfl, next, first,
          same⟩

namespace Request

variable {request : Request} {table : String} {uuid : Uuid}

theorem answer_of_alters (alters : request.Alters table uuid) :
    request.answer = .ok (request.server.generation + 1) := by
  have changed : request.after.database ≠ request.server.database := by
    intro same
    rw [Alters, same] at alters
    exact alters rfl
  cases answered : request.answer with
  | error fault =>
      exact absurd (Server.database_commit_of_error answered) changed
  | ok generation =>
      obtain ⟨staged, _, after⟩ :=
        Database.commit_eq_ok_iff.mp (Server.database_commit answered)
      split at after
      case isTrue => exact absurd after changed
      case isFalse =>
        have advanced : request.after.generation =
            request.server.generation + 1 := congrArg Database.generation after
        rw [← Server.generation_commit answered]
        exact congrArg Except.ok advanced

theorem generation_le_after (request : Request) :
    request.server.generation ≤ request.after.generation := by
  rcases Server.generation_handle request.server
    (.commit request.operations) with same | next
  · exact Nat.le_of_eq same.symm
  · exact Nat.le_of_lt (Nat.lt_of_lt_of_eq (Nat.lt_succ_self _) next.symm)

/-- A row is inserted as it is given, or what comes later among the operations
changes it. -/
theorem columns?_of_insert {generation : Nat} {queued later : List Operation}
    {given : SortedMap String Value}
    (answered : request.answer = .ok generation)
    (operations : request.operations =
      queued ++ .insert table uuid given :: later) :
    ∃ shape, request.server.schema.table? table = some shape ∧
      (request.after.database.tables.columns? table uuid =
          some (shape.initialColumns given) ∨
        ∃ earlier operation rest before,
          later = earlier ++ operation :: rest ∧
            Database.stage request.server.schema request.server.database.tables
              (queued ++ .insert table uuid given :: earlier) = .ok before ∧
            operation.Alters request.server.schema before table uuid) := by
  have done := Server.database_commit answered
  obtain ⟨final, staging, _⟩ := Database.commit_eq_ok_iff.mp done
  have split := staging
  rw [operations] at split
  obtain ⟨staged, first, rest⟩ := Database.stage_append_eq_ok_iff.mp split
  obtain ⟨inserted, insertion, last⟩ := Database.stage_cons_eq_ok_iff.mp rest
  obtain ⟨shape, row, known, onRow, rfl⟩ :=
    Operation.apply_eq_ok_iff.mp insertion
  obtain ⟨_, _, rfl⟩ := Operation.onRow_insert_eq_ok_iff.mp onRow
  refine ⟨shape, known, ?_⟩
  rcases Database.columns?_stage_or last table uuid with same |
    ⟨earlier, operation, others, before, rfl, reached, alters⟩
  · left
    refine (Database.columns?_commit staging done table uuid).trans ?_
    refine same.trans ?_
    unfold Tables.columns?
    rw [Tables.row?_put, if_pos ⟨rfl, rfl⟩]
    rfl
  · refine .inr ⟨earlier, operation, others, before, rfl, ?_, alters⟩
    refine Database.stage_append_eq_ok_iff.mpr ⟨staged, first, ?_⟩
    exact Database.stage_cons_eq_ok_iff.mpr ⟨_, insertion, reached⟩

end Request

namespace Traffic

variable {traffic : Traffic} {moves : List Move}

theorem generation_run_le (traffic : Traffic) (moves : List Move) :
    traffic.server.generation ≤ (traffic.run moves).server.generation := by
  obtain ⟨events, ran⟩ := server_run traffic moves
  rw [ran]
  exact Server.generation_run_le traffic.server events

theorem generation_of_mem_requests {request : Request}
    (member : request ∈ traffic.requests moves) :
    traffic.server.generation ≤ request.server.generation ∧
      request.after.generation ≤ (traffic.run moves).server.generation := by
  obtain ⟨past, move, ⟨future, rfl⟩, asks⟩ := mem_requests_iff.mp member
  constructor
  · rw [server_of_request? asks]
    exact generation_run_le traffic past
  · rw [← server_step_of_request? asks, run_append, run_append]
    exact generation_run_le _ future

/-- The columns of a row change through requests only. -/
theorem columns?_run_or (traffic : Traffic) (moves : List Move) (table : String)
    (uuid : Uuid) :
    (traffic.run moves).server.database.tables.columns? table uuid =
        traffic.server.database.tables.columns? table uuid ∨
      ∃ request ∈ traffic.requests moves, request.Alters table uuid := by
  refine run_keeps (fun now log =>
    now.server.database.tables.columns? table uuid =
        traffic.server.database.tables.columns? table uuid ∨
      ∃ request ∈ log, request.Alters table uuid) (.inl rfl) ?_
  intro now log move _ kept
  rcases kept with same | ⟨request, member, alters⟩
  · cases asked : now.request? move with
    | none =>
        rw [database_step_of_request?_eq_none asked]
        exact .inl same
    | some request =>
        rw [server_step_of_request? asked, ← same,
          ← server_of_request? asked]
        by_cases alters : request.Alters table uuid
        · exact .inr ⟨request, by simp, alters⟩
        · exact .inl (not_not.mp alters)
  · exact .inr ⟨request, List.mem_append_left _ member, alters⟩

end Traffic

/-! ## Inserted rows -/

namespace Session

/-- A session finds a row with the columns that it was given, and the others of
its table with their defaults. -/
def Finds (view : Session) (shape : TableSchema) (table : String) (uuid : Uuid)
    (given : SortedMap String Value) : Prop :=
  ∃ row, view.lookup table uuid = .ok row ∧ ∀ column, row.get? column =
    (given.get? column).or (shape.default? column)

variable {view : Session} {table : String} {uuid : Uuid} {shape : TableSchema}
  {given : SortedMap String Value}

theorem lookup_eq_ok_iff {row : Row} :
    view.lookup table uuid = .ok row ↔
      view.schema.hasTable table = true ∧
        view.replica.get? table uuid = some row := by
  simp only [lookup, bind_eq_ok_iff, orFault_eq_ok_iff, checkTable,
    exists_and_right, DatabaseSchema.hasTable,
    SortedMap.contains_eq_true_iff]
  exact Iff.rfl

theorem finds_of_columns? (follows : view.schema.hasTable table = true)
    (stored : view.replica.tables.columns? table uuid =
      some (shape.initialColumns given)) :
    view.Finds shape table uuid given := by
  obtain ⟨row, present, columns⟩ := Option.map_eq_some_iff.mp stored
  refine ⟨row, lookup_eq_ok_iff.mpr ⟨follows, present⟩, fun column => ?_⟩
  rw [← shape.get?_initialColumns]
  exact congrArg (·.get? column) columns

end Session

theorem Transaction.of_insert_eq_ok {drafted filled : Transaction}
    {drafting : Session} {uuid : Uuid} {table : String}
    {columns : List (String × Value)}
    (done : drafted.insert drafting uuid table columns = .ok filled) :
    drafting.schema.hasTable table = true ∧
      filled = drafted.push (.insert table uuid (.ofList columns)) := by
  obtain ⟨given, collected, rest⟩ := bind_eq_ok_iff.mp done
  obtain ⟨shape, checked, listed⟩ := bind_eq_ok_iff.mp collected
  have known : drafting.schema.table? table = some shape :=
    orFault_eq_ok_iff.mp checked
  refine ⟨SortedMap.contains_eq_true_iff.mpr ⟨shape, known⟩, ?_⟩
  split at listed
  · cases listed
  · cases listed
    exact pure_eq_ok_iff.mp rest

namespace Traffic

variable {start : Traffic} {moves : List Move} {number : Nat}
  {request : Request} {generation : Nat} {view : Session}

/-- A session finds a row that a request inserted, unless an operation that came
after that in the request, or a later commit, has changed the row. -/
inductive FindsInserted (schema : DatabaseSchema) (requests : List Request)
    (request : Request) (generation : Nat) (view : Session) (table : String)
    (uuid : Uuid) (given : SortedMap String Value)
    (queued later : List Operation) : Prop where
  | found (shape : TableSchema) :
      schema.table? table = some shape →
      view.Finds shape table uuid given →
      FindsInserted schema requests request generation view table uuid given
        queued later
  | altered (earlier : List Operation) (operation : Operation)
      (rest : List Operation) (before : Tables) :
      later = earlier ++ operation :: rest →
      Database.stage schema request.server.database.tables
        (queued ++ earlier) = .ok before →
      operation.Alters schema before table uuid →
      FindsInserted schema requests request generation view table uuid given
        queued later
  | overtaken (other : Request) (next : Nat) :
      other ∈ requests → other.answer = .ok next → generation < next →
      next ≤ view.applied → other.Alters table uuid →
      FindsInserted schema requests request generation view table uuid given
        queued later

theorem finds_inserted (sound : start.server.Sound) {viewer : Nat}
    {table : String} {uuid : Uuid} {given : SortedMap String Value}
    {queued later : List Operation} (member : request ∈ start.requests moves)
    (answered : request.answer = .ok generation)
    (isOpen : (start.run moves).server.session? viewer = some view)
    (recent : generation ≤ view.applied)
    (follows : view.schema.hasTable table = true)
    (operations : request.operations =
      queued ++ .insert table uuid given :: later) :
    FindsInserted start.server.schema (start.requests moves) request generation
      view table uuid given (queued ++ [.insert table uuid given]) later := by
  obtain ⟨past, move, ⟨future, rfl⟩, asks⟩ := mem_requests_iff.mp member
  let committed := start.run (past ++ [move])
  have after : committed.server = request.after := by
    simp only [committed, run_append]
    exact server_step_of_request? asks
  have schema : request.server.schema = start.server.schema := by
    obtain ⟨events, ran⟩ := server_run start past
    rw [server_of_request? asks, ran, Server.schema_run]
  have reached : committed.server.generation = generation := by
    rw [after]
    exact Server.generation_commit answered
  rw [← schema]
  obtain ⟨shape, known, inserted⟩ :=
    Request.columns?_of_insert answered operations
  rcases inserted with stored | changed
  · rw [run_append] at isOpen
    have soundThen : committed.server.Sound := sound_run sound _
    obtain ⟨shown, before, same, shows⟩ :=
      exists_shown soundThen isOpen (reached ▸ recent)
    -- What the session shows was reached after the commit, so only requests
    -- in between can have changed the row.
    rcases columns?_run_or committed shown table uuid with unchanged |
      ⟨other, among, alters⟩
    · refine .found shape known (Session.finds_of_columns? follows ?_)
      rw [shows]
      unfold Tables.columns?
      rw [Tables.row?_only, if_pos follows]
      exact unchanged.trans (after ▸ stored)
    · have answer := Request.answer_of_alters alters
      obtain ⟨low, high⟩ := generation_of_mem_requests among
      have next : other.after.generation = other.server.generation + 1 :=
        Server.generation_commit answer
      refine .overtaken other _ ?_ answer (by omega) (by omega) alters
      rw [requests_append]
      exact List.mem_append_right _ (requests_mono before among)
  · obtain ⟨earlier, operation, rest, before, split, staging, alters⟩ := changed
    refine .altered earlier operation rest before split ?_ alters
    rw [List.append_assoc]
    exact staging

/-- A submission was answered by one request.  The session of the client shows
the tables as they were then or later, it has never shown them as they were
still later before, and the client finds there what it inserted. -/
structure ReadsBack (schema : DatabaseSchema) (past : List Event)
    (start : Traffic) (moves : List Move) (number : Nat) (last : Submission)
    (request : Request) (generation : Nat) (view : Session) : Prop where
  asked : start.requestsOf moves number = [request]
  answered : request.answer = .ok generation
  isOpen : (start.run moves).server.session? last.session = some view
  shows : ∃ shown, shown <+: moves ∧
    generation ≤ (start.run shown).server.generation ∧
    view.applied = (start.run shown).server.generation ∧
    view.replica.tables =
      (start.run shown).server.database.tables.only view.schema
  steady : ∀ point before, point <+: moves →
    (start.run point).server.session? last.session = some before →
    before.applied ≤ view.applied
  finds : ∀ seen drafting drafted filled table uuid columns later,
    seen <+: past →
    ((Server.ofSchema schema).run seen).session? last.session = some drafting →
    Transaction.insert drafted drafting uuid table columns = .ok filled →
    request.operations = filled.operations ++ later →
    FindsInserted schema (start.requests moves) request generation view table
      uuid (.ofList columns) filled.operations later

/-- A submission that ended with a commit was empty, or what it wrote can be
read back. -/
theorem committed_writes_are_read {schema : DatabaseSchema} {past : List Event}
    {submissions : List Submission} {early last : Submission}
    (begun : submissions[number]? = some early)
    (undecided : early.progress.isSettled = false)
    (final : (run ⟨(Server.ofSchema schema).run past, submissions⟩
      moves).submission? number = some last)
    (committed : last.progress = .finished (.ok .committed)) :
    let start : Traffic := ⟨(Server.ofSchema schema).run past, submissions⟩
    (start.requestsOf moves number = [] ∧ last.transaction.isEmpty = true) ∨
      ∃ request generation view, ReadsBack schema past start moves number last
        request generation view := by
  intro start
  have sound : start.server.Sound := (Server.sound_ofSchema schema).run past
  obtain ⟨found, there, fate⟩ := fate_run sound begun undecided moves
  cases there.symm.trans final
  generalize asked : start.requestsOf moves number = log at fate ⊢
  cases fate with
  | undecided unsettled =>
      rw [committed] at unsettled
      cases unsettled
  | @rejected _ fault finished =>
      rw [finished] at committed
      cases fault <;> cases committed
  | refused progress | waiting progress | lost progress =>
      cases committed.symm.trans progress
  | nothing _ empty => exact .inl ⟨rfl, empty⟩
  | @shown request generation view _ answered isOpen recent =>
      have member : request ∈ start.requests moves := by
        have own : request ∈ start.requestsOf moves number := by simp [asked]
        exact (List.mem_filter.mp own).1
      have reached : request.after.generation = generation :=
        Server.generation_commit answered
      have low : start.server.generation ≤ view.applied := by
        have begins := (generation_of_mem_requests member).1
        have grows := request.generation_le_after
        omega
      obtain ⟨shown, before, same, shows⟩ := exists_shown sound isOpen low
      refine .inr ⟨request, generation, view, asked, answered, isOpen,
        ⟨shown, before, same.symm ▸ recent, same.symm, shows⟩, ?_, ?_⟩
      · rintro point earlier ⟨future, rfl⟩ was
        obtain ⟨next, there, _, grows⟩ :=
          session?_run (sound_run sound point) was future
        rw [← run_append, isOpen] at there
        cases there
        exact grows
      · rintro seen drafting drafted filled table uuid columns later
          ⟨rest, rfl⟩ was inserted operations
        obtain ⟨known, rfl⟩ := Transaction.of_insert_eq_ok inserted
        have follows : view.schema.hasTable table = true := by
          obtain ⟨early, here, kept, _⟩ := Server.session?_run was rest
          rw [← Server.run_append] at here
          obtain ⟨next, there, same, _⟩ := session?_run sound here moves
          cases there.symm.trans isOpen
          rw [same, kept]
          exact known
        simp only [Transaction.push, List.append_assoc, List.cons_append,
          List.nil_append] at operations ⊢
        have schemaOf : start.server.schema = schema := Server.schema_run _ _
        rw [← schemaOf]
        exact finds_inserted sound member answered isOpen recent follows
          operations

def insertingTransaction : Transaction :=
  ⟨.ofMillis 50, [.insert "Load_Balancer" (.ofNat 2) .empty], []⟩

/-- A client inserts a row after a foreign commit.  The announcements of both
are held back, and it waits for its own. -/
def patientMoves : List Move :=
  [.proceed 0, .event (.commit [.insert "NB_Global" (.ofNat 1) .empty]),
    .event (.setDelay (.ofMillis 5)), .proceed 0, .event (.work 0 10),
    .proceed 0, .event (.work 0 15), .event (.work 0 15), .proceed 0,
    .event (.work 0 20), .proceed 0]

theorem inserted_row_is_read :
    let start : Traffic :=
      ⟨(Server.ofSchema .small).run [.openSession default .small default],
        [.start 0 insertingTransaction]⟩
    ∃ view shape, (start.run patientMoves).server.session? 0 = some view ∧
      DatabaseSchema.small.table? "Load_Balancer" = some shape ∧
      view.Finds shape "Load_Balancer" (.ofNat 2) (.ofList []) := by
  intro start
  have requested : (start.requestsOf patientMoves 0).map (fun request =>
      (request.operations, request.after.generation)) =
        [([.insert "Load_Balancer" (.ofNat 2) .empty], 2)] := by
    decide +kernel
  have shown : ((start.run patientMoves).server.session? 0).map (·.applied) =
      some 2 := by decide +kernel
  rcases @committed_writes_are_read patientMoves 0 .small
    [.openSession default .small default] [.start 0 insertingTransaction] _ _
    rfl rfl rfl rfl with
    ⟨quiet, _⟩ |
      ⟨request, generation, view, asked, answered, isOpen, _, _, finds⟩
  · have none : start.requestsOf patientMoves 0 = [] := quiet
    rw [none] at requested
    cases requested
  · have one : start.requestsOf patientMoves 0 = [request] := asked
    rw [one] at requested
    obtain ⟨operations, reached⟩ :=
      Prod.mk.inj (List.singleton_inj.mp requested)
    have here : (start.run patientMoves).server.session? 0 = some view := isOpen
    rw [here] at shown
    have applied : view.applied = 2 := Option.some.inj shown
    have answer : generation = 2 :=
      (Server.generation_commit answered).symm.trans reached
    have given := finds [.openSession default .small default] _
      (.empty (.ofMillis 50)) insertingTransaction "Load_Balancer" (.ofNat 2)
      [] [] List.prefix_rfl rfl rfl operations
    rcases given with ⟨shape, known, found⟩ | ⟨earlier, _, _, _, none, _⟩ |
      ⟨_, _, next, _, low, high, _⟩
    · exact ⟨view, shape, here, known, found⟩
    · simp at none
    · omega

end Traffic

end OvsdbClient
