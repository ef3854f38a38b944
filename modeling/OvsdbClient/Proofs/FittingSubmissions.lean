import OvsdbClient.Proofs.QueuedOperations

/-!
# Submissions that fit the schema

A transaction is filled call by call while its session and the server go on.
Whatever becomes of the calls, what is queued in the end fits the schema of the
session, and so does what hooks add once it is submitted.  Where that schema was
selected from the server's, the server finds all that it is asked to change.
-/

namespace OvsdbClient

/-- A transaction that is being filled, with the traffic around it. -/
structure Composition where
  traffic : Traffic
  transaction : Transaction

/-- Something that happens until the transaction is submitted. -/
inductive Beat where
  | move (move : Move)
  | call (call : Transaction.Call)

theorem Traffic.schema_server_run (traffic : Traffic) (moves : List Move) :
    (traffic.run moves).server.schema = traffic.server.schema := by
  obtain ⟨events, lived⟩ := traffic.server_run moves
  rw [lived, Server.schema_run]

theorem Traffic.schema_session?_step {traffic : Traffic} {number : Nat}
    {schema : DatabaseSchema}
    (isOpen : ∃ view, traffic.server.session? number = some view ∧
      view.schema = schema) (move : Move) :
    ∃ view, (traffic.step move).server.session? number = some view ∧
      view.schema = schema := by
  obtain ⟨view, here, rfl⟩ := isOpen
  obtain ⟨events, lived⟩ := traffic.server_step move
  obtain ⟨later, still, same, _⟩ := Server.session?_run here events
  exact ⟨later, lived ▸ still, same⟩

namespace Composition

/-- What a beat leads to, with calls made through the session with a number. -/
def step (number : Nat) (composition : Composition) : Beat → Composition
  | .move move =>
      { composition with traffic := composition.traffic.step move }
  | .call call =>
      match composition.traffic.server.session? number with
      | some view =>
          { composition with
            transaction := (composition.transaction.call view call).2 }
      | none => composition

def run (number : Nat) (composition : Composition) (beats : List Beat) :
    Composition :=
  beats.foldl (step number) composition

/-- The session with a number follows a schema, and all that is queued fits
it. -/
def Fitting (composition : Composition) (number : Nat)
    (schema : DatabaseSchema) : Prop :=
  composition.transaction.Fits schema ∧
    ∃ view, composition.traffic.server.session? number = some view ∧
      view.schema = schema

variable {composition : Composition} {number : Nat} {schema : DatabaseSchema}

theorem Fitting.step (fitting : composition.Fitting number schema)
    (beat : Beat) : (composition.step number beat).Fitting number schema := by
  obtain ⟨fits, isOpen⟩ := fitting
  cases beat with
  | move move => exact ⟨fits, Traffic.schema_session?_step isOpen move⟩
  | call call =>
      obtain ⟨view, here, same⟩ := isOpen
      simp only [Composition.step, here]
      exact ⟨fits.call same call, view, here, same⟩

theorem Fitting.run (fitting : composition.Fitting number schema)
    (beats : List Beat) :
    (composition.run number beats).Fitting number schema := by
  induction beats generalizing composition with
  | nil => exact fitting
  | cons beat beats induction => exact induction (fitting.step beat)

theorem schema_server_run (composition : Composition) (number : Nat)
    (beats : List Beat) :
    (composition.run number beats).traffic.server.schema =
      composition.traffic.server.schema := by
  induction beats generalizing composition with
  | nil => rfl
  | cons beat beats induction =>
      refine (induction (composition.step number beat)).trans ?_
      cases beat with
      | move move => exact composition.traffic.schema_server_run [move]
      | call call =>
          simp only [Composition.step]
          split <;> rfl

end Composition

/-! ## Once the transaction is submitted -/

theorem Submission.fits_proceed {submission : Submission} {server : Server}
    {view : Session}
    (isOpen : server.session? submission.session = some view)
    (fits : submission.transaction.Fits view.schema) :
    (submission.proceed server).1.session = submission.session ∧
      (submission.proceed server).1.transaction.Fits view.schema := by
  unfold proceed
  rw [isOpen]
  dsimp only
  split
  case h_1 hook hooks _ =>
    split
    case h_2 => exact ⟨rfl, fits⟩
    case h_1 transaction ran =>
      refine ⟨rfl, ?_⟩
      have called : submission.transaction.call view (.count hook) =
          (.ok (), transaction) := by
        rw [Transaction.call, ran]
        rfl
      have after := fits.call rfl (.count hook)
      rw [called] at after
      exact after
  case h_2 =>
    split
    · exact ⟨rfl, fits⟩
    · split <;> exact ⟨rfl, fits⟩
  case h_3 => split <;> exact ⟨rfl, fits⟩
  case h_4 =>
    split
    · exact ⟨rfl, fits⟩
    · split <;> exact ⟨rfl, fits⟩
  case h_5 => exact ⟨rfl, fits⟩

namespace Traffic

variable {traffic : Traffic} {number : Nat} {schema : DatabaseSchema}

/-- The session of a submission follows a schema, and all that the submission
has queued fits it. -/
def Fitting (traffic : Traffic) (number : Nat) (schema : DatabaseSchema) :
    Prop :=
  ∃ submission, traffic.submission? number = some submission ∧
    submission.transaction.Fits schema ∧
    ∃ view, traffic.server.session? submission.session = some view ∧
      view.schema = schema

theorem Fitting.step (fitting : traffic.Fitting number schema) (move : Move) :
    (traffic.step move).Fitting number schema := by
  obtain ⟨submission, here, fits, isOpen⟩ := fitting
  have after := schema_session?_step isOpen move
  obtain ⟨next, there, turn⟩ := submission?_step here move
  refine ⟨next, there, ?_⟩
  rcases turn with ⟨rfl, _⟩ | ⟨_, rfl | ⟨_, _, _, rfl⟩⟩
  · cases (submission?_proceed here).symm.trans there
    obtain ⟨view, isOpen, rfl⟩ := isOpen
    obtain ⟨session, fits⟩ := Submission.fits_proceed isOpen fits
    exact ⟨fits, session ▸ after⟩
  · exact ⟨fits, after⟩
  · exact ⟨fits, after⟩

theorem Fitting.run (fitting : traffic.Fitting number schema)
    (moves : List Move) : (traffic.run moves).Fitting number schema := by
  induction moves generalizing traffic with
  | nil => exact fitting
  | cons move moves induction => exact induction (fitting.step move)

/-- What a submission asks for fits the schema of its session. -/
theorem Fitting.of_mem_requestsOf {moves : List Move} {request : Request}
    (fitting : traffic.Fitting number schema)
    (asked : request ∈ traffic.requestsOf moves number) :
    request.server.schema = traffic.server.schema ∧
      ∀ operation ∈ request.operations, operation.Fits schema := by
  obtain ⟨member, own⟩ := List.mem_filter.mp asked
  obtain ⟨past, move, _, asks⟩ := mem_requests_iff.mp member
  obtain rfl := (asker_of_request? asks).mp (of_decide_eq_true own)
  rw [server_of_request? asks, schema_server_run]
  refine ⟨rfl, ?_⟩
  obtain ⟨submission, here, fits, _⟩ := fitting.run past
  rw [request?_proceed here] at asks
  obtain ⟨_, _, rfl⟩ := Submission.request?_eq_some_iff.mp asks
  exact fits

/-- However a transaction is filled through a session, all that it queues fits
the session's schema.  A call that fails leaves it as it was, and any other call
adds one operation at the end or none.  If the schema was selected from the
server's, the server never answers the submitted transaction that a table or a
column is missing. -/
theorem queued_operations_fit_schema {connection : Session}
    (isOpen : traffic.server.session? number = some connection)
    (timeout : Span) (hooks : List CounterHook) (beats : List Beat)
    (moves : List Move) :
    let composed := Composition.run number ⟨traffic, timeout, [], hooks⟩ beats
    composed.transaction.Fits connection.schema ∧
    (∀ (transaction : Transaction) session call,
      (∃ fault, transaction.call session call = (.error fault, transaction)) ∨
        ∃ queued : Option Operation, transaction.call session call =
          (.ok (), { transaction with
            operations := transaction.operations ++ queued.toList })) ∧
    ∀ selection : Selection, selection.schema = traffic.server.schema →
      connection.schema = selection.build →
        ∀ request ∈ composed.traffic.requestsOf
            (.submit number composed.transaction :: moves)
            composed.traffic.submissions.length,
          ∀ fault, request.answer = .error fault → ¬fault.IsMisfit := by
  intro composed
  have empty : (Composition.mk traffic ⟨timeout, [], hooks⟩).Fitting number
      connection.schema :=
    ⟨nofun, connection, isOpen, rfl⟩
  have fitting : composed.Fitting number connection.schema := empty.run beats
  refine ⟨fitting.1, Transaction.call_cases, ?_⟩
  intro selection served selected request asked fault refused
  let started := composed.traffic.step (.submit number composed.transaction)
  have begun : started.Fitting composed.traffic.submissions.length
      connection.schema :=
    ⟨.start number composed.transaction, List.getElem?_concat_length,
      fitting.1, fitting.2⟩
  obtain ⟨server, fits⟩ := begun.of_mem_requestsOf asked
  have schema : request.server.schema = selection.schema :=
    server.trans ((Composition.schema_server_run _ number beats).trans
      served.symm)
  refine Server.not_isMisfit_of_commit (fun operation member => ?_)
    (Prod.ext refused rfl)
  rw [schema]
  exact (selected ▸ fits operation member).of_build

def narrow : Selection :=
  ((Selection.ofSchema .small).registerAll ["NB_Global"]).1

def narrowTraffic : Traffic :=
  ofServer ((Server.ofSchema .small).run
    [.openSession default narrow.build default])

/-- Calls that name a table that is not followed, a column that is not there and
a row that is not shown, with one among them that succeeds.  Meanwhile another
client inserts the same row. -/
def mixedBeats : List Beat :=
  [.call (.insert (.ofNat 1) "Load_Balancer" []),
    .call (.insert (.ofNat 1) "NB_Global" [("nb_cfg", .atom (.integer 4))]),
    .move (.event (.commit [.insert "NB_Global" (.ofNat 1) .empty])),
    .call (.mutate "NB_Global" (.ofNat 1) "name" (.increment 1)),
    .call (.count ⟨"NB_Global", "nb_cfg"⟩),
    .call (.run (.deleteMapping (.ofNat 2) "10.0.0.5"))]

theorem mixed_calls_queue_what_fits :
    let composed := Composition.run 0
      ⟨narrowTraffic, .ofSecs 1, [], []⟩ mixedBeats
    composed.transaction.operations.length = 1 ∧
      composed.transaction.Fits narrow.build ∧
      ∃ request fault, composed.traffic.requestsOf
          [.submit 0 composed.transaction, .proceed 0, .proceed 0] 0 =
            [request] ∧
        request.answer = .error fault ∧ ¬fault.IsMisfit := by
  intro composed
  obtain ⟨fits, _, accepted⟩ := @queued_operations_fit_schema narrowTraffic 0 _
    rfl (.ofSecs 1) [] mixedBeats [.proceed 0, .proceed 0]
  refine ⟨by decide +kernel, fits, ?_⟩
  have refused : (composed.traffic.requestsOf
      [.submit 0 composed.transaction, .proceed 0, .proceed 0] 0).map
        (·.isApplied) = [false] := by
    decide +kernel
  obtain ⟨request, one, unapplied⟩ := List.map_eq_singleton_iff.mp refused
  cases answer : request.answer with
  | ok generation =>
      rw [Request.isApplied_iff.mpr ⟨generation, answer⟩] at unapplied
      cases unapplied
  | error fault =>
      refine ⟨request, fault, one, answer, ?_⟩
      refine accepted narrow rfl rfl request ?_ fault answer
      exact one ▸ List.mem_singleton_self request

end Traffic

end OvsdbClient
