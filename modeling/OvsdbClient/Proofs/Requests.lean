import Mathlib.Data.List.Induction
import OvsdbClient.Proofs.FailedSubmissions

/-!
# What a server is asked to commit

Along a run a server is asked to commit one list of operations after another,
by submissions and by others.  Nothing but these requests changes its database.
A submission makes its request between the last of its hooks and its wait, and
never another one.
-/

namespace OvsdbClient

/-- A list of operations that a server was asked to commit, by the submission
with a number or by something else, with the server as it was then.  The hooks
are those of the transaction that was submitted. -/
structure Request where
  asker : Option Nat
  hooks : List CounterHook
  operations : List Operation
  server : Server

namespace Request

def answer (request : Request) : Except Fault Nat :=
  (request.server.commit request.operations).1

def after (request : Request) : Server :=
  (request.server.commit request.operations).2

def isApplied (request : Request) : Bool := request.answer matches .ok _

theorem isApplied_iff {request : Request} :
    request.isApplied = true ↔
      ∃ generation, request.answer = .ok generation := by
  unfold isApplied
  cases request.answer <;> simp

end Request

namespace Submission

/-- What the next step of a submission asks its server to commit. -/
def request? (submission : Submission) (number : Nat) (server : Server) :
    Option Request :=
  match submission.progress with
  | .admitted => (server.session? submission.session).map fun _ =>
      { asker := some number
        hooks := submission.transaction.hooks
        operations := submission.transaction.operations
        server := server }
  | _ => none

variable {submission next : Submission} {server later : Server} {number : Nat}
  {request : Request}

theorem request?_eq_some_iff :
    submission.request? number server = some request ↔
      submission.progress = .admitted ∧
        (∃ session, server.session? submission.session = some session) ∧
        request = ⟨some number, submission.transaction.hooks,
          submission.transaction.operations, server⟩ := by
  unfold request?
  split
  case h_1 admitted =>
    simp only [Option.map_eq_some_iff, admitted, true_and]
    constructor
    · rintro ⟨session, isOpen, rfl⟩
      exact ⟨⟨session, isOpen⟩, rfl⟩
    · rintro ⟨⟨session, isOpen⟩, rfl⟩
      exact ⟨session, isOpen, rfl⟩
  case h_2 other =>
    constructor
    · intro found
      cases found
    · rintro ⟨admitted, _⟩
      exact absurd admitted other

theorem request?_eq_none_iff :
    submission.request? number server = none ↔
      (submission.progress = .admitted →
        server.session? submission.session = none) := by
  unfold request?
  split
  case h_1 admitted =>
    rw [Option.map_eq_none_iff, admitted]
    exact ⟨fun absent _ => absent, fun absent => absent rfl⟩
  case h_2 other => exact iff_of_true rfl fun admitted => absurd admitted other

/-- A submission that makes its request waits for the generation it was
answered, or ends with the fault. -/
theorem proceed_of_request?
    (asks : submission.request? number server = some request) :
    submission.proceed server =
      (match request.answer with
        | .ok generation => { submission with progress := .waiting generation }
        | .error fault => submission.finish (Outcome.ofAnswer (.error fault)),
        request.after) := by
  obtain ⟨admitted, ⟨session, isOpen⟩, rfl⟩ := request?_eq_some_iff.mp asks
  unfold proceed Request.answer Request.after
  simp only [isOpen, admitted]
  rcases server.commit submission.transaction.operations with
    ⟨generation | fault, later⟩ <;> rfl

theorem isSettled_proceed_of_request?
    (asks : submission.request? number server = some request) :
    (submission.proceed server).1.progress.isSettled = true := by
  rw [proceed_of_request? asks]
  cases request.answer <;> rfl

theorem server_proceed_of_request?_eq_none
    (quiet : submission.request? number server = none) :
    (submission.proceed server).2 = server := by
  have step := submission.step_proceed server
  generalize submission.proceed server = turn at step ⊢
  obtain ⟨next, later⟩ := turn
  cases step with
  | committed admitted _ isOpen | rejected admitted _ isOpen =>
      obtain ⟨view, isOpen⟩ := isOpen
      cases (request?_eq_none_iff.mp quiet admitted).symm.trans isOpen
  | _ => rfl

end Submission

namespace Traffic

/-- What a move asks the server to commit. -/
def request? (traffic : Traffic) : Move → Option Request
  | .event (.commit operations) => some ⟨none, [], operations, traffic.server⟩
  | .proceed number => (traffic.submission? number).bind fun submission =>
      submission.request? number traffic.server
  | _ => none

/-- What the server is asked to commit along a run, in order. -/
def requests (traffic : Traffic) : List Move → List Request
  | [] => []
  | move :: moves =>
      (traffic.request? move).toList ++ (traffic.step move).requests moves

/-- What the submission with a number asks for along a run. -/
def requestsOf (traffic : Traffic) (moves : List Move) (number : Nat) :
    List Request :=
  (traffic.requests moves).filter fun request => request.asker = some number

variable {traffic : Traffic} {move : Move} {moves : List Move} {number : Nat}
  {submission : Submission} {request : Request}

theorem requests_append (traffic : Traffic) (first second : List Move) :
    traffic.requests (first ++ second) =
      traffic.requests first ++ (traffic.run first).requests second := by
  induction first generalizing traffic with
  | nil => rfl
  | cons move first induction =>
      simp only [List.cons_append, requests, induction, List.append_assoc]
      rfl

theorem mem_requests_iff :
    request ∈ traffic.requests moves ↔
      ∃ past move, past ++ [move] <+: moves ∧
        (traffic.run past).request? move = some request := by
  constructor
  · intro member
    induction moves generalizing traffic with
    | nil => cases member
    | cons move moves induction =>
        rcases List.mem_append.mp member with now | later
        · refine ⟨[], move, ?_, Option.mem_toList.mp now⟩
          exact List.cons_prefix_cons.mpr ⟨rfl, List.nil_prefix⟩
        · obtain ⟨past, last, before, asks⟩ := induction later
          refine ⟨move :: past, last, ?_, asks⟩
          exact List.cons_prefix_cons.mpr ⟨rfl, before⟩
  · rintro ⟨past, move, ⟨future, rfl⟩, asks⟩
    rw [requests_append, requests_append]
    apply List.mem_append_left
    apply List.mem_append_right
    simp [requests, asks]

theorem requests_mono {past : List Move} (before : past <+: moves)
    (member : request ∈ traffic.requests past) :
    request ∈ traffic.requests moves := by
  obtain ⟨future, rfl⟩ := before
  rw [requests_append]
  exact List.mem_append_left _ member

/-! ## What a request does -/

theorem request?_proceed_eq_some_iff :
    traffic.request? (.proceed number) = some request ↔
      ∃ submission, traffic.submission? number = some submission ∧
        submission.request? number traffic.server = some request :=
  Option.bind_eq_some_iff

theorem request?_proceed
    (here : traffic.submission? number = some submission) :
    traffic.request? (.proceed number) =
      submission.request? number traffic.server := by
  rw [request?, here, Option.bind_some]

theorem submission?_proceed
    (here : traffic.submission? number = some submission) :
    (traffic.step (.proceed number)).submission? number =
      some (submission.proceed traffic.server).1 := by
  obtain ⟨low, _⟩ := List.getElem?_eq_some_iff.mp here
  simp only [step, here]
  exact List.getElem?_set_self low

theorem server_of_request? (asks : traffic.request? move = some request) :
    request.server = traffic.server := by
  cases move with
  | event event =>
      cases event with
      | commit operations =>
          cases asks
          rfl
      | _ => cases asks
  | submit session transaction => cases asks
  | proceed other =>
      obtain ⟨submission, here, found⟩ :=
        request?_proceed_eq_some_iff.mp asks
      obtain ⟨_, _, rfl⟩ := Submission.request?_eq_some_iff.mp found
      rfl
  | expire other ofSession => cases asks

theorem asker_of_request? (asks : traffic.request? move = some request) :
    request.asker = some number ↔ move = .proceed number := by
  cases move with
  | event event =>
      cases event with
      | commit operations =>
          cases asks
          exact iff_of_false nofun nofun
      | _ => cases asks
  | submit session transaction => cases asks
  | proceed other =>
      obtain ⟨submission, here, found⟩ :=
        request?_proceed_eq_some_iff.mp asks
      obtain ⟨_, _, rfl⟩ := Submission.request?_eq_some_iff.mp found
      simp only [Option.some.injEq, Move.proceed.injEq]
  | expire other ofSession => cases asks

theorem own_request?_proceed (traffic : Traffic) (number : Nat) :
    (traffic.request? (.proceed number)).toList.filter
        (fun request => request.asker = some number) =
      (traffic.request? (.proceed number)).toList := by
  cases asked : traffic.request? (.proceed number) with
  | none => rfl
  | some request =>
      have own : request.asker = some number :=
        (asker_of_request? asked).mpr rfl
      simp [own]

theorem own_request?_of_ne (traffic : Traffic) {move : Move}
    (other : move ≠ .proceed number) :
    (traffic.request? move).toList.filter
        (fun request => request.asker = some number) = [] := by
  cases asked : traffic.request? move with
  | none => rfl
  | some request =>
      have foreign : request.asker ≠ some number :=
        mt (asker_of_request? asked).mp other
      simp [foreign]

theorem server_step_of_request?
    (asks : traffic.request? move = some request) :
    (traffic.step move).server = request.after := by
  cases move with
  | event event =>
      cases event with
      | commit operations =>
          cases asks
          rfl
      | _ => cases asks
  | submit session transaction => cases asks
  | proceed number =>
      obtain ⟨submission, here, found⟩ :=
        request?_proceed_eq_some_iff.mp asks
      simp only [step, here, Submission.proceed_of_request? found]
  | expire number ofSession => cases asks

theorem database_step_of_request?_eq_none
    (quiet : traffic.request? move = none) :
    (traffic.step move).server.database = traffic.server.database := by
  cases move with
  | event event =>
      rcases Server.database_handle traffic.server event with same |
        ⟨operations, rfl, _⟩
      · exact same
      · cases quiet
  | submit session transaction => rfl
  | proceed number =>
      simp only [step]
      split
      case h_1 submission here =>
        rw [request?_proceed here] at quiet
        exact congrArg Server.database
          (Submission.server_proceed_of_request?_eq_none quiet)
      case h_2 => rfl
  | expire number ofSession =>
      simp only [step]
      split <;> rfl

private theorem run_keeps_from {kept : Traffic → List Request → Prop}
    {log : List Request} (start : kept traffic log)
    (step : ∀ traffic log, ∀ move ∈ moves, kept traffic log →
      kept (traffic.step move) (log ++ (traffic.request? move).toList)) :
    kept (traffic.run moves) (log ++ traffic.requests moves) := by
  induction moves generalizing traffic log with
  | nil =>
      rw [requests, List.append_nil]
      exact start
  | cons move moves induction =>
      rw [requests, ← List.append_assoc]
      apply induction
      · exact step traffic log move List.mem_cons_self start
      · intro traffic log later member
        exact step traffic log later (List.mem_cons_of_mem _ member)

/-- Whatever one move keeps of a run and its requests, the whole run keeps. -/
theorem run_keeps (kept : Traffic → List Request → Prop)
    (start : kept traffic [])
    (step : ∀ traffic log, ∀ move ∈ moves, kept traffic log →
      kept (traffic.step move) (log ++ (traffic.request? move).toList)) :
    kept (traffic.run moves) (traffic.requests moves) :=
  run_keeps_from start step

/-- The database is as the last request left it. -/
theorem database_run (traffic : Traffic) (moves : List Move) :
    (traffic.run moves).server.database =
      ((traffic.requests moves).getLast?.map fun request =>
        request.after.database).getD traffic.server.database := by
  refine run_keeps (fun now log => now.server.database =
    (log.getLast?.map fun request => request.after.database).getD
      traffic.server.database) rfl ?_
  intro now log move _ same
  cases asked : now.request? move with
  | none =>
      rw [database_step_of_request?_eq_none asked, same]
      simp
  | some request =>
      rw [server_step_of_request? asked]
      simp

/-! ## What sessions show -/

theorem generation_step (traffic : Traffic) (move : Move) :
    (traffic.step move).server.generation = traffic.server.generation ∨
      (traffic.step move).server.generation =
        traffic.server.generation + 1 := by
  cases asked : traffic.request? move with
  | none =>
      left
      unfold Server.generation
      rw [database_step_of_request?_eq_none asked]
  | some request =>
      rw [server_step_of_request? asked, ← server_of_request? asked]
      exact Server.generation_handle request.server (.commit request.operations)

/-- What a session shows at a generation are its tables as they were at any
point of a run with that generation. -/
theorem tables_of_applied {view : Session} {shown : List Move}
    (sound : traffic.server.Sound)
    (isOpen : (traffic.run moves).server.session? number = some view)
    (before : shown <+: moves)
    (same : (traffic.run shown).server.generation = view.applied) :
    view.replica.tables =
      (traffic.run shown).server.database.tables.only view.schema := by
  have now : (traffic.run moves).server.Sound := sound_run sound moves
  refine (now.following number view isOpen).shown.trans ?_
  obtain ⟨future, rfl⟩ := before
  obtain ⟨events, ran⟩ := server_run (traffic.run shown) future
  rw [run_append, ran, Server.schema_run, ← same]
  have told :=
    (sound_run sound shown).tables_of_past (List.nil_prefix : [] <+: events)
  exact congrArg (Tables.only · view.schema) told

/-- A session that has applied something since the beginning of a run shows its
tables as they were at some point of it. -/
theorem exists_shown {view : Session} (sound : traffic.server.Sound)
    (isOpen : (traffic.run moves).server.session? number = some view)
    (recent : traffic.server.generation ≤ view.applied) :
    ∃ shown, shown <+: moves ∧
      (traffic.run shown).server.generation = view.applied ∧
      view.replica.tables =
        (traffic.run shown).server.database.tables.only view.schema := by
  have now : (traffic.run moves).server.Sound := sound_run sound moves
  have reached : view.applied ≤ (traffic.run moves).server.generation :=
    Nat.le_trans (now.following number view isOpen).known
      (Nat.le_of_eq now.database.counted)
  obtain ⟨shown, before, same⟩ := exists_prefix_of_climbs
    (fun now : Traffic => now.server.generation) generation_step recent reached
  exact ⟨shown, before, same, tables_of_applied sound isOpen before same⟩

/-! ## Requests of one submission -/

theorem requestsOf_append (traffic : Traffic) (first second : List Move)
    (number : Nat) :
    traffic.requestsOf (first ++ second) number =
      traffic.requestsOf first number ++
        (traffic.run first).requestsOf second number := by
  rw [requestsOf, requests_append, List.filter_append]
  rfl

theorem exists_submission?_run
    (here : traffic.submission? number = some submission) (moves : List Move) :
    ∃ last, (traffic.run moves).submission? number = some last := by
  induction moves generalizing traffic submission with
  | nil => exact ⟨submission, here⟩
  | cons move moves induction =>
      obtain ⟨next, there, _⟩ := submission?_step here move
      exact induction there

theorem requestsOf_eq_nil_of_absent
    (absent : (traffic.run moves).submission? number = none) :
    traffic.requestsOf moves number = [] := by
  unfold requestsOf
  rw [List.filter_eq_nil_iff]
  intro request member own
  simp only [decide_eq_true_eq] at own
  obtain ⟨past, move, ⟨future, rfl⟩, asks⟩ := mem_requests_iff.mp member
  obtain rfl := (asker_of_request? asks).mp own
  obtain ⟨submission, here, _⟩ := request?_proceed_eq_some_iff.mp asks
  obtain ⟨last, there⟩ :=
    exists_submission?_run here ([.proceed number] ++ future)
  rw [← run_append, ← List.append_assoc, absent] at there
  cases there

theorem requestsOf_submit (traffic : Traffic) (earlier : List Move)
    (moves : List Move) :
    traffic.requestsOf (earlier ++ moves)
        (traffic.run earlier).submissions.length =
      (traffic.run earlier).requestsOf moves
        (traffic.run earlier).submissions.length := by
  have absent : (traffic.run earlier).submission?
      (traffic.run earlier).submissions.length = none :=
    List.getElem?_eq_none_iff.mpr (Nat.le_refl _)
  rw [requestsOf_append, requestsOf_eq_nil_of_absent absent, List.nil_append]

/-- Every submission was made at some point of the run. -/
theorem exists_submit {server : Server}
    (here : ((ofServer server).run moves).submission? number =
      some submission) :
    ∃ earlier session transaction later,
      moves = earlier ++ .submit session transaction :: later ∧
        ((ofServer server).run earlier).submissions.length = number := by
  -- From the end: either the last move submitted it, or it was there before.
  induction moves using List.reverseRecOn generalizing submission with
  | nil => cases here
  | append_singleton moves move induction =>
      cases before : ((ofServer server).run moves).submission? number with
      | some early =>
          obtain ⟨earlier, session, transaction, later, rfl, length⟩ :=
            induction before
          refine ⟨earlier, session, transaction, later ++ [move], ?_, length⟩
          rw [List.append_assoc, List.cons_append]
      | none =>
          rw [run_append] at here
          obtain ⟨session, transaction, rfl, length, _⟩ :=
            submission?_step_of_none before here
          exact ⟨moves, session, transaction, [], rfl, length.symm⟩

theorem isSettled_run {last : Submission}
    (here : traffic.submission? number = some submission)
    (settled : submission.progress.isSettled = true) (moves : List Move)
    (final : (traffic.run moves).submission? number = some last) :
    last.progress.isSettled = true := by
  induction moves generalizing traffic submission with
  | nil =>
      cases here.symm.trans final
      exact settled
  | cons move moves induction =>
      obtain ⟨next, there, turn⟩ := submission?_step here move
      refine induction there ?_ final
      rcases turn with ⟨_, step⟩ | ⟨_, rfl | ⟨_, _, _, rfl⟩⟩
      · exact (step.of_isSettled settled).2.1
      · exact settled
      · rfl

theorem requestsOf_eq_nil_of_isSettled
    (here : traffic.submission? number = some submission)
    (settled : submission.progress.isSettled = true) (moves : List Move) :
    traffic.requestsOf moves number = [] := by
  unfold requestsOf
  rw [List.filter_eq_nil_iff]
  intro request member own
  simp only [decide_eq_true_eq] at own
  obtain ⟨past, move, _, asks⟩ := mem_requests_iff.mp member
  obtain rfl := (asker_of_request? asks).mp own
  obtain ⟨later, there, found⟩ := request?_proceed_eq_some_iff.mp asks
  obtain ⟨admitted, _⟩ := Submission.request?_eq_some_iff.mp found
  have still : later.progress.isSettled = true :=
    isSettled_run here settled past there
  rw [admitted] at still
  cases still

theorem requestsOf_eq_nil_of_unsettled
    (final : (traffic.run moves).submission? number = some submission)
    (unsettled : submission.progress.isSettled = false) :
    traffic.requestsOf moves number = [] := by
  unfold requestsOf
  rw [List.filter_eq_nil_iff]
  intro request member own
  simp only [decide_eq_true_eq] at own
  obtain ⟨past, move, ⟨future, rfl⟩, asks⟩ := mem_requests_iff.mp member
  obtain rfl := (asker_of_request? asks).mp own
  obtain ⟨early, there, found⟩ := request?_proceed_eq_some_iff.mp asks
  have settled : submission.progress.isSettled = true := by
    rw [run_append, run_append] at final
    exact isSettled_run (submission?_proceed there)
      (Submission.isSettled_proceed_of_request? found) future final
  rw [unsettled] at settled
  cases settled

/-- No submission asks more than once. -/
theorem length_requestsOf_le_one (traffic : Traffic) (moves : List Move)
    (number : Nat) : (traffic.requestsOf moves number).length ≤ 1 := by
  induction moves generalizing traffic with
  | nil => exact Nat.zero_le 1
  | cons move moves induction =>
      by_cases own : move = .proceed number
      · subst own
        cases asked : traffic.request? (.proceed number) with
        | none => simpa [requestsOf, requests, asked] using induction _
        | some request =>
            obtain ⟨submission, here, found⟩ :=
              request?_proceed_eq_some_iff.mp asked
            have after := requestsOf_eq_nil_of_isSettled
              (submission?_proceed here)
              (Submission.isSettled_proceed_of_request? found) moves
            rw [requestsOf] at after
            rw [requestsOf, requests, List.filter_append, after,
              own_request?_proceed, asked]
            exact Nat.le_refl 1
      · rw [requestsOf, requests, List.filter_append,
          own_request?_of_ne traffic own, List.nil_append]
        exact induction _

end Traffic

end OvsdbClient
