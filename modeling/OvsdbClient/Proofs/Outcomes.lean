import Mathlib.Data.List.Forall2
import OvsdbClient.Proofs.Drafting
import OvsdbClient.Proofs.SubmissionFateInvariance

/-!
# What an outcome tells

A submission hands its server one list at most: what was queued, and after it
what the hooks added.  Whether the server was asked, and what it answered, can
be told from how the submission ends.  A client that fails to fill its
transaction submits nothing.
-/

namespace OvsdbClient

namespace Transaction

/-- The operations of a transaction, and after them what its hooks add, in their
order. -/
def Completed (transaction : Transaction) (operations : List Operation) :
    Prop :=
  ∃ added, List.Forall₂ CounterHook.Adds transaction.hooks added ∧
    operations = transaction.operations ++ added

end Transaction

/-- The hooks that are left to run.  After a failure it does not matter. -/
def Progress.Leaves (left : List CounterHook) : Progress → Prop
  | .preparing hooks => left = hooks
  | .finished (.error _) => True
  | _ => left = []

namespace Submission

variable {submission next : Submission} {session : Nat}
  {transaction : Transaction} {server later : Server} {number : Nat}
  {request : Request}

/-- A submission of a transaction carries what was queued, and after it what the
hooks that have run added.  It is not admitted with nothing to commit. -/
structure Carries (submission : Submission) (session : Nat)
    (transaction : Transaction) : Prop where
  session : submission.session = session
  hooks : submission.transaction.hooks = transaction.hooks
  operations : ∃ ran left added, transaction.hooks = ran ++ left ∧
    submission.progress.Leaves left ∧ List.Forall₂ CounterHook.Adds ran added ∧
    submission.transaction.operations = transaction.operations ++ added
  nonempty : submission.progress = .admitted →
    submission.transaction.operations ≠ []

theorem carries_start (session : Nat) (transaction : Transaction) :
    (start session transaction).Carries session transaction where
  session := rfl
  hooks := rfl
  operations :=
    ⟨[], transaction.hooks, [], rfl, rfl, .nil, (List.append_nil _).symm⟩
  nonempty := nofun

theorem Carries.completed (carries : submission.Carries session transaction)
    (ran : ∀ left, submission.progress.Leaves left → left = []) :
    transaction.Completed submission.transaction.operations := by
  obtain ⟨all, left, added, hooks, leaves, adds, operations⟩ :=
    carries.operations
  have none : left = [] := ran left leaves
  rw [none, List.append_nil] at hooks
  exact ⟨added, hooks ▸ adds, operations⟩

theorem Carries.goesOn (carries : submission.Carries session transaction)
    {progress : Progress}
    (leaves : ∀ left, submission.progress.Leaves left → progress.Leaves left)
    (nonempty : progress = .admitted →
      submission.transaction.operations ≠ []) :
    { submission with progress }.Carries session transaction := by
  obtain ⟨ran, left, added, hooks, now, adds, operations⟩ := carries.operations
  exact ⟨carries.session, carries.hooks,
    ⟨ran, left, added, hooks, leaves left now, adds, operations⟩, nonempty⟩

theorem Carries.fails (carries : submission.Carries session transaction)
    (fault : Fault) :
    (submission.finish (.error fault)).Carries session transaction :=
  carries.goesOn (fun _ _ => trivial) nofun

theorem Carries.ends (carries : submission.Carries session transaction)
    (ran : ∀ left, submission.progress.Leaves left → left = [])
    (result : Except Fault Outcome) :
    (submission.finish result).Carries session transaction := by
  cases result with
  | error fault => exact carries.fails fault
  | ok outcome => exact carries.goesOn ran nofun

theorem Carries.prepared {hook : CounterHook} {hooks : List CounterHook}
    {operation : Operation} (carries : submission.Carries session transaction)
    (preparing : submission.progress = .preparing (hook :: hooks))
    (adds : hook.Adds operation) :
    { submission with
        transaction := submission.transaction.push operation
        progress := .preparing hooks }.Carries session transaction := by
  obtain ⟨ran, left, added, split, leaves, earlier, operations⟩ :=
    carries.operations
  rw [preparing] at leaves
  obtain rfl : left = hook :: hooks := leaves
  refine ⟨carries.session, carries.hooks,
    ⟨ran ++ [hook], hooks, added ++ [operation], ?_, rfl, ?_, ?_⟩, nofun⟩
  · rw [split, List.append_assoc]
    rfl
  · exact List.rel_append earlier (.cons adds .nil)
  · simp only [Transaction.push, operations, List.append_assoc]

theorem Carries.of_step (carries : submission.Carries session transaction)
    (step : submission.Step server next later) :
    next.Carries session transaction := by
  cases step with
  | idle => exact carries
  | prepared preparing ran =>
      obtain ⟨view, ran⟩ := ran
      obtain ⟨operation, adds, rfl⟩ := Transaction.exists_of_runHook_eq_ok ran
      exact carries.prepared preparing adds
  | refused | lost => exact carries.fails _
  | nothing now | rejected now | shown now =>
      apply carries.ends
      rw [now]
      exact fun left none => none
  | committed admitted =>
      refine carries.goesOn ?_ nofun
      rw [admitted]
      exact fun left none => none
  | admitted preparing nonempty =>
      refine carries.goesOn ?_ fun _ empty => ?_
      · rw [preparing]
        exact fun left none => none
      · rw [Transaction.isEmpty, empty] at nonempty
        cases nonempty

theorem Carries.completed_of_request?
    (carries : submission.Carries session transaction)
    (asks : submission.request? number server = some request) :
    request.hooks = transaction.hooks ∧
      transaction.Completed request.operations ∧ request.operations ≠ [] := by
  obtain ⟨admitted, _, rfl⟩ := request?_eq_some_iff.mp asks
  refine ⟨carries.hooks, carries.completed ?_, carries.nonempty admitted⟩
  rw [admitted]
  exact fun left none => none

end Submission

namespace Request

variable {request : Request} {reason : String}

/-- Some verification, where it stands among the operations, finds its row gone
or at another revision. -/
def FindsStale (request : Request) : Prop :=
  ∃ earlier table uuid revision later staged,
    request.operations = earlier ++ .verify table uuid revision :: later ∧
      Database.stage request.server.schema request.server.database.tables
        earlier = .ok staged ∧
      ∀ row, staged.row? table uuid = some row → row.revision ≠ revision

theorem findsStale_of_answer
    (conflicts : request.answer = .error (.revisionConflict reason)) :
    request.FindsStale := by
  have staging : Database.stage request.server.schema
      request.server.database.tables request.operations =
        .error (.revisionConflict reason) := by
    unfold answer Server.commit at conflicts
    split at conflicts
    · cases conflicts
    · split at conflicts
      case h_1 => cases conflicts
      case h_2 fault failed =>
        cases conflicts
        rcases bind_eq_error_iff.mp failed with staging | ⟨_, _, rest⟩
        · exact staging
        · dsimp only at rest
          split at rest <;> cases rest
  obtain ⟨earlier, operation, later, staged, split, before, failed⟩ :=
    Database.exists_of_stage_eq_error staging
  obtain ⟨table, uuid, revision, rfl, stale⟩ :=
    Operation.exists_of_apply_eq_revisionConflict failed
  exact ⟨earlier, table, uuid, revision, later, staged, split, before, stale⟩

end Request

namespace Submission

/-- How a submission ended fits what its server was asked for and answered. -/
structure TellsTruth (submission : Submission) (transaction : Transaction)
    (asked : List Request) : Prop where
  once : asked.length ≤ 1
  whole : ∀ request ∈ asked, transaction.Completed request.operations
  committed : submission.progress = .finished (.ok .committed) →
    (asked = [] ∧ transaction.operations = [] ∧ transaction.hooks = []) ∨
      ∃ request generation, asked = [request] ∧ request.operations ≠ [] ∧
        request.answer = .ok generation
  aborted : ∀ reason,
    submission.progress = .finished (.ok (.abortedConflict reason)) →
      ∃ request, asked = [request] ∧ request.FindsStale ∧
        request.after.database = request.server.database
  failed : ∀ fault, submission.progress = .finished (.error fault) →
    fault.isRevisionConflict = false

variable {submission : Submission} {session : Nat} {transaction : Transaction}
  {server : Server} {asked : List Request}

theorem Fate.tellsTruth (fate : submission.Fate server asked)
    (carries : submission.Carries session transaction)
    (whole : ∀ request ∈ asked, transaction.Completed request.operations ∧
      request.operations ≠ []) :
    submission.TellsTruth transaction asked where
  once := by cases fate <;> simp
  whole := fun request member => (whole request member).1
  committed := by
    intro committed
    cases fate with
    | undecided unsettled =>
        rw [committed] at unsettled
        cases unsettled
    | nothing _ empty =>
        obtain ⟨added, adds, operations⟩ := carries.completed (by
          rw [committed]
          exact fun left none => none)
        rw [List.isEmpty_iff.mp empty] at operations
        obtain ⟨unqueued, rfl⟩ := List.append_eq_nil_iff.mp operations.symm
        exact .inl ⟨rfl, unqueued, List.forall₂_nil_right_iff.mp adds⟩
    | shown _ answered =>
        exact .inr ⟨_, _, rfl, (whole _ List.mem_cons_self).2, answered⟩
    | @rejected _ fault finished =>
        rw [finished] at committed
        cases fault <;> cases committed
    | refused progress | waiting progress | lost progress =>
        cases committed.symm.trans progress
  aborted := by
    intro reason aborted
    cases fate with
    | undecided unsettled =>
        rw [aborted] at unsettled
        cases unsettled
    | @rejected request fault finished answered =>
        rw [finished] at aborted
        cases fault with
        | revisionConflict text =>
            exact ⟨request, rfl, Request.findsStale_of_answer answered,
              Server.database_commit_of_error answered⟩
        | _ => cases aborted
    | nothing progress | refused progress | waiting progress | shown progress
    | lost progress => cases aborted.symm.trans progress
  failed := by
    intro fault failed
    cases fate with
    | undecided unsettled =>
        rw [failed] at unsettled
        cases unsettled
    | @rejected _ other finished =>
        rw [finished] at failed
        cases other <;> cases failed <;> rfl
    | refused finished plain | lost finished _ plain =>
        cases failed.symm.trans finished
        exact plain
    | nothing progress | waiting progress | shown progress =>
        cases failed.symm.trans progress

end Submission

namespace Traffic

variable {traffic : Traffic} {move : Move} {moves : List Move} {number : Nat}
  {submission : Submission} {session : Nat} {transaction : Transaction}

theorem carries_run (here : traffic.submission? number = some submission)
    (carries : submission.Carries session transaction) (moves : List Move) :
    ∃ last, (traffic.run moves).submission? number = some last ∧
      last.Carries session transaction := by
  induction moves generalizing traffic submission with
  | nil => exact ⟨submission, here, carries⟩
  | cons move moves induction =>
      obtain ⟨next, there, turn⟩ := submission?_step here move
      refine induction there ?_
      rcases turn with ⟨_, step⟩ | ⟨_, rfl | ⟨_, _, _, rfl⟩⟩
      · exact carries.of_step step
      · exact carries
      · exact carries.fails _

theorem submission?_submit (traffic : Traffic) (session : Nat)
    (transaction : Transaction) :
    (traffic.step (.submit session transaction)).submission?
        traffic.submissions.length = some (.start session transaction) :=
  List.getElem?_concat_length

theorem carries_of_submit (traffic : Traffic) (session : Nat)
    (transaction : Transaction) (future : List Move) :
    ∃ last,
      (traffic.run (.submit session transaction :: future)).submission?
          traffic.submissions.length = some last ∧
        last.Carries session transaction :=
  carries_run (submission?_submit traffic session transaction)
    (Submission.carries_start session transaction) future

/-- What becomes of a transaction from its submission on. -/
theorem fate_of_submit (sound : traffic.server.Sound) (session : Nat)
    (transaction : Transaction) (future : List Move) :
    ∃ last,
      (traffic.run (.submit session transaction :: future)).submission?
          traffic.submissions.length = some last ∧
        last.Fate (traffic.run (.submit session transaction :: future)).server
          (traffic.requestsOf (.submit session transaction :: future)
            traffic.submissions.length) := by
  have soundNow : (traffic.step (.submit session transaction)).server.Sound :=
    sound
  have begun := submission?_submit traffic session transaction
  exact fate_run soundNow begun rfl future

/-- Whatever a submission asks for is its transaction, completed by the
hooks. -/
theorem completed_of_mem_requestsOf {request : Request} {future : List Move}
    (member : request ∈ traffic.requestsOf
      (.submit session transaction :: future) traffic.submissions.length) :
    request.hooks = transaction.hooks ∧
      transaction.Completed request.operations ∧ request.operations ≠ [] := by
  obtain ⟨among, own⟩ := List.mem_filter.mp member
  simp only [decide_eq_true_eq] at own
  obtain ⟨past, move, before, asks⟩ := mem_requests_iff.mp among
  obtain rfl := (asker_of_request? asks).mp own
  cases past with
  | nil => cases (List.cons_prefix_cons.mp before).1
  | cons first past =>
      obtain ⟨rfl, _⟩ := List.cons_prefix_cons.mp before
      obtain ⟨submission, here, found⟩ := request?_proceed_eq_some_iff.mp asks
      obtain ⟨last, there, carries⟩ :=
        carries_of_submit traffic session transaction past
      cases there.symm.trans here
      exact carries.completed_of_request? found

theorem tellsTruth_of_submit (sound : traffic.server.Sound) (session : Nat)
    (transaction : Transaction) (future : List Move) :
    ∃ last,
      (traffic.run (.submit session transaction :: future)).submission?
          traffic.submissions.length = some last ∧
        last.TellsTruth transaction (traffic.requestsOf
          (.submit session transaction :: future)
          traffic.submissions.length) := by
  obtain ⟨last, final, fate⟩ := fate_of_submit sound session transaction future
  obtain ⟨same, there, carries⟩ :=
    carries_of_submit traffic session transaction future
  cases there.symm.trans final
  exact ⟨last, final, fate.tellsTruth carries fun request member =>
    (completed_of_mem_requestsOf member).2⟩

theorem exists_submitted_of_asker {server : Server} {request : Request}
    (member : request ∈ (ofServer server).requests moves)
    (own : request.asker = some number) :
    ∃ earlier session transaction later,
      moves = earlier ++ .submit session transaction :: later ∧
      ((ofServer server).run earlier).submissions.length = number ∧
      request.hooks = transaction.hooks ∧
      transaction.Completed request.operations := by
  obtain ⟨past, move, ⟨future, rfl⟩, asks⟩ := mem_requests_iff.mp member
  obtain rfl := (asker_of_request? asks).mp own
  obtain ⟨submission, here, found⟩ := request?_proceed_eq_some_iff.mp asks
  obtain ⟨earlier, session, transaction, later, rfl, rfl⟩ := exists_submit here
  obtain ⟨last, there, carries⟩ := carries_of_submit
    ((ofServer server).run earlier) session transaction later
  rw [run_append] at here
  cases there.symm.trans here
  obtain ⟨hooks, completed, _⟩ := carries.completed_of_request? found
  let number := ((ofServer server).run earlier).submissions.length
  refine ⟨earlier, session, transaction, later ++ .proceed number :: future, ?_,
    rfl, hooks, completed⟩
  simp [number]

theorem exists_submit_of_asker {server : Server} {request : Request}
    (member : request ∈ (ofServer server).requests moves)
    (own : request.asker = some number) :
    ∃ session transaction, .submit session transaction ∈ moves ∧
      request.hooks = transaction.hooks ∧
      transaction.Completed request.operations := by
  obtain ⟨earlier, session, transaction, later, rfl, _, carried⟩ :=
    exists_submitted_of_asker member own
  exact ⟨session, transaction, by simp, carried⟩

/-- A submission whose hook fails ends with that, and has asked for nothing. -/
theorem failed_of_runHook {seen : List Move} {view : Session}
    {hook : CounterHook} {hooks : List CounterHook} {fault : Fault}
    (here : (traffic.run seen).submission? number = some submission)
    (preparing : submission.progress = .preparing (hook :: hooks))
    (isOpen : (traffic.run seen).server.session? submission.session =
      some view)
    (fails : submission.transaction.runHook view hook = .error fault)
    (future : List Move) :
    (traffic.run (seen ++ [.proceed number] ++ future)).submission? number =
        some (submission.finish (.error fault)) ∧
      traffic.requestsOf (seen ++ [.proceed number] ++ future) number = [] := by
  have ends : (traffic.run (seen ++ [.proceed number])).submission? number =
      some (submission.finish (.error fault)) := by
    rw [run_append]
    refine (submission?_proceed here).trans ?_
    simp only [Submission.proceed, isOpen, preparing, fails]
  have before : traffic.requestsOf seen number = [] :=
    requestsOf_eq_nil_of_unsettled here (by rw [preparing]; rfl)
  have now : (traffic.run seen).requestsOf [.proceed number] number = [] := by
    simp [requestsOf, requests, request?, here, Submission.request?, preparing]
  constructor
  · rw [run_append]
    exact finished_run ends rfl future
  · rw [requestsOf_append, requestsOf_append, before, now,
      requestsOf_eq_nil_of_isSettled ends rfl]
    rfl

/-- However a submitted transaction ends, it tells what its server was asked
for and answered.  If a hook fails it was asked for nothing.  A client that
fails to fill its transaction leaves the server alone. -/
theorem outcomes_tell_what_happened (schema : DatabaseSchema) :
    (∀ past session transaction future,
      let before := (ofServer (.ofSchema schema)).run past
      let number := before.submissions.length
      let moves := .submit session transaction :: future
      ∃ submission, (before.run moves).submission? number = some submission ∧
        submission.TellsTruth transaction (before.requestsOf moves number) ∧
        ∀ seen early view hook hooks fault,
          seen ++ [.proceed number] <+: future →
          let then' := before.run (.submit session transaction :: seen)
          then'.submission? number = some early →
          early.progress = .preparing (hook :: hooks) →
          then'.server.session? session = some view →
          early.transaction.runHook view hook = .error fault →
          submission.progress = .finished (.error fault) ∧
            before.requestsOf moves number = []) ∧
    ∀ acts past number fault,
      let desk := Desk.ofServer (.ofSchema schema)
      (desk.run acts).draft? number = some (.failed fault) →
      past ++ [.proceed number] <+: acts →
      (desk.run (past ++ [.proceed number])).traffic =
        (desk.run past).traffic := by
  constructor
  · intro past session transaction future before number moves
    have sound : before.server.Sound :=
      sound_run (Server.sound_ofSchema schema) past
    obtain ⟨submission, final, fate⟩ :=
      fate_of_submit sound session transaction future
    obtain ⟨same, there, carries⟩ :=
      carries_of_submit before session transaction future
    cases there.symm.trans final
    have truth : submission.TellsTruth transaction
        (before.requestsOf moves number) := by
      apply fate.tellsTruth carries
      exact fun request member => (completed_of_mem_requestsOf member).2
    refine ⟨submission, final, truth, ?_⟩
    rintro seen early view hook hooks fault ⟨rest, rfl⟩ now here preparing
      isOpen fails
    -- The hook runs at an earlier point, where the session is still the same.
    obtain ⟨found, there, carries⟩ :=
      carries_of_submit before session transaction seen
    cases there.symm.trans here
    rw [← carries.session] at isOpen
    obtain ⟨ends, quiet⟩ := failed_of_runHook here preparing isOpen fails rest
    cases ends.symm.trans final
    exact ⟨rfl, quiet⟩
  · intro acts past number fault desk final before
    exact Desk.traffic_eq_of_failed final before

/-- A session shows a counter that another client has counted on since. -/
def staleMoves : List Move :=
  [.event (.openSession default .small default),
    .event (.commit [.insert "NB_Global" (.ofNat 1) .empty]),
    .event (.work 0 0),
    .event (.commit [.mutate "NB_Global" (.ofNat 1) "nb_cfg" (.increment 1)])]

def countedTransaction : Transaction :=
  ⟨.ofMillis 50, [.insert "Load_Balancer" (.ofNat 2) .empty,
    .verify "NB_Global" (.ofNat 1) 1], [⟨"NB_Global", "nb_cfg"⟩]⟩

theorem stale_submission_tells_why :
    (∃ request,
      ((ofServer (.ofSchema .small)).run staleMoves).requestsOf
          (.submit 0 countedTransaction :: List.replicate 3 (.proceed 0)) 0 =
        [request] ∧
      request.FindsStale ∧ request.after.database = request.server.database) ∧
    ((ofServer (.ofSchema .small)).run (staleMoves.take 1)).requestsOf
      [.submit 0 countedTransaction, .proceed 0] 0 = [] ∧
    ((Desk.ofServer (.ofSchema .small)).run
        [.draft 0 (.giveUp .connectionClosed), .proceed 0]).traffic =
      ofServer (.ofSchema .small) := by
  obtain ⟨submitted, drafted⟩ := outcomes_tell_what_happened .small
  refine ⟨?stale, ?uncounted, ?abandoned⟩
  case stale =>
    obtain ⟨_, final, truth, _⟩ :=
      submitted staleMoves 0 countedTransaction (List.replicate 3 (.proceed 0))
    cases final
    exact truth.aborted _ rfl
  case uncounted =>
    obtain ⟨_, _, _, fails⟩ :=
      submitted (staleMoves.take 1) 0 countedTransaction [.proceed 0]
    exact (fails [] _ _ _ _ _ List.prefix_rfl rfl rfl rfl rfl).2
  case abandoned =>
    exact drafted _ [.draft 0 (.giveUp .connectionClosed)] 0 .connectionClosed
      rfl List.prefix_rfl

end Traffic

end OvsdbClient
