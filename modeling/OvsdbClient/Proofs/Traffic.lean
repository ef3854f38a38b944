import OvsdbClient.Proofs.ServerRunSoundness
import OvsdbClient.Transaction.Basic

/-!
# Submissions side by side

Any number of transactions are submitted through the sessions of one server
while the server lives through its events.  A submission goes on step by step,
with anything in between, and gives up when it has waited too long.
-/

namespace OvsdbClient

/-- How far a submission has come. -/
inductive Progress where
  /-- Hooks are left to run. -/
  | preparing (hooks : List CounterHook)
  /-- Its session was seen not to be stopped. -/
  | admitted
  /-- Its operations are committed, and its replica has yet to show the
  generation. -/
  | waiting (generation : Nat)
  | finished (result : Except Fault Outcome)

/-- A transaction that was submitted through the session with a number. -/
structure Submission where
  session : Nat
  transaction : Transaction
  progress : Progress

namespace Submission

/-- The submission of a transaction, at its beginning. -/
def start (session : Nat) (transaction : Transaction) : Submission :=
  ⟨session, transaction, .preparing transaction.hooks⟩

/-- The submission at its end. -/
def finish (submission : Submission) (result : Except Fault Outcome) :
    Submission :=
  { submission with progress := .finished result }

/-- Takes the next step of a submission, if there is one. -/
def proceed (submission : Submission) (server : Server) : Submission × Server :=
  match server.session? submission.session with
  | none => (submission, server)
  | some session =>
      match submission.progress with
      | .preparing (hook :: hooks) =>
          match submission.transaction.runHook session hook with
          | .ok transaction =>
              ({ submission with transaction, progress := .preparing hooks },
                server)
          | .error fault => (submission.finish (.error fault), server)
      | .preparing [] =>
          if submission.transaction.isEmpty then
            (submission.finish (.ok .committed), server)
          else if session.stopped then
            (submission.finish (.error .connectionClosed), server)
          else
            ({ submission with progress := .admitted }, server)
      | .admitted =>
          match server.commit submission.transaction.operations with
          | (.ok generation, server) =>
              ({ submission with progress := .waiting generation }, server)
          | (.error fault, server) =>
              (submission.finish (Outcome.ofAnswer (.error fault)), server)
      | .waiting generation =>
          if generation ≤ session.applied then
            (submission.finish (.ok .committed), server)
          else if session.stopped then
            (submission.finish (.error .connectionClosed), server)
          else
            (submission, server)
      | .finished _ => (submission, server)

/-- Gives a submission up that waits for something its replica does not show,
after the time that its session allows or after its own. -/
def expire (submission : Submission) (server : Server) (ofSession : Bool) :
    Submission :=
  match submission.progress, server.session? submission.session with
  | .waiting generation, some session =>
      if generation ≤ session.applied then
        submission
      else
        submission.finish (.error (.timeout
          (if ofSession then session.options.timeout
          else submission.transaction.timeout)))
  | _, _ => submission

/-- What can become of a submission and its server in its next step. -/
inductive Step (submission : Submission) (server : Server) :
    Submission → Server → Prop where
  | idle :
      (submission.progress = .admitted →
        server.session? submission.session = none) →
      Step submission server submission server
  | prepared {hook : CounterHook} {hooks : List CounterHook}
      {transaction : Transaction} :
      submission.progress = .preparing (hook :: hooks) →
      (∃ view, submission.transaction.runHook view hook = .ok transaction) →
      Step submission server
        { submission with transaction, progress := .preparing hooks } server
  | refused {hooks : List CounterHook} {fault : Fault} :
      submission.progress = .preparing hooks →
      (fault = .connectionClosed ∨ ∃ view hook,
        submission.transaction.runHook view hook = .error fault) →
      Step submission server (submission.finish (.error fault)) server
  | nothing :
      submission.progress = .preparing [] →
      submission.transaction.isEmpty = true →
      Step submission server (submission.finish (.ok .committed)) server
  | admitted :
      submission.progress = .preparing [] →
      submission.transaction.isEmpty = false →
      Step submission server { submission with progress := .admitted } server
  | committed {generation : Nat} {later : Server} :
      submission.progress = .admitted →
      server.commit submission.transaction.operations =
        (.ok generation, later) →
      (∃ view, server.session? submission.session = some view) →
      Step submission server
        { submission with progress := .waiting generation } later
  | rejected {fault : Fault} {later : Server} :
      submission.progress = .admitted →
      server.commit submission.transaction.operations = (.error fault, later) →
      (∃ view, server.session? submission.session = some view) →
      Step submission server
        (submission.finish (Outcome.ofAnswer (.error fault))) later
  | shown {generation : Nat} :
      submission.progress = .waiting generation →
      (∃ view, server.session? submission.session = some view ∧
        generation ≤ view.applied) →
      Step submission server (submission.finish (.ok .committed)) server
  | lost {generation : Nat} :
      submission.progress = .waiting generation →
      Step submission server (submission.finish (.error .connectionClosed))
        server

theorem step_proceed (submission : Submission) (server : Server) :
    Step submission server (submission.proceed server).1
      (submission.proceed server).2 := by
  unfold proceed
  split
  case h_1 absent => exact .idle fun _ => absent
  case h_2 session isOpen =>
    split
    case h_1 hook hooks preparing =>
      split
      case h_1 done => exact .prepared preparing ⟨session, done⟩
      case h_2 failed => exact .refused preparing (.inr ⟨session, hook, failed⟩)
    case h_2 preparing =>
      split
      case isTrue idle => exact .nothing preparing idle
      case isFalse busy =>
        split
        · exact .refused preparing (.inl rfl)
        · exact .admitted preparing (Bool.eq_false_iff.mpr busy)
    case h_3 admitted =>
      split
      case h_1 done => exact .committed admitted done ⟨session, isOpen⟩
      case h_2 failed => exact .rejected admitted failed ⟨session, isOpen⟩
    case h_4 generation waiting =>
      split
      case isTrue shows => exact .shown waiting ⟨session, isOpen, shows⟩
      case isFalse =>
        split
        · exact .lost waiting
        · refine .idle fun admitted => ?_
          cases waiting.symm.trans admitted
    case h_5 result finished =>
      refine .idle fun admitted => ?_
      cases finished.symm.trans admitted

theorem expire_cases (submission : Submission) (server : Server)
    (ofSession : Bool) :
    submission.expire server ofSession = submission ∨
      ∃ generation span, submission.progress = .waiting generation ∧
        submission.expire server ofSession =
          submission.finish (.error (.timeout span)) := by
  unfold expire
  split
  case h_1 generation session waiting _ =>
    split
    · exact .inl rfl
    · exact .inr ⟨generation, _, waiting, rfl⟩
  case h_2 => exact .inl rfl

end Submission

/-- A server and what was submitted to it, in the order of the beginnings. -/
structure Traffic where
  server : Server
  submissions : List Submission

/-- Something that can happen next. -/
inductive Move where
  | event (event : Event)
  | submit (session : Nat) (transaction : Transaction)
  | proceed (submission : Nat)
  | expire (submission : Nat) (ofSession : Bool)

namespace Traffic

/-- A server to which nothing was submitted yet. -/
def ofServer (server : Server) : Traffic := ⟨server, []⟩

/-- The submission with a number. -/
def submission? (traffic : Traffic) (number : Nat) : Option Submission :=
  traffic.submissions[number]?

/-- What a move leads to. -/
def step (traffic : Traffic) : Move → Traffic
  | .event event => { traffic with server := traffic.server.handle event }
  | .submit session transaction =>
      let submission := Submission.start session transaction
      { traffic with submissions := traffic.submissions ++ [submission] }
  | .proceed number =>
      match traffic.submission? number with
      | some submission =>
          let (submission, server) := submission.proceed traffic.server
          ⟨server, traffic.submissions.set number submission⟩
      | none => traffic
  | .expire number ofSession =>
      match traffic.submission? number with
      | some submission =>
          let submission := submission.expire traffic.server ofSession
          { traffic with
            submissions := traffic.submissions.set number submission }
      | none => traffic

/-- What moves lead to. -/
def run (traffic : Traffic) (moves : List Move) : Traffic :=
  moves.foldl step traffic

/-! ## What a move does -/

@[simp] theorem run_nil (traffic : Traffic) : traffic.run [] = traffic :=
  rfl

theorem run_cons (traffic : Traffic) (move : Move) (moves : List Move) :
    traffic.run (move :: moves) = (traffic.step move).run moves :=
  rfl

theorem run_append (traffic : Traffic) (first second : List Move) :
    traffic.run (first ++ second) = (traffic.run first).run second :=
  List.foldl_append

variable {traffic : Traffic} {number : Nat} {submission : Submission}

theorem submission?_step (here : traffic.submission? number = some submission)
    (move : Move) :
    ∃ next, (traffic.step move).submission? number = some next ∧
      ((move = .proceed number ∧
          submission.Step traffic.server next (traffic.step move).server) ∨
        (move ≠ .proceed number ∧
          (next = submission ∨
            ∃ generation span, submission.progress = .waiting generation ∧
              next = submission.finish (.error (.timeout span))))) := by
  obtain ⟨low, _⟩ := List.getElem?_eq_some_iff.mp here
  cases move with
  | event event =>
      exact ⟨submission, here, .inr ⟨nofun, .inl rfl⟩⟩
  | submit session transaction =>
      refine ⟨submission, ?_, .inr ⟨nofun, .inl rfl⟩⟩
      exact (List.getElem?_append_left low).trans here
  | proceed other =>
      by_cases same : other = number
      · subst same
        have stepped : traffic.step (.proceed other) =
            ⟨(submission.proceed traffic.server).2, traffic.submissions.set
              other (submission.proceed traffic.server).1⟩ := by
          simp only [step, here]
        rw [stepped]
        exact ⟨_, List.getElem?_set_self low,
          .inl ⟨rfl, submission.step_proceed traffic.server⟩⟩
      · have differ : Move.proceed other ≠ .proceed number :=
          fun equal => same (Move.proceed.inj equal)
        refine ⟨submission, ?_, .inr ⟨differ, .inl rfl⟩⟩
        simp only [step]
        split
        · exact (List.getElem?_set_ne same).trans here
        · exact here
  | expire other ofSession =>
      by_cases same : other = number
      · subst same
        simp only [step, here]
        exact ⟨_, List.getElem?_set_self low, .inr ⟨nofun,
          submission.expire_cases traffic.server ofSession⟩⟩
      · refine ⟨submission, ?_, .inr ⟨nofun, .inl rfl⟩⟩
        simp only [step]
        split
        · exact (List.getElem?_set_ne same).trans here
        · exact here

theorem submission?_step_of_none {next : Submission}
    (absent : traffic.submission? number = none) {move : Move}
    (here : (traffic.step move).submission? number = some next) :
    ∃ session transaction, move = .submit session transaction ∧
      number = traffic.submissions.length ∧
      next = .start session transaction := by
  have high := List.getElem?_eq_none_iff.mp absent
  obtain ⟨low, found⟩ := List.getElem?_eq_some_iff.mp here
  cases move with
  | event event => exact absurd low (Nat.not_lt.mpr high)
  | submit session transaction =>
      have last : number = traffic.submissions.length := by
        simp only [step, List.length_append, List.length_singleton] at low
        omega
      refine ⟨session, transaction, rfl, last, found.symm.trans ?_⟩
      refine (List.getElem_append_right high).trans ?_
      exact List.getElem_singleton _
  | proceed other =>
      simp only [step] at low
      split at low
      · rw [List.length_set] at low
        omega
      · omega
  | expire other ofSession =>
      simp only [step] at low
      split at low
      · rw [List.length_set] at low
        omega
      · omega

/-- Whatever is submitted, a server only lives through events. -/
theorem server_step (traffic : Traffic) (move : Move) :
    ∃ events, (traffic.step move).server = traffic.server.run events := by
  have acts : ∀ {submission next : Submission} {server later : Server},
      submission.Step server next later →
      ∃ events, later = server.run events := by
    intro submission next server later step
    cases step with
    | committed _ done =>
        exact ⟨[.commit submission.transaction.operations],
          (congrArg Prod.snd done).symm⟩
    | rejected _ failed =>
        exact ⟨[.commit submission.transaction.operations],
          (congrArg Prod.snd failed).symm⟩
    | _ => exact ⟨[], rfl⟩
  cases move with
  | event event => exact ⟨[event], rfl⟩
  | submit session transaction => exact ⟨[], rfl⟩
  | proceed number =>
      simp only [step]
      split
      · exact acts (Submission.step_proceed _ _)
      · exact ⟨[], rfl⟩
  | expire number ofSession =>
      simp only [step]
      split <;> exact ⟨[], rfl⟩

theorem server_run (traffic : Traffic) (moves : List Move) :
    ∃ events, (traffic.run moves).server = traffic.server.run events := by
  induction moves generalizing traffic with
  | nil => exact ⟨[], rfl⟩
  | cons move moves induction =>
      obtain ⟨first, one⟩ := server_step traffic move
      obtain ⟨second, rest⟩ := induction (traffic.step move)
      exact ⟨first ++ second, by rw [run_cons, rest, one, Server.run_append]⟩

theorem sound_run (sound : traffic.server.Sound) (moves : List Move) :
    (traffic.run moves).server.Sound := by
  obtain ⟨events, ran⟩ := server_run traffic moves
  exact ran ▸ sound.run events

/-- A session stays open with what it was opened with, and shows no less. -/
theorem session?_run {session : Session} (sound : traffic.server.Sound)
    (here : traffic.server.session? number = some session)
    (moves : List Move) :
    ∃ last, (traffic.run moves).server.session? number = some last ∧
      last.schema = session.schema ∧ session.applied ≤ last.applied := by
  obtain ⟨events, ran⟩ := server_run traffic moves
  obtain ⟨last, final, schema, _⟩ := Server.session?_run here events
  exact ⟨last, ran ▸ final, schema, sound.applied_run here final⟩

end Traffic

end OvsdbClient
