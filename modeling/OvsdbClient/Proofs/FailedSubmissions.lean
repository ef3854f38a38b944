import OvsdbClient.Proofs.NetworkRun
import OvsdbClient.Proofs.OptimisticConcurrency

/-!
# Submissions that fail

A submission can fail after its operations were committed, while it waits for
its replica.  Only then does it leave a trace in the database.
-/

namespace OvsdbClient

namespace Progress

def isSettled : Progress → Bool
  | .preparing _ | .admitted => false
  | .waiting _ | .finished _ => true

end Progress

namespace Submission

variable {submission next : Submission} {server later : Server}

theorem Step.of_isSettled (step : submission.Step server next later)
    (settled : submission.progress.isSettled = true) :
    later = server ∧ next.progress.isSettled = true ∧
      next.transaction = submission.transaction := by
  cases step with
  | idle => exact ⟨rfl, settled, rfl⟩
  | shown waiting => exact ⟨rfl, rfl, rfl⟩
  | lost waiting => exact ⟨rfl, rfl, rfl⟩
  | prepared before | refused before | nothing before | admitted before
  | committed before | rejected before =>
      rw [before] at settled
      cases settled

theorem Step.of_finished {result : Except Fault Outcome}
    (step : submission.Step server next later)
    (finished : submission.progress = .finished result) :
    next = submission := by
  cases step with
  | idle => rfl
  | prepared before | refused before | nothing before | admitted before
  | committed before | rejected before | shown before | lost before =>
      cases before.symm.trans finished

theorem Step.of_waiting {generation : Nat}
    (step : submission.Step server next later)
    (waiting : submission.progress = .waiting generation) :
    next = submission ∨ next = submission.finish (.ok .committed) ∨
      next = submission.finish (.error .connectionClosed) := by
  cases step with
  | idle => exact .inl rfl
  | shown => exact .inr (.inl rfl)
  | lost => exact .inr (.inr rfl)
  | prepared before | refused before | nothing before | admitted before
  | committed before | rejected before =>
      cases waiting.symm.trans before

/-- Until it waits, a submission changes the database with one commit only. -/
theorem Step.of_not_isSettled (step : submission.Step server next later)
    (unsettled : submission.progress.isSettled = false) :
    (next.progress.isSettled = false ∧ later = server) ∨
      (∃ result, next.progress = .finished result ∧
        later.database = server.database) ∨
      ∃ generation,
        server.commit submission.transaction.operations =
          (.ok generation, later) ∧
        next = { submission with progress := .waiting generation } := by
  cases step with
  | idle => exact .inl ⟨unsettled, rfl⟩
  | prepared | admitted => exact .inl ⟨rfl, rfl⟩
  | refused | nothing => exact .inr (.inl ⟨_, rfl, rfl⟩)
  | committed _ done => exact .inr (.inr ⟨_, done, rfl⟩)
  | @rejected fault _ _ failed =>
      refine .inr (.inl ⟨_, rfl, ?_⟩)
      have refused : (server.commit submission.transaction.operations).1 =
          .error fault := congrArg Prod.fst failed
      have same := Server.database_commit_of_error refused
      rw [failed] at same
      exact same
  | shown before | lost before =>
      rw [before] at unsettled
      cases unsettled

end Submission

namespace Traffic

variable {traffic : Traffic} {move : Move} {moves : List Move} {number : Nat}
  {submission : Submission}

/-- Some step of a submission changes the database. -/
def LeavesTrace (traffic : Traffic) (moves : List Move) (number : Nat) : Prop :=
  ∃ past, past ++ [.proceed number] <+: moves ∧
    (traffic.run (past ++ [.proceed number])).server.database ≠
      (traffic.run past).server.database

/-- A submission waits at some point for its replica to show a generation. -/
def Waits (traffic : Traffic) (moves : List Move) (number : Nat) : Prop :=
  ∃ past submission generation, past <+: moves ∧
    (traffic.run past).submission? number = some submission ∧
    submission.progress = .waiting generation

theorem not_leavesTrace_nil : ¬traffic.LeavesTrace [] number := by
  rintro ⟨past, before, _⟩
  simp at before

theorem leavesTrace_cons_iff :
    traffic.LeavesTrace (move :: moves) number ↔
      (move = .proceed number ∧
        (traffic.step move).server.database ≠ traffic.server.database) ∨
      (traffic.step move).LeavesTrace moves number := by
  constructor
  · rintro ⟨past, before, changed⟩
    cases past with
    | nil =>
        obtain ⟨rfl, _⟩ := List.cons_prefix_cons.mp before
        exact .inl ⟨rfl, changed⟩
    | cons first past =>
        obtain ⟨rfl, within⟩ := List.cons_prefix_cons.mp before
        exact .inr ⟨past, within, changed⟩
  · rintro (⟨rfl, changed⟩ | ⟨past, before, changed⟩)
    · exact ⟨[], List.cons_prefix_cons.mpr ⟨rfl, List.nil_prefix⟩, changed⟩
    · exact ⟨move :: past, List.cons_prefix_cons.mpr ⟨rfl, before⟩, changed⟩

theorem waits_cons_iff :
    traffic.Waits (move :: moves) number ↔
      (∃ submission generation,
        traffic.submission? number = some submission ∧
          submission.progress = .waiting generation) ∨
      (traffic.step move).Waits moves number := by
  constructor
  · rintro ⟨past, submission, generation, before, here, waiting⟩
    cases past with
    | nil => exact .inl ⟨submission, generation, here, waiting⟩
    | cons first past =>
        obtain ⟨rfl, within⟩ := List.cons_prefix_cons.mp before
        exact .inr ⟨past, submission, generation, within, here, waiting⟩
  · rintro (⟨submission, generation, here, waiting⟩ |
      ⟨past, submission, generation, before, here, waiting⟩)
    · exact ⟨[], submission, generation, List.nil_prefix, here, waiting⟩
    · exact ⟨move :: past, submission, generation,
        List.cons_prefix_cons.mpr ⟨rfl, before⟩, here, waiting⟩

/-- A settled submission stays so, with the same transaction, and leaves no
further trace. -/
theorem settled_run (here : traffic.submission? number = some submission)
    (settled : submission.progress.isSettled = true) (moves : List Move) :
    ¬traffic.LeavesTrace moves number ∧
      ∃ last, (traffic.run moves).submission? number = some last ∧
        last.transaction = submission.transaction := by
  induction moves generalizing traffic submission with
  | nil => exact ⟨not_leavesTrace_nil, submission, here, rfl⟩
  | cons move moves induction =>
      obtain ⟨next, there, turn⟩ := submission?_step here move
      have kept : next.progress.isSettled = true ∧
          next.transaction = submission.transaction ∧
          (move = .proceed number →
            (traffic.step move).server = traffic.server) := by
        rcases turn with ⟨_, step⟩ | ⟨other, rfl | ⟨_, _, _, rfl⟩⟩
        · obtain ⟨same, still, unchanged⟩ := step.of_isSettled settled
          exact ⟨still, unchanged, fun _ => same⟩
        · exact ⟨settled, rfl, fun own => absurd own other⟩
        · exact ⟨rfl, rfl, fun own => absurd own other⟩
      obtain ⟨still, unchanged, quiet⟩ := kept
      obtain ⟨noTrace, last, final, same⟩ := induction there still
      refine ⟨?_, last, final, same.trans unchanged⟩
      rw [leavesTrace_cons_iff, not_or]
      exact ⟨fun changed => changed.2 (congrArg _ (quiet changed.1)), noTrace⟩

theorem finished_run {result : Except Fault Outcome}
    (here : traffic.submission? number = some submission)
    (finished : submission.progress = .finished result) (moves : List Move) :
    (traffic.run moves).submission? number = some submission := by
  induction moves generalizing traffic with
  | nil => exact here
  | cons move moves induction =>
      refine induction ?_
      obtain ⟨next, there, turn⟩ := submission?_step here move
      rcases turn with ⟨_, step⟩ | ⟨_, rfl | ⟨_, _, waiting, _⟩⟩
      · exact step.of_finished finished ▸ there
      · exact there
      · cases waiting.symm.trans finished

theorem not_waits_of_finished {result : Except Fault Outcome}
    (here : traffic.submission? number = some submission)
    (finished : submission.progress = .finished result) (moves : List Move) :
    ¬traffic.Waits moves number := by
  rintro ⟨past, later, generation, _, found, waiting⟩
  cases (finished_run here finished past).symm.trans found
  cases waiting.symm.trans finished

theorem quiet_of_finished {result : Except Fault Outcome}
    (here : traffic.submission? number = some submission)
    (finished : submission.progress = .finished result) (moves : List Move) :
    ¬traffic.LeavesTrace moves number ∧ ¬traffic.Waits moves number := by
  have settled : submission.progress.isSettled = true := by
    rw [finished]
    rfl
  constructor
  · exact (settled_run here settled moves).1
  · exact not_waits_of_finished here finished moves

theorem fault_of_waiting {generation : Nat} {last : Submission} {fault : Fault}
    (here : traffic.submission? number = some submission)
    (waiting : submission.progress = .waiting generation)
    (final : (traffic.run moves).submission? number = some last)
    (failed : last.progress = .finished (.error fault)) :
    fault = .connectionClosed ∨ ∃ span, fault = .timeout span := by
  induction moves generalizing traffic submission with
  | nil =>
      cases here.symm.trans final
      cases waiting.symm.trans failed
  | cons move moves induction =>
      obtain ⟨next, there, turn⟩ := submission?_step here move
      have ended : ∀ {result}, next = submission.finish result →
          last = submission.finish result := by
        rintro result rfl
        have stays := finished_run there rfl moves
        exact Option.some.inj (final.symm.trans stays)
      rcases turn with ⟨_, step⟩ | ⟨_, rfl | ⟨_, span, _, rfl⟩⟩
      · rcases step.of_waiting waiting with rfl | shown | lost
        · exact induction there waiting final
        · cases ended shown
          cases failed
        · cases ended lost
          cases failed
          exact .inl rfl
      · exact induction there waiting final
      · cases ended rfl
        cases failed
        exact .inr ⟨span, rfl⟩

theorem database_commit_ne_iff {server later : Server}
    {operations : List Operation} {generation : Nat}
    (done : server.commit operations = (.ok generation, later)) :
    later.database ≠ server.database ↔
      ∃ operation ∈ operations, operation.isVerify = false := by
  have answered : (server.commit operations).1 = .ok generation :=
    congrArg Prod.fst done
  have committed := Server.database_commit answered
  rw [done] at committed
  obtain ⟨staged, _, after⟩ := Database.commit_eq_ok_iff.mp committed
  constructor
  · intro changed
    apply Database.touched_ne_nil_iff.mp
    intro idle
    exact changed (after.trans (if_pos idle))
  · rintro ⟨operation, member, writes⟩ same
    have advanced := (Database.revision_of_writes committed member
      ⟨writes, rfl, rfl⟩).1
    rw [same] at advanced
    omega

private theorem leavesTrace_iff_of_committed {generation : Nat}
    {last : Submission} {fault : Fault}
    (done : traffic.server.commit submission.transaction.operations =
      (.ok generation, (traffic.step move).server))
    (there : (traffic.step move).submission? number =
      some { submission with progress := .waiting generation })
    (final : ((traffic.step move).run moves).submission? number = some last)
    (failed : last.progress = .finished (.error fault)) :
    ((traffic.step move).server.database ≠ traffic.server.database ∨
        (traffic.step move).LeavesTrace moves number ↔
      (traffic.step move).Waits moves number ∧
        ∃ operation ∈ last.transaction.operations,
          operation.isVerify = false) ∧
      (fault = .connectionClosed ∨ ∃ span, fault = .timeout span) := by
  obtain ⟨noTrace, found, isFound, same⟩ := settled_run there rfl moves
  cases isFound.symm.trans final
  have waits : (traffic.step move).Waits moves number :=
    ⟨[], _, generation, List.nil_prefix, there, rfl⟩
  constructor
  · rw [or_iff_left noTrace, same, and_iff_right waits]
    exact database_commit_ne_iff done
  · exact fault_of_waiting there rfl final failed

/-- A submission that failed has left a trace just if it was waiting for its
replica and would write something.  While it waits it fails in two ways. -/
theorem leavesTrace_iff_of_unsettled {fault : Fault}
    (unsettled : ∀ submission, traffic.submission? number = some submission →
      submission.progress.isSettled = false)
    (final : (traffic.run moves).submission? number = some submission)
    (failed : submission.progress = .finished (.error fault)) :
    (traffic.LeavesTrace moves number ↔
      traffic.Waits moves number ∧
        ∃ operation ∈ submission.transaction.operations,
          operation.isVerify = false) ∧
      (traffic.Waits moves number →
        fault = .connectionClosed ∨ ∃ span, fault = .timeout span) := by
  induction moves generalizing traffic with
  | nil =>
      have early := unsettled submission final
      rw [failed] at early
      cases early
  | cons move moves induction =>
      have notYet : ¬∃ submission generation,
          traffic.submission? number = some submission ∧
            submission.progress = .waiting generation := by
        rintro ⟨early, generation, here, waiting⟩
        have before := unsettled early here
        rw [waiting] at before
        cases before
      rw [leavesTrace_cons_iff, waits_cons_iff, or_iff_right notYet]
      cases here : traffic.submission? number with
      | none =>
          have quiet : ¬(move = .proceed number ∧
              (traffic.step move).server.database ≠
                traffic.server.database) := by
            rintro ⟨rfl, changed⟩
            simp only [step, here] at changed
            exact changed rfl
          rw [or_iff_right quiet]
          refine induction ?_ final
          intro next there
          obtain ⟨session, transaction, _, _, rfl⟩ :=
            submission?_step_of_none here there
          rfl
      | some early =>
          obtain ⟨next, there, turn⟩ := submission?_step here move
          rcases turn with ⟨rfl, step⟩ | ⟨other, rfl | ⟨_, _, waiting, _⟩⟩
          · rcases step.of_not_isSettled (unsettled early here) with
              ⟨still, same⟩ | ⟨result, finished, same⟩ | ⟨generation, done, rfl⟩
            · rw [or_iff_right fun changed => changed.2 (congrArg _ same)]
              refine induction ?_ final
              intro submission found
              cases there.symm.trans found
              exact still
            · rw [or_iff_right fun changed => changed.2 same]
              obtain ⟨noTrace, noWait⟩ := quiet_of_finished there finished moves
              constructor
              · exact iff_of_false noTrace fun both => noWait both.1
              · intro waits
                exact absurd waits noWait
            · obtain ⟨traces, fails⟩ :=
                leavesTrace_iff_of_committed done there final failed
              rw [and_iff_right rfl]
              exact ⟨traces, fun _ => fails⟩
          · rw [or_iff_right fun changed => other changed.1]
            refine induction ?_ final
            intro submission found
            cases there.symm.trans found
            exact unsettled _ here
          · exact absurd ⟨early, _, here, waiting⟩ notYet

/-- In every run, a submission that failed has changed the database just if it
was waiting for its replica at some point and some of its operations write.  If
it failed with its operations rejected, or before they were committed, it has
left no trace.  While it waits it fails in two ways. -/
theorem failed_submission_leaves_trace_iff {schema : DatabaseSchema}
    {fault : Fault}
    (final : ((ofServer (.ofSchema schema)).run moves).submission? number =
      some submission)
    (failed : submission.progress = .finished (.error fault)) :
    ((ofServer (.ofSchema schema)).LeavesTrace moves number ↔
      (ofServer (.ofSchema schema)).Waits moves number ∧
        ∃ operation ∈ submission.transaction.operations,
          operation.isVerify = false) ∧
      ((ofServer (.ofSchema schema)).Waits moves number →
        fault = .connectionClosed ∨ ∃ span, fault = .timeout span) :=
  leavesTrace_iff_of_unsettled (fun _ here => by cases here) final failed

/-- A transaction that counts and inserts is given up while its session holds
the announcement back. -/
def hastyMoves : List Move :=
  [.event (.openSession default .small default),
    .event (.commit [.insert "NB_Global" (.ofNat 1) .empty]),
    .event (.work 0 0),
    .event (.setDelay (.ofMillis 500)),
    .submit 0 ⟨.ofMillis 50,
      [.insert "Load_Balancer" (.ofNat 2) .empty], [⟨"NB_Global", "nb_cfg"⟩]⟩,
    .proceed 0, .proceed 0, .proceed 0, .event (.work 0 1), .proceed 0,
    .expire 0 false]

theorem hasty_submission_leaves_trace :
    (∃ submission,
      ((ofServer (.ofSchema .small)).run hastyMoves).submission? 0 =
          some submission ∧
        submission.progress = .finished (.error (.timeout (.ofMillis 50)))) ∧
      (ofServer (.ofSchema .small)).LeavesTrace hastyMoves 0 := by
  refine ⟨⟨_, rfl, rfl⟩, ?_⟩
  refine (@failed_submission_leaves_trace_iff hastyMoves 0 _ .small _ rfl
    rfl).1.mpr ⟨?_, ?_⟩
  · exact ⟨hastyMoves.take 8, _, 2, List.take_prefix 8 hastyMoves, rfl, rfl⟩
  · exact ⟨_, List.mem_cons_self, rfl⟩

end Traffic

namespace Network

/-- A network with one server, which holds a counter, and a session that waits
for 50 milliseconds while announcements are held back for 500. -/
def slow : Network :=
  let (server, network) := empty.createServer .small
  let network := network.addServer default server
  let network := (network.insertRow server "NB_Global" []).2
  let options : SessionOptions := ⟨.ofMillis 50, .zero, none⟩
  let network := (network.openSession default
    (Selection.ofSchema .small).selectAll options).2
  (network.perform (.setDelay server (.ofMillis 500))).2

theorem timed_out_transaction_is_applied :
    let (answer, network) := slow.submit ⟨0, 0⟩ ⟨.ofSecs 1,
      [.insert "Load_Balancer" (.ofNat 2) .empty], [⟨"NB_Global", "nb_cfg"⟩]⟩
    answer matches .error (.timeout _) ∧
      (network.server? 0).any fun server =>
        (server.database.tables.row? "Load_Balancer" (.ofNat 2)).isSome &&
          (server.database.tables.rows "NB_Global").any fun counter =>
            counter.integer? "nb_cfg" = some 1 := by
  decide +kernel

end Network

end OvsdbClient
