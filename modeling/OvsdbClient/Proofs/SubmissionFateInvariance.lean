import OvsdbClient.Proofs.MappingCommands
import OvsdbClient.Proofs.Requests

/-!
# What becomes of submissions

A submission asks its server once at most.  From how far it has come one can
tell whether it has asked, and what it was answered.
-/

namespace OvsdbClient

/-! ## Hooks -/

/-- A hook adds an increment of its column in some row of its table. -/
def CounterHook.Adds (hook : CounterHook) (operation : Operation) : Prop :=
  ∃ uuid, operation = .mutate hook.table uuid hook.column (.increment 1)

namespace Session

variable {session : Session} {hook : CounterHook}

theorem adds_of_counting {operation : Operation}
    (done : session.counting hook = .ok operation) : hook.Adds operation := by
  obtain ⟨_, _, rest⟩ := bind_eq_ok_iff.mp done
  obtain ⟨row, _, last⟩ := bind_eq_ok_iff.mp rest
  exact ⟨row.uuid, pure_eq_ok_iff.mp last⟩

theorem counting_ne_revisionConflict {reason : String} :
    session.counting hook ≠ .error (.revisionConflict reason) := by
  intro failed
  have tableFault : session.checkTable hook.table ≠
      .error (.revisionConflict reason) := by
    unfold checkTable
    cases session.schema.table? hook.table <;> exact nofun
  rcases bind_eq_error_iff.mp failed with refused | ⟨_, _, rest⟩
  · rcases bind_eq_error_iff.mp refused with unknown | ⟨shape, _, lacking⟩
    · exact tableFault unknown
    · split at lacking <;> cases lacking
  · rcases bind_eq_error_iff.mp rest with refused | ⟨_, _, done⟩
    · rcases bind_eq_error_iff.mp refused with unknown | ⟨_, _, missing⟩
      · exact tableFault unknown
      · cases first : session.replica.first? hook.table <;>
          rw [first] at missing <;> cases missing
    · cases done

end Session

namespace Transaction

variable {transaction next : Transaction} {session : Session}
  {hook : CounterHook}

theorem exists_of_runHook_eq_ok
    (done : transaction.runHook session hook = .ok next) :
    ∃ operation, hook.Adds operation ∧ next = transaction.push operation := by
  rw [runHook_eq] at done
  cases counted : session.counting hook with
  | error fault =>
      rw [counted] at done
      cases done
  | ok operation =>
      rw [counted] at done
      cases done
      exact ⟨operation, Session.adds_of_counting counted, rfl⟩

theorem isRevisionConflict_of_runHook {fault : Fault}
    (failed : transaction.runHook session hook = .error fault) :
    fault.isRevisionConflict = false := by
  rw [runHook_eq] at failed
  cases counted : session.counting hook with
  | ok operation =>
      rw [counted] at failed
      cases failed
  | error other =>
      rw [counted] at failed
      cases failed
      cases fault with
      | revisionConflict reason =>
          exact absurd counted Session.counting_ne_revisionConflict
      | _ => rfl

end Transaction

/-! ## What was asked for so far -/

namespace Submission

variable {submission next : Submission} {server later : Server}
  {log : List Request}

/-- What a submission has asked for by how far it has come.  Once it has ended
with the commit of what it asked for, its session shows that. -/
inductive Fate (submission : Submission) (server : Server) :
    List Request → Prop where
  | undecided :
      submission.progress.isSettled = false → Fate submission server []
  | nothing :
      submission.progress = .finished (.ok .committed) →
      submission.transaction.isEmpty = true →
      Fate submission server []
  | refused {fault : Fault} :
      submission.progress = .finished (.error fault) →
      fault.isRevisionConflict = false →
      Fate submission server []
  | rejected {request : Request} {fault : Fault} :
      submission.progress = .finished (Outcome.ofAnswer (.error fault)) →
      request.answer = .error fault →
      Fate submission server [request]
  | waiting {request : Request} {generation : Nat} :
      submission.progress = .waiting generation →
      request.answer = .ok generation →
      Fate submission server [request]
  | shown {request : Request} {generation : Nat} {view : Session} :
      submission.progress = .finished (.ok .committed) →
      request.answer = .ok generation →
      server.session? submission.session = some view →
      generation ≤ view.applied →
      Fate submission server [request]
  | lost {request : Request} {generation : Nat} {fault : Fault} :
      submission.progress = .finished (.error fault) →
      request.answer = .ok generation →
      fault.isRevisionConflict = false →
      Fate submission server [request]

theorem Fate.log_eq_nil (fate : submission.Fate server log)
    (unsettled : submission.progress.isSettled = false) : log = [] := by
  cases fate with
  | undecided | nothing | refused => rfl
  | rejected progress | waiting progress | shown progress | lost progress =>
      rw [progress] at unsettled
      cases unsettled

theorem Fate.exists_of_waiting {generation : Nat}
    (fate : submission.Fate server log)
    (waiting : submission.progress = .waiting generation) :
    ∃ request, log = [request] ∧ request.answer = .ok generation := by
  cases fate with
  | undecided unsettled =>
      rw [waiting] at unsettled
      cases unsettled
  | waiting progress answered =>
      cases waiting.symm.trans progress
      exact ⟨_, rfl, answered⟩
  | nothing progress | refused progress | rejected progress | shown progress
  | lost progress => cases waiting.symm.trans progress

theorem Fate.run (fate : submission.Fate server log) (sound : server.Sound)
    (events : List Event) : submission.Fate (server.run events) log := by
  cases fate with
  | undecided unsettled => exact .undecided unsettled
  | nothing finished empty => exact .nothing finished empty
  | refused finished plain => exact .refused finished plain
  | rejected finished answered => exact .rejected finished answered
  | waiting progress answered => exact .waiting progress answered
  | lost finished answered plain => exact .lost finished answered plain
  | shown finished answered isOpen shows =>
      obtain ⟨last, final, _, _⟩ := Server.session?_run isOpen events
      exact .shown finished answered final
        (Nat.le_trans shows (sound.applied_run isOpen final))

/-- What a step asks for decides the submission. -/
theorem Fate.of_step (fate : submission.Fate server log)
    (step : submission.Step server next later) (number : Nat) :
    next.Fate later (log ++ (submission.request? number server).toList) := by
  have quiet : (submission.progress = .admitted →
      server.session? submission.session = none) →
      log ++ (submission.request? number server).toList = log := by
    intro unasked
    rw [request?_eq_none_iff.mpr unasked, Option.toList_none, List.append_nil]
  cases step with
  | idle unasked => exact (quiet unasked).symm ▸ fate
  | prepared preparing | admitted preparing =>
      rw [quiet (by rw [preparing]; exact nofun),
        fate.log_eq_nil (by rw [preparing]; rfl)]
      exact .undecided rfl
  | refused preparing reason =>
      rw [quiet (by rw [preparing]; exact nofun),
        fate.log_eq_nil (by rw [preparing]; rfl)]
      rcases reason with rfl | ⟨view, hook, failed⟩
      · exact .refused rfl rfl
      · exact .refused rfl (Transaction.isRevisionConflict_of_runHook failed)
  | nothing preparing empty =>
      rw [quiet (by rw [preparing]; exact nofun),
        fate.log_eq_nil (by rw [preparing]; rfl)]
      exact .nothing rfl empty
  | committed admitted done isOpen =>
      rw [request?_eq_some_iff.mpr ⟨admitted, isOpen, rfl⟩,
        fate.log_eq_nil (by rw [admitted]; rfl)]
      exact .waiting rfl (congrArg Prod.fst done)
  | rejected admitted failed isOpen =>
      rw [request?_eq_some_iff.mpr ⟨admitted, isOpen, rfl⟩,
        fate.log_eq_nil (by rw [admitted]; rfl)]
      exact .rejected rfl (congrArg Prod.fst failed)
  | shown waiting shows =>
      obtain ⟨view, isOpen, recent⟩ := shows
      obtain ⟨request, rfl, answered⟩ := fate.exists_of_waiting waiting
      rw [quiet (by rw [waiting]; exact nofun)]
      exact .shown rfl answered isOpen recent
  | lost waiting =>
      obtain ⟨request, rfl, answered⟩ := fate.exists_of_waiting waiting
      rw [quiet (by rw [waiting]; exact nofun)]
      exact .lost rfl answered rfl

end Submission

namespace Traffic

variable {traffic : Traffic} {moves : List Move} {number : Nat}
  {submission : Submission}

theorem fate_step {log : List Request} (sound : traffic.server.Sound)
    (here : traffic.submission? number = some submission)
    (fate : submission.Fate traffic.server log) (move : Move) :
    ∃ next, (traffic.step move).submission? number = some next ∧
      next.Fate (traffic.step move).server (log ++
        (traffic.request? move).toList.filter fun request =>
          request.asker = some number) := by
  obtain ⟨next, there, turn⟩ := submission?_step here move
  rcases turn with ⟨rfl, step⟩ | ⟨other, rest⟩
  · rw [own_request?_proceed, request?_proceed here]
    exact ⟨next, there, fate.of_step step number⟩
  · rw [own_request?_of_ne traffic other, List.append_nil]
    rcases rest with rfl | ⟨generation, span, waiting, rfl⟩
    · obtain ⟨events, ran⟩ := server_step traffic move
      exact ⟨_, there, ran ▸ fate.run sound events⟩
    · obtain ⟨request, rfl, answered⟩ := fate.exists_of_waiting waiting
      exact ⟨_, there, .lost rfl answered rfl⟩

/-- What becomes of a submission that is undecided at first. -/
theorem fate_run (sound : traffic.server.Sound)
    (here : traffic.submission? number = some submission)
    (undecided : submission.progress.isSettled = false) (moves : List Move) :
    ∃ last, (traffic.run moves).submission? number = some last ∧
      last.Fate (traffic.run moves).server
        (traffic.requestsOf moves number) := by
  let own (log : List Request) := log.filter fun request =>
    request.asker = some number
  -- Soundness goes along: with it no session shows less later on.
  refine (run_keeps (fun now log => now.server.Sound ∧ ∃ last,
    now.submission? number = some last ∧ last.Fate now.server (own log))
    ⟨sound, submission, here, .undecided undecided⟩ ?_).2
  rintro now log move _ ⟨sound, early, present, fate⟩
  obtain ⟨next, there, fate⟩ := fate_step sound present fate move
  refine ⟨sound_run sound [move], next, there, ?_⟩
  simpa only [own, List.filter_append] using fate

end Traffic

end OvsdbClient
