import OvsdbClient.Proofs.Traffic

/-!
# Filling transactions

Before a transaction is submitted its client fills it.  It reads what its
session shows, as often as it likes, and in the end hands the transaction over
or gives up.  Any number of clients do so side by side, with the traffic of the
server in between.
-/

namespace OvsdbClient

/-- What a client does until it submits a transaction or fails. -/
inductive Filling where
  | read (next : Session → Filling)
  | submit (transaction : Transaction)
  | giveUp (fault : Fault)

/-- A transaction that a client fills at the session with a number, and what has
become of it. -/
inductive Draft where
  | filling (session : Nat) (filling : Filling)
  | submitted (submission : Nat)
  | failed (fault : Fault)

def Draft.proceed (draft : Draft) (traffic : Traffic) : Draft × Traffic :=
  match draft with
  | .filling session (.read next) =>
      match traffic.server.session? session with
      | some view => (.filling session (next view), traffic)
      | none => (draft, traffic)
  | .filling session (.submit transaction) =>
      (.submitted traffic.submissions.length,
        traffic.step (.submit session transaction))
  | .filling _ (.giveUp fault) => (.failed fault, traffic)
  | .submitted _ | .failed _ => (draft, traffic)

/-- The traffic at a server, and the drafts of its clients. -/
structure Desk where
  traffic : Traffic
  drafts : List Draft

inductive Act where
  | move (move : Move)
  | draft (session : Nat) (filling : Filling)
  | proceed (draft : Nat)

namespace Desk

def ofServer (server : Server) : Desk := ⟨.ofServer server, []⟩

def draft? (desk : Desk) (number : Nat) : Option Draft := desk.drafts[number]?

def step (desk : Desk) : Act → Desk
  | .move move => { desk with traffic := desk.traffic.step move }
  | .draft session filling =>
      { desk with drafts := desk.drafts ++ [.filling session filling] }
  | .proceed number =>
      match desk.draft? number with
      | some draft =>
          let (draft, traffic) := draft.proceed desk.traffic
          ⟨traffic, desk.drafts.set number draft⟩
      | none => desk

def run (desk : Desk) (acts : List Act) : Desk := acts.foldl step desk

theorem run_append (desk : Desk) (first second : List Act) :
    desk.run (first ++ second) = (desk.run first).run second :=
  List.foldl_append

variable {desk : Desk} {acts : List Act} {number : Nat}

/-- The traffic at a desk is a run like any other. -/
theorem traffic_run (desk : Desk) (acts : List Act) :
    ∃ moves, (desk.run acts).traffic = desk.traffic.run moves := by
  have drafts : ∀ (draft : Draft) (traffic : Traffic),
      ∃ moves, (draft.proceed traffic).2 = traffic.run moves := by
    intro draft traffic
    unfold Draft.proceed
    split
    · split <;> exact ⟨[], rfl⟩
    · exact ⟨[.submit _ _], rfl⟩
    all_goals exact ⟨[], rfl⟩
  have one : ∀ (desk : Desk) (act : Act),
      ∃ moves, (desk.step act).traffic = desk.traffic.run moves := by
    intro desk act
    cases act with
    | move move => exact ⟨[move], rfl⟩
    | draft session filling => exact ⟨[], rfl⟩
    | proceed number =>
        simp only [step]
        split
        · exact drafts _ _
        · exact ⟨[], rfl⟩
  induction acts generalizing desk with
  | nil => exact ⟨[], rfl⟩
  | cons act acts induction =>
      obtain ⟨first, begun⟩ := one desk act
      obtain ⟨rest, ran⟩ := induction (desk.step act)
      refine ⟨first ++ rest, ?_⟩
      rw [Traffic.run_append, ← begun]
      exact ran

theorem draft?_step_of_submitted {submission : Nat}
    (here : desk.draft? number = some (.submitted submission)) (act : Act) :
    (desk.step act).draft? number = some (.submitted submission) := by
  obtain ⟨low, _⟩ := List.getElem?_eq_some_iff.mp here
  cases act with
  | move move => exact here
  | draft session filling => exact (List.getElem?_append_left low).trans here
  | proceed other =>
      by_cases same : other = number
      · subst same
        simp only [step, here]
        exact List.getElem?_set_self low
      · simp only [step]
        split
        · exact (List.getElem?_set_ne same).trans here
        · exact here

theorem draft?_run_of_submitted {submission : Nat}
    (here : desk.draft? number = some (.submitted submission))
    (acts : List Act) :
    (desk.run acts).draft? number = some (.submitted submission) := by
  induction acts generalizing desk with
  | nil => exact here
  | cons act acts induction =>
      exact induction (draft?_step_of_submitted here act)

theorem traffic_step_proceed (desk : Desk) (number : Nat) :
    (desk.step (.proceed number)).traffic = desk.traffic ∨
      ∃ submission, (desk.step (.proceed number)).draft? number =
        some (.submitted submission) := by
  simp only [step]
  split
  case h_2 => exact .inl rfl
  case h_1 draft here =>
    obtain ⟨low, _⟩ := List.getElem?_eq_some_iff.mp here
    unfold Draft.proceed
    split
    case h_1 => split <;> exact .inl rfl
    case h_2 => exact .inr ⟨_, List.getElem?_set_self low⟩
    all_goals exact .inl rfl

/-- A client that failed to fill its transaction has not changed anything at the
server by any of its steps, nor submitted anything there. -/
theorem traffic_eq_of_failed {past : List Act} {fault : Fault}
    (final : (desk.run acts).draft? number = some (.failed fault))
    (before : past ++ [.proceed number] <+: acts) :
    (desk.run (past ++ [.proceed number])).traffic =
      (desk.run past).traffic := by
  obtain ⟨future, rfl⟩ := before
  rw [run_append] at final ⊢
  rcases traffic_step_proceed (desk.run past) number with same |
    ⟨submission, submitted⟩
  · exact same
  · have still := draft?_run_of_submitted submitted future
    rw [run_append] at final
    cases still.symm.trans final

end Desk

end OvsdbClient
