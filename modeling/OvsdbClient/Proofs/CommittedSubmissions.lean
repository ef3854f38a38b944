import OvsdbClient.Proofs.NetworkRun
import OvsdbClient.Proofs.OptimisticConcurrency
import OvsdbClient.Proofs.Timing

/-!
# Submissions that commit

A submission ends with a commit if its server took the operations and its
replica shows them in time.  When that is does not depend on what was written,
as long as nobody else commits.
-/

namespace OvsdbClient

namespace Server

variable {server : Server} {operations : List Operation} {generation : Nat}

theorem session?_commit (number : Nat) :
    (server.commit operations).2.session? number = server.session? number := by
  rw [session?, (sessions_commit server operations).1]
  rfl

theorem bare_commit (done : (server.commit operations).1 = .ok generation)
    (writes : Database.touched operations ≠ []) :
    (server.commit operations).2.bare =
      { server.bare with
        database := ⟨.empty, server.generation + 1,
          server.bare.database.announcements.push
            ⟨server.generation + 1, []⟩⟩ } := by
  obtain ⟨accepts, database, committed, _⟩ := commit_eq_ok_iff.mp done
  obtain ⟨staged, _, rfl⟩ := Database.commit_eq_ok_iff.mp committed
  simp only [commit, accepts, committed, if_neg writes]
  simp [bare, Database.advance, Database.bare, Announcement.bare,
    Server.generation, accepts]

end Server

theorem Outcome.ofAnswer_eq_committed_iff {answer : Except Fault Unit} :
    ofAnswer answer = .ok .committed ↔ answer = .ok () := by
  cases answer with
  | ok shown => simp [ofAnswer]
  | error fault => cases fault <;> simp [ofAnswer]

namespace Network

variable {network : Network} {id : SessionId} {server : Server}
  {session : Session} {transaction prepared : Transaction}

/-- A session's replica shows all that was committed at its server before the
session's own timeout or a limit is up. -/
def ShowsInTime (network : Network) (id : SessionId) (limit : Span) : Prop :=
  ∃ server session, network.server? id.server = some server ∧
    server.session? id.number = some session ∧
    (network.await id server.generation session.options.timeout
      (some limit)).1 = .ok ()

theorem server?_commit (here : network.server? id.server = some server)
    (operations : List Operation) :
    (network.commit id.server operations).2.server? id.server =
      some (server.commit operations).2 := by
  have inside : id.server < network.servers.length :=
    (List.getElem?_eq_some_iff.mp here).1
  rw [commit_eq here]
  exact List.getElem?_set_self inside

theorem showsInTime_commit_iff {operations : List Operation} {generation : Nat}
    (here : network.server? id.server = some server)
    (isOpen : server.session? id.number = some session)
    (done : (server.commit operations).1 = .ok generation) (limit : Span) :
    (network.commit id.server operations).2.ShowsInTime id limit ↔
      ((network.commit id.server operations).2.await id generation
        session.options.timeout (some limit)).1 = .ok () := by
  have later := server?_commit here operations
  have still : (server.commit operations).2.session? id.number = some session :=
    (Server.session?_commit id.number).trans isOpen
  constructor
  · rintro ⟨found, opened, isFound, isOpened, shows⟩
    cases later.symm.trans isFound
    cases still.symm.trans isOpened
    rwa [Server.generation_commit done] at shows
  · intro shows
    refine ⟨_, _, later, still, ?_⟩
    rwa [Server.generation_commit done]

/-- A transaction commits if there is nothing to commit, or if the server
commits it and the session shows that in time. -/
theorem submit_eq_committed_iff
    (here : network.server? id.server = some server)
    (isOpen : server.session? id.number = some session)
    (ran : transaction.runHooks session = .ok prepared) :
    (network.submit id transaction).1 = .ok .committed ↔
      prepared.operations = [] ∨
        session.stopped = false ∧
        (∃ generation,
          (server.commit prepared.operations).1 = .ok generation) ∧
        (network.commit id.server prepared.operations).2.ShowsInTime id
          prepared.timeout := by
  have opened : network.session? id = some session :=
    session?_eq_some here isOpen
  unfold submit
  simp only [opened, ran, Transaction.isEmpty, List.isEmpty_iff]
  by_cases idle : prepared.operations = []
  · simp [idle]
  · simp only [idle, false_or, if_false, Outcome.ofAnswer_eq_committed_iff]
    unfold transact
    simp only [opened]
    cases stopped : session.stopped with
    | true => simp
    | false =>
        have answer : (network.commit id.server prepared.operations).1 =
            (server.commit prepared.operations).1 := by
          rw [commit_eq here]
        cases done : (server.commit prepared.operations).1 with
        | error fault =>
            have failed := answer.trans done
            generalize network.commit id.server prepared.operations = committed
              at failed ⊢
            obtain ⟨result, next⟩ := committed
            cases failed
            simp
        | ok generation =>
            have shown := showsInTime_commit_iff here isOpen done
              prepared.timeout
            have succeeded := answer.trans done
            generalize network.commit id.server prepared.operations = committed
              at succeeded shown ⊢
            obtain ⟨result, next⟩ := committed
            cases succeeded
            simp [shown]

/-- Until when a commit is shown does not depend on what it wrote, if no other
commit is to come. -/
theorem showsInTime_commit_congr {left right : List Operation}
    {leftGeneration rightGeneration : Nat} (quiet : network.Quiet)
    (here : network.server? id.server = some server)
    (isOpen : server.session? id.number = some session)
    (leftDone : (server.commit left).1 = .ok leftGeneration)
    (rightDone : (server.commit right).1 = .ok rightGeneration)
    (leftWrites : Database.touched left ≠ [])
    (rightWrites : Database.touched right ≠ []) (limit : Span) :
    (network.commit id.server left).2.ShowsInTime id limit ↔
      (network.commit id.server right).2.ShowsInTime id limit := by
  have servers := (Server.bare_commit leftDone leftWrites).trans
    (Server.bare_commit rightDone rightWrites).symm
  have networks : (network.commit id.server left).2.bare =
      (network.commit id.server right).2.bare := by
    simp only [commit_eq here, bare, List.map_set, servers]
  have generations : leftGeneration = rightGeneration := by
    have same := congrArg Server.generation servers
    change (server.commit left).2.generation =
      (server.commit right).2.generation at same
    rwa [Server.generation_commit leftDone,
      Server.generation_commit rightDone] at same
  have calm : ∀ operations, (network.commit id.server operations).2.Quiet := by
    intro operations
    rw [commit_eq here]
    exact quiet
  rw [showsInTime_commit_iff here isOpen leftDone,
    showsInTime_commit_iff here isOpen rightDone, ← await_bare _ (calm left),
    ← await_bare _ (calm right), networks, generations]

/-- The network once the operations of a transaction and of its hooks were
committed, before anything else happens. -/
def committing (network : Network) (id : SessionId)
    (transaction : Transaction) : Network :=
  match (network.session? id).map transaction.runHooks with
  | some (.ok prepared) =>
      if prepared.isEmpty then network
      else (network.commit id.server prepared.operations).2
  | _ => network

theorem committing_eq (here : network.server? id.server = some server)
    (isOpen : server.session? id.number = some session)
    (ran : transaction.runHooks session = .ok prepared) :
    network.committing id transaction =
      if prepared.operations = [] then network
      else (network.commit id.server prepared.operations).2 := by
  simp only [committing, session?_eq_some here isOpen, Option.map_some, ran,
    Transaction.isEmpty, List.isEmpty_iff]

end Network

end OvsdbClient
