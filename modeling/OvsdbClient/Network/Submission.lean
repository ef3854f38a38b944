import OvsdbClient.Network.Schedule
import OvsdbClient.Retry.Run

/-!
# Submitting transactions

Operations are committed at once, and the submitter then waits until its own
replica shows the commit.
-/

namespace OvsdbClient.Network

/-- Whether a session's replica shows a generation. -/
def shows (network : Network) (id : SessionId) (generation : Nat) : Bool :=
  (network.session? id).any fun session => generation ≤ session.applied

/-- Whether a session has been stopped. -/
def isStopped (network : Network) (id : SessionId) : Bool :=
  (network.session? id).all (·.stopped)

/-- Waits until a session's replica shows a generation, for as long as the
session's timeout says and no longer than `limit`.  Of two limits that end
together the session's own counts. -/
def await (network : Network) (id : SessionId) (generation : Nat)
    (timeout : Span) (limit : Option Span) : Except Fault Unit × Network :=
  let allowed :=
    match limit with
    | some limit =>
        if limit.ceilMillis < timeout.ceilMillis then limit else timeout
    | none => timeout
  if network.shows id generation then
    (.ok (), network)
  else if allowed.nanos = 0 then
    (.error (.timeout allowed), network)
  else
    let ended (network : Network) :=
      network.shows id generation || network.isStopped id
    let network := network.runUntil ended (network.clock + allowed.ceilMillis)
    if network.shows id generation then
      (.ok (), network)
    else if network.isStopped id then
      (.error .connectionClosed, network)
    else
      (.error (.timeout allowed), network)

/-- Commits operations through a session and waits until its replica shows
them. -/
def transact (network : Network) (id : SessionId) (operations : List Operation)
    (limit : Option Span) : Except Fault Unit × Network :=
  match network.session? id with
  | none => (.error .connectionClosed, network)
  | some session =>
      if session.stopped then
        (.error .connectionClosed, network)
      else
        match network.commit id.server operations with
        | (.error fault, network) => (.error fault, network)
        | (.ok generation, network) =>
            network.await id generation session.options.timeout limit

/-- Runs the hooks of a transaction and submits it; a transaction without
operations is committed as it is. -/
def submit (network : Network) (id : SessionId) (transaction : Transaction) :
    Except Fault Outcome × Network :=
  match network.session? id with
  | none => (.error .connectionClosed, network)
  | some session =>
      match transaction.runHooks session with
      | .error fault => (.error fault, network)
      | .ok transaction =>
          if transaction.isEmpty then
            (.ok .committed, network)
          else
            let (answer, network) := network.transact id transaction.operations
              (some transaction.timeout)
            (Outcome.ofAnswer answer, network)

/-- Looks a row up by value in a session's replica, and again as the row may yet
appear there, as a policy says; nothing if `fuel` attempts do not settle it. -/
def awaitRow? (network : Network) (id : SessionId) (policy : RetryPolicy)
    (table column : String) (atom : Atom) (fuel : Nat)
    (draws : Draws := .zero) : Option (Except Fault Row × Network) :=
  let lookup : Retriable Network Row := {
    clock := Network.clock
    attempt := fun network =>
      match network.session? id with
      | some session => (session.rowByValue table column atom, network)
      | none => (.error .connectionClosed, network)
    pause := fun _ delay network => network.advance delay }
  lookup.run? policy Fault.isRowNotFound fuel network draws

end OvsdbClient.Network
