import OvsdbClient.Database.Commit
import OvsdbClient.Notice
import OvsdbClient.Replica.Basic
import OvsdbClient.Schema.Selection
import OvsdbClient.Settings.Connection

/-!
# Sessions

A session follows the announcements of a server's database and applies them to
its replica, one at a time and in order, until it is stopped or abandoned.  Each
may be held back for a while before it is applied.  A session that has missed
too many announcements is filled anew instead.
-/

namespace OvsdbClient

/-- What has become of a session. -/
inductive SessionState where
  | following
  /-- Nobody uses the session any more.  It keeps its lock. -/
  | abandoned
  | stopped
deriving DecidableEq, Inhabited

/-- A client's end of a connection to a server. -/
structure Session where
  endpoint : Endpoint
  schema : DatabaseSchema
  options : SessionOptions
  replica : Replica
  /-- The generation of the database that the replica shows. -/
  applied : Nat
  /-- The number of announcements received so far. -/
  received : Nat
  /-- The announcement that was received last and is held back until a time. -/
  inHand : Option (Announcement × Nat)
  lock : Option String
  state : SessionState
deriving DecidableEq, Inhabited

namespace Session

/-- The most announcements that may wait to be received. -/
def backlogLimit : Nat := 1024

def snapshot (database : Database) : SortedMap String (List Row) :=
  database.tables.mapValues fun _ rows => rows.values

/-- A new session that follows the tables of a schema, filled from the
database. -/
def start (database : Database) (endpoint : Endpoint) (schema : DatabaseSchema)
    (options : SessionOptions) : Session where
  endpoint := endpoint
  schema := schema
  options := options
  replica := (Replica.ofTables schema.tableNames).reset (snapshot database)
  applied := database.generation
  received := database.announcements.size
  inHand := none
  lock := none
  state := .following

def stopped (session : Session) : Bool := session.state = .stopped

/-- A session that nobody uses any more follows no further. -/
def abandon (session : Session) : Session :=
  if session.state = .following then { session with state := .abandoned }
  else session

/-- The number of announcements that wait to be received. -/
def backlog (session : Session) (database : Database) : Nat :=
  database.announcements.size - session.received

/-- The session after it applied an announcement. -/
def apply (session : Session) (announcement : Announcement) : Session :=
  { session with
    replica := session.replica.apply announcement.update
    applied := announcement.generation
    inHand := none }

/-- The session after it was filled anew from the database. -/
def resync (session : Session) (database : Database) : Session :=
  { session with
    replica := session.replica.reset (snapshot database)
    applied := database.generation
    received := database.announcements.size }

/-- The session after it received an announcement, which is applied after a
delay. -/
def receive (session : Session) (announcement : Announcement) (delay : Span)
    (now : Nat) : Session :=
  let session := { session with received := session.received + 1 }
  if delay.nanos = 0 then
    session.apply announcement
  else
    { session with inHand := some (announcement, now + delay.ceilMillis) }

/-- What comes next in following the database, if it needs no waiting, and what
is reported then. -/
def proceed? (session : Session) (database : Database) (delay : Span)
    (now : Nat) : Option (Session × List Notice) :=
  match session.inHand with
  | some (announcement, due) =>
      if due ≤ now then some (session.apply announcement, []) else none
  | none =>
      if backlogLimit < session.backlog database then
        some (session.resync database,
          [.resynced (session.backlog database - backlogLimit)])
      else
        match database.announcements[session.received]? with
        | some announcement =>
            some (session.receive announcement delay now, [])
        | none => none

/-- What a session does next without waiting, if there is anything, and what it
reports. -/
def step? (session : Session) (database : Database) (delay : Span) (now : Nat) :
    Option (Session × List Notice) :=
  if session.state = .following then session.proceed? database delay now
  else none

/-- Does up to `fuel` things that need no waiting. -/
def steps (database : Database) (delay : Span) (now : Nat) :
    (fuel : Nat) → Session → Session × List Notice
  | 0, session => (session, [])
  | fuel + 1, session =>
      match session.step? database delay now with
      | some (session, notices) =>
          let (session, later) := steps database delay now fuel session
          (session, notices ++ later)
      | none => (session, [])

/-- The number of things that a session has left to do. -/
def workload (session : Session) (database : Database) : Nat :=
  2 * session.backlog database + if session.inHand.isSome then 1 else 0

/-- Does everything that needs no waiting. -/
def settle (session : Session) (database : Database) (delay : Span)
    (now : Nat) : Session × List Notice :=
  steps database delay now (session.workload database) session

/-- When a session does something next, if it only has to wait for that. -/
def due? (session : Session) : Option Nat :=
  if session.state = .following then session.inHand.map (·.2) else none

end Session

end OvsdbClient
