import OvsdbClient.Lock
import OvsdbClient.Server.Session

/-!
# Servers

A server holds one database, its locks, and its sessions, which are numbered in
the order in which they were opened.  For trying out a client it can be told to
fail and to hold announcements back.
-/

namespace OvsdbClient

/-- A server with its sessions. -/
structure Server where
  schema : DatabaseSchema
  database : Database
  locks : LockTable
  sessions : List Session
  /-- How many further requests for the schema fail. -/
  outages : Nat
  /-- Why the next commit fails. -/
  rejection : Option String
  /-- How long a session holds an announcement back. -/
  delay : Span
deriving DecidableEq, Inhabited

namespace Server

/-- A server with an empty database. -/
def ofSchema (schema : DatabaseSchema) : Server where
  schema := schema
  database := .ofSchema schema
  locks := .empty
  sessions := []
  outages := 0
  rejection := none
  delay := .zero

def generation (server : Server) : Nat := server.database.generation

/-- Commits operations, and answers the generation the database is at
afterwards. -/
def commit (server : Server) (operations : List Operation) :
    Except Fault Nat × Server :=
  match server.rejection with
  | some reason =>
      (.error (.transactionRejected reason), { server with rejection := none })
  | none =>
      match server.database.commit server.schema operations with
      | .ok database => (.ok database.generation, { server with database })
      | .error fault => (.error fault, server)

/-- Answers a request for the schema with a name, made at an endpoint. -/
def fetchSchema (server : Server) (endpoint : Endpoint) (schema : String) :
    Except Fault Selection × Server :=
  if server.outages ≠ 0 then
    let reset := endpoint.text ++ ": connection reset by peer"
    (.error (.connectionUnavailable schema reset),
      { server with outages := server.outages - 1 })
  else if server.schema.name ≠ schema then
    (.error (.schemaNotFound schema), server)
  else
    (.ok (.ofSchema server.schema), server)

/-- Opens a session, and answers its number. -/
def openSession (server : Server) (endpoint : Endpoint)
    (schema : DatabaseSchema) (options : SessionOptions) : Nat × Server :=
  let session := Session.start server.database endpoint schema options
  (server.sessions.length,
    { server with sessions := server.sessions ++ [session] })

def session? (server : Server) (number : Nat) : Option Session :=
  server.sessions[number]?

def modifySession (server : Server) (number : Nat)
    (change : Session → Session) : Server :=
  { server with sessions := server.sessions.modify number change }

/-- Asks for a lock on behalf of a session, which gives up the lock it asked for
before. -/
def setLock (server : Server) (number : Nat) (name : String) : Server :=
  let previous := (server.session? number).bind (·.lock)
  let freed :=
    match previous with
    | some held =>
        if held = name then server.locks else server.locks.release held number
    | none => server.locks
  { server with locks := freed.request name number }.modifySession number
    fun session => { session with lock := some name }

/-- Whether a session holds the lock that it asked for last. -/
def hasLock (server : Server) (number : Nat) : Bool :=
  match (server.session? number).bind (·.lock) with
  | some name => server.locks.holds name number
  | none => false

/-- Stops a session, which gives up its lock. -/
def stopSession (server : Server) (number : Nat) : Server :=
  let locks :=
    match (server.session? number).bind (·.lock) with
    | some name => server.locks.release name number
    | none => server.locks
  { server with locks }.modifySession number
    fun session => { session with state := .stopped }

/-- Lets every session do what it can without waiting. -/
def settle (server : Server) (now : Nat) : Server × List Notice :=
  let settled := server.sessions.map fun session =>
    session.settle server.database server.delay now
  ({ server with sessions := settled.map (·.1) }, settled.flatMap (·.2))

/-- The number of things that the sessions have left to do. -/
def workload (server : Server) : Nat :=
  server.sessions.foldl
    (fun total session => total + session.workload server.database) 0

/-- When a session does something next. -/
def due? (server : Server) : Option Nat :=
  (server.sessions.filterMap Session.due?).min?

end Server

end OvsdbClient
