import OvsdbClient.Server.Session

/-!
# Transactions

A transaction queues operations, each checked against the tables that its
session follows, to be submitted all at once.  Hooks add operations of their own
when it is.
-/

namespace OvsdbClient

/-- How a submitted transaction ended if it did not fail. -/
inductive Outcome where
  | committed
  /-- It lost a race for a row, and nothing was applied. -/
  | abortedConflict (reason : String)
deriving DecidableEq, Inhabited

def Outcome.toJson : Outcome → Json
  | .committed =>
      .record [("outcome", .string "committed"), ("committed", .bool true)]
  | .abortedConflict reason =>
      .record [("outcome", .string "aborted"), ("committed", .bool false),
        ("reason", .string reason)]

/-- The outcome of a submission by the answer to it.  A revision conflict is an
outcome, every other failure a fault. -/
def Outcome.ofAnswer : Except Fault Unit → Except Fault Outcome
  | .ok () => .ok .committed
  | .error (.revisionConflict reason) => .ok (.abortedConflict reason)
  | .error fault => .error fault

/-- Increments a counter in the only row of a table when a transaction is
submitted. -/
structure CounterHook where
  table : String
  column : String
deriving DecidableEq, Inhabited

/-- Queued operations, with the time that submitting them may take. -/
structure Transaction where
  timeout : Span
  operations : List Operation
  hooks : List CounterHook
deriving DecidableEq, Inhabited

/-- What stands for the row in faults about a table that should have one row. -/
def globalRow : String := "global row"

namespace Session

/-- The shape of a followed table. -/
def checkTable (session : Session) (table : String) :
    Except Fault TableSchema :=
  orFault (.tableNotFound table) (session.schema.table? table)

/-- Whether a followed table has a column. -/
def checkColumn (session : Session) (table column : String) :
    Except Fault Unit := do
  let schema ← session.checkTable table
  if schema.hasColumn column then
    return ()
  else
    throw (.columnNotFound table column)

/-- The replica's copy of a row. -/
def lookup (session : Session) (table : String) (uuid : Uuid) :
    Except Fault Row := do
  let _ ← session.checkTable table
  orFault (.recordNotFound table uuid.text) (session.replica.get? table uuid)

/-- A row whose column is, or as a set holds, the given atom. -/
def rowByValue (session : Session) (table column : String) (atom : Atom) :
    Except Fault Row := do
  let _ ← session.checkTable table
  orFault (.rowNotFound table column atom.text)
    (session.replica.findFirst? table (·.holds column atom))

def onlyRow (session : Session) (table : String) : Except Fault Row := do
  let _ ← session.checkTable table
  orFault (.recordNotFound table globalRow) (session.replica.first? table)

def listRows (session : Session) (table : String) :
    Except Fault (List Row) := do
  let _ ← session.checkTable table
  return session.replica.rows table

/-- The rows of a table whose column refers to an owner. -/
def findReferencing (session : Session) (table column : String) (owner : Uuid) :
    Except Fault (List Row) := do
  let _ ← session.checkTable table
  return session.replica.find table (·.references column owner)

end Session

namespace Transaction

def empty (timeout : Span) : Transaction := ⟨timeout, [], []⟩

def isEmpty (transaction : Transaction) : Bool := transaction.operations.isEmpty

def withHook (transaction : Transaction) (hook : CounterHook) : Transaction :=
  { transaction with hooks := transaction.hooks ++ [hook] }

def push (transaction : Transaction) (operation : Operation) : Transaction :=
  { transaction with operations := transaction.operations ++ [operation] }

/-- The columns given for a row, all of which its table must have; the first
that it lacks is named. -/
def collectColumns (session : Session) (table : String)
    (columns : List (String × Value)) :
    Except Fault (SortedMap String Value) := do
  let schema ← session.checkTable table
  match columns.find? fun (name, _) => !schema.hasColumn name with
  | some (name, _) => throw (.columnNotFound table name)
  | none => return .ofList columns

def insert (transaction : Transaction) (session : Session) (fresh : Uuid)
    (table : String) (columns : List (String × Value)) :
    Except Fault Transaction := do
  let columns ← collectColumns session table columns
  return transaction.push (.insert table fresh columns)

def update (transaction : Transaction) (session : Session) (table : String)
    (uuid : Uuid) (columns : List (String × Value)) :
    Except Fault Transaction := do
  let columns ← collectColumns session table columns
  return transaction.push (.update table uuid columns)

def delete (transaction : Transaction) (session : Session) (table : String)
    (uuid : Uuid) : Except Fault Transaction := do
  let _ ← session.checkTable table
  return transaction.push (.delete table uuid)

def mutate (transaction : Transaction) (session : Session) (table : String)
    (uuid : Uuid) (column : String) (mutation : Mutation) :
    Except Fault Transaction := do
  session.checkColumn table column
  return transaction.push (.mutate table uuid column mutation)

/-- Queues a new value at a key of a map column. -/
def setKey (transaction : Transaction) (session : Session) (table : String)
    (uuid : Uuid) (column key value : String) : Except Fault Transaction :=
  transaction.mutate session table uuid column (.mapSet key value)

/-- Queues the removal of a key of a map column. -/
def deleteKey (transaction : Transaction) (session : Session) (table : String)
    (uuid : Uuid) (column key : String) : Except Fault Transaction :=
  transaction.mutate session table uuid column (.mapDelete key)

/-- Makes the transaction conditional on a row being as it was seen. -/
def verify (transaction : Transaction) (session : Session) (table : String)
    (seen : Row) : Except Fault Transaction := do
  let _ ← session.checkTable table
  return transaction.push (.verify table seen.uuid seen.revision)

/-- Queues what a hook adds. -/
def runHook (transaction : Transaction) (session : Session)
    (hook : CounterHook) : Except Fault Transaction := do
  session.checkColumn hook.table hook.column
  let row ← session.onlyRow hook.table
  transaction.mutate session hook.table row.uuid hook.column (.increment 1)

/-- Queues what the hooks add, in order. -/
def runHooks (transaction : Transaction) (session : Session) :
    Except Fault Transaction :=
  transaction.hooks.foldlM
    (fun transaction hook => transaction.runHook session hook) transaction

end Transaction

end OvsdbClient
