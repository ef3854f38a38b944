import OvsdbClient.Replica.Update

/-!
# Replicas

A client's copy of some tables of a database.  Which tables it has never
changes; what announces itself about others is dropped.
-/

namespace OvsdbClient

/-- A copy of some tables, and how often it was changed from outside. -/
structure Replica where
  tables : Tables
  seqno : Nat
deriving DecidableEq, Inhabited

namespace Replica

/-- The empty copy of the named tables. -/
def ofTables (tables : List String) : Replica :=
  ⟨.ofList (tables.map (·, .empty)), 0⟩

def hasTable (replica : Replica) (table : String) : Bool :=
  replica.tables.contains table

/-- The rows of a copied table in the order of their identifiers. -/
def rows? (replica : Replica) (table : String) : Option (List Row) :=
  (replica.tables.get? table).map (·.values)

/-- The rows of a table, none if it is not copied. -/
def rows (replica : Replica) (table : String) : List Row :=
  replica.tables.rows table

def get? (replica : Replica) (table : String) (uuid : Uuid) : Option Row :=
  replica.tables.row? table uuid

/-- The rows of a table that `accept` accepts. -/
def find (replica : Replica) (table : String) (accept : Row → Bool) :
    List Row :=
  (replica.rows table).filter accept

/-- Some row of a table that `accept` accepts. -/
def findFirst? (replica : Replica) (table : String) (accept : Row → Bool) :
    Option Row :=
  (replica.rows table).find? accept

/-- Some row of a table. -/
def first? (replica : Replica) (table : String) : Option Row :=
  (replica.rows table).head?

def size (replica : Replica) (table : String) : Nat :=
  (replica.rows table).length

/-- The copy after an update. -/
def apply (replica : Replica) (update : Update) : Replica :=
  ⟨replica.tables.applyUpdate update, replica.seqno + 1⟩

/-- The copy with the rows of a snapshot instead of its own. -/
def reset (replica : Replica) (snapshot : SortedMap String (List Row)) :
    Replica :=
  ⟨replica.tables.mapValues fun table _ =>
      .ofList (((snapshot.get? table).getD []).map fun row => (row.uuid, row)),
    replica.seqno + 1⟩

/-- The copy without any rows. -/
def clear (replica : Replica) : Replica :=
  { replica with tables := replica.tables.mapValues fun _ _ => .empty }

end Replica

end OvsdbClient
