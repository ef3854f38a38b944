import OvsdbClient.Collection.SortedMap

/-!
# Named locks

A server grants each lock to one session at a time; the others wait in the order
in which they asked.
-/

namespace OvsdbClient

/-- The holders of locks, and the sessions that wait for them, longest first. -/
structure LockTable where
  holders : SortedMap String Nat
  waiters : SortedMap String (List Nat)
deriving DecidableEq, Inhabited

namespace LockTable

def empty : LockTable := ⟨.empty, .empty⟩

def waiting (locks : LockTable) (name : String) : List Nat :=
  (locks.waiters.get? name).getD []

def holds (locks : LockTable) (name : String) (session : Nat) : Bool :=
  locks.holders.get? name = some session

/-- Grants a lock that is free, or puts a session at the end of those that wait.
A session that holds the lock or waits for it already stays where it is. -/
def request (locks : LockTable) (name : String) (session : Nat) : LockTable :=
  match locks.holders.get? name with
  | none => { locks with holders := locks.holders.insert name session }
  | some holder =>
      if holder = session ∨ session ∈ locks.waiting name then
        locks
      else
        let waiting := locks.waiting name ++ [session]
        { locks with waiters := locks.waiters.insert name waiting }

/-- Takes a session off a lock: it waits no longer, and if it was the holder,
the one that has waited longest becomes the holder. -/
def release (locks : LockTable) (name : String) (session : Nat) : LockTable :=
  let waiting := (locks.waiting name).filter (· ≠ session)
  let waiters := locks.waiters.modify name fun _ => waiting
  if locks.holds name session then
    match waiting with
    | next :: others =>
        ⟨locks.holders.insert name next, waiters.insert name others⟩
    | [] => ⟨locks.holders.erase name, waiters⟩
  else
    { locks with waiters }

end LockTable

end OvsdbClient
