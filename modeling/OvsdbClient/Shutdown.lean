import OvsdbClient.Notice

/-!
# Shutdown

A registry owns what must be stopped in the end.  Shutdown happens once and
stops the newest first; what registers itself afterwards is stopped at once.
-/

namespace OvsdbClient

/-- How things of a kind are named and stopped in a state that changes.
Stopping answers whether it was clean. -/
structure Stopping (σ κ : Type) where
  name : σ → κ → String
  stop : σ → κ → Bool × σ

/-- What is owned, oldest first, and whether shutdown has happened. -/
structure Registry (κ : Type) where
  owned : List κ
  closed : Bool

namespace Registry

variable {σ κ : Type}

def empty : Registry κ := ⟨[], false⟩

/-- Hands something over to a registry; after shutdown it is stopped at once,
and the answer is whether that was clean. -/
def register (registry : Registry κ) (stopping : Stopping σ κ) (state : σ)
    (item : κ) : Bool × Registry κ × σ × List Notice :=
  if registry.closed then
    let (clean, after) := stopping.stop state item
    (clean, registry, after, [.registeredLate (stopping.name state item)])
  else
    (true, { registry with owned := registry.owned ++ [item] }, state, [])

/-- Stops things in the order listed, and answers whether all of it was clean,
with a notice for each that was not. -/
def stopAll (stopping : Stopping σ κ) : List κ → σ → Bool × σ × List Notice
  | [], state => (true, state, [])
  | item :: items, state =>
      let (clean, after) := stopping.stop state item
      let notices :=
        if clean then []
        else [Notice.stoppedUncleanly (stopping.name after item)]
      let (others, after, later) := stopAll stopping items after
      (clean && others, after, notices ++ later)

/-- Stops everything that is owned, newest first.  Only the first shutdown does
anything. -/
def shutdown (registry : Registry κ) (stopping : Stopping σ κ) (state : σ) :
    Bool × Registry κ × σ × List Notice :=
  if registry.closed then
    (true, registry, state, [])
  else
    let (clean, state, notices) := stopAll stopping registry.owned.reverse state
    (clean, ⟨[], true⟩, state, notices)

end Registry

end OvsdbClient
