import OvsdbClient.Collection.SortedMap

/-!
# Sorted finite sets

A finite set is a sorted map whose entries carry nothing, so that sets with the
same members are equal.
-/

namespace OvsdbClient

/-- A finite set, stored in strictly increasing order. -/
structure SortedSet (α : Type) [Ord α] where
  entries : SortedMap α Unit
deriving DecidableEq

namespace SortedSet

variable {α : Type} [Ord α]

def empty : SortedSet α := ⟨.empty⟩

instance : Inhabited (SortedSet α) := ⟨empty⟩

def toList (set : SortedSet α) : List α := set.entries.keys

def contains (set : SortedSet α) (item : α) : Bool := set.entries.contains item

def insert [Std.TransOrd α] [Std.LawfulEqOrd α] (set : SortedSet α) (item : α) :
    SortedSet α :=
  ⟨set.entries.insert item ()⟩

def erase (set : SortedSet α) (item : α) : SortedSet α :=
  ⟨set.entries.erase item⟩

def ofList [Std.TransOrd α] [Std.LawfulEqOrd α] (items : List α) :
    SortedSet α :=
  items.foldl insert empty

@[simp] theorem contains_empty (item : α) :
    (empty : SortedSet α).contains item = false :=
  rfl

theorem contains_insert [Std.TransOrd α] [Std.LawfulEqOrd α] (set : SortedSet α)
    (item other : α) :
    (set.insert item).contains other = true ↔
      item = other ∨ set.contains other = true := by
  unfold contains insert SortedMap.contains
  by_cases same : item = other
  · subst same; simp
  · simp [SortedMap.get?_insert_of_ne _ same, same]

theorem contains_erase [Std.TransOrd α] [Std.LawfulEqOrd α] (set : SortedSet α)
    (item other : α) :
    (set.erase item).contains other = true ↔
      item ≠ other ∧ set.contains other = true := by
  unfold contains erase SortedMap.contains
  by_cases same : item = other
  · subst same; simp
  · simp [SortedMap.get?_erase_of_ne _ same, same]

/-- Sets with the same members are equal. -/
theorem ext_contains [Std.TransOrd α] [Std.LawfulEqOrd α]
    {left right : SortedSet α}
    (same : ∀ item, left.contains item = right.contains item) :
    left = right := by
  have entries : left.entries = right.entries := by
    refine SortedMap.ext_get? fun item => ?_
    have here := same item
    unfold contains SortedMap.contains at here
    cases onLeft : left.entries.get? item <;>
      cases onRight : right.entries.get? item <;>
      simp [onLeft, onRight] at here ⊢
  cases left
  cases right
  cases entries
  rfl

end SortedSet

end OvsdbClient
