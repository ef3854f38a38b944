/-!
# Sorted finite maps

A finite map is kept as its list of entries in strictly increasing key order.
Listing a map is therefore listing its keys in order, and two maps that answer
every lookup alike are equal (`SortedMap.ext_get?`).
-/

namespace OvsdbClient

universe u v w

/-- A finite map, stored as its entries in strictly increasing key order. -/
structure SortedMap (κ : Type u) (ν : Type v) [Ord κ] where
  toList : List (κ × ν)
  ordered : toList.Pairwise fun earlier later => compare earlier.1 later.1 = .lt

namespace SortedMap

variable {κ : Type u} {ν : Type v} [Ord κ]

instance [DecidableEq κ] [DecidableEq ν] : DecidableEq (SortedMap κ ν) :=
  fun left right =>
  if same : left.toList = right.toList then
    .isTrue (by cases left; cases right; cases same; rfl)
  else
    .isFalse fun equal => same (congrArg toList equal)

def empty : SortedMap κ ν := ⟨[], .nil⟩

instance : Inhabited (SortedMap κ ν) := ⟨empty⟩

/-- The value of the first entry at `key`. -/
def lookupEntry (key : κ) : List (κ × ν) → Option ν
  | [] => none
  | (found, value) :: rest =>
      match compare key found with
      | .eq => some value
      | _ => lookupEntry key rest

def get? (map : SortedMap κ ν) (key : κ) : Option ν :=
  lookupEntry key map.toList

def contains (map : SortedMap κ ν) (key : κ) : Bool :=
  (map.get? key).isSome

def keys (map : SortedMap κ ν) : List κ :=
  map.toList.map (·.1)

def values (map : SortedMap κ ν) : List ν :=
  map.toList.map (·.2)

def size (map : SortedMap κ ν) : Nat :=
  map.toList.length

/-- Puts an entry in its place, over any entry at the same key. -/
def insertEntry (key : κ) (value : ν) : List (κ × ν) → List (κ × ν)
  | [] => [(key, value)]
  | (found, old) :: rest =>
      match compare key found with
      | .lt => (key, value) :: (found, old) :: rest
      | .eq => (key, value) :: rest
      | .gt => (found, old) :: insertEntry key value rest

theorem mem_insertEntry {key : κ} {value : ν} {entry : κ × ν}
    {entries : List (κ × ν)} (member : entry ∈ insertEntry key value entries) :
    entry = (key, value) ∨ entry ∈ entries := by
  induction entries with
  | nil => simpa [insertEntry] using member
  | cons head rest induction =>
      obtain ⟨found, old⟩ := head
      rw [insertEntry] at member
      split at member
      · simpa using member
      · simp only [List.mem_cons] at member ⊢
        exact member.imp id .inr
      · simp only [List.mem_cons] at member ⊢
        rcases member with here | later
        · exact .inr (.inl here)
        · exact (induction later).imp id .inr

theorem insertEntry_ordered [Std.TransOrd κ] [Std.LawfulEqOrd κ] {key : κ}
    {value : ν} {entries : List (κ × ν)}
    (ordered : entries.Pairwise fun earlier later =>
      compare earlier.1 later.1 = .lt) :
    (insertEntry key value entries).Pairwise fun earlier later =>
      compare earlier.1 later.1 = .lt := by
  induction entries with
  | nil => simp [insertEntry]
  | cons head rest induction =>
      obtain ⟨found, old⟩ := head
      obtain ⟨below, tail⟩ := List.pairwise_cons.1 ordered
      rw [insertEntry]
      split
      case h_1 less =>
        refine List.pairwise_cons.2 ⟨fun later member => ?_, ordered⟩
        rcases List.mem_cons.1 member with same | member
        · subst same; exact less
        · exact Std.TransCmp.lt_trans less (below later member)
      case h_2 equal =>
        cases Std.LawfulEqOrd.eq_of_compare equal
        exact List.pairwise_cons.2 ⟨below, tail⟩
      case h_3 greater =>
        refine List.pairwise_cons.2 ⟨fun later member => ?_, induction tail⟩
        rcases mem_insertEntry member with same | member
        · subst same; exact Std.OrientedCmp.gt_iff_lt.1 greater
        · exact below later member

def insert [Std.TransOrd κ] [Std.LawfulEqOrd κ] (map : SortedMap κ ν) (key : κ)
    (value : ν) : SortedMap κ ν :=
  ⟨insertEntry key value map.toList, insertEntry_ordered map.ordered⟩

/-- Keeps the entries that `keep` accepts. -/
def filter (map : SortedMap κ ν) (keep : κ → ν → Bool) : SortedMap κ ν :=
  ⟨map.toList.filter fun entry => keep entry.1 entry.2, map.ordered.filter _⟩

def erase (map : SortedMap κ ν) (key : κ) : SortedMap κ ν :=
  map.filter fun found _ => compare key found != .eq

/-- Stores a value at `key`, or drops what is there. -/
def put [Std.TransOrd κ] [Std.LawfulEqOrd κ] (map : SortedMap κ ν) (key : κ) :
    Option ν → SortedMap κ ν
  | some value => map.insert key value
  | none => map.erase key

/-- Applies `change` to every value. -/
def mapValues {ω : Type w} (map : SortedMap κ ν) (change : κ → ν → ω) :
    SortedMap κ ω :=
  ⟨map.toList.map fun entry => (entry.1, change entry.1 entry.2), by
    rw [List.pairwise_map]; exact map.ordered⟩

/-- Applies `change` to the value at `key`, if there is one. -/
def modify [Std.TransOrd κ] [Std.LawfulEqOrd κ] (map : SortedMap κ ν) (key : κ)
    (change : ν → ν) : SortedMap κ ν :=
  match map.get? key with
  | some value => map.insert key (change value)
  | none => map

/-- Stores every listed entry in turn, so that of several entries at one key the
last stays. -/
def insertAll [Std.TransOrd κ] [Std.LawfulEqOrd κ] (map : SortedMap κ ν)
    (entries : List (κ × ν)) : SortedMap κ ν :=
  entries.foldl (fun map entry => map.insert entry.1 entry.2) map

/-- The map of the listed entries, the last one winning at each key. -/
def ofList [Std.TransOrd κ] [Std.LawfulEqOrd κ] (entries : List (κ × ν)) :
    SortedMap κ ν :=
  empty.insertAll entries

/-- Applies `change`, which may fail, to every value in key order, up to the
first failure. -/
def traverse {κ ν ω ε : Type} [Ord κ] [Std.TransOrd κ] [Std.LawfulEqOrd κ]
    (map : SortedMap κ ν) (change : κ → ν → Except ε ω) :
    Except ε (SortedMap κ ω) := do
  let changed ← map.toList.mapM fun (key, value) =>
    return (key, ← change key value)
  return ofList changed

/-! ## What each operation does to lookups -/

@[simp] theorem get?_empty (key : κ) :
    (empty : SortedMap κ ν).get? key = none :=
  rfl

theorem lookupEntry_insertEntry_self [Std.TransOrd κ] (key : κ) (value : ν)
    (entries : List (κ × ν)) :
    lookupEntry key (insertEntry key value entries) = some value := by
  induction entries with
  | nil => simp [insertEntry, lookupEntry]
  | cons head rest induction =>
      obtain ⟨found, old⟩ := head
      rw [insertEntry]
      split
      · simp [lookupEntry]
      · simp [lookupEntry]
      · next greater => simp [lookupEntry, greater, induction]

theorem lookupEntry_insertEntry_of_ne [Std.TransOrd κ] [Std.LawfulEqOrd κ]
    {key other : κ} (differ : key ≠ other) (value : ν)
    (entries : List (κ × ν)) :
    lookupEntry other (insertEntry key value entries) =
      lookupEntry other entries := by
  have unequal : compare other key ≠ .eq := fun equal =>
    differ (Std.LawfulEqOrd.eq_of_compare equal).symm
  have skip : ∀ rest : List (κ × ν),
      lookupEntry other ((key, value) :: rest) = lookupEntry other rest := by
    intro rest
    rw [lookupEntry]
    split
    · next equal => exact absurd equal unequal
    · rfl
  induction entries with
  | nil => simpa [insertEntry] using skip []
  | cons head rest induction =>
      obtain ⟨found, old⟩ := head
      rw [insertEntry]
      split
      · exact skip _
      · next equal =>
          cases Std.LawfulEqOrd.eq_of_compare equal
          rw [skip, lookupEntry]
          split
          · next same => exact absurd same unequal
          · rfl
      · simp only [lookupEntry, induction]

@[simp] theorem get?_insert_self [Std.TransOrd κ] [Std.LawfulEqOrd κ]
    (map : SortedMap κ ν) (key : κ) (value : ν) :
    (map.insert key value).get? key = some value :=
  lookupEntry_insertEntry_self key value map.toList

theorem get?_insert_of_ne [Std.TransOrd κ] [Std.LawfulEqOrd κ]
    (map : SortedMap κ ν) {key other : κ} (differ : key ≠ other) (value : ν) :
    (map.insert key value).get? other = map.get? other :=
  lookupEntry_insertEntry_of_ne differ value map.toList

theorem mem_toList_of_get? [Std.LawfulEqOrd κ] {map : SortedMap κ ν} {key : κ}
    {value : ν} (found : map.get? key = some value) :
    (key, value) ∈ map.toList := by
  obtain ⟨entries, ordered⟩ := map
  simp only [get?] at found ⊢
  clear ordered
  induction entries with
  | nil => simp [lookupEntry] at found
  | cons head rest induction =>
      obtain ⟨at', old⟩ := head
      rw [lookupEntry] at found
      split at found
      · next equal =>
          cases Std.LawfulEqOrd.eq_of_compare equal
          cases found
          exact List.mem_cons_self
      · exact List.mem_cons_of_mem _ (induction found)

theorem get?_of_mem_toList [Std.TransOrd κ] {map : SortedMap κ ν} {key : κ}
    {value : ν} (member : (key, value) ∈ map.toList) :
    map.get? key = some value := by
  obtain ⟨entries, ordered⟩ := map
  simp only [get?] at member ⊢
  induction entries with
  | nil => simp at member
  | cons head rest induction =>
      obtain ⟨at', old⟩ := head
      obtain ⟨below, tail⟩ := List.pairwise_cons.1 ordered
      rcases List.mem_cons.1 member with same | later
      · cases same
        simp [lookupEntry]
      · have greater := Std.OrientedCmp.gt_iff_lt.2 (below _ later)
        simp only [lookupEntry]
        rw [greater]
        exact induction tail later

theorem get?_eq_some_iff [Std.TransOrd κ] [Std.LawfulEqOrd κ]
    {map : SortedMap κ ν} {key : κ} {value : ν} :
    map.get? key = some value ↔ (key, value) ∈ map.toList :=
  ⟨mem_toList_of_get?, get?_of_mem_toList⟩

theorem get?_filter [Std.TransOrd κ] [Std.LawfulEqOrd κ] (map : SortedMap κ ν)
    (keep : κ → ν → Bool) (key : κ) :
    (map.filter keep).get? key = (map.get? key).filter (keep key) := by
  apply Option.ext
  intro value
  simp [get?_eq_some_iff, filter, Option.filter_eq_some_iff]

@[simp] theorem get?_erase_self [Std.TransOrd κ] [Std.LawfulEqOrd κ]
    (map : SortedMap κ ν) (key : κ) : (map.erase key).get? key = none := by
  simp [erase, get?_filter]

theorem get?_erase_of_ne [Std.TransOrd κ] [Std.LawfulEqOrd κ]
    (map : SortedMap κ ν) {key other : κ} (differ : key ≠ other) :
    (map.erase key).get? other = map.get? other := by
  rw [erase, get?_filter]
  have unequal : (compare key other != .eq) = true := by
    simpa using fun equal => differ (Std.LawfulEqOrd.eq_of_compare equal)
  cases map.get? other <;> simp [unequal]

/-- Maps that answer every lookup alike are equal. -/
theorem ext_get? [Std.TransOrd κ] [Std.LawfulEqOrd κ]
    {left right : SortedMap κ ν}
    (same : ∀ key, left.get? key = right.get? key) : left = right := by
  have lists : left.toList = right.toList := by
    have perm : left.toList.Perm right.toList := by
      have distinct : ∀ map : SortedMap κ ν, map.toList.Nodup := fun map =>
        map.ordered.imp fun less equal => by
          subst equal
          simp at less
      refine (List.perm_ext_iff_of_nodup (distinct left) (distinct right)).2
        fun entry => ?_
      exact (get?_eq_some_iff.symm.trans (by rw [same])).trans get?_eq_some_iff
    refine perm.eq_of_pairwise (fun a b _ _ less greater => ?_)
      left.ordered right.ordered
    exact absurd (Std.TransCmp.lt_trans less greater) (by simp)
  cases left; cases right; cases lists; rfl

/-! ## Lookups after the other operations -/

section Lookups

variable [Std.TransOrd κ] [Std.LawfulEqOrd κ]

theorem get?_insert [DecidableEq κ] (map : SortedMap κ ν) (key other : κ)
    (value : ν) :
    (map.insert key value).get? other =
      if key = other then some value else map.get? other := by
  split
  case isTrue same => subst same; exact get?_insert_self map key value
  case isFalse differ => exact get?_insert_of_ne map differ value

theorem get?_erase [DecidableEq κ] (map : SortedMap κ ν) (key other : κ) :
    (map.erase key).get? other =
      if key = other then none else map.get? other := by
  split
  case isTrue same => subst same; exact get?_erase_self map key
  case isFalse differ => exact get?_erase_of_ne map differ

theorem get?_put [DecidableEq κ] (map : SortedMap κ ν) (key other : κ)
    (value : Option ν) :
    (map.put key value).get? other =
      if key = other then value else map.get? other := by
  cases value with
  | none => exact get?_erase map key other
  | some value => exact get?_insert map key other value

theorem get?_modify [DecidableEq κ] (map : SortedMap κ ν) (key other : κ)
    (change : ν → ν) :
    (map.modify key change).get? other =
      if key = other then (map.get? other).map change
      else map.get? other := by
  cases found : map.get? key with
  | none =>
      simp only [modify, found]
      split
      case isTrue same => subst same; simp [found]
      case isFalse => rfl
  | some value =>
      simp only [modify, found, get?_insert]
      split
      case isTrue same => subst same; simp [found]
      case isFalse => rfl

@[simp] theorem get?_mapValues {ω : Type w} (map : SortedMap κ ν)
    (change : κ → ν → ω) (key : κ) :
    (map.mapValues change).get? key = (map.get? key).map (change key) := by
  apply Option.ext
  intro value
  rw [get?_eq_some_iff, Option.map_eq_some_iff]
  constructor
  · intro member
    obtain ⟨⟨found, old⟩, stored, pair⟩ := List.mem_map.1 member
    cases pair
    exact ⟨old, get?_of_mem_toList stored, rfl⟩
  · rintro ⟨old, stored, rfl⟩
    exact List.mem_map.2 ⟨(key, old), mem_toList_of_get? stored, rfl⟩

omit [Std.TransOrd κ] [Std.LawfulEqOrd κ] in
@[simp] theorem toList_empty : (empty : SortedMap κ ν).toList = [] :=
  rfl

/-- Entries at other keys do not matter to a lookup. -/
theorem get?_insertAll_of_absent (map : SortedMap κ ν) {key : κ}
    {entries : List (κ × ν)} (absent : ∀ entry ∈ entries, entry.1 ≠ key) :
    (map.insertAll entries).get? key = map.get? key := by
  induction entries generalizing map with
  | nil => rfl
  | cons head rest induction =>
      obtain ⟨headDiffers, restDiffers⟩ := List.forall_mem_cons.1 absent
      exact (induction (map.insert head.1 head.2) restDiffers).trans
        (get?_insert_of_ne map headDiffers head.2)

/-- A key at which all listed values agree looks up that value. -/
theorem get?_insertAll_of_mem (map : SortedMap κ ν) {key : κ} {value : ν}
    {entries : List (κ × ν)} (member : (key, value) ∈ entries)
    (agree : ∀ other, (key, other) ∈ entries → other = value) :
    (map.insertAll entries).get? key = some value := by
  induction entries generalizing map with
  | nil => simp at member
  | cons head rest induction =>
      by_cases later : ∃ other, (key, other) ∈ rest
      · obtain ⟨other, stored⟩ := later
        cases agree other (List.mem_cons_of_mem _ stored)
        exact induction _ stored fun other stored =>
          agree other (List.mem_cons_of_mem _ stored)
      · have absent : ∀ entry ∈ rest, entry.1 ≠ key := by
          rintro ⟨found, other⟩ stored rfl
          exact later ⟨other, stored⟩
        rcases List.mem_cons.1 member with here | stored
        · subst here
          exact (get?_insertAll_of_absent _ absent).trans
            (get?_insert_self map key value)
        · exact absurd ⟨value, stored⟩ later

/-- Of several entries at a key, the last one stays. -/
theorem get?_insertAll [DecidableEq κ] (map : SortedMap κ ν)
    (entries : List (κ × ν)) (key : κ) :
    (map.insertAll entries).get? key =
      ((entries.filter fun entry => entry.1 = key).getLast?.map (·.2)).or
        (map.get? key) := by
  induction entries generalizing map with
  | nil => rfl
  | cons head rest induction =>
      refine (induction (map.insert head.1 head.2)).trans ?_
      rw [get?_insert]
      by_cases same : head.1 = key
      · simp only [same, List.filter_cons, decide_true, if_true,
          List.getLast?_cons]
        cases (rest.filter fun entry => entry.1 = key).getLast? <;> rfl
      · simp [same]

/-- Storing all entries of a map over another puts the former first. -/
@[simp] theorem get?_insertAll_toList (map other : SortedMap κ ν) (key : κ) :
    (map.insertAll other.toList).get? key =
      (other.get? key).or (map.get? key) := by
  cases found : other.get? key with
  | none =>
      refine get?_insertAll_of_absent map fun entry stored same => ?_
      have present : other.get? entry.1 = some entry.2 :=
        get?_of_mem_toList stored
      rw [same, found] at present
      cases present
  | some value =>
      refine get?_insertAll_of_mem map (mem_toList_of_get? found)
        fun other stored => ?_
      have present := get?_of_mem_toList stored
      rw [found] at present
      exact (Option.some.inj present).symm

@[simp] theorem ofList_toList (map : SortedMap κ ν) :
    ofList map.toList = map :=
  ext_get? fun key => by simp [ofList]

omit [Std.TransOrd κ] in
/-- At most one entry of a map has a given key. -/
theorem filter_toList_eq [DecidableEq κ] (map : SortedMap κ ν) (key : κ) :
    map.toList.filter (fun entry => entry.1 = key) =
      ((map.get? key).map fun value => (key, value)).toList := by
  obtain ⟨entries, ordered⟩ := map
  simp only [get?]
  induction entries with
  | nil => rfl
  | cons head rest induction =>
      obtain ⟨found, value⟩ := head
      obtain ⟨below, tail⟩ := List.pairwise_cons.1 ordered
      by_cases same : found = key
      · subst same
        have others : rest.filter (fun entry => entry.1 = found) = [] := by
          refine List.filter_eq_nil_iff.2 fun entry member => ?_
          have less := below entry member
          simp only [decide_eq_true_eq]
          rintro rfl
          simp at less
        simp [lookupEntry, others]
      · have skip : lookupEntry key ((found, value) :: rest) =
            lookupEntry key rest := by
          rw [lookupEntry]
          split
          · next equal =>
              exact absurd (Std.LawfulEqOrd.eq_of_compare equal).symm same
          · rfl
        simp [skip, same, induction tail]

omit [Std.TransOrd κ] [Std.LawfulEqOrd κ] in
theorem contains_eq_true_iff {map : SortedMap κ ν} {key : κ} :
    map.contains key = true ↔ ∃ value, map.get? key = some value :=
  Option.isSome_iff_exists

theorem mem_keys_iff {map : SortedMap κ ν} {key : κ} :
    key ∈ map.keys ↔ map.contains key = true := by
  rw [contains_eq_true_iff]
  constructor
  · intro member
    obtain ⟨⟨found, value⟩, stored, same⟩ := List.mem_map.1 member
    cases same
    exact ⟨value, get?_of_mem_toList stored⟩
  · rintro ⟨value, found⟩
    exact List.mem_map.2 ⟨(key, value), mem_toList_of_get? found, rfl⟩

omit [Std.LawfulEqOrd κ] in
theorem nodup_keys (map : SortedMap κ ν) : map.keys.Nodup := by
  refine List.pairwise_map.mpr (map.ordered.imp fun less same => ?_)
  rw [same] at less
  simp at less

theorem mem_values_iff {map : SortedMap κ ν} {value : ν} :
    value ∈ map.values ↔ ∃ key, map.get? key = some value := by
  simp [values, get?_eq_some_iff]

@[simp] theorem contains_mapValues {ω : Type w} (map : SortedMap κ ν)
    (change : κ → ν → ω) (key : κ) :
    (map.mapValues change).contains key = map.contains key := by
  simp [contains]

/-- Maps that hold the same keys list them alike. -/
theorem keys_eq_of_contains {ω : Type w} {left : SortedMap κ ν}
    {right : SortedMap κ ω}
    (same : ∀ key, left.contains key = right.contains key) :
    left.keys = right.keys := by
  have bare : left.mapValues (fun _ _ => ()) =
      right.mapValues fun _ _ => () := by
    refine ext_get? fun key => ?_
    have here := same key
    unfold contains at here
    cases onLeft : left.get? key <;> cases onRight : right.get? key <;>
      simp [onLeft, onRight] at here ⊢
  have keys := congrArg SortedMap.keys bare
  simp only [SortedMap.keys, mapValues, List.map_map] at keys
  exact keys

@[simp] theorem contains_modify [DecidableEq κ] (map : SortedMap κ ν)
    (key other : κ) (change : ν → ν) :
    (map.modify key change).contains other = map.contains other := by
  unfold contains
  rw [get?_modify]
  split <;> simp

theorem contains_insert [DecidableEq κ] (map : SortedMap κ ν) (key other : κ)
    (value : ν) :
    (map.insert key value).contains other =
      (decide (key = other) || map.contains other) := by
  unfold contains
  rw [get?_insert]
  split <;> simp [*]

theorem contains_insertAll_iff [DecidableEq κ] (map : SortedMap κ ν) (key : κ)
    (entries : List (κ × ν)) :
    (map.insertAll entries).contains key = true ↔
      (∃ entry ∈ entries, entry.1 = key) ∨ map.contains key = true := by
  induction entries generalizing map with
  | nil => simp [insertAll]
  | cons head rest induction =>
      refine (induction (map.insert head.1 head.2)).trans ?_
      simp only [contains_insert, Bool.or_eq_true, decide_eq_true_eq,
        List.mem_cons, exists_eq_or_imp, or_assoc]
      exact or_left_comm

theorem contains_insertAll_toList (map other : SortedMap κ ν) (key : κ) :
    (map.insertAll other.toList).contains key =
      (other.contains key || map.contains key) := by
  simp [contains]

end Lookups

end SortedMap

end OvsdbClient
