import OvsdbClient.Proofs.Staging

/-!
# Tables that agree but for some maps

Two tables may differ in what the maps in some columns hold, and in whether they
are there yet.  An operation that succeeds on one of them then succeeds on the
other, unless it is a mutation in such a column, and they still differ in
nothing else.
-/

namespace OvsdbClient

/-- A map, or nothing yet. -/
inductive Value.Maplike : Option Value → Prop where
  | missing : Maplike none
  | map (entries : SortedMap String String) : Maplike (some (.map entries))

/-- Values that are the same, or maps or nothing where maps may differ. -/
def Value.Alike (loose : Prop) (left right : Option Value) : Prop :=
  left = right ∨ loose ∧ Maplike left ∧ Maplike right

/-- Rows that differ in maps only, and only in some columns. -/
structure Row.Alike (loose : String → Prop) (left right : Row) : Prop where
  uuid : left.uuid = right.uuid
  revision : left.revision = right.revision
  columns : ∀ column, Value.Alike (loose column) (left.columns.get? column)
    (right.columns.get? column)

/-- What is stored at two places: nothing, or rows that differ in maps only. -/
inductive Row.StoredAlike (loose : String → Prop) :
    Option Row → Option Row → Prop where
  | none : StoredAlike loose none none
  | some {left right : Row} :
      left.Alike loose right → StoredAlike loose (some left) (some right)

/-- Tables with the same rows, up to maps in some columns. -/
def Tables.Alike (loose : String → String → Prop) (left right : Tables) :
    Prop :=
  ∀ table uuid, Row.StoredAlike (loose table) (left.row? table uuid)
    (right.row? table uuid)

namespace Row

variable {loose : String → Prop} {left right : Row}

theorem Alike.refl (row : Row) : row.Alike loose row :=
  ⟨rfl, rfl, fun _ => .inl rfl⟩

theorem StoredAlike.refl (stored : Option Row) :
    StoredAlike loose stored stored := by
  cases stored with
  | none => exact .none
  | some row => exact .some (.refl row)

theorem Alike.insert {column : String} {value other : Value}
    (alike : left.Alike loose right)
    (values : Value.Alike (loose column) (some value) (some other)) :
    Alike loose { left with columns := left.columns.insert column value }
      { right with columns := right.columns.insert column other } := by
  refine ⟨alike.uuid, alike.revision, fun another => ?_⟩
  simp only [SortedMap.get?_insert]
  by_cases same : column = another
  · subst same
    simpa using values
  · rw [if_neg same, if_neg same]
    exact alike.columns another

theorem Alike.insert_right {column : String} {value : Value}
    (alike : left.Alike loose right) (allowed : loose column)
    (before : Value.Maplike (right.columns.get? column))
    (after : Value.Maplike (some value)) :
    left.Alike loose
      { right with columns := right.columns.insert column value } := by
  refine ⟨alike.uuid, alike.revision, fun another => ?_⟩
  simp only [SortedMap.get?_insert]
  by_cases same : column = another
  · subst same
    rw [if_pos rfl]
    refine .inr ⟨allowed, ?_, after⟩
    rcases alike.columns column with equal | ⟨_, maplike, _⟩
    · rw [equal]
      exact before
    · exact maplike
  · rw [if_neg same]
    exact alike.columns another

end Row

namespace Mutation

/-- Whether a mutation is one of maps. -/
def isOfMaps : Mutation → Bool
  | .mapSet .. | .mapDelete _ => true
  | _ => false

variable {mutation : Mutation} {value other : Value}

/-- Mutations of maps apply to maps, and count nothing as an empty one. -/
theorem exists_result?_iff_maplike (ofMaps : mutation.isOfMaps = true)
    (value : Option Value) :
    (∃ other, mutation.result? value = some other) ↔ Value.Maplike value := by
  cases mutation with
  | increment | setAdd | setRemove => cases ofMaps
  | mapSet | mapDelete =>
      constructor
      · rintro ⟨other, done⟩
        match value with
        | none => exact .missing
        | some (.map entries) => exact .map entries
        | some (.atom _) | some (.set _) => cases done
      · intro maplike
        cases maplike <;> exact ⟨_, rfl⟩

theorem maplike_of_result? {before : Option Value}
    (ofMaps : mutation.isOfMaps = true)
    (done : mutation.result? before = some value) :
    Value.Maplike (some value) := by
  have maplike := (exists_result?_iff_maplike ofMaps before).mp ⟨value, done⟩
  cases mutation with
  | mapSet key text => cases maplike <;> cases done <;> exact .map _
  | mapDelete key => cases maplike <;> cases done <;> exact .map _
  | increment | setAdd | setRemove => cases ofMaps

theorem isOfMaps_of_result? {entries : SortedMap String String}
    (done : mutation.result? (some (.map entries)) = some value) :
    mutation.isOfMaps = true := by
  cases mutation with
  | mapSet | mapDelete => rfl
  | increment | setAdd | setRemove => cases done

/-- A mutation that applies to values that are alike makes them alike. -/
theorem result?_alike {loose : Prop} {left right : Option Value}
    (alike : Value.Alike loose left right)
    (done : mutation.result? left = some value)
    (again : mutation.result? right = some other) :
    Value.Alike loose (some value) (some other) := by
  rcases alike with rfl | ⟨allowed, leftMaplike, rightMaplike⟩
  · cases done.symm.trans again
    exact .inl rfl
  · by_cases ofMaps : mutation.isOfMaps = true
    · exact .inr ⟨allowed, maplike_of_result? ofMaps done,
        maplike_of_result? ofMaps again⟩
    -- Any other mutation does not apply to a map, so nothing was there.
    · cases leftMaplike with
      | map => exact absurd (isOfMaps_of_result? done) ofMaps
      | missing =>
          cases rightMaplike with
          | map => exact absurd (isOfMaps_of_result? again) ofMaps
          | missing =>
              cases done.symm.trans again
              exact .inl rfl

end Mutation

/-- An operation mutates one of some columns. -/
def Operation.MutatesIn (columns : String → String → Prop) : Operation → Prop
  | .mutate table _ column _ => columns table column
  | _ => False

namespace Operation

variable {schema : TableSchema} {operation : Operation}
  {loose : String → String → Prop} {left right next : Option Row}

theorem onRow_alike
    (alike : Row.StoredAlike (loose operation.table) left right)
    (applies : operation.MutatesIn loose →
      ∃ other, operation.onRow schema right = .ok other)
    (done : operation.onRow schema left = .ok next) :
    ∃ other, operation.onRow schema right = .ok other ∧
      Row.StoredAlike (loose operation.table) next other := by
  cases operation with
  | insert table uuid columns =>
      obtain ⟨allowed, rfl, rfl⟩ := onRow_insert_eq_ok_iff.mp done
      cases alike
      exact ⟨_, onRow_insert_eq_ok_iff.mpr ⟨allowed, rfl, rfl⟩, .refl _⟩
  | update table uuid columns =>
      obtain ⟨allowed, row, rfl, rfl⟩ := onRow_update_eq_ok_iff.mp done
      cases alike with
      | some rows =>
          refine ⟨_, onRow_update_eq_ok_iff.mpr ⟨allowed, _, rfl, rfl⟩,
            .some ⟨rows.uuid, rows.revision, fun column => ?_⟩⟩
          simp only [SortedMap.get?_insertAll_toList]
          cases columns.get? column with
          | some value => exact .inl rfl
          | none => exact rows.columns column
  | delete table uuid =>
      obtain ⟨⟨row, rfl⟩, rfl⟩ := onRow_delete_eq_ok_iff.mp done
      cases alike
      exact ⟨none, onRow_delete_eq_ok_iff.mpr ⟨⟨_, rfl⟩, rfl⟩, .none⟩
  | mutate table uuid column mutation =>
      obtain ⟨allowed, row, value, rfl, mutated, rfl⟩ :=
        onRow_mutate_eq_ok_iff.mp done
      cases alike with
      | @some _ right rows =>
          suffices result : ∃ other,
              mutation.result? (right.columns.get? column) = some other by
            obtain ⟨other, again⟩ := result
            have values :=
              Mutation.result?_alike (rows.columns column) mutated again
            exact ⟨_, onRow_mutate_eq_ok_iff.mpr
              ⟨allowed, _, other, rfl, again, rfl⟩, .some (rows.insert values)⟩
          rcases rows.columns column with same | ⟨inLoose, _⟩
          · exact ⟨value, same ▸ mutated⟩
          · obtain ⟨_, there⟩ := applies inLoose
            obtain ⟨_, _, other, present, again, _⟩ :=
              onRow_mutate_eq_ok_iff.mp there
            cases present
            exact ⟨other, again⟩
  | verify table uuid revision =>
      obtain ⟨row, rfl, same, rfl⟩ := onRow_verify_eq_ok_iff.mp done
      cases alike with
      | some rows =>
          exact ⟨_, onRow_verify_eq_ok_iff.mpr
            ⟨_, rfl, rows.revision ▸ same, rfl⟩, .some rows⟩

end Operation

namespace Tables

variable {loose : String → String → Prop} {left right : Tables}

theorem Alike.refl (tables : Tables) : tables.Alike loose tables :=
  fun _ _ => .refl _

theorem Alike.put {table : String} {uuid : Uuid} {row other : Option Row}
    (alike : left.Alike loose right)
    (stored : Row.StoredAlike (loose table) row other) :
    (left.put table uuid row).Alike loose (right.put table uuid other) := by
  intro another identifier
  simp only [row?_put]
  by_cases here : table = another ∧ uuid = identifier
  · rw [if_pos here, if_pos here]
    exact here.1 ▸ stored
  · rw [if_neg here, if_neg here]
    exact alike another identifier

theorem Alike.put_right {table : String} {uuid : Uuid} {row : Option Row}
    (alike : left.Alike loose right)
    (stored : Row.StoredAlike (loose table) (left.row? table uuid) row) :
    left.Alike loose (right.put table uuid row) := by
  intro another identifier
  rw [row?_put]
  split
  case isTrue here =>
    obtain ⟨rfl, rfl⟩ := here
    exact stored
  case isFalse => exact alike another identifier

end Tables

/-- An operation that can be applied to tables can be applied to others that are
alike, if need be by itself, and leaves alike ones. -/
theorem Operation.apply_alike {loose : String → String → Prop}
    {operation : Operation} {schema : DatabaseSchema}
    {left right next : Tables} (alike : left.Alike loose right)
    (applies : operation.MutatesIn loose →
      ∃ other, operation.apply schema right = .ok other)
    (done : operation.apply schema left = .ok next) :
    ∃ other, operation.apply schema right = .ok other ∧
      next.Alike loose other := by
  obtain ⟨shape, row, known, onRow, rfl⟩ := apply_eq_ok_iff.mp done
  have onRight : operation.MutatesIn loose → ∃ other, operation.onRow shape
      (right.row? operation.table operation.uuid) = .ok other := by
    intro mutates
    obtain ⟨_, there⟩ := applies mutates
    obtain ⟨found, other, named, onOther, _⟩ := apply_eq_ok_iff.mp there
    cases known.symm.trans named
    exact ⟨other, onOther⟩
  obtain ⟨other, onOther, stored⟩ :=
    onRow_alike (alike operation.table operation.uuid) onRight onRow
  exact ⟨_, apply_eq_ok_iff.mpr ⟨shape, other, known, onOther, rfl⟩,
    alike.put stored⟩

/-- Each mutation in some columns can be applied when it comes to its turn. -/
def Database.MutationsApply (columns : String → String → Prop)
    (schema : DatabaseSchema) : Tables → List Operation → Prop
  | _, [] => True
  | tables, operation :: operations =>
      (operation.MutatesIn columns →
        ∃ next, operation.apply schema tables = .ok next) ∧
      ∀ next, operation.apply schema tables = .ok next →
        MutationsApply columns schema next operations

theorem Database.mutationsApply_of_stage {columns : String → String → Prop}
    {schema : DatabaseSchema} {tables staged : Tables}
    {operations : List Operation}
    (done : stage schema tables operations = .ok staged) :
    MutationsApply columns schema tables operations := by
  induction operations generalizing tables with
  | nil => trivial
  | cons operation operations induction =>
      obtain ⟨next, first, rest⟩ := stage_cons_eq_ok_iff.mp done
      refine ⟨fun _ => ⟨next, first⟩, fun other again => ?_⟩
      cases first.symm.trans again
      exact induction rest

end OvsdbClient
