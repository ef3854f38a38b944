import OvsdbClient.Schema.Selection

/-!
# Selections

Tables are chosen one by one, or all at once, and those that the schema has not
are passed over.  The schema that is built of a selection has the chosen tables
as they were, and no others.
-/

namespace OvsdbClient

namespace Selection

/-- A choice of tables: one by its name, or all that there are. -/
inductive Choice where
  | register (table : String)
  | selectAll
deriving DecidableEq, Inhabited

/-- Tells whether a table could be registered, and the selection then. -/
def offer (selection : Selection) (table : String) : Bool × Selection :=
  match selection.register table with
  | .ok next => (true, next)
  | .error _ => (false, selection)

def choose (selection : Selection) : Choice → Selection
  | .register table => (selection.offer table).2
  | .selectAll => selection.selectAll

/-- The selection after choices, in order. -/
def chooseAll (selection : Selection) (choices : List Choice) : Selection :=
  choices.foldl choose selection

variable {selection : Selection} {table : String}

theorem offer_eq (selection : Selection) (table : String) :
    selection.offer table =
      if selection.schema.hasTable table then
        (true, { selection with
          registered := selection.registered.insert table })
      else (false, selection) := by
  unfold offer register
  by_cases has : selection.schema.hasTable table = true
  · rw [if_pos has, if_pos has]
  · rw [if_neg has, if_neg has]

/-- To register tables is to choose them one by one. -/
theorem registerAll_eq_chooseAll (selection : Selection)
    (tables : List String) :
    (selection.registerAll tables).1 =
      selection.chooseAll (tables.map .register) := by
  induction tables generalizing selection with
  | nil => rfl
  | cons table tables induction =>
      have rest := induction (selection.choose (.register table))
      simp only [registerAll, List.map_cons, chooseAll, List.foldl_cons, choose,
        offer] at rest ⊢
      cases registered : selection.register table with
      | ok next =>
          simp only [registered] at rest ⊢
          exact rest
      | error notice =>
          simp only [registered] at rest ⊢
          exact rest

@[simp] theorem schema_choose (selection : Selection) (choice : Choice) :
    (selection.choose choice).schema = selection.schema := by
  cases choice with
  | register table =>
      rw [choose, offer_eq]
      split <;> rfl
  | selectAll => rfl

theorem all_choose_iff {choice : Choice} :
    (selection.choose choice).all = true ↔
      selection.all = true ∨ choice = .selectAll := by
  cases choice with
  | register table =>
      rw [choose, offer_eq]
      split <;> simp
  | selectAll => simp [choose, selectAll]

theorem contains_choose_iff {choice : Choice} :
    (selection.choose choice).registered.contains table = true ↔
      selection.registered.contains table = true ∨
        choice = .register table ∧ selection.schema.hasTable table = true := by
  cases choice with
  | selectAll => simp [choose, selectAll]
  | register named =>
      rw [choose, offer_eq, Choice.register.injEq]
      split
      case isTrue has =>
        rw [SortedSet.contains_insert, or_comm]
        refine or_congr_right ⟨?_, And.left⟩
        rintro rfl
        exact ⟨rfl, has⟩
      case isFalse lacks =>
        refine (or_iff_left ?_).symm
        rintro ⟨rfl, has⟩
        exact lacks has

theorem schema_chooseAll (selection : Selection) (choices : List Choice) :
    (selection.chooseAll choices).schema = selection.schema := by
  induction choices generalizing selection with
  | nil => rfl
  | cons choice choices induction =>
      exact (induction (selection.choose choice)).trans
        (selection.schema_choose choice)

theorem schema_registerAll (selection : Selection) (tables : List String) :
    (selection.registerAll tables).1.schema = selection.schema := by
  rw [registerAll_eq_chooseAll, schema_chooseAll]

theorem all_chooseAll_iff {choices : List Choice} :
    (selection.chooseAll choices).all = true ↔
      selection.all = true ∨ .selectAll ∈ choices := by
  induction choices generalizing selection with
  | nil => simp [chooseAll]
  | cons choice choices induction =>
      refine (@induction (selection.choose choice)).trans ?_
      rw [all_choose_iff, or_assoc, List.mem_cons, @eq_comm _ choice]

theorem contains_chooseAll_iff {choices : List Choice} :
    (selection.chooseAll choices).registered.contains table = true ↔
      selection.registered.contains table = true ∨
        .register table ∈ choices ∧
          selection.schema.hasTable table = true := by
  induction choices generalizing selection with
  | nil => simp [chooseAll]
  | cons choice choices induction =>
      refine (@induction (selection.choose choice)).trans ?_
      rw [contains_choose_iff, schema_choose, or_assoc, ← or_and_right,
        List.mem_cons, @eq_comm _ choice]

/-! ## The schema of the selected tables -/

theorem table?_build (selection : Selection) (table : String) :
    selection.build.table? table =
      (selection.schema.table? table).filter fun _ =>
        selection.all || selection.registered.contains table := by
  unfold build DatabaseSchema.table?
  cases selection.all with
  | true =>
      rw [if_pos rfl]
      cases selection.schema.tables.get? table <;> rfl
  | false => simp [SortedMap.get?_filter]

theorem hasTable_build (selection : Selection) (table : String) :
    selection.build.hasTable table =
      (selection.schema.hasTable table &&
        (selection.all || selection.registered.contains table)) := by
  have shape := selection.table?_build table
  simp only [DatabaseSchema.table?] at shape
  simp only [DatabaseSchema.hasTable, SortedMap.contains, shape]
  cases selection.schema.tables.get? table <;> simp

/-- What is built of a schema are its tables that were chosen. -/
theorem hasTable_build_chooseAll_iff {schema : DatabaseSchema}
    {choices : List Choice} :
    ((ofSchema schema).chooseAll choices).build.hasTable table = true ↔
      schema.hasTable table = true ∧
        (.register table ∈ choices ∨ .selectAll ∈ choices) := by
  have nothing : ∀ {chosen : Prop}, false = true ∨ chosen ↔ chosen :=
    or_iff_right Bool.false_ne_true
  rw [hasTable_build, schema_chooseAll, Bool.and_eq_true, Bool.or_eq_true,
    all_chooseAll_iff, contains_chooseAll_iff, or_comm]
  refine and_congr_right fun has => or_congr ?_ nothing
  exact nothing.trans (and_iff_left has)

theorem hasTable_build_registerAll_iff {schema : DatabaseSchema}
    {tables : List String} :
    ((ofSchema schema).registerAll tables).1.build.hasTable table = true ↔
      table ∈ tables ∧ schema.hasTable table = true := by
  rw [registerAll_eq_chooseAll, hasTable_build_chooseAll_iff, and_comm]
  simp

theorem name_build (selection : Selection) :
    selection.build.name = selection.schema.name := by
  unfold build
  split <;> rfl

/-- The tables that are listed are those of the schema of the selection. -/
theorem tables_eq_tableNames
    (known : ∀ table, selection.registered.contains table = true →
      selection.schema.hasTable table = true) :
    selection.tables = selection.build.tableNames := by
  unfold tables
  cases all : selection.all with
  | true => simp [build, all]
  | false =>
      refine SortedMap.keys_eq_of_contains fun table => ?_
      have has := selection.hasTable_build table
      rw [all, Bool.false_or] at has
      change selection.registered.contains table =
        selection.build.hasTable table
      rw [has, Bool.eq_iff_iff, Bool.and_eq_true, and_comm]
      exact (and_iff_left_of_imp (known table)).symm

end Selection

end OvsdbClient
