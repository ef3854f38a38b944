import Mathlib.Data.List.Forall2
import OvsdbClient.Json.Decoder
import OvsdbClient.Proofs.Rows

/-!
# What decoders read

A record is told by its parts: its fields by their names in an object or by
their positions in an array, and a table by its entries.  What a decoder reads
is read from the parts alone, one by one.
-/

namespace OvsdbClient.Json

/-- A part of a record, by its position in an array or its name in an object. -/
def part? (json : Json) (position : Nat) (name : String) : Option Json :=
  match json with
  | .array items _ => items[position]?
  | json => json.get? name

/-- The entries of an object; of several with one name the last counts. -/
def entries (json : Json) : SortedMap String Json := .ofList json.members

namespace Decoder

variable {α β σ : Type} {decoder : Decoder α} {place : Place} {json : Json}

theorem map_eq_ok_iff {change : α → β} {value : β} :
    map change decoder place json = .ok value ↔
      ∃ found, decoder place json = .ok found ∧ change found = value := by
  unfold map
  cases decoder place json <;> simp [Except.map]

theorem string_eq_ok_iff {text : String} :
    string place json = .ok text ↔ json = .string text := by
  cases json <;> simp [string]

theorem required_eq_ok_iff {field : Option α} {value : α} :
    required field = .ok value ↔ field = some value := by
  cases field <;> simp [required]

theorem bool_eq_ok_iff {value : Bool} :
    bool place json = .ok value ↔ json = .bool value := by
  cases json <;> simp [bool]

theorem asText?_of_string {text : String}
    (done : string place json = .ok text) : json.asText? = some text := by
  cases string_eq_ok_iff.mp done
  rfl

theorem asBool?_of_bool {value : Bool} (done : bool place json = .ok value) :
    json.asBool? = some value := by
  cases bool_eq_ok_iff.mp done
  rfl

theorem unsigned64_eq_ok {value : Nat}
    (done : unsigned64 place json = .ok value) : json = .int value := by
  obtain ⟨found, read, rfl⟩ := map_eq_ok_iff.mp done
  unfold integer at read
  split at read
  case h_2 => cases read
  case h_1 number =>
    split at read
    case isFalse => cases read
    case isTrue bounds =>
      cases read
      rw [Int.toNat_of_nonneg bounds.1]

/-- What reading a field takes: its name, its place in a draft, and what fills
it. -/
structure Field.Reads (field : Field σ) (name : String) (get? : σ → Option α)
    (decoder : Decoder α) : Prop where
  name : field.name = name
  present : ∀ draft, field.present draft = (get? draft).isSome
  fill : ∀ place json draft next, field.fill place json draft = .ok next →
    ∃ value, decoder place json = .ok value ∧ get? next = some value

/-- A field has another name and fills another place in a draft. -/
structure Field.Spares (field : Field σ) (name : String) (get? : σ → Option α) :
    Prop where
  name : field.name ≠ name
  fill : ∀ place json draft next, field.fill place json draft = .ok next →
    get? next = get? draft

variable {before after : List (Field σ)} {field : Field σ} {name : String}
  {get? : σ → Option α} {draft last : σ} {ending : Ending}

def isMember (name : String) (member : Json × Json) : Bool :=
  match member.1 with
  | .string found => found == name
  | _ => false

theorem get?_object (members : List (Json × Json)) (ending : Ending)
    (name : String) :
    (Json.object members ending).get? name =
      (members.find? (isMember name)).map (·.2) :=
  rfl

theorem find?_field (reads : field.Reads name get? decoder)
    (others : ∀ other ∈ before ++ after, other.Spares name get?) :
    (before ++ field :: after).find? (·.name == name) = some field := by
  rw [List.find?_append, List.find?_eq_none.mpr, Option.none_or,
    List.find?_cons_of_pos]
  · simp [reads.name]
  · intro other member
    simpa using (others other (List.mem_append_left _ member)).name

theorem fillNamed_cons_eq_ok {fields : List (Field σ)} {key value : Json}
    {members : List (Json × Json)}
    (done : fillNamed fields place ((key, value) :: members) ending draft =
      .ok last) :
    ∃ text, key = .string text ∧
      ((fields.find? (·.name == text) = none ∧
          fillNamed fields place members ending draft = .ok last) ∨
        ∃ field next, fields.find? (·.name == text) = some field ∧
          field.present draft = false ∧
          field.fill place value draft = .ok next ∧
          fillNamed fields place members ending next = .ok last) := by
  obtain ⟨text, isText, rest⟩ := bind_eq_ok_iff.mp done
  refine ⟨text, string_eq_ok_iff.mp isText, ?_⟩
  cases found : fields.find? (·.name == text) with
  | none =>
      rw [found] at rest
      obtain ⟨_, _, rest⟩ := bind_eq_ok_iff.mp rest
      exact .inl ⟨rfl, rest⟩
  | some field =>
      rw [found] at rest
      dsimp only at rest
      split at rest
      case isTrue => cases rest
      case isFalse absent =>
        obtain ⟨next, filled, rest⟩ := bind_eq_ok_iff.mp rest
        exact .inr ⟨field, next, rfl, Bool.eq_false_iff.mpr absent, filled,
          rest⟩

theorem get?_of_fill_other (reads : field.Reads name get? decoder)
    (others : ∀ other ∈ before ++ after, other.Spares name get?)
    {text : String} {filler : Field σ} {value : Json} {next : σ}
    (found : (before ++ field :: after).find? (·.name == text) = some filler)
    (differ : text ≠ name) (filled : filler.fill place value draft = .ok next) :
    get? next = get? draft := by
  have named : filler.name = text := by
    simpa using List.find?_some found
  have member := List.mem_of_find?_eq_some found
  rw [List.mem_append, List.mem_cons] at member
  rcases member with first | rfl | last
  · exact (others filler (List.mem_append_left _ first)).fill _ _ _ _ filled
  · exact absurd (named.symm.trans reads.name) differ
  · exact (others filler (List.mem_append_right _ last)).fill _ _ _ _ filled

theorem get?_fillNamed_of_some (reads : field.Reads name get? decoder)
    (others : ∀ other ∈ before ++ after, other.Spares name get?)
    {members : List (Json × Json)} {value : α} (full : get? draft = some value)
    (done : fillNamed (before ++ field :: after) place members ending draft =
      .ok last) : get? last = some value := by
  induction members generalizing draft with
  | nil =>
      obtain ⟨_, _, same⟩ := bind_eq_ok_iff.mp done
      cases same
      exact full
  | cons member members induction =>
      obtain ⟨text, _, ⟨_, rest⟩ | ⟨filler, next, found, absent, filled, rest⟩⟩
        := fillNamed_cons_eq_ok done
      · exact induction full rest
      · by_cases own : text = name
        · subst own
          cases (find?_field reads others).symm.trans found
          rw [reads.present, full] at absent
          cases absent
        · refine induction ?_ rest
          exact (get?_of_fill_other reads others found own filled).trans full

/-- A field of an object is read from the member with its name. -/
theorem get?_fillNamed (reads : field.Reads name get? decoder)
    (others : ∀ other ∈ before ++ after, other.Spares name get?)
    {members : List (Json × Json)} (blank : get? draft = none)
    (done : fillNamed (before ++ field :: after) place members ending draft =
      .ok last) :
    Option.Rel (fun part value => decoder place part = .ok value)
      ((Json.object members ending).get? name) (get? last) := by
  rw [get?_object]
  induction members generalizing draft with
  | nil =>
      obtain ⟨_, _, same⟩ := bind_eq_ok_iff.mp done
      cases same
      rw [blank]
      exact .none
  | cons member members induction =>
      obtain ⟨key, value⟩ := member
      obtain ⟨text, rfl, step⟩ := fillNamed_cons_eq_ok done
      by_cases own : text = name
      · subst own
        have here := find?_field reads others
        rcases step with ⟨absent, _⟩ | ⟨filler, next, found, _, filled, rest⟩
        · cases here.symm.trans absent
        · cases here.symm.trans found
          obtain ⟨read, decoded, full⟩ := reads.fill _ _ _ _ filled
          rw [get?_fillNamed_of_some reads others full rest,
            List.find?_cons_of_pos (by simp [isMember])]
          exact .some decoded
      · rw [List.find?_cons_of_neg (by simpa [isMember] using own)]
        rcases step with ⟨_, rest⟩ | ⟨filler, next, found, _, filled, rest⟩
        · exact induction blank rest
        · refine induction ?_ rest
          exact (get?_of_fill_other reads others found own filled).trans blank

theorem get?_fillListed_of_spares {fields : List (Field σ)} {items : List Json}
    (others : ∀ other ∈ fields, other.Spares name get?)
    (done : fillListed place fields items ending draft = .ok last) :
    get? last = get? draft := by
  induction fields generalizing items draft with
  | nil =>
      cases items with
      | nil =>
          obtain ⟨_, _, same⟩ := bind_eq_ok_iff.mp done
          cases same
          rfl
      | cons => cases done
  | cons field fields induction =>
      cases items with
      | nil =>
          obtain ⟨_, _, same⟩ := bind_eq_ok_iff.mp done
          cases same
          rfl
      | cons item items =>
          obtain ⟨next, filled, rest⟩ := bind_eq_ok_iff.mp done
          obtain ⟨first, others⟩ := List.forall_mem_cons.mp others
          exact (induction others rest).trans (first.fill _ _ _ _ filled)

/-- A field of an array is read from the item at its position. -/
theorem get?_fillListed (reads : field.Reads name get? decoder)
    (others : ∀ other ∈ before ++ after, other.Spares name get?)
    {items : List Json} (blank : get? draft = none)
    (done : fillListed place (before ++ field :: after) items ending draft =
      .ok last) :
    Option.Rel (fun part value => decoder place part = .ok value)
      items[before.length]? (get? last) := by
  induction before generalizing items draft with
  | nil =>
      cases items with
      | nil =>
          obtain ⟨_, _, same⟩ := bind_eq_ok_iff.mp done
          cases same
          rw [blank]
          exact .none
      | cons item items =>
          obtain ⟨next, filled, rest⟩ := bind_eq_ok_iff.mp done
          obtain ⟨read, decoded, full⟩ := reads.fill _ _ _ _ filled
          rw [get?_fillListed_of_spares others rest, full]
          exact .some decoded
  | cons other before induction =>
      cases items with
      | nil =>
          obtain ⟨_, _, same⟩ := bind_eq_ok_iff.mp done
          cases same
          rw [blank]
          exact .none
      | cons item items =>
          obtain ⟨next, filled, rest⟩ := bind_eq_ok_iff.mp done
          obtain ⟨first, others⟩ := List.forall_mem_cons.mp others
          have blank := (first.fill _ _ _ _ filled).trans blank
          exact induction others blank rest

variable {fields : List (Field σ)}

theorem Field.reads_of {set : σ → Option α → σ}
    (stores : ∀ draft value, get? (set draft value) = value := by
      intros; rfl) :
    (Field.of name get? set decoder).Reads name get? decoder where
  name := rfl
  present _ := rfl
  fill place json draft next done := by
    obtain ⟨value, decoded, same⟩ := bind_eq_ok_iff.mp done
    cases same
    exact ⟨value, decoded, stores _ _⟩

theorem Field.spares_cons {own : σ → Option β} {set : σ → Option β → σ}
    {reader : Decoder β} {other : String}
    (rest : ∀ field ∈ fields, field.Spares name get?)
    (differ : other ≠ name := by decide)
    (spares : ∀ draft value, get? (set draft value) = get? draft := by
      intros; rfl) :
    ∀ field ∈ Field.of other own set reader :: fields,
      field.Spares name get? := by
  refine List.forall_mem_cons.mpr ⟨⟨differ, ?_⟩, rest⟩
  intro place json draft next done
  obtain ⟨value, _, same⟩ := bind_eq_ok_iff.mp done
  cases same
  exact spares _ _

theorem exists_split {position : Nat} (here : fields[position]? = some field) :
    ∃ before after, before.length = position ∧
      fields = before ++ field :: after ∧
      fields.eraseIdx position = before ++ after := by
  obtain ⟨low, found⟩ := List.getElem?_eq_some_iff.mp here
  refine ⟨fields.take position, fields.drop (position + 1), ?_, ?_, ?_⟩
  · exact List.length_take_of_le (Nat.le_of_lt low)
  · rw [← found, ← List.drop_eq_getElem_cons low, List.take_append_drop]
  · exact List.eraseIdx_eq_take_drop_succ fields position

variable {reads : Json → α → Prop}

theorem rel_of_rel {part? : Option Json} {value? : Option α}
    (given : Option.Rel (fun part value => decoder place part = .ok value)
      part? value?)
    (each : ∀ inner part value, decoder inner part = .ok value →
      reads part value) : Option.Rel reads part? value? := by
  cases given with
  | none => exact .none
  | some decoded => exact .some (each _ _ _ decoded)

theorem exists_of_rel_some {part? : Option Json} {value : α}
    (given : Option.Rel reads part? (some value)) :
    ∃ part, part? = some part ∧ reads part value := by
  cases given with
  | some read => exact ⟨_, rfl, read⟩

theorem eq_of_rel {part? : Option Json} {value? other? : Option α}
    (first : Option.Rel reads part? value?)
    (second : Option.Rel reads part? other?)
    (same : ∀ part value other, reads part value → reads part other →
      value = other) : value? = other? := by
  cases first with
  | none =>
      cases second
      rfl
  | some here =>
      cases second with
      | some there => exact congrArg some (same _ _ _ here there)

theorem getD_of_rel {meant : α → Json} {part? : Option Json} {value? : Option α}
    (given : Option.Rel (fun part value => part = meant value) part? value?)
    (other : α) : part?.getD (meant other) = meant (value?.getD other) := by
  cases given with
  | none => rfl
  | some same => exact same

/-- What goes with a part by way of a value in between goes with the part. -/
theorem rel_trans {γ : Type} {first : Json → α → Prop} {second : α → γ → Prop}
    {both : Json → γ → Prop} {part? : Option Json} {value? : Option α}
    {last? : Option γ} (left : Option.Rel first part? value?)
    (right : Option.Rel second value? last?)
    (through : ∀ part value last, part? = some part → first part value →
      second value last → both part last) : Option.Rel both part? last? := by
  cases left with
  | none =>
      cases right
      exact .none
  | some firstly =>
      cases right with
      | some secondly => exact .some (through _ _ _ rfl firstly secondly)

theorem get?_named (done : named fields draft place json = .ok last)
    (position : Nat) (here : fields[position]? = some field)
    (isField : field.Reads name get? decoder)
    (others : ∀ other ∈ fields.eraseIdx position, other.Spares name get?)
    (blank : get? draft = none)
    (each : ∀ inner part value, decoder inner part = .ok value →
      reads part value) : Option.Rel reads (json.get? name) (get? last) := by
  obtain ⟨before, after, _, rfl, rest⟩ := exists_split here
  rw [rest] at others
  unfold named at done
  split at done
  case h_1 members ending =>
    obtain ⟨inner, _, filled⟩ := bind_eq_ok_iff.mp done
    exact rel_of_rel (get?_fillNamed isField others blank filled) each
  case h_2 => cases done

/-- A field of a record is read from its part. -/
theorem get?_record (done : record fields draft place json = .ok last)
    (position : Nat) (here : fields[position]? = some field)
    (isField : field.Reads name get? decoder)
    (others : ∀ other ∈ fields.eraseIdx position, other.Spares name get?)
    (blank : get? draft = none)
    (each : ∀ inner part value, decoder inner part = .ok value →
      reads part value) :
    Option.Rel reads (json.part? position name) (get? last) := by
  unfold record at done
  split at done
  case h_1 items ending =>
    obtain ⟨before, after, rfl, rfl, rest⟩ := exists_split here
    rw [rest] at others
    obtain ⟨inner, _, filled⟩ := bind_eq_ok_iff.mp done
    exact rel_of_rel (get?_fillListed isField others blank filled) each
  case h_2 other =>
    have same : json.part? position name = json.get? name := by
      unfold part?
      split
      case h_1 items ending => exact (other items ending rfl).elim
      case h_2 => rfl
    rw [same]
    exact get?_named done position here isField others blank each

/-! ## Tables -/

theorem rel_get?_ofList {γ δ : Type} {relation : String → γ → δ → Prop}
    {parts : List (String × γ)} {values : List (String × δ)}
    (alike : List.Forall₂ (fun part value =>
      part.1 = value.1 ∧ relation part.1 part.2 value.2) parts values)
    (name : String) :
    Option.Rel (relation name) ((SortedMap.ofList parts).get? name)
      ((SortedMap.ofList values).get? name) := by
  suffices general : ∀ (left : SortedMap String γ) (right : SortedMap String δ),
      (∀ name, Option.Rel (relation name) (left.get? name) (right.get? name)) →
      Option.Rel (relation name) ((left.insertAll parts).get? name)
        ((right.insertAll values).get? name) from
    general .empty .empty fun _ => .none
  induction alike with
  | nil => exact fun left right start => start name
  | @cons part value parts values first _ induction =>
      intro left right start
      obtain ⟨same, related⟩ := first
      refine induction _ _ fun name => ?_
      simp only [SortedMap.get?_insert, ← same]
      split
      case isTrue own => exact .some (own ▸ related)
      case isFalse => exact start name

theorem forall₂_of_mapM {ε γ δ : Type} {read : γ → Except ε δ}
    {listed : List γ} {values : List δ} (done : listed.mapM read = .ok values) :
    List.Forall₂ (fun item value => read item = .ok value) listed values := by
  induction listed generalizing values with
  | nil =>
      cases done
      exact .nil
  | cons item listed induction =>
      rw [List.mapM_cons] at done
      obtain ⟨value, first, rest⟩ := bind_eq_ok_iff.mp done
      obtain ⟨values, others, same⟩ := bind_eq_ok_iff.mp rest
      cases same
      exact .cons first (induction others)

theorem forall₂_members {members : List (Json × Json)} (ending : Ending)
    {entries : List (String × α)}
    (done : (members.mapM fun (name, value) => do
      return (← string place name, ← decoder place value)) = .ok entries) :
    List.Forall₂
      (fun part value => part.1 = value.1 ∧ decoder place part.2 = .ok value.2)
      (Json.object members ending).members entries := by
  have read := forall₂_of_mapM done
  clear done
  induction read with
  | nil => exact .nil
  | @cons member _ _ _ first _ induction =>
      obtain ⟨key, value⟩ := member
      obtain ⟨text, isText, rest⟩ := bind_eq_ok_iff.mp first
      obtain ⟨found, decoded, same⟩ := bind_eq_ok_iff.mp rest
      cases same
      cases string_eq_ok_iff.mp isText
      exact .cons ⟨rfl, decoded⟩ induction

/-- A table has what its entries are read as. -/
theorem get?_table {entries : SortedMap String α}
    (done : table decoder place json = .ok entries)
    (each : ∀ inner part value, decoder inner part = .ok value →
      reads part value) (name : String) :
    Option.Rel reads (json.entries.get? name) (entries.get? name) := by
  unfold table at done
  split at done
  case h_2 => cases done
  case h_1 members ending =>
    obtain ⟨inner, _, rest⟩ := bind_eq_ok_iff.mp done
    obtain ⟨listed, read, rest⟩ := bind_eq_ok_iff.mp rest
    obtain ⟨_, _, same⟩ := bind_eq_ok_iff.mp rest
    cases same
    have alike := (forall₂_members ending read).imp fun part value related =>
      And.intro related.1 (each inner _ _ related.2)
    exact @rel_get?_ofList _ _ (fun _ => reads) _ _ alike name

/-! ## Lists and values that may be missing -/

theorem map_items {ε : Type} {seen : Json → ε} {meant : α → ε}
    {values : List α} (done : items decoder place json = .ok values)
    (each : ∀ inner item value, decoder inner item = .ok value →
      seen item = meant value) :
    json.items.map seen = values.map meant := by
  unfold items at done
  split at done
  case h_2 => cases done
  case h_1 listed ending =>
    obtain ⟨inner, _, rest⟩ := bind_eq_ok_iff.mp done
    obtain ⟨found, read, rest⟩ := bind_eq_ok_iff.mp rest
    obtain ⟨_, _, same⟩ := bind_eq_ok_iff.mp rest
    cases same
    change listed.map seen = values.map meant
    rw [← List.forall₂_eq_eq_eq, List.forall₂_map_left_iff,
      List.forall₂_map_right_iff]
    exact (forall₂_of_mapM read).imp (each inner)

theorem map_strings {texts : List String}
    (done : items string place json = .ok texts) :
    json.items = texts.map .string := by
  rw [← map_items done fun _ _ _ => string_eq_ok_iff.mp, List.map_id']

theorem of_optional {value? : Option α}
    (done : optional decoder place json = .ok value?) :
    (json.isNull = true ∧ value? = none) ∨
      json.isNull = false ∧
        ∃ value, decoder place json = .ok value ∧ value? = some value := by
  cases json with
  | null =>
      cases done
      exact .inl ⟨rfl, rfl⟩
  | _ =>
      obtain ⟨value, decoded, same⟩ := map_eq_ok_iff.mp
        (show map some decoder place _ = .ok value? from done)
      exact .inr ⟨rfl, value, decoded, same.symm⟩

theorem eq_bind_of_rel {part? : Option Json} {value? : Option α}
    {view : Json → Option α}
    (given : Option.Rel (fun part value => view part = some value)
      part? value?) : value? = part?.bind view := by
  cases given with
  | none => rfl
  | some seen => exact seen.symm

/-! ## Choices -/

/-- A choice of two shapes is read as the first that fits. -/
theorem of_anyOf {first second : Decoder α} {value : α}
    (done : anyOf [first, second] place json = .ok value) :
    ∃ inner : Place, first inner json = .ok value ∨
      (∀ other, first inner json ≠ .ok other) ∧
        second inner json = .ok value := by
  unfold anyOf at done
  split at done
  case h_1 => cases done
  case h_2 =>
    refine ⟨{ place with excess := .mismatch }, ?_⟩
    dsimp only [List.findSome?] at done
    cases left : first { place with excess := .mismatch } json with
    | ok found =>
        rw [left] at done
        cases done
        exact .inl rfl
    | error =>
        refine .inr ⟨nofun, ?_⟩
        rw [left] at done
        cases right : second { place with excess := .mismatch } json with
        | ok found =>
            rw [right] at done
            cases done
            rfl
        | error =>
            rw [right] at done
            cases done

end Decoder

end OvsdbClient.Json
