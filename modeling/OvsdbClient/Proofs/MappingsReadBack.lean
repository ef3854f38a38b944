import Mathlib.Data.Set.List
import OvsdbClient.Proofs.ReadYourWrites
import OvsdbClient.Proofs.TendedMappings

/-!
# Reading port mappings back

A mapping is stored as one text and cut at its first colon when it is read.
Sources are bracketed so that this finds the port again, but nothing is asked of
the port itself.  A port that is empty or begins with a colon makes all mappings
of its load balancer unreadable, and one with a colon further on is read as
another port.
-/

namespace OvsdbClient

/-! ## Stored addresses -/

namespace Address

theorem ne_nil_of_ofBare? {bare : List Char} {spelled : Spelled}
    (read : ofBare? bare = some spelled) :
    bare ≠ [] ∧ spelled.bare = bare := by
  constructor
  · rintro rfl
    cases read
  · unfold ofBare? at read
    split at read
    · obtain ⟨address, _, rfl⟩ := Option.map_eq_some_iff.mp read
      rfl
    · obtain ⟨address, _, rest⟩ := Option.bind_eq_some_iff.mp read
      obtain ⟨_, _, rest⟩ := Option.bind_eq_some_iff.mp rest
      cases rest
      rfl

theorem ne_nil_of_bracketed {address stored : String}
    (done : bracketed address = .ok stored) : stored.toList ≠ [] := by
  unfold bracketed at done
  split at done
  case h_1 spelled read =>
    obtain ⟨nonempty, same⟩ := ne_nil_of_ofBare? read
    cases done
    rw [String.toList_ofList, Spelled.stored, same]
    split
    · exact List.cons_ne_nil _ _
    · exact nonempty
  case h_2 => cases done

end Address

/-! ## Decoding -/

namespace PortMapping

/-- A port that is not empty and does not begin with a colon. -/
def Readable (port : String) : Prop :=
  ∃ first rest, port.toList = first :: rest ∧ first ≠ ':'

variable {key value port source : String} {mapping : PortMapping}

theorem ofEntry_eq_ok_iff :
    ofEntry key value = .ok mapping ↔
      ∃ before after, value.toList = before ++ ':' :: after ∧ ':' ∉ before ∧
        before ≠ [] ∧ after ≠ [] ∧
        mapping = ⟨key, String.ofList before, String.ofList after⟩ := by
  unfold ofEntry
  cases cut : Text.cut? ':' value.toList with
  | none =>
      simp only [reduceCtorEq, false_iff]
      rintro ⟨before, after, split, absent, _⟩
      cases cut.symm.trans (Text.cut?_eq_some_iff.mpr ⟨split, absent⟩)
  | some parts =>
      obtain ⟨before, after⟩ := parts
      constructor
      · intro done
        obtain ⟨split, absent⟩ := Text.cut?_eq_some_iff.mp cut
        dsimp only at done
        split at done
        case isTrue => cases done
        case isFalse full =>
          cases done
          simp only [List.isEmpty_iff, not_or] at full
          exact ⟨before, after, split, absent, full.1, full.2, rfl⟩
      · rintro ⟨first, second, split, absent, nonempty, remaining, rfl⟩
        cases cut.symm.trans (Text.cut?_eq_some_iff.mpr ⟨split, absent⟩)
        simp [nonempty, remaining]

theorem toList_entry (port source : String) :
    (entry port source).toList = port.toList ++ ':' :: source.toList := by
  simp [entry]

/-- A stored mapping can be read just if its port is readable. -/
theorem exists_ofEntry_iff (nonempty : source.toList ≠ []) :
    (∃ mapping, ofEntry key (entry port source) = .ok mapping) ↔
      Readable port := by
  simp only [ofEntry_eq_ok_iff, toList_entry]
  constructor
  · rintro ⟨_, before, after, split, absent, full, _, _⟩
    obtain ⟨first, rest, rfl⟩ := List.exists_cons_of_ne_nil full
    cases spelled : port.toList with
    | nil =>
        rw [spelled] at split
        obtain ⟨rfl, _⟩ := List.cons.inj split
        simp at absent
    | cons char chars =>
        rw [spelled] at split
        obtain ⟨rfl, _⟩ := List.cons.inj split
        refine ⟨char, chars, spelled, ?_⟩
        rintro rfl
        simp at absent
  · rintro ⟨first, rest, spelled, notMark⟩
    by_cases marked : ':' ∈ port.toList
    · obtain ⟨before, after, split, absent⟩ :=
        List.eq_append_cons_of_mem marked
      refine ⟨_, before, after ++ ':' :: source.toList, by simp [split], absent,
        ?_, by simp, rfl⟩
      rintro rfl
      rw [spelled] at split
      exact notMark (List.cons.inj split).1
    · exact ⟨_, port.toList, source.toList, rfl, marked, by simp [spelled],
        nonempty, rfl⟩

/-- A stored mapping that can be read is read as what was stored just if its
port has no colon. -/
theorem eq_of_ofEntry_iff
    (decoded : ofEntry key (entry port source) = .ok mapping) :
    mapping = ⟨key, port, source⟩ ↔ ':' ∉ port.toList := by
  obtain ⟨before, after, split, absent, _, _, rfl⟩ :=
    ofEntry_eq_ok_iff.mp decoded
  rw [toList_entry] at split
  constructor
  · intro same
    cases same
    rwa [String.toList_ofList]
  · intro unmarked
    have there : Text.cut? ':' (before ++ ':' :: after) =
        some (port.toList, source.toList) :=
      Text.cut?_eq_some_iff.mpr ⟨split.symm, unmarked⟩
    rw [Text.cut?_eq_some_iff.mpr ⟨rfl, absent⟩] at there
    cases there
    simp

theorem backend_of_ofEntry (decoded : ofEntry key value = .ok mapping) :
    mapping.backend = key := by
  obtain ⟨_, _, _, _, _, _, rfl⟩ := ofEntry_eq_ok_iff.mp decoded
  rfl

end PortMapping

/-! ## Reading -/

theorem mapM_eq_ok_iff {α β : Type} {decode : α → Except Fault β}
    {items : List α} {decoded : List β} :
    items.mapM decode = .ok decoded ↔
      items.map decode = decoded.map Except.ok := by
  induction items generalizing decoded with
  | nil =>
      rw [List.mapM_nil, pure_eq_ok_iff, List.map_nil, eq_comm (a := [])]
      exact List.map_eq_nil_iff.symm
  | cons item items induction =>
      simp only [List.mapM_cons, bind_eq_ok_iff, pure_eq_ok_iff, induction,
        List.map_cons]
      constructor
      · rintro ⟨first, isFirst, rest, isRest, rfl⟩
        rw [isFirst, isRest, List.map_cons]
      · intro all
        cases decoded with
        | nil => cases all
        | cons first rest =>
            obtain ⟨isFirst, isRest⟩ := List.cons.inj all
            exact ⟨first, isFirst, rest, isRest, rfl⟩

theorem exists_mapM_iff {α β : Type} {decode : α → Except Fault β}
    {items : List α} :
    (∃ decoded, items.mapM decode = .ok decoded) ↔
      ∀ item ∈ items, ∃ found, decode item = .ok found := by
  simp only [mapM_eq_ok_iff]
  have inRange : (∃ decoded : List β, decoded.map Except.ok =
      items.map decode) ↔ ∀ answer ∈ items.map decode,
        answer ∈ Set.range (Except.ok : β → Except Fault β) :=
    Set.ext_iff.mp (Set.range_list_map Except.ok) (items.map decode)
  rw [List.forall_mem_map] at inRange
  simpa only [Set.mem_range, eq_comm] using inRange

theorem mem_iff_of_mapM {α β : Type} {decode : α → Except Fault β}
    {items : List α} {decoded : List β} (done : items.mapM decode = .ok decoded)
    {found : β} :
    found ∈ decoded ↔ ∃ item ∈ items, decode item = .ok found := by
  rw [← List.mem_map, mapM_eq_ok_iff.mp done,
    List.mem_map_of_injective fun _ _ => Except.ok.inj]

theorem Entry.source_ne_nil_of_leave {commands : List Entry} {balancer : Uuid}
    {key port source : String}
    (left : Leave commands balancer key port source) : source.toList ≠ [] := by
  obtain ⟨_, _, _, _, ⟨_, _, _, _, _, stored, _⟩, _⟩ := left
  exact Address.ne_nil_of_bracketed stored

namespace Session

variable {view : Session} {balancer : Uuid} {row : Row}

/-- How the port mappings read that commands left in a load balancer's row. -/
structure ReadsBack (view : Session) (balancer : Uuid) (commands : List Entry)
    (row : Row) : Prop where
  found : view.lookup balancerTable balancer = .ok row
  stored : ∀ key value,
    (row.map mappingColumn).get? key = some value ↔
      ∃ port source, Entry.Leave commands balancer key port source ∧
        value = PortMapping.entry port source
  readable : (∃ mappings, view.portMappings balancer = .ok mappings) ↔
    ∀ key port source, Entry.Leave commands balancer key port source →
      PortMapping.Readable port
  listed : ∀ mappings, view.portMappings balancer = .ok mappings →
    mappings.map (·.backend) = (row.map mappingColumn).keys
  faithful : ∀ mappings, view.portMappings balancer = .ok mappings →
    ∀ key port source, Entry.Leave commands balancer key port source →
      (⟨key, port, source⟩ ∈ mappings ↔ ':' ∉ port.toList)

/-- Everything that commands left is read back just if no port among it is empty
or has a colon. -/
theorem ReadsBack.all_iff {commands : List Entry}
    (reads : view.ReadsBack balancer commands row) :
    (∃ mappings, view.portMappings balancer = .ok mappings ∧
      ∀ key port source, Entry.Leave commands balancer key port source →
        ⟨key, port, source⟩ ∈ mappings) ↔
      ∀ key port source, Entry.Leave commands balancer key port source →
        port.toList ≠ [] ∧ ':' ∉ port.toList := by
  constructor
  · rintro ⟨mappings, done, all⟩ key port source left
    obtain ⟨first, rest, spelled, _⟩ :=
      reads.readable.mp ⟨mappings, done⟩ key port source left
    refine ⟨by simp [spelled], ?_⟩
    exact (reads.faithful mappings done key port source left).mp
      (all key port source left)
  · intro plain
    have readable : ∃ mappings, view.portMappings balancer = .ok mappings := by
      refine reads.readable.mpr fun key port source left => ?_
      obtain ⟨nonempty, unmarked⟩ := plain key port source left
      obtain ⟨first, rest, spelled⟩ := List.exists_cons_of_ne_nil nonempty
      refine ⟨first, rest, spelled, ?_⟩
      rintro rfl
      simp [spelled] at unmarked
    obtain ⟨mappings, done⟩ := readable
    refine ⟨mappings, done, fun key port source left => ?_⟩
    exact (reads.faithful mappings done key port source left).mpr
      (plain key port source left).2

theorem portMappings_of_lookup
    (found : view.lookup balancerTable balancer = .ok row) :
    view.portMappings balancer = (row.map mappingColumn).toList.mapM
      fun entry => PortMapping.ofEntry entry.1 entry.2 := by
  unfold portMappings
  rw [found]
  rfl

theorem backends_of_map {entries : List (String × String)}
    {mappings : List PortMapping}
    (decoded : entries.map (fun entry => PortMapping.ofEntry entry.1 entry.2) =
      mappings.map Except.ok) :
    mappings.map (·.backend) = entries.map (·.1) := by
  induction entries generalizing mappings with
  | nil =>
      cases mappings with
      | nil => rfl
      | cons => cases decoded
  | cons entry entries induction =>
      cases mappings with
      | nil => cases decoded
      | cons mapping mappings =>
          obtain ⟨first, rest⟩ := List.cons.inj decoded
          rw [List.map_cons, List.map_cons, induction rest,
            PortMapping.backend_of_ofEntry first]

theorem readsBack_of_stored {commands : List Entry}
    (found : view.lookup balancerTable balancer = .ok row)
    (stored : ∀ key value, (row.map mappingColumn).get? key = some value ↔
      ∃ port source, Entry.Leave commands balancer key port source ∧
        value = PortMapping.entry port source) :
    view.ReadsBack balancer commands row where
  found := found
  stored := stored
  readable := by
    rw [portMappings_of_lookup found, exists_mapM_iff]
    constructor
    · intro decodes key port source left
      have there := (stored key _).mpr ⟨port, source, left, rfl⟩
      exact (PortMapping.exists_ofEntry_iff
        (Entry.source_ne_nil_of_leave left)).mp
        (decodes _ (SortedMap.mem_toList_of_get? there))
    · rintro readable ⟨key, value⟩ member
      obtain ⟨port, source, left, rfl⟩ :=
        (stored key value).mp (SortedMap.get?_of_mem_toList member)
      exact (PortMapping.exists_ofEntry_iff
        (Entry.source_ne_nil_of_leave left)).mpr
        (readable key port source left)
  listed := by
    intro mappings done
    rw [portMappings_of_lookup found, mapM_eq_ok_iff] at done
    exact backends_of_map done
  faithful := by
    intro mappings done key port source left
    rw [portMappings_of_lookup found] at done
    have there := (stored key _).mpr ⟨port, source, left, rfl⟩
    constructor
    · intro member
      obtain ⟨⟨other, value⟩, listed, decoded⟩ :=
        (mem_iff_of_mapM done).mp member
      obtain rfl : key = other := PortMapping.backend_of_ofEntry decoded
      cases there.symm.trans (SortedMap.get?_of_mem_toList listed)
      exact (PortMapping.eq_of_ofEntry_iff decoded).mp rfl
    · intro unmarked
      have among := SortedMap.mem_toList_of_get? there
      obtain ⟨mapping, decoded⟩ := exists_mapM_iff.mp ⟨mappings, done⟩ _ among
      obtain rfl := (PortMapping.eq_of_ofEntry_iff decoded).mpr unmarked
      exact (mem_iff_of_mapM done).mpr ⟨_, among, decoded⟩

end Session

namespace Traffic

variable {schema : DatabaseSchema} {balancer : Uuid}
  {drafts : Nat → List Entry} {born moves : List Move}

theorem readsBack_of_shown {view : Session} {shown : List Move}
    (stored : ((fresh schema).run born).server.database.tables.mappings?
      balancer = some .empty)
    (tended : Tended schema balancer drafts born shown)
    (follows : view.schema.hasTable balancerTable = true)
    (shows : view.replica.tables = (((fresh schema).run born).run
      shown).server.database.tables.only view.schema) :
    ∃ row, view.ReadsBack balancer
      (((fresh schema).run born).applied drafts shown) row := by
  have now := mappings?_run stored tended
  obtain ⟨row, present, column⟩ := Option.bind_eq_some_iff.mp now
  have found : view.lookup balancerTable balancer = .ok row := by
    refine Session.lookup_eq_ok_iff.mpr ⟨follows, ?_⟩
    unfold Replica.get?
    rw [shows, Tables.row?_only, if_pos follows]
    exact present
  refine ⟨row, Session.readsBack_of_stored found fun key value => ?_⟩
  rw [Row.map, column, Option.getD_some]
  exact Entry.get?_putAll_change?_iff (tended.tends _ _)

/-- While only mapping commands change the mappings of a load balancer, which
began with none, a session that follows its table shows at each key what the
last command about it left there, at the point that the session has reached.
The mappings can be read just if no port that was left is empty or begins with a
colon.  They are then listed by their keys, one each, with the port and the
source that were left there just if the port has no colon.  So everything is
read back just if no port is empty or has a colon. -/
theorem mappings_read_back_iff
    (stored : ((fresh schema).run born).server.database.tables.mappings?
      balancer = some .empty)
    (tended : Tended schema balancer drafts born moves) :
    let start := (fresh schema).run born
    ∀ point number view, point <+: moves →
      (start.run point).server.session? number = some view →
      start.server.generation ≤ view.applied →
      view.schema.hasTable balancerTable = true →
      (∃ shown, shown <+: point ∧
        (start.run shown).server.generation = view.applied) ∧
      ∀ shown, shown <+: point →
        (start.run shown).server.generation = view.applied →
        let commands := start.applied drafts shown
        (∃ row, view.ReadsBack balancer commands row) ∧
          ((∃ mappings, view.portMappings balancer = .ok mappings ∧
              ∀ key port source,
                Entry.Leave commands balancer key port source →
                ⟨key, port, source⟩ ∈ mappings) ↔
            ∀ key port source,
              Entry.Leave commands balancer key port source →
              port.toList ≠ [] ∧ ':' ∉ port.toList) := by
  intro start point number view before isOpen recent follows
  have sound : start.server.Sound :=
    sound_run (Server.sound_ofSchema schema) born
  constructor
  · obtain ⟨shown, earlier, same, _⟩ := exists_shown sound isOpen recent
    exact ⟨shown, earlier, same⟩
  · intro shown earlier same commands
    obtain ⟨row, reads⟩ := readsBack_of_shown stored
      (tended.upTo (earlier.trans before)) follows
      (tables_of_applied sound isOpen earlier same)
    exact ⟨⟨row, reads⟩, reads.all_iff⟩

/-- A load balancer is inserted, and a session opened that shows it. -/
def balancerMoves : List Move :=
  [.event (.commit [.insert balancerTable (.ofNat 2) .empty]),
    .event (.openSession default .small default)]

def keeper : Session :=
  (((fresh .small).run balancerMoves).server.session? 0).getD default

theorem keeper_isOf : keeper.IsOf .small := by
  refine ⟨[.commit [.insert balancerTable (.ofNat 2) .empty],
    .openSession default .small default], 0, ?_⟩
  decide +kernel

/-- Two mappings, of which one is removed and the other replaced. -/
def replacing : Nat → List Entry
  | 0 => [.addMapping keeper (.ofNat 2) "10.0.0.5" "a" "10.0.0.2",
      .addMapping keeper (.ofNat 2) "fd00::5" "b" "fd00::2"]
  | 1 => [.deleteMapping keeper (.ofNat 2) "10.0.0.5",
      .addMapping keeper (.ofNat 2) "fd00::5" "c" "10.0.0.3"]
  | _ => []

def replacingMoves : List Move :=
  [.submit 0 (Entry.build (.ofMillis 50) [] (replacing 0)),
    .submit 0 (Entry.build (.ofMillis 50) [] (replacing 1)),
    .proceed 0, .proceed 0, .proceed 1, .proceed 1, .event (.work 0 0),
    .event (.work 0 0), .proceed 0, .proceed 1]

theorem replacingMoves_tended :
    Tended .small (.ofNat 2) replacing balancerMoves replacingMoves where
  built := by
    intro earlier session transaction later split
    simp only [balancerMoves, replacingMoves, List.cons_append,
      List.nil_append, List.cons_eq_append_iff, List.cons.injEq, reduceCtorEq,
      false_and, and_false, Move.submit.injEq, List.nil_eq,
      List.append_eq_nil_iff, exists_const, or_self, or_false, ↓existsAndEq,
      true_and, false_or] at split
    obtain ⟨rest, rfl, ⟨rfl, ⟨rfl, rfl⟩, rfl⟩ | ⟨rfl, ⟨rfl, rfl⟩, rfl⟩⟩ := split
    · exact ⟨_, _, rfl⟩
    · exact ⟨_, _, rfl⟩
  entries := by
    rintro (_ | _ | number) entry member
    all_goals
      simp only [replacing, List.mem_cons, List.not_mem_nil, or_false] at member
    all_goals rcases member with rfl | rfl
    all_goals exact keeper_isOf
  others := by simp [replacingMoves]

theorem replaced_mapping_reads_back :
    let start := (fresh .small).run balancerMoves
    ∃ view row, (start.run replacingMoves).server.session? 0 = some view ∧
      view.ReadsBack (.ofNat 2) (replacing 0 ++ replacing 1) row ∧
      view.portMappings (.ofNat 2) =
        .ok [⟨"[fd00::5]", "c", "10.0.0.3"⟩] := by
  intro start
  have stored : start.server.database.tables.mappings? (.ofNat 2) =
      some .empty := by decide +kernel
  have looked : ((start.run replacingMoves).server.session? 0).map
      (fun view => (view.applied, view.schema.hasTable balancerTable,
        view.portMappings (.ofNat 2))) =
        some (3, true, .ok [⟨"[fd00::5]", "c", "10.0.0.3"⟩]) := by
    decide +kernel
  obtain ⟨view, isOpen, looks⟩ := Option.map_eq_some_iff.mp looked
  simp only [Prod.mk.injEq] at looks
  obtain ⟨applied, follows, mappings⟩ := looks
  have askers : ((start.requests replacingMoves).filter
      (·.isApplied)).map (·.asker) = [some 0, some 1] := by decide +kernel
  have commands : start.applied replacing replacingMoves =
      replacing 0 ++ replacing 1 := by
    have listed := congrArg (List.flatMap (·.elim [] replacing)) askers
    rw [List.flatMap_map] at listed
    exact listed
  have reached : (start.run replacingMoves).server.generation = 3 := by
    decide +kernel
  have recent : start.server.generation ≤ view.applied := by
    rw [applied]
    decide +kernel
  obtain ⟨_, reads⟩ := mappings_read_back_iff stored replacingMoves_tended
    replacingMoves 0 view List.prefix_rfl isOpen recent follows
  obtain ⟨⟨row, reads⟩, _⟩ := reads replacingMoves List.prefix_rfl
    (reached.trans applied.symm)
  exact ⟨view, row, isOpen, commands ▸ reads, mappings⟩

def storing (port : String) : List Entry :=
  [.addMapping keeper (.ofNat 2) "10.0.0.5" port "10.0.0.2"]

def storingMoves (port : String) : List Move :=
  [.submit 0 (Entry.build (.ofMillis 50) [] (storing port)), .proceed 0,
    .proceed 0, .event (.work 0 0), .proceed 0]

/-- An empty port makes all mappings of its load balancer unreadable, and one
with a colon is cut short. -/
theorem odd_ports_are_not_read_back :
    let start := (fresh .small).run balancerMoves
    start.server.database.tables.mappings? (.ofNat 2) = some .empty ∧
    (∀ port, Tended .small (.ofNat 2) (fun _ => storing port) balancerMoves
      (storingMoves port)) ∧
    (∀ port ∈ ["", "a:b"],
      Entry.Leave (storing port) (.ofNat 2) "10.0.0.5" port "10.0.0.2") ∧
    (((start.run (storingMoves "")).server.session? 0).map fun view =>
        (view.applied, view.portMappings (.ofNat 2))) =
      some (2, .error (.invalidAddress
        "malformed ip_port_mappings entry 10.0.0.5=:10.0.0.2")) ∧
    (((start.run (storingMoves "a:b")).server.session? 0).map fun view =>
        (view.applied, view.portMappings (.ofNat 2))) =
      some (2, .ok [⟨"10.0.0.5", "a", "b:10.0.0.2"⟩]) := by
  intro start
  refine ⟨?empty, fun port => ⟨?built, ?entries, ?others⟩, ?left, ?unnamed,
    ?marked⟩
  case empty => decide +kernel
  case unnamed => decide +kernel
  case marked => decide +kernel
  case built =>
    intro earlier session transaction later split
    have submitted : .submit session transaction ∈
        balancerMoves ++ storingMoves port := by simp [split]
    have built : session = 0 ∧
        transaction = Entry.build (.ofMillis 50) [] (storing port) := by
      simpa [balancerMoves, storingMoves] using submitted
    exact ⟨_, _, built.2⟩
  case entries =>
    intro _ entry member
    cases List.mem_singleton.mp member
    exact keeper_isOf
  case others => simp [storingMoves]
  case left =>
    have queued : ∀ port ∈ ["", "a:b"], ∀ entry ∈ storing port,
        entry.operation?.isSome = true := by decide +kernel
    intro port listed
    have stores : Entry.Stores (.ofNat 2) "10.0.0.5" port "10.0.0.2"
        (.addMapping keeper (.ofNat 2) "10.0.0.5" port "10.0.0.2") := by
      refine ⟨keeper, "10.0.0.5", "10.0.0.2", rfl, by decide +kernel,
        by decide +kernel, ?_⟩
      exact Option.isSome_iff_exists.mp
        (queued port listed _ (by simp [storing]))
    exact ⟨[], _, [], rfl, stores, by simp⟩

end Traffic

end OvsdbClient
