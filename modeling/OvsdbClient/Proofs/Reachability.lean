import Mathlib.Data.List.DropRight
import OvsdbClient.Proofs.CallPreservation
import OvsdbClient.Proofs.EndpointTexts
import OvsdbClient.Proofs.MappingChanges

/-!
# Which server an endpoint reaches

Servers are found by the texts of their endpoints.  No two endpoints are written
alike, and so a request at an endpoint gets to the server that was added there
last, whatever else happens on the network.  If there was none, or if it was
removed again, the connection is refused.
-/

namespace OvsdbClient

namespace SortedMap

universe u v

variable {κ : Type u} {ν : Type v} [Ord κ] [Std.TransOrd κ]
  [Std.LawfulEqOrd κ]

/-- What is found after changes was there before or is one of them. -/
theorem of_get?_putAll [DecidableEq κ] {map : SortedMap κ ν}
    {changes : List (κ × Option ν)} {key : κ} {value : ν}
    (found : (map.putAll changes).get? key = some value) :
    map.get? key = some value ∨ (key, some value) ∈ changes := by
  induction changes generalizing map with
  | nil => exact .inl found
  | cons change changes induction =>
      rcases induction found with earlier | later
      · rw [get?_put] at earlier
        split at earlier
        case isTrue same =>
          obtain ⟨changed, new⟩ := change
          cases same
          cases earlier
          exact .inr List.mem_cons_self
        case isFalse => exact .inl earlier
      · exact .inr (List.mem_cons_of_mem _ later)

end SortedMap

namespace Action

variable {action : Action} {endpoint : Endpoint} {number : Nat}

/-- A server is added at an endpoint, or removed from there. -/
def Concerns (endpoint : Endpoint) (action : Action) : Prop :=
  (∃ number, action = .addServer endpoint number) ∨
    action = .removeServer endpoint

theorem change?_eq_added_iff :
    action.change? = some (endpoint.text, some number) ↔
      action = .addServer endpoint number := by
  cases action <;> simp [change?, Endpoint.text_injective.eq_iff]

theorem exists_change?_iff :
    (∃ new, action.change? = some (endpoint.text, new)) ↔
      action.Concerns endpoint := by
  cases action <;> simp [change?, Concerns, Endpoint.text_injective.eq_iff]

end Action

/-- The action that is asked for, now or later. -/
def Call.action? : Call → Option Action
  | .perform action | .schedule _ action _ => some action
  | _ => none

namespace Network

variable {network later last : Network}

/-! ## What time leads to -/

/-- Plans at the front of the agenda are carried out, and servers are added and
removed as they say and not otherwise. -/
def Unfolds (network later : Network) : Prop :=
  ∃ plans, network.agenda = plans ++ later.agenda ∧
    later.addresses = network.addresses.putAll
      ((plans.map Plan.action).filterMap Action.change?)

theorem unfolds_of_agenda_eq (agenda : later.agenda = network.agenda)
    (addresses : later.addresses = network.addresses) :
    network.Unfolds later :=
  ⟨[], agenda.symm, addresses⟩

theorem Unfolds.refl (network : Network) : network.Unfolds network :=
  unfolds_of_agenda_eq rfl rfl

theorem Unfolds.trans (first : network.Unfolds later)
    (second : later.Unfolds last) : network.Unfolds last := by
  obtain ⟨plans, agenda, addresses⟩ := first
  obtain ⟨others, agenda', addresses'⟩ := second
  refine ⟨plans ++ others, ?_, ?_⟩
  · rw [agenda, agenda', List.append_assoc]
  · rw [addresses', addresses, ← SortedMap.putAll_append,
      ← List.filterMap_append, ← List.map_append]

theorem Unfolds.congr (unfolds : network.Unfolds later)
    (agenda : last.agenda = later.agenda)
    (addresses : last.addresses = later.addresses) : network.Unfolds last :=
  unfolds.trans (unfolds_of_agenda_eq agenda addresses)

theorem unfolds_withServer {α : Type} (network : Network) (number : Nat)
    (missing : α) (change : Server → α × Server) :
    network.Unfolds (network.withServer number missing change).2 :=
  unfolds_of_agenda_eq (agenda_withServer ..) (addresses_withServer ..)

theorem unfolds_stopHandle (network : Network) (handle : Nat) :
    network.Unfolds (network.stopHandle handle).2 :=
  unfolds_of_agenda_eq (network.agenda_perform (.stop handle))
    (network.addresses_stopHandle handle)

theorem unfolds_fetchSchema (network : Network) (endpoint : Endpoint)
    (schema : String) :
    network.Unfolds (network.fetchSchema endpoint schema).2 := by
  unfold fetchSchema
  split
  · exact .refl network
  · exact network.unfolds_withServer ..

theorem addresses_perform_eq_putAll (network : Network) (action : Action) :
    (network.perform action).2.addresses =
      network.addresses.putAll ([action].filterMap Action.change?) := by
  rw [addresses_perform_eq]
  cases changes : action.change? with
  | none =>
      rw [List.filterMap_cons_none changes]
      rfl
  | some change =>
      rw [List.filterMap_cons_some changes]
      rfl

theorem unfolds_moveTo (network : Network) (time : Nat) :
    network.Unfolds (network.moveTo time) := by
  unfold Network.moveTo
  dsimp only
  split
  case h_2 => exact unfolds_of_agenda_eq rfl rfl
  case h_1 plan agenda listed =>
    split
    case isFalse => exact unfolds_of_agenda_eq rfl rfl
    case isTrue =>
      let begun : Network := { network with clock := time, agenda }
      refine ⟨[plan], ?_, begun.addresses_perform_eq_putAll plan.action⟩
      change network.agenda = plan :: (begun.perform plan.action).2.agenda
      rw [agenda_perform, listed]

theorem lasting_unfolds : Lasting Unfolds where
  refl := .refl
  trans := .trans
  settle := fun _ => unfolds_of_agenda_eq rfl rfl
  moveTo := unfolds_moveTo
  age := fun _ _ => unfolds_of_agenda_eq rfl rfl
  note := fun _ _ => unfolds_of_agenda_eq rfl rfl
  commit := fun network _ _ => network.unfolds_withServer ..
  fetchSchema := unfolds_fetchSchema
  abandon := fun _ _ _ => unfolds_of_agenda_eq rfl rfl

theorem unfolds_bootstrap? {settings : ConnectionSettings} {fuel : Nat}
    {draws : Draws} {answer : Except Fault Nat}
    (answered : network.bootstrap? settings fuel draws = some (answer, later)) :
    network.Unfolds later := by
  unfold bootstrap? at answered
  split at answered
  case h_1 =>
    cases answered
    exact .refl network
  case h_2 =>
    dsimp only at answered
    split at answered
    case h_1 => cases answered
    case h_2 ran =>
      cases answered
      exact (lasting_unfolds.exists_attempt ran).1
    case h_3 ran =>
      cases answered
      exact (lasting_unfolds.exists_attempt ran).1.congr rfl rfl

theorem unfolds_openSession (network : Network) (endpoint : Endpoint)
    (selection : Selection) (options : SessionOptions) :
    network.Unfolds (network.openSession endpoint selection options).2 := by
  unfold openSession
  split
  · exact .refl network
  · exact network.unfolds_withServer ..

theorem unfolds_startSession (network : Network) (number : Nat)
    (connector : Connector) :
    network.Unfolds (network.startSession number connector).2 := by
  have opens := network.unfolds_openSession connector.endpoint
    connector.selection connector.settings.sessionOptions
  unfold startSession
  dsimp only
  split
  case h_1 answered =>
    rw [answered] at opens
    exact opens
  case h_2 answered =>
    rw [answered] at opens
    cases connector.settings.lock <;> exact opens.congr rfl rfl

theorem unfolds_start (network : Network) (number : Nat) :
    network.Unfolds (network.start number).2 := by
  unfold start
  split
  · exact .refl network
  · split
    · exact .refl network
    · exact network.unfolds_startSession ..

theorem unfolds_stopConnector (network : Network) (number : Nat) :
    network.Unfolds (network.stopConnector number).2 := by
  rcases network.stopConnector_cases number with ⟨_, same⟩ |
    ⟨connector, _, ⟨_, same⟩ | ⟨handle, _, same⟩⟩
  · rw [same]
    exact .refl network
  · rw [same]
    exact unfolds_of_agenda_eq rfl rfl
  · have emptied : network.Unfolds (network.withSlot number connector none) :=
      unfolds_of_agenda_eq rfl rfl
    rw [same]
    exact emptied.trans (unfolds_stopHandle ..)

/-- Calls that ask for no action let the agenda unfold. -/
theorem unfolds_call {call : Call} (network : Network)
    (unasked : call.action? = none) : network.Unfolds (network.call call) := by
  cases call with
  | perform | schedule => cases unasked
  | createServer schema => exact unfolds_of_agenda_eq rfl rfl
  | advance span => exact lasting_unfolds.advance network span
  | submit id transaction =>
      exact lasting_unfolds.submit network id transaction
  | execute handle command =>
      exact lasting_unfolds.execute network handle command
  | awaitRow id policy table column atom fuel draws =>
      simp only [Network.call]
      cases answered :
        network.awaitRow? id policy table column atom fuel draws with
      | none => exact .refl network
      | some answer => exact lasting_unfolds.awaitRow? answered
  | retain held => exact lasting_unfolds.abandonAllBut network _
  | bootstrap settings fuel draws =>
      simp only [Network.call]
      cases answered : network.bootstrap? settings fuel draws with
      | none => exact .refl network
      | some answer => exact unfolds_bootstrap? answered
  | start connector => exact network.unfolds_start connector
  | stopConnector connector => exact network.unfolds_stopConnector connector

/-! ## Which actions are carried out -/

/-- The actions that a call carries out: the one that is called for, or those
of the plans that it takes off the agenda. -/
def carriedOut (network : Network) : Call → List Action
  | .perform action => [action]
  | .schedule .. => []
  | call =>
      (network.agenda.rdrop (network.call call).agenda.length).map Plan.action

def history (network : Network) : List Call → List Action
  | [] => []
  | call :: calls =>
      network.carriedOut call ++ (network.call call).history calls

theorem Unfolds.addresses_eq (unfolds : network.Unfolds later) :
    later.addresses = network.addresses.putAll
      (((network.agenda.rdrop later.agenda.length).map Plan.action).filterMap
        Action.change?) := by
  obtain ⟨plans, agenda, addresses⟩ := unfolds
  rw [agenda, List.rdrop_append_length, addresses]

theorem addresses_call (network : Network) (call : Call) :
    (network.call call).addresses = network.addresses.putAll
      ((network.carriedOut call).filterMap Action.change?) := by
  cases call with
  | perform action => exact network.addresses_perform_eq_putAll action
  | schedule after action keeps => rfl
  | _ => exact (network.unfolds_call rfl).addresses_eq

/-- Servers are where the actions that were carried out have put them. -/
theorem addresses_foldl_call (network : Network) (calls : List Call) :
    (calls.foldl call network).addresses = network.addresses.putAll
      ((network.history calls).filterMap Action.change?) := by
  induction calls generalizing network with
  | nil => rfl
  | cons call calls induction =>
      rw [List.foldl_cons, induction, addresses_call, history,
        List.filterMap_append, SortedMap.putAll_append]

/-- The last server that was added at an endpoint, and has not been removed from
there since, is that with a number. -/
def LastAdded (calls : List Call) (endpoint : Endpoint) (number : Nat) : Prop :=
  LastIs (· = .addServer endpoint number) (Action.Concerns endpoint)
    (empty.history calls)

theorem serverAt?_after_iff {calls : List Call} {endpoint : Endpoint}
    {number : Nat} :
    (after calls).serverAt? endpoint = some number ↔
      LastAdded calls endpoint number := by
  rw [serverAt?, after, addresses_foldl_call]
  exact SortedMap.get?_putAll_iff.trans (LastIs.congr
    (fun _ _ => Action.change?_eq_added_iff)
    fun _ _ => Action.exists_change?_iff)

/-! ## Servers that are there -/

/-- Only servers that are there are added, or planned to be. -/
def RefersToServers (network : Network) : List Call → Prop
  | [] => True
  | call :: calls =>
      (∀ endpoint number, call.action? = some (.addServer endpoint number) →
        number < network.servers.length) ∧
        (network.call call).RefersToServers calls

theorem mem_enter_iff {plan other : Plan} {agenda : List Plan} :
    other ∈ enter plan agenda ↔ other = plan ∨ other ∈ agenda := by
  induction agenda with
  | nil => simp [enter]
  | cons next agenda induction =>
      rw [enter]
      split
      · rw [List.mem_cons, induction, List.mem_cons, or_left_comm]
      · rw [List.mem_cons]

theorem Preserves.length_servers_le (preserves : network.Preserves later) :
    network.servers.length ≤ later.servers.length := by
  -- Otherwise the first server that is missing later would still have its
  -- schema.
  by_contra fewer
  have low : later.servers.length < network.servers.length := by omega
  have here : network.schema? later.servers.length =
      some network.servers[later.servers.length].schema :=
    congrArg (Option.map _) (List.getElem?_eq_getElem low)
  have still := preserves.schemas _ _ here
  simp [schema?, server?] at still

theorem Grounded.unfolds (grounded : network.Grounded)
    (unfolds : network.Unfolds later)
    (grows : network.servers.length ≤ later.servers.length) :
    later.Grounded := by
  obtain ⟨plans, agenda, addresses⟩ := unfolds
  constructor
  · intro text number here
    refine lt_of_lt_of_le ?_ grows
    rw [addresses] at here
    rcases SortedMap.of_get?_putAll here with old | new
    · exact grounded.addresses text number old
    · obtain ⟨action, member, change⟩ := List.mem_filterMap.mp new
      obtain ⟨plan, planned, rfl⟩ := List.mem_map.mp member
      obtain ⟨endpoint, added⟩ := Action.exists_added_of_change? change
      refine grounded.agenda plan ?_ endpoint number added
      rw [agenda]
      exact List.mem_append_left _ planned
  · intro plan member endpoint number added
    refine lt_of_lt_of_le ?_ grows
    refine grounded.agenda plan ?_ endpoint number added
    rw [agenda]
    exact List.mem_append_right _ member

theorem Grounded.call {call : Call} (grounded : network.Grounded)
    (refers : ∀ endpoint number,
      call.action? = some (.addServer endpoint number) →
        number < network.servers.length) : (network.call call).Grounded := by
  have grows : network.servers.length ≤ (network.call call).servers.length :=
    (network.preserves_call call).length_servers_le
  cases call with
  | perform action =>
      constructor
      · intro text number here
        refine lt_of_lt_of_le ?_ grows
        rcases network.addresses_perform action here with old | ⟨endpoint, rfl⟩
        · exact grounded.addresses text number old
        · exact refers endpoint number rfl
      · intro plan member endpoint number added
        refine lt_of_lt_of_le ?_ grows
        refine grounded.agenda plan ?_ endpoint number added
        rw [← network.agenda_perform action]
        exact member
  | schedule after action keeps =>
      refine ⟨grounded.addresses, ?_⟩
      intro plan member endpoint number added
      rcases mem_enter_iff.mp member with rfl | old
      · exact refers endpoint number (congrArg some added)
      · exact grounded.agenda plan old endpoint number added
  | _ => exact grounded.unfolds (network.unfolds_call rfl) grows

theorem Grounded.foldl_call {calls : List Call} (grounded : network.Grounded)
    (refers : network.RefersToServers calls) :
    (calls.foldl Network.call network).Grounded := by
  induction calls generalizing network with
  | nil => exact grounded
  | cons call calls induction =>
      exact induction (grounded.call refers.1) refers.2

/-! ## Requests at an endpoint -/

def withServerAs (network : Network) (number : Nat) (server : Server) :
    Network :=
  { network with servers := network.servers.set number server }

/-- Requests at an endpoint get to the server with a number, and to no other. -/
structure LeadsTo (network : Network) (endpoint : Endpoint) (number : Nat)
    (server : Server) : Prop where
  here : network.server? number = some server
  fetches : ∀ schema, network.fetchSchema endpoint schema =
    ((server.fetchSchema endpoint schema).1,
      network.withServerAs number (server.fetchSchema endpoint schema).2)
  opens : ∀ selection options, network.openSession endpoint selection options =
    (.ok ⟨number, server.sessions.length⟩, network.withServerAs number
      (server.openSession endpoint selection.build options).2)

/-- Requests at an endpoint are refused, and nothing changes. -/
structure Refuses (network : Network) (endpoint : Endpoint) : Prop where
  fetches : ∀ schema, network.fetchSchema endpoint schema =
    (.error (.connectionUnavailable schema
      (endpoint.text ++ ": connection refused")), network)
  opens : ∀ selection options, network.openSession endpoint selection options =
    (.error (.connectionUnavailable selection.schema.name
      (endpoint.text ++ ": connection refused")), network)

theorem leadsTo_of_serverAt? {endpoint : Endpoint} {number : Nat}
    {server : Server} (located : network.serverAt? endpoint = some number)
    (here : network.server? number = some server) :
    network.LeadsTo endpoint number server := by
  refine ⟨here, fun schema => ?_, fun selection options => ?_⟩
  · simp only [fetchSchema, reach, located, orFault, withServer, here]
    rfl
  · simp only [openSession, reach, located, orFault, withServer, here]
    rfl

theorem refuses_of_serverAt? {endpoint : Endpoint}
    (away : network.serverAt? endpoint = none) : network.Refuses endpoint := by
  constructor
  · intro schema
    simp only [fetchSchema, reach, away, orFault]
  · intro selection options
    simp only [openSession, reach, away, orFault]

/-- No two endpoints are written alike, and so a request at an endpoint gets to
the last server that was added there.  If there is none, or if it has been
removed since, the request is refused. -/
theorem endpoint_leads_to_last_added :
    Function.Injective Endpoint.text ∧
      ∀ calls, empty.RefersToServers calls → ∀ endpoint,
        (∀ number, LastAdded calls endpoint number →
          ∃ server, (after calls).LeadsTo endpoint number server) ∧
        ((∀ number, ¬LastAdded calls endpoint number) →
          (after calls).Refuses endpoint) := by
  refine ⟨Endpoint.text_injective, fun calls refers endpoint => ⟨?_, ?_⟩⟩
  · intro number added
    have located := serverAt?_after_iff.mpr added
    have nothing : empty.Grounded := ⟨fun _ _ => nofun, nofun⟩
    have low : number < (after calls).servers.length :=
      (nothing.foldl_call refers).addresses _ number located
    exact ⟨_, leadsTo_of_serverAt? located (List.getElem?_eq_getElem low)⟩
  · intro unadded
    refine refuses_of_serverAt? (Option.eq_none_iff_forall_ne_some.mpr ?_)
    exact fun number located => unadded number (serverAt?_after_iff.mp located)

/-- An endpoint is given another server, as planned, and a remote with the same
host in more brackets is removed again. -/
def replacingCalls : List Call :=
  [.createServer .small, .createServer .small,
    .perform (.addServer (.tcp "::1" 6641) 0),
    .perform (.addServer (.tcp "[::1]" 6641) 0),
    .schedule (.ofMillis 5) (.addServer (.tcp "::1" 6641) 1) [],
    .perform (.removeServer (.tcp "[::1]" 6641)),
    .advance (.ofMillis 10)]

theorem endpoint_leads_to_replacing_server :
    empty.RefersToServers replacingCalls ∧
      (∃ server, (after replacingCalls).LeadsTo (.tcp "::1" 6641) 1 server) ∧
      (after replacingCalls).Refuses (.tcp "[::1]" 6641) := by
  have refers : empty.RefersToServers replacingCalls := by
    refine ⟨nofun, nofun, ?first, ?second, ?planned, nofun, nofun, trivial⟩
    case first | second | planned =>
      intro endpoint number asked
      cases asked
      decide
  obtain ⟨_, leads⟩ := endpoint_leads_to_last_added
  have last : LastAdded replacingCalls (.tcp "::1" 6641) 1 :=
    serverAt?_after_iff.mp (by decide +kernel)
  have away : (after replacingCalls).serverAt? (.tcp "[::1]" 6641) = none := by
    decide +kernel
  refine ⟨refers, (leads _ refers _).1 1 last, (leads _ refers _).2 ?_⟩
  intro number added
  cases away.symm.trans (serverAt?_after_iff.mpr added)

end Network

end OvsdbClient
