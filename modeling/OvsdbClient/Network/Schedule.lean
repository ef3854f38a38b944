import OvsdbClient.Network.Basic

/-!
# Passing time

Sessions settle whenever they can, and time moves on only to the next thing that
is due: an action on the agenda, or an announcement that was held back.
-/

namespace OvsdbClient.Network

/-- Puts a plan on the agenda, after those that are due no later. -/
def enter (plan : Plan) : List Plan → List Plan
  | [] => [plan]
  | next :: agenda =>
      if next.time ≤ plan.time then next :: enter plan agenda
      else plan :: next :: agenda

/-- Plans an action, which keeps handles in use until it is carried out. -/
def schedule (network : Network) (after : Span) (action : Action)
    (keeps : List Nat) : Network :=
  let plan : Plan := ⟨network.clock + after.ceilMillis, action, keeps⟩
  { network with agenda := enter plan network.agenda }

/-- Carries out an action. -/
def perform (network : Network) : Action → Except Fault Reply × Network
  | .addServer endpoint server =>
      (.ok .nothing, network.addServer endpoint server)
  | .removeServer endpoint =>
      let (removed, network) := network.removeServer endpoint
      let schema := (removed.bind network.server?).map (·.schema.name)
      (.ok (.schema schema), network)
  | .insertRow server table columns =>
      let (result, network) := network.insertRow server table columns
      (result.map .uuid, network)
  | .commit server operations =>
      let (result, network) := network.commit server operations
      (result.map .generation, network)
  | .setDelay server delay =>
      (.ok .nothing,
        network.modifyServer server fun server => { server with delay })
  | .failSchemaFetches server count =>
      (.ok .nothing, network.modifyServer server fun server =>
        { server with outages := count })
  | .failNextCommit server reason =>
      (.ok .nothing, network.modifyServer server fun server =>
        { server with rejection := some reason })
  | .setLock handle name =>
      match network.handle? handle with
      | some handle => (.ok .nothing, network.setLock handle.session name)
      | none => (.ok .nothing, network)
  | .stop handle =>
      let (clean, network) := network.stopHandle handle
      (.ok (.flag clean), network)
  | .impossible fault => (.error fault, network)

/-- Lets every session do what it can without waiting. -/
def settle (network : Network) : Network :=
  let settled := network.servers.map fun server => server.settle network.clock
  { network with servers := settled.map Prod.fst }.note
    (settled.flatMap Prod.snd)

/-- The time of the next thing that is due. -/
def due? (network : Network) : Option Nat :=
  let planned := (network.agenda.head?.map (·.time)).toList
  (planned ++ network.servers.filterMap Server.due?).min?

/-- Moves time on and carries out the first action of the agenda, if it is
due. -/
def moveTo (network : Network) (time : Nat) : Network :=
  let network := { network with clock := time }
  match network.agenda with
  | plan :: agenda =>
      if plan.time ≤ time then
        let (result, network) := { network with agenda }.perform plan.action
        { network with occurred := ⟨time, result⟩ :: network.occurred }
      else
        network
  | [] => network

/-- Lets up to `fuel` things happen that are due by a deadline, until `done`
holds or the deadline is reached. -/
def happen (done : Network → Bool) (deadline : Nat) :
    (fuel : Nat) → Network → Network
  | 0, network => network
  | fuel + 1, network =>
      let network := network.settle
      if done network then
        network
      else
        match network.due? with
        | some time =>
            if time ≤ deadline then
              happen done deadline fuel
                (network.moveTo (max time network.clock))
            else
              { network with clock := max deadline network.clock }
        | none => { network with clock := max deadline network.clock }

/-- A bound on the number of things that can happen before nothing is left to
do. -/
def workload (network : Network) : Nat :=
  let sessions := network.servers.foldl
    (fun total server => total + server.sessions.length) 0
  let held := network.servers.foldl
    (fun total server => total + server.workload) 0
  network.agenda.length * (1 + 2 * sessions) + held + 2

/-- Lets time run until `done` holds, but not beyond a deadline. -/
def runUntil (network : Network) (done : Network → Bool) (deadline : Nat) :
    Network :=
  happen done deadline network.workload network

/-- Lets a span of time pass. -/
def advance (network : Network) (span : Span) : Network :=
  network.runUntil (fun _ => false) (network.clock + span.ceilMillis)

/-- Lets everything happen that is due already. -/
def rest (network : Network) : Network :=
  network.advance .zero

end OvsdbClient.Network
