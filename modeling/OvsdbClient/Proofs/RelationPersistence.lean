import OvsdbClient.Network.Retention
import OvsdbClient.Proofs.Bootstrapping

/-!
# What lasts while clients work

Whatever a client waits for, time passes and plans are carried out.  A relation
that lasts through each of these steps lasts through everything that is made up
of them.
-/

namespace OvsdbClient.Network

/-- A relation between a network and what becomes of it, as long as nothing is
opened, started or stopped but by plans. -/
structure Lasting (relation : Network → Network → Prop) : Prop where
  refl : ∀ network, relation network network
  trans : ∀ {network later last}, relation network later →
    relation later last → relation network last
  settle : ∀ network, relation network network.settle
  moveTo : ∀ network time, relation network (network.moveTo time)
  age : ∀ (network : Network) clock, relation network { network with clock }
  note : ∀ network notices, relation network (network.note notices)
  commit : ∀ network number operations,
    relation network (network.commit number operations).2
  fetchSchema : ∀ network endpoint schema,
    relation network (network.fetchSchema endpoint schema).2
  abandon : ∀ (network : Network) server session,
    relation network (network.modifyServer server
      (·.modifySession session Session.abandon))

namespace Lasting

variable {relation : Network → Network → Prop} {network later : Network}

theorem runUntil (lasting : Lasting relation) (network : Network)
    (done : Network → Bool) (deadline : Nat) :
    relation network (network.runUntil done deadline) := by
  apply happen_keeps
  · exact fun later lasts => lasting.trans lasts (lasting.settle later)
  · exact fun later time lasts =>
      lasting.trans lasts (lasting.moveTo later time)
  · exact fun later clock lasts =>
      lasting.trans lasts (lasting.age later clock)
  · exact lasting.refl network

theorem advance (lasting : Lasting relation) (network : Network)
    (span : Span) : relation network (network.advance span) :=
  lasting.runUntil network _ _

/-! ## Submitting -/

theorem await (lasting : Lasting relation) (network : Network)
    (id : SessionId) (generation : Nat) (timeout : Span)
    (limit : Option Span) :
    relation network (network.await id generation timeout limit).2 := by
  unfold Network.await
  extract_lets allowed ended waited
  have waits : relation network waited := lasting.runUntil network _ _
  split
  · exact lasting.refl network
  · split
    · exact lasting.refl network
    · split
      · exact waits
      · split <;> exact waits

theorem transact (lasting : Lasting relation) (network : Network)
    (id : SessionId) (operations : List Operation) (limit : Option Span) :
    relation network (network.transact id operations limit).2 := by
  unfold Network.transact
  split
  case h_1 => exact lasting.refl network
  case h_2 session _ =>
    split
    · exact lasting.refl network
    · have commits := lasting.commit network id.server operations
      split
      case h_1 fault after answered =>
        rw [answered] at commits
        exact commits
      case h_2 generation after answered =>
        rw [answered] at commits
        exact lasting.trans commits (lasting.await after ..)

theorem submit (lasting : Lasting relation) (network : Network)
    (id : SessionId) (transaction : Transaction) :
    relation network (network.submit id transaction).2 := by
  unfold Network.submit
  split
  · exact lasting.refl network
  · split
    · exact lasting.refl network
    · split
      · exact lasting.refl network
      · exact lasting.transact network ..

theorem execute (lasting : Lasting relation) (network : Network)
    (handle : Handle) (command : Command) :
    relation network (network.execute handle command).2 := by
  unfold Network.execute
  split
  · exact lasting.refl network
  · split
    case h_1 => exact lasting.note network _
    case h_2 rows transaction notices _ =>
      have submits := lasting.trans (lasting.note network notices)
        (lasting.submit (network.note notices) handle.session transaction)
      split
      case h_1 answered =>
        rw [answered] at submits
        exact submits
      case h_2 answered =>
        rw [answered] at submits
        exact submits

theorem awaitRow? (lasting : Lasting relation) {id : SessionId}
    {policy : RetryPolicy} {table column : String} {atom : Atom} {fuel : Nat}
    {draws : Draws} {answer : Except Fault Row}
    (answered : network.awaitRow? id policy table column atom fuel draws =
      some (answer, later)) : relation network later := by
  unfold Network.awaitRow? at answered
  refine Retriable.run?_keeps (relation network) ?_ ?_ (lasting.refl network)
    answered
  · intro current lasts
    dsimp only
    split <;> exact lasts
  · exact fun fault delay current lasts =>
      lasting.trans lasts (lasting.advance current delay)

/-! ## Abandoning sessions -/

theorem abandonAllBut (lasting : Lasting relation) (network : Network)
    (kept : List Nat) : relation network (network.abandonAllBut kept) := by
  unfold Network.abandonAllBut
  generalize network.handles.zipIdx = numbered
  suffices lasts : ∀ later, relation network later →
      relation network (numbered.foldl _ later) from
    lasts network (lasting.refl network)
  induction numbered with
  | nil => exact fun later lasts => lasts
  | cons entry numbered induction =>
      intro later lasts
      rw [List.foldl_cons]
      refine induction _ ?_
      dsimp only
      split
      · exact lasts
      · exact lasting.trans lasts (lasting.abandon later ..)

/-! ## Fetching a schema -/

theorem askRemotes (lasting : Lasting relation) (network : Network)
    (schema : String) (last : Option Fault) (remotes : List Endpoint) :
    relation network (network.askRemotes schema last remotes).2 := by
  induction remotes generalizing network last with
  | nil => exact lasting.refl network
  | cons endpoint remotes induction =>
      have fetches := lasting.fetchSchema network endpoint schema
      rw [askRemotes_cons]
      split
      · exact fetches
      · split
        · exact lasting.trans fetches (induction _ _)
        · exact fetches

variable {settings : ConnectionSettings}

theorem attempt (lasting : Lasting relation) (state : Fetching)
    (lasts : relation network state.network) :
    relation network ((fetching settings).attempt state).2.network :=
  lasting.trans lasts (lasting.askRemotes state.network ..)

theorem pause (lasting : Lasting relation) (fault : Fault) (delay : Span)
    (state : Fetching) (lasts : relation network state.network) :
    relation network
      ((fetching settings).pause fault delay state).network :=
  lasting.trans lasts
    (lasting.trans (lasting.note state.network _) (lasting.advance _ delay))

/-- What fetching a schema ends with is what its last attempt left. -/
theorem exists_attempt (lasting : Lasting relation) {fuel : Nat}
    {draws : Draws} {answer : Except Fault (Endpoint × Selection) × Fetching}
    (ran : (fetching settings).run? settings.bootstrapRetry
      Fault.isConnectivity fuel ⟨network, 0⟩ draws = some answer) :
    relation network answer.2.network ∧
      ∃ state, (fetching settings).attempt state = answer := by
  obtain ⟨state, lasts, attempted⟩ := Retriable.exists_attempt_of_run?
    (fun state : Fetching => relation network state.network)
    lasting.attempt lasting.pause (lasting.refl network) ran
  exact ⟨attempted ▸ lasting.attempt state lasts, state, attempted⟩

end Lasting

end OvsdbClient.Network
