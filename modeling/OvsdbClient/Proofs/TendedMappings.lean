import OvsdbClient.Proofs.MappingChanges
import OvsdbClient.Proofs.Outcomes

/-!
# Port mappings along a run

A load balancer is stored without port mappings, and from then on only mapping
commands change them.  Whoever submits the commands, and in whatever order they
get to be committed, the mappings are what the commands of the transactions that
were applied make of none.
-/

namespace OvsdbClient.Traffic

variable {schema : DatabaseSchema} {balancer : Uuid}
  {drafts : Nat → List Entry} {born moves : List Move} {request : Request}

/-- A server with a schema, to which nothing has happened yet. -/
def fresh (schema : DatabaseSchema) : Traffic := ofServer (.ofSchema schema)

/-- Nothing writes the mappings of a load balancer, since it was stored, but
mapping commands: every transaction is built from the entries that were drafted
for its submission, and whatever is no command spares the mappings. -/
structure Tended (schema : DatabaseSchema) (balancer : Uuid)
    (drafts : Nat → List Entry) (born moves : List Move) : Prop where
  built : ∀ earlier session transaction later,
    born ++ moves = earlier ++ .submit session transaction :: later →
    ∃ timeout hooks, transaction = Entry.build timeout hooks
      (drafts ((fresh schema).run earlier).submissions.length)
  entries : ∀ number, ∀ entry ∈ drafts number, entry.Tends schema balancer
  others : ∀ operations, .event (.commit operations) ∈ moves →
    ∀ operation ∈ operations, operation.SparesMappings balancer

/-- The entries of the transactions that were applied, in the order in which
that happened. -/
def applied (traffic : Traffic) (drafts : Nat → List Entry)
    (moves : List Move) : List Entry :=
  ((traffic.requests moves).filter (·.isApplied)).flatMap fun request =>
    request.asker.elim [] drafts

theorem Tended.upTo {point : List Move} (before : point <+: moves)
    (tended : Tended schema balancer drafts born moves) :
    Tended schema balancer drafts born point where
  built := by
    obtain ⟨future, rfl⟩ := before
    intro earlier session transaction later split
    refine tended.built earlier session transaction (later ++ future) ?_
    rw [← List.append_assoc, split, List.append_assoc, List.cons_append]
  entries := tended.entries
  others := fun operations member =>
    tended.others operations (before.subset member)

theorem Tended.tends (tended : Tended schema balancer drafts born moves)
    (traffic : Traffic) (point : List Move) :
    ∀ entry ∈ traffic.applied drafts point, entry.Tends schema balancer := by
  intro entry member
  obtain ⟨request, _, drafted⟩ := List.mem_flatMap.mp member
  cases own : request.asker with
  | none =>
      rw [own] at drafted
      cases drafted
  | some number =>
      rw [own] at drafted
      exact tended.entries number entry drafted

theorem sparesMappings_of_adds {hooks : List CounterHook}
    {added : List Operation} (adds : List.Forall₂ CounterHook.Adds hooks added)
    (balancer : Uuid) :
    ∀ operation ∈ added, operation.SparesMappings balancer := by
  induction adds with
  | nil => exact nofun
  | cons one _ induction =>
      exact List.forall_mem_cons.mpr
        ⟨Operation.sparesMappings_of_adds one balancer, induction⟩

theorem changes_of_spared {operations : List Operation}
    (spared : ∀ operation ∈ operations, operation.SparesMappings balancer) :
    (∀ operation ∈ operations, ¬operation.Replaces balancer) ∧
      operations.filterMap (Operation.change? balancer) = [] :=
  ⟨fun operation member => (spared operation member).1,
    List.filterMap_eq_nil_iff.mpr fun operation member =>
      (spared operation member).2⟩

theorem changes_of_completed {timeout : Span} {hooks : List CounterHook}
    {entries : List Entry} {operations : List Operation}
    (tend : ∀ entry ∈ entries, entry.Tends schema balancer)
    (completed : (Entry.build timeout hooks entries).Completed operations) :
    (∀ operation ∈ operations, ¬operation.Replaces balancer) ∧
      operations.filterMap (Operation.change? balancer) =
        entries.filterMap (Entry.change? balancer) := by
  obtain ⟨added, adds, rfl⟩ := completed
  obtain ⟨kept, nothing⟩ :=
    changes_of_spared (sparesMappings_of_adds adds balancer)
  rw [Entry.build_eq]
  constructor
  · intro operation member
    rcases List.mem_append.mp member with queued | hooked
    · obtain ⟨entry, drafted, queues⟩ := List.mem_filterMap.mp queued
      exact Entry.not_replaces_of_tends (tend entry drafted) queues
    · exact kept operation hooked
  · rw [List.filterMap_append, nothing, List.append_nil,
      List.filterMap_filterMap]
    rfl

/-- A server is asked to change mappings as the entries say that were drafted
for the submission that asks, and in no other way. -/
theorem Tended.of_request? {move : Move}
    (tended : Tended schema balancer drafts born (moves ++ [move]))
    (asks : (((fresh schema).run born).run moves).request? move =
      some request) :
    (∀ operation ∈ request.operations, ¬operation.Replaces balancer) ∧
      request.operations.filterMap (Operation.change? balancer) =
        (request.asker.elim [] drafts).filterMap (Entry.change? balancer) := by
  cases own : request.asker with
  | none =>
      cases move with
      | event event =>
          cases event with
          | commit operations =>
              cases asks
              exact changes_of_spared (tended.others operations (by simp))
          | _ => cases asks
      | submit session transaction => cases asks
      | proceed number =>
          cases ((asker_of_request? asks).mpr rfl).symm.trans own
      | expire number ofSession => cases asks
  | some number =>
      rw [← run_append] at asks
      have member : request ∈ (fresh schema).requests
          (born ++ (moves ++ [move])) :=
        mem_requests_iff.mpr ⟨born ++ moves, move, by simp, asks⟩
      obtain ⟨earlier, session, transaction, later, split, rfl, _,
        completed⟩ := exists_submitted_of_asker member own
      obtain ⟨timeout, hooks, rfl⟩ := tended.built _ _ _ _ split
      exact changes_of_completed (tended.entries _) completed

theorem applied_append_singleton (traffic : Traffic)
    (drafts : Nat → List Entry) (moves : List Move) (move : Move) :
    traffic.applied drafts (moves ++ [move]) =
      traffic.applied drafts moves ++
        (traffic.run moves).applied drafts [move] := by
  unfold applied
  rw [requests_append, List.filter_append, List.flatMap_append]

/-- The mappings of a load balancer are what applied commands make of none. -/
theorem mappings?_run
    (stored : ((fresh schema).run born).server.database.tables.mappings?
      balancer = some .empty)
    (tended : Tended schema balancer drafts born moves) :
    let start := (fresh schema).run born
    (start.run moves).server.database.tables.mappings? balancer =
      some (SortedMap.empty.putAll ((start.applied drafts moves).filterMap
        (Entry.change? balancer))) := by
  intro start
  -- From the end, as what a request asked for is told by the whole run before.
  induction moves using List.reverseRecOn with
  | nil => exact stored
  | append_singleton moves move induction =>
      have before := induction (tended.upTo (List.prefix_append _ _))
      rw [run_append, run_cons, run_nil, applied_append_singleton,
        List.filterMap_append, SortedMap.putAll_append]
      cases asked : (start.run moves).request? move with
      | none =>
          have nothing : (start.run moves).applied drafts [move] = [] := by
            simp [applied, requests, asked]
          rw [database_step_of_request?_eq_none asked, nothing]
          exact before
      | some request =>
          obtain ⟨kept, changes⟩ := tended.of_request? asked
          rw [server_step_of_request? asked]
          rw [← server_of_request? asked] at before
          cases answered : request.answer with
          | error fault =>
              have nothing : (start.run moves).applied drafts [move] = [] := by
                simp [applied, requests, asked, Request.isApplied, answered]
              rw [Request.after, Server.database_commit_of_error answered,
                nothing]
              exact before
          | ok generation =>
              have entries : (start.run moves).applied drafts [move] =
                  request.asker.elim [] drafts := by
                simp [applied, requests, asked, Request.isApplied, answered]
              rw [entries, ← changes]
              exact Database.mappings?_commit before kept
                (Server.database_commit answered)

end OvsdbClient.Traffic
