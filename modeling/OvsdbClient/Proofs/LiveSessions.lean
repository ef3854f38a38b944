import OvsdbClient.Proofs.OneSession

/-!
# Live sessions

A connector is asked for a session, and answers the handle that it has started
as long as that handle is not marked.  It does not look at the session itself.
So the session is live unless it was stopped past its handle, and then it is
not, however often the connector is started.
-/

namespace OvsdbClient.Network

variable {network : Network} {passed : Nat → Prop} {number handle : Nat}

/-! ## Stopping sessions by themselves -/

/-- Something that is called, or that the session of a handle is stopped past
the handle. -/
inductive Act where
  | call (call : Call)
  | stopSession (handle : Nat) (timeout : Span)

def act (network : Network) : Act → Network
  | .call call => network.call call
  | .stopSession number timeout =>
      match network.handle? number with
      | some handle => (network.stopSession handle.session timeout).2
      | none => network

def afterActs (acts : List Act) : Network :=
  acts.foldl act empty

theorem afterActs_concat (acts : List Act) (last : Act) :
    afterActs (acts ++ [last]) = (afterActs acts).act last :=
  List.foldl_concat ..

/-- The session of a handle was stopped past it. -/
def PassedBy (acts : List Act) (number : Nat) : Prop :=
  ∃ past timeout, past ++ [.stopSession number timeout] <+: acts ∧
    ∃ handle, (afterActs past).handle? number = some handle

theorem passedBy_concat_iff {acts : List Act} {last : Act} :
    PassedBy (acts ++ [last]) number ↔
      PassedBy acts number ∨
        ∃ timeout, last = .stopSession number timeout ∧
          ∃ handle, (afterActs acts).handle? number = some handle := by
  constructor
  · rintro ⟨past, timeout, before, issued⟩
    rcases List.prefix_concat_iff.mp before with whole | earlier
    · obtain ⟨rfl, same⟩ := List.append_inj' whole rfl
      cases same
      exact .inr ⟨timeout, rfl, issued⟩
    · exact .inl ⟨past, timeout, earlier, issued⟩
  · rintro (⟨past, timeout, before, issued⟩ | ⟨timeout, rfl, issued⟩)
    · exact ⟨past, timeout, before.trans (List.prefix_append _ _), issued⟩
    · exact ⟨acts, timeout, List.prefix_rfl, issued⟩

theorem Accounts.congr_passed {others : Nat → Prop}
    (accounts : network.Accounts passed)
    (same : ∀ number, passed number ↔ others number) :
    network.Accounts others :=
  (funext fun number => propext (same number) : passed = others) ▸ accounts

/-- Whatever is done, the sessions that have been stopped are those whose
handles are marked or were passed by. -/
theorem accounts_afterActs (acts : List Act) :
    (afterActs acts).Accounts (PassedBy acts) := by
  induction acts using List.reverseRecOn with
  | nil => exact accounts_empty.congr_passed fun number => by simp [PassedBy]
  | append_singleton acts last induction =>
      rw [afterActs_concat]
      cases last with
      | call call =>
          refine (induction.call call).congr_passed fun number => ?_
          simp [passedBy_concat_iff]
      | stopSession stopped timeout =>
          simp only [act]
          split
          case h_1 opened here =>
            refine (induction.stopSession here timeout).congr_passed
              fun number => ?_
            rw [passedBy_concat_iff]
            refine or_congr_right ⟨?_, ?_⟩
            · rintro rfl
              exact ⟨timeout, rfl, opened, here⟩
            · rintro ⟨_, same, _⟩
              cases same
              rfl
          case h_2 absent =>
            refine induction.congr_passed fun number => ?_
            rw [passedBy_concat_iff]
            refine (or_iff_left ?_).symm
            rintro ⟨_, same, handle, here⟩
            cases same
            cases absent.symm.trans here

/-! ## What a start answers -/

theorem Accounts.halted? (accounts : network.Accounts passed)
    {opened : Handle} (here : network.handle? number = some opened) :
    ∃ stopped, network.halted? number = some stopped ∧
      (stopped = true ↔ opened.stopped = true ∨ passed number) := by
  obtain ⟨schema, stopped, shown, iff⟩ := accounts.stops number opened here
  obtain ⟨session, found, same⟩ := Option.map_eq_some_iff.mp shown
  refine ⟨stopped, ?_, iff⟩
  rw [Network.halted?, here, Option.bind_some, found]
  exact congrArg some (congrArg Prod.snd same)

theorem exists_running_of_start
    (answered : (network.start number).1 = .ok handle) :
    ∃ opened, (network.start number).2.handle? handle = some opened ∧
      opened.stopped = false := by
  rcases network.start_cases number with ⟨_, same⟩ |
    ⟨connector, _, ⟨running, runs, same⟩ | ⟨_, ⟨_, _, same⟩ |
      ⟨id, later, _, same, opens⟩⟩⟩
  · rw [same] at answered
    cases answered
  · rw [same] at answered ⊢
    cases answered
    exact (runningHandle?_eq_some_iff.mp runs).2
  · rw [same] at answered
    cases answered
  · rw [same] at answered ⊢
    cases answered
    obtain ⟨opened, here, _, running⟩ := opens.started
    exact ⟨opened, here, running⟩

/-- Whatever is done, the session that a start of a connector answers is live
just if it was not stopped past its handle. -/
theorem started_session_is_live_iff (acts : List Act)
    (answered : ((afterActs acts).start number).1 = .ok handle) :
    ∃ stopped,
      ((afterActs acts).start number).2.halted? handle = some stopped ∧
        (stopped = false ↔ ¬PassedBy acts handle) := by
  have accounts := (accounts_afterActs acts).call (.start number)
  obtain ⟨opened, here, running⟩ := exists_running_of_start answered
  obtain ⟨stopped, halted, iff⟩ := accounts.halted? here
  rw [running, or_iff_right Bool.false_ne_true] at iff
  exact ⟨stopped, halted, by rw [← iff, Bool.not_eq_true]⟩

/-- A connector that is started and whose session is then stopped past its
handle. -/
def cutOff : List Act :=
  let endpoint := Endpoint.tcp "127.0.0.1" 6641
  let settings := ConnectionSettings.plain [endpoint] "OVN_Northbound"
    ["NB_Global"]
  [.call (.createServer .small), .call (.perform (.addServer endpoint 0)),
    .call (.bootstrap settings 1 .zero), .call (.start 0),
    .stopSession 0 (.ofMillis 1000)]

theorem session_started_after_stop_is_live :
    let acts := cutOff ++ [.call (.perform (.stop 0))]
    ((afterActs acts).start 0).1 = .ok 1 ∧
      ((afterActs acts).start 0).2.halted? 1 = some false ∧
      PassedBy acts 0 ∧ ¬PassedBy acts 1 := by
  intro acts
  have answered : ((afterActs acts).start 0).1 = .ok 1 := by decide +kernel
  have live : ((afterActs acts).start 0).2.halted? 1 = some false := by
    decide +kernel
  have first : ((afterActs (cutOff.take 4)).handle? 0).isSome = true := by
    decide +kernel
  obtain ⟨stopped, halted, iff⟩ := started_session_is_live_iff acts answered
  cases halted.symm.trans live
  exact ⟨answered, live,
    ⟨cutOff.take 4, .ofMillis 1000, ⟨_, rfl⟩,
      Option.isSome_iff_exists.mp first⟩, iff.mp rfl⟩

theorem stopped_session_is_shared :
    ((afterActs cutOff).start 0).1 = .ok 0 ∧
      ((afterActs cutOff).start 0).2.halted? 0 = some true := by
  decide +kernel

end OvsdbClient.Network
