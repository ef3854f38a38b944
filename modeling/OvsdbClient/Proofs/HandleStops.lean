import OvsdbClient.Proofs.CallPreservation

/-!
# What handles know of stops

A handle that is stopped is marked and then stops its session.  A session can
also be stopped by itself, past its handle, which is not marked then.  Whatever
is called, the sessions that have been stopped are those whose handles are
marked or were passed by.
-/

namespace OvsdbClient.Network

variable {network later : Network} {passed : Nat → Prop}

/-- The session of a handle has been stopped just if the handle is marked or was
passed by, and no session has two handles. -/
structure Accounts (network : Network) (passed : Nat → Prop) : Prop where
  stops : ∀ number handle, network.handle? number = some handle →
    ∃ schema stopped,
      network.standing? handle.session = some (schema, stopped) ∧
        (stopped = true ↔ handle.stopped = true ∨ passed number)
  apart : ∀ first second one other, network.handle? first = some one →
    network.handle? second = some other → one.session = other.session →
    first = second
  issued : ∀ number, passed number →
    ∃ handle, network.handle? number = some handle

theorem accounts_empty : empty.Accounts fun _ => False where
  stops := nofun
  apart := nofun
  issued := nofun

theorem Accounts.congr (accounts : network.Accounts passed)
    (handles : later.handles = network.handles)
    (standing : ∀ id shown, network.standing? id = some shown →
      later.standing? id = some shown) : later.Accounts passed := by
  have same : later.handle? = network.handle? := by
    funext number
    rw [handle?, handles, handle?]
  constructor
  · intro number handle here
    rw [same] at here
    obtain ⟨schema, stopped, shown, iff⟩ := accounts.stops number handle here
    exact ⟨schema, stopped, standing _ _ shown, iff⟩
  · rw [same]
    exact accounts.apart
  · rw [same]
    exact accounts.issued

/-- Stopping the session of a handle is seen on the session of no other. -/
theorem Accounts.standing?_stopSession (accounts : network.Accounts passed)
    {number other : Nat} {opened handle : Handle}
    (here : network.handle? number = some opened)
    (there : network.handle? other = some handle) (timeout : Span) :
    ∃ schema stopped,
      (network.stopSession opened.session timeout).2.standing?
          handle.session = some (schema, stopped) ∧
        (stopped = true ↔
          (handle.stopped = true ∨ passed other) ∨ number = other) := by
  obtain ⟨schema, stopped, shown, iff⟩ := accounts.stops other handle there
  rw [Network.standing?_stopSession, shown]
  by_cases same : number = other
  · cases here.symm.trans (same ▸ there)
    exact ⟨schema, true, if_pos rfl, by simp [same]⟩
  · have different : opened.session ≠ handle.session := fun shared =>
      same (accounts.apart number other opened handle here there shared)
    exact ⟨schema, stopped, if_neg different, by simp [iff, same]⟩

theorem Accounts.stopSession (accounts : network.Accounts passed)
    {number : Nat} {opened : Handle}
    (here : network.handle? number = some opened) (timeout : Span) :
    (network.stopSession opened.session timeout).2.Accounts fun other =>
      passed other ∨ number = other := by
  have same : (network.stopSession opened.session timeout).2.handle? =
      network.handle? := by
    funext other
    rw [handle?, (handles_stopSession ..).1, handle?]
  constructor
  · rw [same]
    intro other handle there
    obtain ⟨schema, stopped, shown, iff⟩ :=
      accounts.standing?_stopSession here there timeout
    exact ⟨schema, stopped, shown, iff.trans (or_assoc ..)⟩
  · rw [same]
    exact accounts.apart
  · rw [same]
    rintro other (was | rfl)
    · exact accounts.issued other was
    · exact ⟨opened, here⟩

theorem Accounts.stopHandle (accounts : network.Accounts passed)
    (number : Nat) : (network.stopHandle number).2.Accounts passed := by
  have handles := network.handle?_stopHandle number
  -- What a handle is a handle on stays, so no session gets a second one.
  have sessions : ∀ other next,
      (network.stopHandle number).2.handle? other = some next →
      ∃ handle, network.handle? other = some handle ∧
        next.session = handle.session ∧
        (next.stopped = true ↔ handle.stopped = true ∨ number = other) := by
    intro other next here
    rw [handles] at here
    split at here
    case isTrue same =>
      obtain ⟨handle, there, rfl⟩ := Option.map_eq_some_iff.mp here
      exact ⟨handle, there, rfl, by simp [same]⟩
    case isFalse different => exact ⟨next, here, rfl, by simp [different]⟩
  constructor
  · intro other next there
    obtain ⟨handle, before, session, marked⟩ := sessions other next there
    rw [session, marked]
    by_cases running : ∃ opened, network.handle? number = some opened ∧
        opened.stopped = false
    · obtain ⟨opened, here, running⟩ := running
      obtain ⟨schema, stopped, shown, iff⟩ :=
        accounts.standing?_stopSession here before opened.timeout
      refine ⟨schema, stopped, ?_, iff.trans or_right_comm⟩
      rw [stopHandle_of_running here running]
      refine Eq.trans ?_ shown
      exact (Network.standing?_stopSession ..).trans
        (Network.standing?_stopSession network ..).symm
    · have unchanged : network.stopHandle number = (true, network) := by
        refine stopHandle_of_stopped fun opened here => ?_
        exact Bool.of_not_eq_false fun runs => running ⟨opened, here, runs⟩
      obtain ⟨schema, stopped, shown, iff⟩ :=
        accounts.stops other handle before
      rw [unchanged]
      refine ⟨schema, stopped, shown, iff.trans (or_congr_left ?_)⟩
      refine (or_iff_left_of_imp fun same => ?_).symm
      exact Bool.of_not_eq_false fun runs =>
        running ⟨handle, same ▸ before, runs⟩
  · intro first second one other here there shared
    obtain ⟨a, before, sessionOne, _⟩ := sessions first one here
    obtain ⟨b, after, sessionOther, _⟩ := sessions second other there
    refine accounts.apart first second a b before after ?_
    rw [← sessionOne, ← sessionOther, shared]
  · intro other was
    obtain ⟨handle, here⟩ := accounts.issued other was
    obtain ⟨next, there, _⟩ :=
      (network.preserves_stopHandle number).handles other handle here
    exact ⟨next, there⟩

theorem Elapses.accounts (elapses : network.Elapses later)
    (accounts : network.Accounts passed) : later.Accounts passed := by
  induction elapses with
  | refl => exact accounts
  | tail _ step accounts =>
      rcases step with abides | ⟨handle, rfl⟩
      · exact accounts.congr abides.handles fun _ _ => abides.standing?
      · exact accounts.stopHandle handle

variable {connector : Connector} {number : Nat} {id : SessionId}

theorem Opens.accounts (opens : network.Opens number connector id later)
    (accounts : network.Accounts passed) : later.Accounts passed := by
  -- A handle that was there is on a session that was, and so not on this one.
  have elsewhere : ∀ other handle, network.handle? other = some handle →
      handle.session ≠ id := by
    intro other handle here same
    obtain ⟨schema, stopped, shown, _⟩ := accounts.stops other handle here
    rw [same, opens.fresh] at shown
    cases shown
  constructor
  · intro other handle there
    rcases opens.handle?_cases there with here | ⟨rfl, session, running⟩
    · obtain ⟨schema, stopped, shown, iff⟩ := accounts.stops other handle here
      refine ⟨schema, stopped, ?_, iff⟩
      rw [opens.standing?, if_neg (elsewhere other handle here)]
      exact shown
    · have unknown : ¬passed network.handles.length := fun was => by
        obtain ⟨old, here⟩ := accounts.issued _ was
        exact absurd (List.getElem?_eq_some_iff.mp here).1 (lt_irrefl _)
      refine ⟨connector.selection.build, false, ?_, by simp [running, unknown]⟩
      rw [opens.standing?, if_pos session]
  · intro first second one other there also shared
    rcases opens.handle?_cases there with here | ⟨last, session, _⟩
    · rcases opens.handle?_cases also with here' | ⟨_, session, _⟩
      · exact accounts.apart first second one other here here' shared
      · exact absurd (shared.trans session) (elsewhere first one here)
    · rcases opens.handle?_cases also with here' | ⟨last', _⟩
      · exact absurd (shared.symm.trans session) (elsewhere second other here')
      · exact last.trans last'.symm
  · intro other was
    obtain ⟨handle, here⟩ := accounts.issued other was
    exact ⟨handle, opens.handle?_of_some here⟩

theorem Accounts.withSlot (accounts : network.Accounts passed) (number : Nat)
    (connector : Connector) (slot : Option Nat) :
    (network.withSlot number connector slot).Accounts passed :=
  accounts.congr rfl fun _ _ shown => shown

/-- Nothing that is called passes a handle by. -/
theorem Accounts.call (accounts : network.Accounts passed) (call : Call) :
    (network.call call).Accounts passed := by
  rcases network.call_cases call with elapses |
    ⟨_, _, _, _, _, _, between, rfl, elapses, _, _, _, _, same⟩ |
    ⟨number, rfl⟩ | ⟨number, rfl⟩
  · exact elapses.accounts accounts
  · rw [same]
    exact (elapses.accounts accounts).congr rfl fun _ _ shown => shown
  · change (network.start number).2.Accounts passed
    rcases network.start_same_or_opens number with same |
      ⟨connector, id, _, _, _, opens⟩
    · rw [same]
      exact accounts
    · exact opens.accounts accounts
  · change (network.stopConnector number).2.Accounts passed
    rcases network.stopConnector_cases number with ⟨_, same⟩ |
      ⟨connector, _, ⟨_, same⟩ | ⟨handle, _, same⟩⟩
    · rw [same]
      exact accounts
    · rw [same]
      exact accounts.withSlot number connector none
    · rw [same]
      exact (accounts.withSlot number connector none).stopHandle handle

end OvsdbClient.Network
