import OvsdbClient.Proofs.StoppedLocks

/-!
# The order in which locks are granted

Whatever is asked of a lock table, the line for a lock is what a rule on lists
makes of the calls about that lock.  Whoever stands in line stays ahead of those
that ask later, until it is taken out.  At a server a session stands in line for
the lock that it asked for last only.
-/

namespace OvsdbClient

inductive LockCall where
  | request (name : String) (session : Nat)
  | release (name : String) (session : Nat)
deriving DecidableEq, Inhabited

namespace LockTable

def handle (locks : LockTable) : LockCall → LockTable
  | .request name session => locks.request name session
  | .release name session => locks.release name session

def run (locks : LockTable) (calls : List LockCall) : LockTable :=
  calls.foldl handle locks

/-- What a call makes of the line for a lock: a request adds a session at the
end if it is absent, and a release removes it wherever it is. -/
def lineAfter (name : String) (line : List Nat) : LockCall → List Nat
  | .request other session =>
      if other = name ∧ session ∉ line then line ++ [session] else line
  | .release other session =>
      if other = name then line.filter (· ≠ session) else line

/-- The line for a lock after calls, nobody being in line at first. -/
def line (name : String) (calls : List LockCall) : List Nat :=
  calls.foldl (lineAfter name) []

variable {locks : LockTable} {name : String} {calls : List LockCall}
  {first second : Nat}

theorem run_append (locks : LockTable) (calls others : List LockCall) :
    locks.run (calls ++ others) = (locks.run calls).run others :=
  List.foldl_append

theorem Sound.handle (sound : locks.Sound) (call : LockCall) :
    (locks.handle call).Sound := by
  cases call with
  | request name session => exact sound.request name session
  | release name session => exact sound.release name session

theorem Sound.run (sound : locks.Sound) (calls : List LockCall) :
    (locks.run calls).Sound := by
  induction calls generalizing locks with
  | nil => exact sound
  | cons call calls induction => exact induction (sound.handle call)

theorem Sound.queue_handle (sound : locks.Sound) (name : String)
    (call : LockCall) :
    (locks.handle call).queue name =
      lineAfter name (locks.queue name) call := by
  cases call with
  | request other session =>
      simp only [LockTable.handle, lineAfter]
      by_cases same : other = name
      · subst same
        rw [sound.queue_request]
        by_cases member : session ∈ locks.queue other <;> simp [member]
      · rw [queue_request_of_ne locks same, if_neg fun both => same both.1]
  | release other session =>
      simp only [LockTable.handle, lineAfter]
      by_cases same : other = name
      · subst same
        rw [queue_release, if_pos rfl]
      · rw [queue_release_of_ne locks same, if_neg same]

theorem Sound.queue_run (sound : locks.Sound) (name : String)
    (calls : List LockCall) :
    (locks.run calls).queue name =
      calls.foldl (lineAfter name) (locks.queue name) := by
  induction calls generalizing locks with
  | nil => rfl
  | cons call calls induction =>
      rw [List.foldl_cons, ← sound.queue_handle]
      exact induction (sound.handle call)

theorem queue_run_empty (name : String) (calls : List LockCall) :
    (empty.run calls).queue name = line name calls :=
  sound_empty.queue_run name calls

/-- A request by a session that stands in line changes nothing. -/
theorem Sound.request_of_mem (sound : locks.Sound)
    (member : first ∈ locks.queue name) : locks.request name first = locks := by
  unfold LockTable.request
  split
  case h_1 free =>
    rw [sound.queue_of_free free] at member
    cases member
  case h_2 holder held =>
    rw [queue_of_held held, List.mem_cons, eq_comm] at member
    exact if_pos member

/-! ## Places in line -/

theorem nodup_lineAfter {line : List Nat} (once : line.Nodup)
    (call : LockCall) : (lineAfter name line call).Nodup := by
  cases call with
  | request other session =>
      simp only [lineAfter]
      split
      case isTrue absent =>
        refine List.nodup_append.mpr ⟨once, by simp, ?_⟩
        rintro member old _ new rfl
        exact absent.2 (List.mem_singleton.mp new ▸ old)
      case isFalse => exact once
  | release other session =>
      simp only [lineAfter]
      split
      · exact once.filter _
      · exact once

theorem nodup_line (name : String) (calls : List LockCall) :
    (line name calls).Nodup := by
  induction calls using List.reverseRecOn with
  | nil => exact .nil
  | append_singleton calls call induction =>
      rw [line, List.foldl_append]
      exact nodup_lineAfter induction call

/-- One session stands in line, and another one is nowhere before it. -/
def Leads (first second : Nat) (line : List Nat) : Prop :=
  first ∈ line ∧ (second ∈ line → [first, second].Sublist line)

theorem Leads.after {line : List Nat} (leads : Leads first second line)
    {call : LockCall} (stays : call ≠ .release name first) :
    Leads first second (lineAfter name line call) := by
  obtain ⟨member, order⟩ := leads
  cases call with
  | request other session =>
      simp only [lineAfter]
      split
      case isFalse => exact ⟨member, order⟩
      case isTrue =>
        refine ⟨List.mem_append_left _ member, fun present => ?_⟩
        rcases List.mem_append.mp present with old | new
        · exact (order old).trans (List.sublist_append_left _ _)
        · rw [List.mem_singleton] at new
          subst new
          exact (List.singleton_sublist.mpr member).append (List.Sublist.refl _)
  | release other session =>
      simp only [lineAfter]
      split
      case isFalse => exact ⟨member, order⟩
      case isTrue same =>
        subst same
        have kept : first ≠ session := by
          rintro rfl
          exact stays rfl
        refine ⟨List.mem_filter.mpr ⟨member, by simpa using kept⟩, ?_⟩
        intro present
        obtain ⟨old, left⟩ := List.mem_filter.mp present
        have narrowed := (order old).filter fun other => other ≠ session
        have other : second ≠ session := by simpa using left
        simpa [kept, other] using narrowed

theorem Leads.run {line : List Nat} (leads : Leads first second line)
    (stays : .release name first ∉ calls) :
    Leads first second (calls.foldl (lineAfter name) line) := by
  induction calls generalizing line with
  | nil => exact leads
  | cons call calls induction =>
      rw [List.mem_cons, not_or] at stays
      exact induction (leads.after fun same => stays.1 same.symm) stays.2

/-- Whoever stands in line when another one asks stays ahead of it until it is
taken out. -/
theorem leads_of_earlier {past future : List LockCall}
    (ahead : first ∈ line name past) (behind : second ∉ line name past)
    (stays : .release name first ∉ future) :
    Leads first second
      (line name (past ++ .request name second :: future)) := by
  have asked : Leads first second
      (lineAfter name (line name past) (.request name second)) :=
    Leads.after ⟨ahead, fun present => absurd present behind⟩ nofun
  rw [line, List.foldl_append]
  exact asked.run stays

theorem Leads.head?_ne {line : List Nat} (leads : Leads first second line)
    (once : line.Nodup) (differ : first ≠ second) :
    line.head? ≠ some second := by
  intro head
  obtain ⟨rest, rfl⟩ := List.head?_eq_some_iff.mp head
  have order := leads.2 List.mem_cons_self
  rcases List.sublist_cons_iff.mp order with later | ⟨_, same, _⟩
  · have again := later.subset
      (List.mem_cons_of_mem _ (List.mem_singleton_self _))
    exact (List.nodup_cons.mp once).1 again
  · exact differ (List.cons.inj same).1

/-- What a lock table makes of the calls so far, as far as one lock is
concerned. -/
structure Serves (locks : LockTable) (name : String) (calls : List LockCall) :
    Prop where
  /-- The holder and those that wait are the line that the rule prescribes. -/
  queue : locks.queue name = line name calls
  /-- The first in line holds the lock. -/
  holds_iff : ∀ session, locks.holds name session = true ↔
    (line name calls).head? = some session
  one : ∀ first second, locks.holds name first = true →
    locks.holds name second = true → first = second
  nodup : (locks.queue name).Nodup
  held : locks.waiting name ≠ [] → ∃ holder, locks.holds name holder = true
  /-- Asking again changes nothing. -/
  again : ∀ session ∈ locks.queue name, locks.request name session = locks
  /-- Of two sessions in line the one that asked first stays ahead, and the
  other one is not granted the lock, until the first is taken out. -/
  order : ∀ past future first second,
    calls = past ++ .request name second :: future →
    first ∈ line name past → second ∉ line name past →
    .release name first ∉ future →
    locks.holds name second = false ∧ Leads first second (locks.queue name)

theorem serves_run (name : String) (calls : List LockCall) :
    (empty.run calls).Serves name calls := by
  have sound : (empty.run calls).Sound := sound_empty.run calls
  have queue : (empty.run calls).queue name = line name calls :=
    queue_run_empty name calls
  have holds_iff : ∀ session, (empty.run calls).holds name session = true ↔
      (line name calls).head? = some session := by
    intro session
    rw [sound.holds_iff, queue]
  refine ⟨queue, holds_iff, ?_, ?_, ?_, ?_, ?_⟩
  · intro first second holds other
    rw [holds_iff] at holds other
    exact Option.some.inj (holds.symm.trans other)
  · exact queue ▸ nodup_line name calls
  · intro waits
    obtain ⟨session, member⟩ := List.exists_mem_of_ne_nil _ waits
    exact sound.exists_holds (mem_queue_iff.mpr (.inr member))
  · exact fun session member => sound.request_of_mem member
  · rintro past future first second rfl ahead behind stays
    have leads := leads_of_earlier ahead behind stays
    refine ⟨?_, queue ▸ leads⟩
    rw [← Bool.not_eq_true, holds_iff]
    refine leads.head?_ne (nodup_line name _) ?_
    rintro rfl
    exact behind ahead

end LockTable

namespace Server

/-- A server asks its lock table for requests and releases only. -/
theorem exists_calls_handle (server : Server) (event : Event) :
    ∃ calls, (server.handle event).locks = server.locks.run calls := by
  by_cases requests : ∃ number name, event = .setLock number name
  · obtain ⟨number, name, rfl⟩ := requests
    simp only [handle, setLock]
    split
    case h_1 held lock =>
      split
      · exact ⟨[.request name number], rfl⟩
      · exact ⟨[.release held number, .request name number], rfl⟩
    case h_2 => exact ⟨[.request name number], rfl⟩
  by_cases stops : ∃ number, event = .stop number
  · obtain ⟨number, rfl⟩ := stops
    simp only [handle]
    split
    case isTrue => exact ⟨[], rfl⟩
    case isFalse =>
      simp only [stopSession]
      split
      case h_1 name lock => exact ⟨[.release name number], rfl⟩
      case h_2 => exact ⟨[], rfl⟩
  refine ⟨[], (claims_handle ?_ ?_).1⟩
  · exact fun number name same => requests ⟨number, name, same⟩
  · exact fun number same => stops ⟨number, same⟩

theorem exists_calls_run (server : Server) (events : List Event) :
    ∃ calls, (server.run events).locks = server.locks.run calls := by
  induction events generalizing server with
  | nil => exact ⟨[], rfl⟩
  | cons event events induction =>
      obtain ⟨first, one⟩ := exists_calls_handle server event
      obtain ⟨rest, more⟩ := induction (server.handle event)
      refine ⟨first ++ rest, ?_⟩
      rw [LockTable.run_append, ← one]
      exact more

/-- A lock table serves its calls in order.  At a server, whose sessions call it
when they set their locks and when they are stopped, each session is in line for
one lock at most, the one that it asked for last. -/
theorem locks_are_granted_in_order :
    (∀ name calls, (LockTable.empty.run calls).Serves name calls) ∧
      ∀ schema events, (ofSchema schema).AsksOpen events →
        let server := (ofSchema schema).run events
        (∃ calls, server.locks = LockTable.empty.run calls) ∧
          (∀ number name, number ∈ server.locks.queue name →
            ∃ session, server.session? number = some session ∧
              session.lock = some name) ∧
          ∀ number name other, number ∈ server.locks.queue name →
            number ∈ server.locks.queue other → name = other := by
  refine ⟨LockTable.serves_run, fun schema events opened => ?_⟩
  intro server
  have asked : ∀ number name, number ∈ server.locks.queue name →
      ∃ session, server.session? number = some session ∧
        session.lock = some name := by
    intro number name member
    obtain ⟨_, ⟨session, here, lock, _⟩, _⟩ :=
      ((lined_run opened).queued name number).mp member
    exact ⟨session, here, lock⟩
  refine ⟨exists_calls_run _ events, asked, fun number name other one two => ?_⟩
  obtain ⟨session, here, lock⟩ := asked number name one
  obtain ⟨again, there, another⟩ := asked number other two
  cases here.symm.trans there
  exact Option.some.inj (lock.symm.trans another)

/-- Two sessions ask for a lock, one of them asks again, and the other one asks
for another lock instead. -/
def switchedLocks : List Event :=
  [.openSession default .small default, .openSession default .small default,
    .openSession default .small default, .setLock 0 "leader",
    .setLock 1 "leader", .setLock 2 "leader", .setLock 1 "leader",
    .setLock 0 "standby"]

theorem switched_lock_goes_to_next :
    let calls : List LockCall := [.request "leader" 0, .request "leader" 1,
      .request "leader" 2, .request "leader" 1, .release "leader" 0,
      .request "standby" 0]
    let server := (ofSchema .small).run switchedLocks
    server.locks = LockTable.empty.run calls ∧
      LockTable.line "leader" calls = [1, 2] ∧
      server.locks.holds "leader" 1 = true ∧
      server.locks.holds "leader" 2 = false ∧
      0 ∈ server.locks.queue "standby" ∧ 0 ∉ server.locks.queue "leader" := by
  intro calls server
  have same : server.locks = LockTable.empty.run calls := by decide +kernel
  have inLine : 0 ∈ server.locks.queue "standby" := by decide +kernel
  have opened : (ofSchema .small).AsksOpen switchedLocks := by
    refine ⟨nofun, nofun, nofun, ?_, ?_, ?_, ?_, ?_, trivial⟩
    all_goals
      rintro number name ⟨⟩
      exact ⟨_, rfl⟩
  obtain ⟨serves, lined⟩ := locks_are_granted_in_order
  obtain ⟨_, _, single⟩ := lined .small switchedLocks opened
  have leader := serves "leader" calls
  refine ⟨same, by decide +kernel, ?_, ?_, inLine, fun member => ?_⟩
  · rw [same]
    exact (leader.holds_iff 1).mpr (by decide +kernel)
  · rw [same]
    exact (leader.order (calls.take 2) (calls.drop 3) 1 2 rfl
      (by decide +kernel) (by decide +kernel) (by decide +kernel)).1
  · have other := single 0 "leader" "standby" member inLine
    exact absurd other (by decide)

end Server

end OvsdbClient
