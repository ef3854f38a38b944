import OvsdbClient.Lock

/-!
# Locks as queues

A lock is a queue whose first member holds it.  A request puts a session at the
end unless it is there already, and a release takes it out wherever it is.
-/

namespace OvsdbClient.LockTable

/-- The holder of a lock, and after it those that wait. -/
def queue (locks : LockTable) (name : String) : List Nat :=
  (locks.holders.get? name).toList ++ locks.waiting name

/-- Nobody waits for a lock that is free. -/
def Sound (locks : LockTable) : Prop :=
  ∀ name, locks.holders.get? name = none → locks.waiting name = []

variable {locks : LockTable} {name other : String} {session number : Nat}

theorem sound_empty : empty.Sound := fun _ _ => rfl

theorem queue_of_held (held : locks.holders.get? name = some session) :
    locks.queue name = session :: locks.waiting name := by
  rw [queue, held]
  rfl

theorem Sound.queue_of_free (sound : locks.Sound)
    (free : locks.holders.get? name = none) : locks.queue name = [] := by
  rw [queue, free, sound name free]
  rfl

theorem mem_queue_iff :
    session ∈ locks.queue name ↔
      locks.holds name session = true ∨ session ∈ locks.waiting name := by
  rw [queue, List.mem_append, Option.mem_toList, holds, decide_eq_true_eq]

/-- If anyone stands in line for a lock, somebody holds it. -/
theorem Sound.exists_holds (sound : locks.Sound)
    (member : session ∈ locks.queue name) :
    ∃ holder, locks.holds name holder = true := by
  cases held : locks.holders.get? name with
  | none =>
      rw [sound.queue_of_free held] at member
      cases member
  | some holder => exact ⟨holder, decide_eq_true held⟩

theorem Sound.holds_iff (sound : locks.Sound) :
    locks.holds name session = true ↔
      (locks.queue name).head? = some session := by
  rw [holds, decide_eq_true_eq]
  cases held : locks.holders.get? name with
  | none =>
      rw [sound.queue_of_free held]
      exact Iff.rfl
  | some holder =>
      rw [queue_of_held held]
      exact Iff.rfl

/-- A request puts a session at the end, if it is not there yet. -/
theorem Sound.queue_request (sound : locks.Sound) (name : String)
    (session : Nat) :
    (locks.request name session).queue name =
      if session ∈ locks.queue name then locks.queue name
      else locks.queue name ++ [session] := by
  unfold request
  split
  case h_1 free =>
    have none : locks.waiting name = [] := sound name free
    rw [sound.queue_of_free free, if_neg List.not_mem_nil]
    rw [queue_of_held (SortedMap.get?_insert_self ..)]
    exact congrArg (session :: ·) none
  case h_2 holder held =>
    have member : session ∈ locks.queue name ↔
        holder = session ∨ session ∈ locks.waiting name := by
      rw [queue_of_held held, List.mem_cons, eq_comm]
    by_cases present : session ∈ locks.queue name
    · rw [if_pos (member.mp present), if_pos present]
    · rw [if_neg (mt member.mpr present), if_neg present]
      simp [queue, held, waiting]

theorem request_of_ne (locks : LockTable) (differ : name ≠ other)
    (session : Nat) :
    (locks.request name session).holders.get? other =
        locks.holders.get? other ∧
      (locks.request name session).waiting other = locks.waiting other := by
  unfold request
  split
  case h_1 => exact ⟨SortedMap.get?_insert_of_ne _ differ _, rfl⟩
  case h_2 =>
    split
    · exact ⟨rfl, rfl⟩
    · simp [waiting, SortedMap.get?_insert_of_ne _ differ]

theorem queue_request_of_ne (locks : LockTable) (differ : name ≠ other)
    (session : Nat) :
    (locks.request name session).queue other = locks.queue other := by
  obtain ⟨holder, others⟩ := request_of_ne locks differ session
  rw [queue, holder, others]
  rfl

/-- A release takes a session out wherever it is. -/
theorem queue_release (locks : LockTable) (name : String) (session : Nat) :
    (locks.release name session).queue name =
      (locks.queue name).filter (· ≠ session) := by
  have waiters : ((locks.waiters.modify name fun _ =>
      (locks.waiting name).filter (· ≠ session)).get? name).getD [] =
        (locks.waiting name).filter (· ≠ session) := by
    rw [SortedMap.get?_modify, if_pos rfl, waiting]
    cases locks.waiters.get? name <;> rfl
  unfold release
  split
  case isTrue holds =>
    rw [queue_of_held (of_decide_eq_true holds),
      List.filter_cons_of_neg (by simp)]
    dsimp only
    split
    case h_1 next others left =>
      rw [left, queue_of_held (SortedMap.get?_insert_self ..)]
      simp [waiting]
    case h_2 left =>
      rw [left] at waiters ⊢
      simp only [queue, SortedMap.get?_erase_self, waiting]
      exact waiters
  case isFalse other =>
    simp only [queue, List.filter_append]
    have kept : (locks.holders.get? name).toList.filter (· ≠ session) =
        (locks.holders.get? name).toList := by
      cases held : locks.holders.get? name with
      | none => rfl
      | some holder =>
          have differ : holder ≠ session := by
            rintro rfl
            simp [LockTable.holds, held] at other
          simp [differ]
    rw [kept]
    exact congrArg (_ ++ ·) waiters

theorem release_of_ne (locks : LockTable) (differ : name ≠ other)
    (session : Nat) :
    (locks.release name session).holders.get? other =
        locks.holders.get? other ∧
      (locks.release name session).waiting other = locks.waiting other := by
  unfold release
  split
  case isTrue =>
    dsimp only
    split
    · simp [waiting, SortedMap.get?_insert_of_ne _ differ,
        SortedMap.get?_modify, differ]
    · simp [waiting, SortedMap.get?_erase_of_ne _ differ,
        SortedMap.get?_modify, differ]
  case isFalse => simp [waiting, SortedMap.get?_modify, differ]

theorem queue_release_of_ne (locks : LockTable) (differ : name ≠ other)
    (session : Nat) :
    (locks.release name session).queue other = locks.queue other := by
  obtain ⟨holder, others⟩ := release_of_ne locks differ session
  rw [queue, holder, others]
  rfl

theorem Sound.request (sound : locks.Sound) (name : String) (session : Nat) :
    (locks.request name session).Sound := by
  intro other free
  by_cases same : name = other
  · subst same
    cases held : locks.holders.get? name with
    | none =>
        simp only [LockTable.request, held, SortedMap.get?_insert_self] at free
        cases free
    | some holder =>
        simp only [LockTable.request, held] at free
        split at free <;> cases held.symm.trans free
  · obtain ⟨holder, others⟩ := request_of_ne locks same session
    rw [others]
    exact sound other (holder.symm.trans free)

theorem Sound.release (sound : locks.Sound) (name : String) (session : Nat) :
    (locks.release name session).Sound := by
  intro other free
  by_cases same : name = other
  · subst same
    have rest := queue_release locks name session
    rw [queue, free] at rest
    refine rest.trans ?_
    unfold LockTable.release at free
    split at free
    case isFalse =>
      rw [sound.queue_of_free free]
      rfl
    case isTrue holds =>
      rw [queue_of_held (of_decide_eq_true holds),
        List.filter_cons_of_neg (by simp)]
      dsimp only at free
      split at free
      · rw [SortedMap.get?_insert_self] at free
        cases free
      · assumption
  · obtain ⟨holder, others⟩ := release_of_ne locks same session
    rw [others]
    exact sound other (holder.symm.trans free)

theorem Sound.mem_queue_request_iff (sound : locks.Sound) :
    number ∈ (locks.request name session).queue other ↔
      number ∈ locks.queue other ∨ (number = session ∧ name = other) := by
  by_cases same : name = other
  · subst same
    rw [sound.queue_request name session]
    split
    case isTrue present =>
      refine ⟨.inl, ?_⟩
      rintro (member | ⟨rfl, _⟩)
      · exact member
      · exact present
    case isFalse => simp
  · rw [queue_request_of_ne locks same]
    simp [same]

theorem mem_queue_release_iff :
    number ∈ (locks.release name session).queue other ↔
      number ∈ locks.queue other ∧ ¬(number = session ∧ name = other) := by
  by_cases same : name = other
  · subst same
    rw [queue_release]
    simp
  · rw [queue_release_of_ne locks same]
    simp [same]

end OvsdbClient.LockTable
