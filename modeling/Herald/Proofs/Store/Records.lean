import Herald.Retry
import Herald.Store.Memory
/-!
The records of a store in memory, by their numbers, and what the end of an attempt makes of them. No
record but one that is queued is ever changed or removed, and no number comes back.
-/

set_option autoImplicit false

namespace Herald

namespace Notification

def settled (n : Notification) (o : Outcome) (p : RetryPolicy) (now : Instant) : Notification :=
  let next := p.nextState n.push.errorCount o.result
  let count := countUp n.push.errorCount
  { n with push :=
      if o.isSuccess then ⟨.pushed, now, n.push.errorCount, none⟩
      else ⟨next, if next = .queued then now.plus (p.backoff.delay count) else now, count,
        some (o.message.getD (Named.name o.result))⟩ }

variable {n : Notification} {o : Outcome} {p : RetryPolicy} {now : Instant}

theorem queued_of_isDue (h : n.isDue now = true) : n.push.state = .queued := by
  simp only [isDue, Bool.and_eq_true, beq_iff_eq] at h
  exact h.1

theorem undergo_of_queued (h : n.push.state = .queued) :
    n.undergo o p now = (.ok (n.settled o p now).push.state, n.settled o p now) := by
  unfold undergo settled
  cases ho : o.isSuccess <;> simp [h, PushState.isTerminal, recordError]

def refusal (n : Notification) (o : Outcome) (p : RetryPolicy) : Fault :=
  .transition (Named.name n.push.state) (Named.name (p.nextState n.push.errorCount o.result))

theorem undergo_of_terminal (h : n.push.state ≠ .queued) :
    n.undergo o p now = (.error (n.refusal o p), n) := by
  have ht : n.push.state.isTerminal = true := by simpa [PushState.isTerminal] using h
  simp only [undergo, ht, if_true, refusal]

theorem recordAttempt_eq (h : n.push.state = .queued) :
    n.recordAttempt o p now = .ok (n.settled o p now) := by
  rw [recordAttempt, undergo_of_queued h]
  rfl

theorem settled_of_recordAttempt {m : Notification} (h : n.recordAttempt o p now = .ok m) :
    n.push.state = .queued ∧ m = n.settled o p now := by
  by_cases hq : n.push.state = .queued
  · rw [recordAttempt_eq hq] at h
    exact ⟨hq, (Except.ok.inj h).symm⟩
  · rw [recordAttempt, undergo_of_terminal hq] at h
    cases h

@[simp] theorem id_settled : (n.settled o p now).id = n.id := rfl

theorem push_settled_of_success (h : o.isSuccess = true) (n : Notification) (p : RetryPolicy)
    (now : Instant) : (n.settled o p now).push = ⟨.pushed, now, n.push.errorCount, none⟩ := by
  simp [settled, h]

theorem push_settled_of_failure (h : o.isSuccess = false) (n : Notification) (p : RetryPolicy)
    (now : Instant) : ∃ date message,
      (n.settled o p now).push = ⟨p.nextState n.push.errorCount o.result, date,
        countUp n.push.errorCount, some message⟩ := by
  simp [settled, h]

theorem state_settled : (n.settled o p now).push.state =
    p.nextState n.push.errorCount o.result := by
  cases ho : o.isSuccess with
  | true =>
    have hr : o.result = .success := by simpa [Outcome.isSuccess] using ho
    rw [push_settled_of_success ho, hr, RetryPolicy.nextState]
  | false =>
    obtain ⟨date, message, hp⟩ := push_settled_of_failure ho n p now
    rw [hp]

theorem count_settled : (n.settled o p now).push.errorCount.toNat =
    min (n.push.errorCount.toNat + if o.isSuccess then 0 else 1) 4294967295 := by
  cases ho : o.isSuccess with
  | true =>
    rw [push_settled_of_success ho, if_pos rfl, Nat.add_zero, min_greatest]
  | false =>
    obtain ⟨date, message, hp⟩ := push_settled_of_failure ho n p now
    rw [hp]
    exact toNat_countUp _

end Notification

theorem RetryPolicy.nextState_ne_pushed (p : RetryPolicy) (count : UInt32) {o : Outcome}
    (h : o.isSuccess = false) : p.nextState count o.result ≠ .pushed := by
  cases hr : o.result with
  | success => simp [Outcome.isSuccess, hr] at h
  | persistentError => simp [nextState]
  | temporaryError => simp only [nextState]; split <;> simp

theorem RetryPolicy.countUp_le_of_queued {p : RetryPolicy} {count : UInt32} {r : PushResult}
    (h : p.nextState count r = .queued) : countUp count ≤ p.maxErrorCount := by
  cases r with
  | success => simp [nextState] at h
  | persistentError => simp [nextState] at h
  | temporaryError =>
    simp only [nextState] at h
    split at h
    · cases h
    · next hc => exact UInt32.not_lt.1 hc

/-- What is queued still was put off, by the delay for its failures; these are not too many. -/
theorem Notification.push_settled_of_queued {n : Notification} {o : Outcome}
    {p : RetryPolicy} {now : Instant} (h : (n.settled o p now).push.state = .queued) :
    countUp n.push.errorCount ≤ p.maxErrorCount ∧ ∃ message, (n.settled o p now).push =
      ⟨.queued, now.plus (p.backoff.delay (countUp n.push.errorCount)), countUp n.push.errorCount,
        some message⟩ := by
  cases ho : o.isSuccess with
  | true =>
    rw [push_settled_of_success ho] at h
    cases h
  | false =>
    have hs : p.nextState n.push.errorCount o.result = .queued := by
      obtain ⟨date, message, hp⟩ := push_settled_of_failure ho n p now
      rw [hp] at h
      exact h
    refine ⟨RetryPolicy.countUp_le_of_queued hs, o.message.getD (Named.name o.result), ?_⟩
    simp only [settled, ho, hs, Bool.false_eq_true, if_false, if_true]

namespace MemoryStore

variable {s : MemoryStore} {id other : Int} {n : Notification}

theorem find?_eq_some : s.find? id = some n ↔ (id, n) ∈ s.records := by
  have h := s.ascending
  simp only [find?]
  generalize s.records = rs at h
  induction rs with
  | nil => simp
  | cons r rs ih =>
    obtain ⟨hr, hrs⟩ := List.pairwise_cons.1 h
    by_cases hid : r.1 = id
    · subst hid
      have hn : (r.1, n) ∉ rs := fun hm => absurd (hr _ hm) (Int.lt_irrefl _)
      simp [hn, Prod.ext_iff, eq_comm]
    · have hid' : ¬ (id, n) = r := fun h => hid (h ▸ rfl)
      simp [hid, hid', ih hrs]

theorem id_of_find? (h : s.find? id = some n) : n.id = some id :=
  (s.numbered _ (find?_eq_some.1 h)).2.2

theorem le_lastId_of_find? (h : s.find? id = some n) : id ≤ s.lastId :=
  (s.numbered _ (find?_eq_some.1 h)).2.1

theorem find?_nextId : s.find? s.nextId = none := by
  cases h : s.find? s.nextId with
  | none => rfl
  | some n =>
    have := le_lastId_of_find? h
    simp only [nextId] at this
    omega

@[simp] theorem find?_append (n : Notification) (s : MemoryStore) (id : Int) :
    (s.append n).find? id =
      if id = s.nextId then some { n with id := some s.nextId } else s.find? id := by
  have h := s.find?_nextId
  simp only [find?, Option.map_eq_none_iff] at h
  simp only [find?, append, List.find?_append]
  split
  · next hid => subst hid; simp [h]
  · next hid => simp [Ne.symm hid]

theorem find?_append_of_some (h : s.find? id = some n) (m : Notification) :
    (s.append m).find? id = some n := by
  have hne : id ≠ s.nextId := by
    rintro rfl
    rw [find?_nextId] at h
    cases h
  rw [find?_append, if_neg hne, h]

@[simp] theorem find?_replace (id : Int) (n : Notification) (s : MemoryStore) (other : Int) :
    (s.replace id n).find? other =
      if other = id then (s.find? id).map fun _ => { n with id := some id } else s.find? other := by
  simp only [find?, replace]
  induction s.records with
  | nil => simp
  | cons r rs ih => grind

theorem find?_replace_self (hf : s.find? id = some n) {m : Notification} (hm : m.id = n.id) :
    (s.replace id m).find? id = some m := by
  simp only [find?_replace, if_true, hf, Option.map_some]
  rw [← id_of_find? hf, ← hm]

@[simp] theorem find?_erase (id : Int) (s : MemoryStore) (other : Int) :
    (s.erase id).find? other = if other = id then none else s.find? other := by
  simp only [find?, erase]
  induction s.records with
  | nil => simp
  | cons r rs ih => grind

@[simp] theorem find?_setPreferences (d : Dict Preferences) (s : MemoryStore) (id : Int) :
    (s.setPreferences d).find? id = s.find? id := rfl

/-- What one step of the engine may do to a store. A record that is settled or dropped was
queued. -/
inductive Change (p : RetryPolicy) (s : MemoryStore) : MemoryStore → Prop where
  | kept (d : Dict Preferences) : Change p s (s.setPreferences d)
  | added (n : Notification) : Change p s (s.append n)
  | settled {id : Int} {n : Notification} (found : s.find? id = some n)
    (queued : n.push.state = .queued)
      (o : Outcome) (now : Instant) : Change p s (s.replace id (n.settled o p now))
  | dropped {id : Int} {n : Notification} (found : s.find? id = some n)
    (queued : n.push.state = .queued) :
      Change p s (s.erase id)

namespace Change

variable {p : RetryPolicy} {s t : MemoryStore} {id : Int} {n : Notification}

theorem refl (p : RetryPolicy) (s : MemoryStore) : Change p s s := .kept s.preferences

theorem lastId_le (h : Change p s t) : s.lastId ≤ t.lastId := by
  cases h with
  | added => exact Nat.le_succ _
  | _ => exact Nat.le_refl _

/-- What can become of the record of a number in one step. -/
theorem find?_of_found (h : Change p s t) (hf : s.find? id = some n) :
    t.find? id = some n ∨ n.push.state = .queued ∧
      (t.find? id = none ∨ ∃ o now, t.find? id = some (n.settled o p now)) := by
  cases h with
  | kept d => exact .inl hf
  | added m => exact .inl (find?_append_of_some hf m)
  | @settled other m found queued o now =>
    by_cases he : id = other
    · subst he
      rw [hf] at found
      cases found
      exact .inr ⟨queued, .inr ⟨o, now, find?_replace_self hf Notification.id_settled⟩⟩
    · exact .inl (by simp [he, hf])
  | @dropped other m found queued =>
    by_cases he : id = other
    · subst he
      rw [hf] at found
      cases found
      exact .inr ⟨queued, .inl (by simp)⟩
    · exact .inl (by simp [he, hf])

theorem find?_of_terminal (h : Change p s t) (hf : s.find? id = some n)
    (ht : n.push.state.isTerminal = true) : t.find? id = some n := by
  rcases h.find?_of_found hf with h | ⟨hq, _⟩
  · exact h
  · simp [PushState.isTerminal, hq] at ht

/-- A number that was given once and is free now stays free. -/
theorem find?_of_none (h : Change p s t) (hn : s.find? id = none) (hl : id ≤ s.lastId) :
    t.find? id = none := by
  cases h with
  | kept d => exact hn
  | added m =>
    have hne : id ≠ s.nextId := by simp only [nextId]; omega
    simp [hne, hn]
  | settled found => grind [find?_replace]
  | dropped found => grind [find?_erase]

end Change

end MemoryStore

end Herald
