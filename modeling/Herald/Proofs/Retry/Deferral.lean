import Herald.Proofs.Time.Delay
import Herald.Proofs.Store.Records
/-!
The date that an attempt leaves behind: that of the attempt, or, of a notification that stays
queued, the date of the attempt and the delay for its failures, in full, up to the end of the
calendar.
-/

set_option autoImplicit false

namespace Herald

namespace RetryPolicy

variable {p : RetryPolicy} {n : Notification} {o : Outcome} {now : Instant}

theorem temporary_of_queued {count : UInt32} {r : PushResult} (h : p.nextState count r = .queued) :
    r = .temporaryError := by
  cases r with
  | temporaryError => rfl
  | success => cases h
  | persistentError => cases h

theorem date_settled_of_ne_queued (h : (n.settled o p now).push.state ≠ .queued) :
    (n.settled o p now).push.date = now := by
  cases ho : o.isSuccess with
  | true => rw [Notification.push_settled_of_success ho]
  | false =>
    simp only [Notification.settled, ho, Bool.false_eq_true, if_false] at h ⊢
    exact if_neg h

theorem temporary_of_settled (h : (n.settled o p now).push.state = .queued) :
    o.result = .temporaryError :=
  temporary_of_queued (Notification.state_settled.symm.trans h)

theorem date_settled_of_queued (h : (n.settled o p now).push.state = .queued) :
    (n.settled o p now).push.date =
      now.plus (p.backoff.delay (n.settled o p now).push.errorCount) := by
  obtain ⟨_, message, hp⟩ := Notification.push_settled_of_queued h
  rw [hp]

theorem count_settled_of_queued (h : (n.settled o p now).push.state = .queued) :
    (n.settled o p now).push.errorCount = countUp n.push.errorCount := by
  obtain ⟨_, message, hp⟩ := Notification.push_settled_of_queued h
  rw [hp]

/-- Every attempt on a queued notification gives it a date. If it stays queued, which only a failure
that may pass leaves it, that is the sum of `now` and an entry of the table, cut off at the end of
the calendar only, and with more failures no earlier one; else it is `now`. -/
theorem deferred_exactly (p : RetryPolicy) (plain : now.Plain) :
    (∀ n : Notification, n.push.state = .queued → ∀ o, ∃ m, n.recordAttempt o p now = .ok m ∧
      (m.push.state = .queued → o.result = .temporaryError ∧
        m.push.errorCount = countUp n.push.errorCount ∧ m.push.date.Plain ∧ now ≤ m.push.date ∧
        ∃ d, p.backoff.delay m.push.errorCount = d ∧
          p.backoff.delays[min (m.push.errorCount.toNat - 1) (p.backoff.delays.length - 1)]? =
            some d ∧
          m.push.date.toNanos = min (now.toNanos + d.nanos) Instant.last.toNanos) ∧
      (m.push.state ≠ .queued → m.push.date = now)) ∧
    ∀ (n m n' m' : Notification) (o o' : Outcome), n.recordAttempt o p now = .ok m →
      n'.recordAttempt o' p now = .ok m' → m.push.state = .queued → m'.push.state = .queued →
      m.push.errorCount ≤ m'.push.errorCount → m.push.date ≤ m'.push.date := by
  constructor
  · intro n queued o
    refine ⟨n.settled o p now, Notification.recordAttempt_eq queued, fun h => ?_,
      date_settled_of_ne_queued⟩
    have hdate := date_settled_of_queued h
    have hcount := count_settled_of_queued h
    have hpos : 0 < (n.settled o p now).push.errorCount.toNat := by
      rw [hcount, toNat_countUp]
      omega
    refine ⟨temporary_of_settled h, hcount, ?_, ?_, _, rfl, p.backoff.getElem?_delay hpos, ?_⟩
    · rw [hdate]
      exact Instant.plain_plus plain _
    · rw [hdate]
      exact Instant.le_plus plain _
    · rw [hdate]
      exact Instant.toNanos_plus plain _
  · intro n m n' m' o o' hm hm' h h' hle
    obtain ⟨_, rfl⟩ := Notification.settled_of_recordAttempt hm
    obtain ⟨_, rfl⟩ := Notification.settled_of_recordAttempt hm'
    rw [date_settled_of_queued h, date_settled_of_queued h']
    exact Instant.plus_mono plain (p.backoff.delay_mono hle)

theorem deferred_exactly_of_two :
    let p : RetryPolicy :=
  { backoff := ⟨[.ofSecs 60, ⟨Span.limit - 1, by decide⟩], by decide, by decide⟩ }
    let first : Notification := .create "ann" "news" .epoch
    let second : Notification := { first with push := { first.push with errorCount := 1 } }
    let o : Outcome := .unreported .temporaryError "later"
    ∃ m m', first.recordAttempt o p .epoch = .ok m ∧ second.recordAttempt o p .epoch = .ok m' ∧
      m.push.date.toNanos = 60000000000 ∧ m'.push.date.toNanos = Instant.last.toNanos ∧
      m.push.date ≤ m'.push.date := by
  intro p first second o
  obtain ⟨each, mono⟩ := deferred_exactly p (by decide : Instant.epoch.Plain)
  obtain ⟨m, hm, hqueued, _⟩ := each first rfl o
  obtain ⟨m', hm', hqueued', _⟩ := each second rfl o
  have hq : m.push.state = .queued := by
    cases hm
    decide
  have hq' : m'.push.state = .queued := by
    cases hm'
    decide
  obtain ⟨_, hcount, _, _, d, rfl, _, hdate⟩ := hqueued hq
  obtain ⟨_, hcount', _, _, d', rfl, _, hdate'⟩ := hqueued' hq'
  refine ⟨m, m', hm, hm', ?_, ?_, mono _ _ _ _ _ _ hm hm' hq hq' ?_⟩
  · rw [hdate, hcount]
    decide
  · rw [hdate', hcount']
    decide
  · rw [hcount, hcount']
    decide

end RetryPolicy

end Herald
