import Herald.Proofs.Time.Delay
import Herald.Proofs.Dispatcher.Errand
import Herald.Proofs.Store.Order
import Mathlib.Algebra.GroupWithZero.Nat
/-!
Emptying the queue: attempt after attempt, with nothing in between, until nothing is due. Every
attempt uses up one of those that the policy leaves, so that there is an end also where delays are
zero.
-/

set_option autoImplicit false

namespace Herald

namespace RetryPolicy

variable {p : RetryPolicy} {n : Notification} {o : Outcome} {now : Instant}

/-- How many attempts the queued notification may still take. -/
def attemptsLeft (p : RetryPolicy) (n : Notification) : Nat :=
  max 1 (p.maxErrorCount.toNat + 1 - n.push.errorCount.toNat)

theorem attemptsLeft_settled (bounded : p.maxErrorCount < 4294967295)
    (h : (n.settled o p now).push.state = .queued) :
    p.attemptsLeft (n.settled o p now) < p.attemptsLeft n := by
  obtain ⟨hle, message, hp⟩ := Notification.push_settled_of_queued h
  have hle := UInt32.le_iff_toNat_le.1 hle
  have hmax : p.maxErrorCount.toNat < 4294967295 := UInt32.lt_iff_toNat_lt.1 bounded
  rw [toNat_countUp] at hle
  simp only [attemptsLeft, hp, toNat_countUp]
  omega

end RetryPolicy

theorem Notification.isDue_settled {p : RetryPolicy} {now : Instant} (ht : now < .last)
    (hd : ∀ c ∈ p.backoff.delays, 0 < c.nanos) (n : Notification) (o : Outcome) :
    (n.settled o p now).isDue now = false := by
  cases hs : (n.settled o p now).push.state with
  | queued =>
    obtain ⟨_, message, hp⟩ := push_settled_of_queued hs
    have hc : 0 < (countUp n.push.errorCount).toNat := by
      rw [toNat_countUp]
      omega
    have hlt := Instant.lt_plus ht (hd _ (p.backoff.delay_mem hc))
    simp only [isDue, hp, Instant.not_le.2 hlt, decide_false, Bool.and_false]
  | pushed => simp [isDue, hs]
  | undeliverable => simp [isDue, hs]

namespace MemoryStore

variable {s : MemoryStore} {id : Int} {n m : Notification} {now : Instant} {p : RetryPolicy}

def due (now : Instant) (s : MemoryStore) : List (Int × Notification) :=
  s.records.filter fun r => r.2.isDue now

def attemptsLeft (p : RetryPolicy) (now : Instant) (s : MemoryStore) : Nat :=
  ((s.due now).map fun r => p.attemptsLeft r.2).sum

def Earlier (a b : Int × Notification) : Prop :=
  a.2.push.date < b.2.push.date ∨ a.2.push.date = b.2.push.date ∧ a.1 < b.1

theorem next?_eq (now : Instant) (s : MemoryStore) :
    s.next? now = (earliest (s.due now)).map (·.2) := rfl

theorem earlier_of_earliest {l : List (Int × Notification)} {r b : Int × Notification}
    (h : earliest l = some r) (hb : b ∈ l) (hne : b.1 ≠ r.1) : Earlier r b := by
  rcases inOrder_iff.1 (inOrder_of_earliestOf h hb) with hlt | ⟨he, hle⟩
  · exact .inl hlt
  · exact .inr ⟨he, Int.lt_iff_le_and_ne.2 ⟨hle, hne.symm⟩⟩

theorem records_split (hf : s.find? id = some n) : ∃ a b, s.records = a ++ (id, n) :: b ∧
    (∀ r ∈ a ++ b, r.1 ≠ id) ∧ ∀ m, m.id = n.id → (s.replace id m).records = a ++ (id, m) :: b := by
  obtain ⟨a, b, hr⟩ := List.mem_iff_append.1 (find?_eq_some.1 hf)
  have hasc := s.ascending
  rw [hr, List.pairwise_append, List.pairwise_cons] at hasc
  have ha : ∀ r ∈ a, r.1 ≠ id := fun r hm => Int.ne_of_lt (hasc.2.2 r hm (id, n) List.mem_cons_self)
  have hb : ∀ r ∈ b, r.1 ≠ id := fun r hm => (Int.ne_of_lt (hasc.2.1.1 r hm)).symm
  refine ⟨a, b, hr, fun r hm => (List.mem_append.1 hm).elim (ha r) (hb r), fun m hm => ?_⟩
  have hid : ({ m with id := some id } : Notification) = m := by
    rw [← id_of_find? hf, ← hm]
  have keep : ∀ l : List (Int × Notification), (∀ r ∈ l, r.1 ≠ id) →
      l.map (fun r => if r.1 = id then (r.1, { m with id := some r.1 }) else r) = l := by
    intro l hl
    refine (List.map_congr_left fun r hm => if_neg (hl r hm)).trans (List.map_id' l)
  simp only [replace, hr, List.map_append, List.map_cons, keep a ha, keep b hb, if_true, hid]

theorem due_split (hf : s.find? id = some n) (hd : n.isDue now = true) :
    ∃ a b, s.due now = a ++ (id, n) :: b ∧ (∀ r ∈ a ++ b, r.1 ≠ id) ∧ ∀ m, m.id = n.id →
      (s.replace id m).due now = a ++ (if m.isDue now then [(id, m)] else []) ++ b := by
  obtain ⟨a, b, hr, hne, hm⟩ := records_split hf
  refine ⟨a.filter fun r => r.2.isDue now, b.filter fun r => r.2.isDue now, ?_, fun r hr => ?_,
    fun m hid => ?_⟩
  · simp only [due, hr, List.filter_append, List.filter_cons, hd, if_true]
  · rw [← List.filter_append] at hr
    exact hne r (List.mem_filter.1 hr).1
  · simp only [due, hm m hid, List.filter_append, List.filter_cons]
    split <;> simp

theorem attemptsLeft_replace (bounded : p.maxErrorCount < 4294967295) (hf : s.find? id = some n)
    (hd : n.isDue now = true) (o : Outcome) :
    (s.replace id (n.settled o p now)).attemptsLeft p now < s.attemptsLeft p now := by
  obtain ⟨a, b, hs, _, hm⟩ := due_split hf hd
  have hpos : 0 < p.attemptsLeft n := by
    simp only [RetryPolicy.attemptsLeft]
    omega
  simp only [attemptsLeft, hs, hm _ Notification.id_settled, List.map_append, List.sum_append,
    List.map_cons, List.sum_cons]
  split
  · next h =>
    have := RetryPolicy.attemptsLeft_settled bounded (Notification.queued_of_isDue h)
    simp only [List.map_cons, List.map_nil, List.sum_cons, List.sum_nil]
    omega
  · simp only [List.map_nil, List.sum_nil]
    omega

end MemoryStore

namespace Dispatcher

section Queue

variable {S σ : Type} [Store S]

def nextAttempt? (now : Instant) (s : S) : Option Notification :=
  match Store.getNext now s with
  | (.ok (some n), s) =>
    match Errand.process n with
    | .ok e => (e.start now s).getRight?
    | .error _ => none
  | _ => none

def after (d : Dispatcher σ) (now : Instant) : Nat → World S σ → World S σ
  | 0, w => w
  | k + 1, w => after d now k (d.processNext now w).2

def attempts (d : Dispatcher σ) (now : Instant) : Nat → World S σ → List Notification
  | 0, _ => []
  | k + 1, w => (nextAttempt? now w.store).toList ++ attempts d now k (d.processNext now w).2

theorem after_add (d : Dispatcher σ) (now : Instant) (i j : Nat) (w : World S σ) :
    d.after now (i + j) w = d.after now j (d.after now i w) := by
  induction i generalizing w with
  | zero => rw [Nat.zero_add, after]
  | succ i ih => rw [Nat.succ_add, after, ih, after]

end Queue

variable {σ : Type} {d : Dispatcher σ} {now : Instant} {w : World MemoryStore σ}

/-- A call either finds nothing due, or makes an attempt of the first record in the queue. -/
theorem processNext_cases (d : Dispatcher σ) (now : Instant) (w : World MemoryStore σ) :
    (w.store.due now = [] ∧ nextAttempt? now w.store = none ∧ d.processNext now w = (.ok none, w)) ∨
    ∃ id n, MemoryStore.earliest (w.store.due now) = some (id, n) ∧ w.store.find? id = some n ∧
      n.isDue now = true ∧ nextAttempt? now w.store = some n ∧
      let o := (d.attempt n false w).1
      (d.processNext now w).1 = .ok (some (.processed o.result)) ∧
      (d.processNext now w).2.store = w.store.replace id (n.settled o d.config.retry now) := by
  cases he : MemoryStore.earliest (w.store.due now) with
  | none =>
    have hn : Store.getNext now w.store = (.ok none, w.store) := by
      simp only [Store.getNext, MemoryStore.next?_eq, he, Option.map_none]
    refine .inl ⟨earliestOf_eq_none.1 he, ?_, ?_⟩
    · simp only [nextAttempt?, hn]
    · simp only [processNext, hn]
  | some r =>
    obtain ⟨id, n⟩ := r
    obtain ⟨hm, hd⟩ := List.mem_filter.1 (mem_of_earliestOf he)
    have hf := MemoryStore.find?_eq_some.2 hm
    have hid := MemoryStore.id_of_find? hf
    have hstart : (Errand.queued id : Errand MemoryStore _).start now w.store = .inr n :=
      Errand.start_queued_eq_inr.2 ⟨hf, hd⟩
    rcases d.perform_cases (.queued id) now w with ⟨a, hs, _⟩ | ⟨m, hs, hp₁, hp₂⟩
    · rw [hstart] at hs
      cases hs
    · rw [hstart] at hs
      cases hs
      rw [Errand.finish_queued hf (Notification.queued_of_isDue hd)] at hp₁ hp₂
      have hn : Store.getNext now w.store = (.ok (some n), w.store) := by
        simp only [Store.getNext, MemoryStore.next?_eq, he, Option.map_some]
      have he' : Errand.process n = .ok (.queued id : Errand MemoryStore _) := by
        simp only [Errand.process, hid]
      refine .inr ⟨id, n, rfl, hf, hd, ?_, ?_, ?_⟩
      · simp only [nextAttempt?, hn, he', hstart, Sum.getRight?_inr]
      · simp only [processNext, hn, processQueued, he', hp₁]
        rfl
      · simp only [processNext, hn, processQueued, he', hp₂]
        rfl

theorem processNext_of_idle (h : w.store.due now = []) : d.processNext now w = (.ok none, w) := by
  rcases d.processNext_cases now w with ⟨_, _, hp⟩ | ⟨id, n, he, _⟩
  · exact hp
  · rw [h] at he
    cases he

theorem after_of_idle (h : w.store.due now = []) (k : Nat) : d.after now k w = w := by
  induction k with
  | zero => rfl
  | succ k ih => rw [after, processNext_of_idle h, ih]

theorem find?_after {id : Int} {n : Notification} (hf : w.store.find? id = some n)
    (hd : n.isDue now = false) (k : Nat) : (d.after now k w).store.find? id = some n := by
  induction k generalizing w with
  | zero => exact hf
  | succ k ih =>
    refine ih ?_
    rcases d.processNext_cases now w with ⟨_, _, hp⟩ | ⟨other, m, _, hm, hdue, _, _, hs⟩
    · rw [hp]
      exact hf
    · have hne : id ≠ other := by
        rintro rfl
        rw [hf] at hm
        cases hm
        rw [hd] at hdue
        cases hdue
      rw [hs, MemoryStore.find?_replace, if_neg hne]
      exact hf

/-- Attempts are made without a break until nothing is due, and not more than are left. -/
theorem exists_idle (now : Instant) (w : World MemoryStore σ)
    (bounded : d.config.retry.maxErrorCount < 4294967295) :
    ∃ k ≤ w.store.attemptsLeft d.config.retry now,
      (∀ i < k, ∃ r, (d.processNext now (d.after now i w)).1 = .ok (some (.processed r))) ∧
      (d.after now k w).store.due now = [] := by
  generalize hl : w.store.attemptsLeft d.config.retry now = left
  induction left using Nat.strongRecOn generalizing w with
  | ind left ih =>
    rcases d.processNext_cases now w with ⟨hdue, _⟩ | ⟨id, n, _, hf, hd, _, ha, hs⟩
    · exact ⟨0, Nat.zero_le _, nofun, hdue⟩
    · have hlt := MemoryStore.attemptsLeft_replace bounded hf hd (d.attempt n false w).1
      rw [← hs, hl] at hlt
      obtain ⟨k, hk, hall, hdue⟩ := ih _ hlt _ rfl
      refine ⟨k + 1, Nat.le_trans (Nat.succ_le_succ hk) hlt, fun i hi => ?_, hdue⟩
      cases i with
      | zero => exact ⟨_, ha⟩
      | succ i => exact hall i (Nat.lt_of_succ_lt_succ hi)

/-- Where nothing is due twice, attempts go through the queue in its order. -/
theorem attempts_eq (ht : now < .last)
    (hd : ∀ c ∈ d.config.retry.backoff.delays, 0 < c.nanos) {k : Nat}
    (hk : (d.after now k w).store.due now = []) :
    ∃ l : List (Int × Notification), l.Perm (w.store.due now) ∧ l.Pairwise MemoryStore.Earlier ∧
      d.attempts now k w = l.map (·.2) := by
  induction k generalizing w with
  | zero => exact ⟨[], by rw [show w.store.due now = [] from hk], .nil, rfl⟩
  | succ k ih =>
    obtain ⟨l, hperm, hord, hl⟩ := ih hk
    rcases d.processNext_cases now w with ⟨_, hn, hp⟩ | ⟨id, n, he, hf, hdue, hn, _, hs⟩
    · rw [hp] at hperm hl
      exact ⟨l, hperm, hord, by rw [attempts, hn, hp, hl, Option.toList_none, List.nil_append]⟩
    · obtain ⟨a, b, hdue', hne, hm⟩ := MemoryStore.due_split hf hdue
      have hrest : (d.processNext now w).2.store.due now = a ++ b := by
        rw [hs, hm _ Notification.id_settled, Notification.isDue_settled ht hd]
        simp
      rw [hrest] at hperm
      refine ⟨(id, n) :: l, ?_, List.pairwise_cons.2 ⟨fun r hr => ?_, hord⟩, ?_⟩
      · rw [hdue']
        exact (hperm.cons _).trans List.perm_middle.symm
      · have hr := hperm.mem_iff.1 hr
        refine MemoryStore.earlier_of_earliest he ?_ (hne r hr)
        rw [hdue']
        exact (List.perm_middle.mem_iff).2 (List.mem_cons_of_mem _ hr)
      · rw [attempts, hn, hl]
        rfl

/-- Calls for the next attempt, with nothing in between, find work until nothing is due, and this is
after as many attempts at most as were left at first. None of them fails or is skipped, and what was
not due stays as it was. If every delay is positive, each record that was due has been attempted
once, by date and number. -/
theorem empties_the_queue (d : Dispatcher σ) (now : Instant) (w : World MemoryStore σ)
    (bounded : d.config.retry.maxErrorCount < 4294967295) :
    ∃ k ≤ w.store.attemptsLeft d.config.retry now,
      (∀ i < k, ∃ r, (d.processNext now (d.after now i w)).1 = .ok (some (.processed r))) ∧
      (∀ i, k ≤ i → (d.processNext now (d.after now i w)).1 = .ok none ∧
        (d.after now i w).store.due now = []) ∧
      (∀ i id n, w.store.find? id = some n → n.isDue now = false →
        (d.after now i w).store.find? id = some n) ∧
      (now < .last → (∀ c ∈ d.config.retry.backoff.delays, 0 < c.nanos) →
        ∃ l : List (Int × Notification), l.Perm (w.store.due now) ∧ l.Pairwise MemoryStore.Earlier ∧
          d.attempts now k w = l.map (·.2)) := by
  obtain ⟨k, hk, hall, hidle⟩ := exists_idle now w bounded
  refine ⟨k, hk, hall, fun i hi => ?_, fun i id n hf hd => find?_after hf hd i,
    fun ht hd => attempts_eq ht hd hidle⟩
  obtain ⟨j, rfl⟩ := Nat.exists_eq_add_of_le hi
  rw [after_add, after_of_idle hidle]
  exact ⟨by rw [processNext_of_idle hidle], hidle⟩

theorem empties_the_queue_of_three :
    let post : PushChannel Unit := .immediate "post" (fun _ => true) (fun _ => true) (some {})
      fun n _ _ => (if n.user = "bob" then .error (.transient "later") else .ok (), ())
    let d : Dispatcher Unit :=
      ⟨Roster.enlist .empty post, fun _ _ _ => .ok ⟨⟨.text, "", ""⟩, .empty⟩, .empty, {}⟩
    let now : Instant := .ofMillis 5000
    let forAnn : Notification :=
      { Notification.create "ann" "news" (.ofMillis 2000) with id := some 1 }
    let forBob : Notification := { Notification.create "bob" "news" .epoch with id := some 2 }
    let forEve : Notification :=
      { Notification.create "eve" "news" (.ofMillis 9000) with id := some 3 }
    let s := ((MemoryStore.empty.append forAnn).append forBob).append forEve
    let w : World MemoryStore Unit :=
      ⟨s.setPreferences (.ofList [("ann", { user := "ann" }), ("bob", { user := "bob" })]), ()⟩
    d.config.retry.maxErrorCount < 4294967295 ∧ now < .last ∧
    (∀ c ∈ d.config.retry.backoff.delays, 0 < c.nanos) ∧
    ∃ k ≤ 8, (∀ i < k, ∃ r, (d.processNext now (d.after now i w)).1 = .ok (some (.processed r))) ∧
      (d.processNext now (d.after now k w)).1 = .ok none ∧
      (d.after now k w).store.find? 3 = some forEve ∧
      ∃ l : List (Int × Notification), l.Perm [(1, forAnn), (2, forBob)] ∧
        l.Pairwise MemoryStore.Earlier ∧ d.attempts now k w = l.map (·.2) := by
  intro post d now forAnn forBob forEve s w
  have bounded : d.config.retry.maxErrorCount < 4294967295 := by decide
  have before : now < .last := by decide
  have positive : ∀ c ∈ d.config.retry.backoff.delays, 0 < c.nanos := by decide
  have left : w.store.attemptsLeft d.config.retry now = 8 := by decide +kernel
  have due : w.store.due now = [(1, forAnn), (2, forBob)] := by decide +kernel
  obtain ⟨k, hk, hall, hidle, hkept, hord⟩ := empties_the_queue d now w bounded
  rw [left] at hk
  have hord := hord before positive
  rw [due] at hord
  exact ⟨bounded, before, positive, k, hk, hall, (hidle k (Nat.le_refl k)).1,
    hkept k 3 forEve (by decide +kernel) (by decide +kernel), hord⟩

end Dispatcher

end Herald
