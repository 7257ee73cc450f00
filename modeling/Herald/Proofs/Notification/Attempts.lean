import Herald.Proofs.Store.Records
import Mathlib.Data.List.Induction
/-!
Attempts on one notification, however many and whatever they come to: the first one that ends the
matter settles it, those before it are failures that may pass, and those after it are refused.
-/

set_option autoImplicit false

namespace Herald

structure Trial where
  outcome : Outcome
  time : Instant

namespace Notification

def after (n : Notification) (p : RetryPolicy) (as : List Trial) : Notification :=
  as.foldl (fun m a => (m.undergo a.outcome p a.time).2) n

def answers (n : Notification) (p : RetryPolicy) : List Trial → List (Except Fault PushState)
  | [] => []
  | a :: as => (n.undergo a.outcome p a.time).1 :: (n.undergo a.outcome p a.time).2.answers p as

def failures (n : Notification) (p : RetryPolicy) (as : List Trial) : Nat :=
  ((n.answers p as).zip as).countP fun x => x.1.isOk && !x.2.outcome.isSuccess

end Notification

namespace RetryPolicy

variable {p : RetryPolicy} {o : Outcome} {k : Nat}

/-- After `k` failures, the attempt is the last one: it succeeds, fails for good, or fails once too
often. Counts stop at the greatest one. -/
def Ends (p : RetryPolicy) (k : Nat) (o : Outcome) : Prop :=
  o.result = .success ∨ o.result = .persistentError ∨ p.maxErrorCount.toNat < min (k + 1) 4294967295

instance (p : RetryPolicy) (k : Nat) (o : Outcome) : Decidable (p.Ends k o) :=
  inferInstanceAs (Decidable (_ ∨ _ ∨ _))

/-- After `k` failures, none of the attempts is the last one. -/
def Open (p : RetryPolicy) (k : Nat) (as : List Trial) : Prop :=
  ∀ i a, as[i]? = some a → ¬ p.Ends (k + i) a.outcome

theorem open_concat {as : List Trial} {a : Trial} :
    p.Open k (as ++ [a]) ↔ p.Open k as ∧ ¬ p.Ends (k + as.length) a.outcome := by
  constructor
  · intro h
    refine ⟨fun i b hb => h i b ?_, h as.length a (by simp)⟩
    rw [List.getElem?_append_left (List.getElem?_eq_some_iff.1 hb).1, hb]
  · rintro ⟨h, ha⟩ i b hb
    rcases Nat.lt_or_ge i as.length with hi | hi
    · rw [List.getElem?_append_left hi] at hb
      exact h i b hb
    · rw [List.getElem?_append_right hi] at hb
      obtain ⟨h0, rfl⟩ := List.getElem?_eq_some_iff.1 hb
      have he : i = as.length := by
        simp only [List.length_singleton] at h0
        omega
      subst he
      simpa using ha

theorem maxErrorCount_lt_countUp_iff {count : UInt32} (hk : count.toNat = min k 4294967295) :
    p.maxErrorCount < countUp count ↔ p.maxErrorCount.toNat < min (k + 1) 4294967295 := by
  rw [UInt32.lt_iff_toNat_lt, toNat_countUp, hk]
  omega

theorem temporary_of_not_ends (h : ¬ p.Ends k o) : o.result = .temporaryError := by
  cases hr : o.result with
  | success => exact absurd (.inl hr) h
  | persistentError => exact absurd (.inr (.inl hr)) h
  | temporaryError => rfl

theorem ends_iff_of_temporary (h : o.result = .temporaryError) :
    p.Ends k o ↔ p.maxErrorCount.toNat < min (k + 1) 4294967295 := by
  simp [Ends, h]

theorem length_le_of_open {as : List Trial} (bounded : p.maxErrorCount < 4294967295)
    (h : p.Open 0 as) : as.length ≤ p.maxErrorCount.toNat := by
  have hmax : p.maxErrorCount.toNat < 4294967295 := UInt32.lt_iff_toNat_lt.1 bounded
  refine Nat.le_of_not_lt fun hlt => ?_
  exact h _ _ (List.getElem?_eq_getElem hlt) (.inr (.inr (by omega)))

theorem nextState_of_not_ends {count : UInt32} (hk : count.toNat = min k 4294967295)
    (h : ¬ p.Ends k o) : p.nextState count o.result = .queued := by
  have hle : ¬ p.maxErrorCount < countUp count :=
    fun hlt => h (.inr (.inr ((maxErrorCount_lt_countUp_iff hk).1 hlt)))
  rw [temporary_of_not_ends h, nextState, if_neg hle]

theorem nextState_of_ends {count : UInt32} (hk : count.toNat = min k 4294967295) (h : p.Ends k o) :
    p.nextState count o.result = if o.isSuccess then .pushed else .undeliverable := by
  cases hr : o.result with
  | success => simp [nextState, Outcome.isSuccess, hr]
  | persistentError => simp [nextState, Outcome.isSuccess, hr]
  | temporaryError =>
    have hlt : p.maxErrorCount < countUp count :=
      (maxErrorCount_lt_countUp_iff hk).2 ((ends_iff_of_temporary hr).1 h)
    simp [nextState, Outcome.isSuccess, hr, hlt]

end RetryPolicy

namespace Notification

variable {n : Notification} {p : RetryPolicy} {a : Trial} {as : List Trial}

theorem after_append (n : Notification) (p : RetryPolicy) (as bs : List Trial) :
    n.after p (as ++ bs) = (n.after p as).after p bs := List.foldl_append

theorem after_concat (n : Notification) (p : RetryPolicy) (as : List Trial) (a : Trial) :
    n.after p (as ++ [a]) = ((n.after p as).undergo a.outcome p a.time).2 := after_append n p as [a]

theorem answers_append (n : Notification) (p : RetryPolicy) (as bs : List Trial) :
    n.answers p (as ++ bs) = n.answers p as ++ (n.after p as).answers p bs := by
  induction as generalizing n with
  | nil => rfl
  | cons a as ih =>
    rw [List.cons_append, answers, ih, answers, List.cons_append]
    rfl

theorem length_answers (n : Notification) (p : RetryPolicy) (as : List Trial) :
    (n.answers p as).length = as.length := by
  induction as generalizing n with
  | nil => rfl
  | cons a as ih => rw [answers, List.length_cons, List.length_cons, ih]

theorem failures_concat (n : Notification) (p : RetryPolicy) (as : List Trial) (a : Trial) :
    n.failures p (as ++ [a]) = n.failures p as +
      if ((n.after p as).undergo a.outcome p a.time).1.isOk && !a.outcome.isSuccess
      then 1 else 0 := by
  rw [failures, answers_append, List.zip_append (length_answers n p as), List.countP_append]
  simp only [answers, List.zip_cons_cons, List.zip_nil_left, List.countP_singleton]
  rfl

structure Waiting (n : Notification) (p : RetryPolicy) (as : List Trial) : Prop where
  unsettled : p.Open n.push.errorCount.toNat as
  state : (n.after p as).push.state = .queued
  count : (n.after p as).push.errorCount.toNat =
    min (n.push.errorCount.toNat + as.length) 4294967295
  answers : n.answers p as = List.replicate as.length (.ok .queued)

/-- Attempt `a` ended the matter: those before it left the notification queued, and those after it
are refused and change nothing. -/
structure Decided (n : Notification) (p : RetryPolicy) (before : List Trial) (a : Trial)
    (later : List Trial) : Prop where
  unsettled : p.Open n.push.errorCount.toNat before
  ends : p.Ends (n.push.errorCount.toNat + before.length) a.outcome
  state : (n.after p (before ++ [a])).push.state = if a.outcome.isSuccess
  then .pushed else .undeliverable
  unchanged : n.after p (before ++ a :: later) = n.after p (before ++ [a])
  answers : n.answers p (before ++ a :: later) =
    List.replicate before.length (.ok .queued) ++ .ok (n.after p (before ++ [a])).push.state ::
      later.map fun b => .error ((n.after p (before ++ [a])).refusal b.outcome p)

theorem after_of_terminal (h : n.push.state ≠ .queued) (as : List Trial) :
    n.after p as = n ∧ n.answers p as = as.map fun a => .error (n.refusal a.outcome p) := by
  induction as with
  | nil => exact ⟨rfl, rfl⟩
  | cons a as ih =>
    have hu : n.undergo a.outcome p a.time = _ := undergo_of_terminal h
    constructor
    · rw [after, List.foldl_cons, hu]
      exact ih.1
    · rw [answers, hu, List.map_cons, ih.2]

theorem waiting_of_open (queued : n.push.state = .queued) (h : p.Open n.push.errorCount.toNat as) :
    n.Waiting p as := by
  induction as using List.reverseRecOn with
  | nil =>
    exact ⟨h, queued, (min_greatest _).symm, rfl⟩
  | append_singleton as a ih =>
    obtain ⟨has, ha⟩ := RetryPolicy.open_concat.1 h
    have hw := ih has
    have hs := RetryPolicy.nextState_of_not_ends hw.count ha
    have hf : a.outcome.isSuccess = false := by
      simp [Outcome.isSuccess, RetryPolicy.temporary_of_not_ends ha]
    have hu : (n.after p as).undergo a.outcome p a.time = _ := undergo_of_queued hw.state
    rw [state_settled, hs] at hu
    refine ⟨h, ?_, ?_, ?_⟩
    · rw [after_concat, hu, state_settled, hs]
    · rw [after_concat, hu, count_settled, hw.count, hf, List.length_append]
      simp only [Bool.false_eq_true, if_false, List.length_singleton]
      omega
    · rw [answers_append, hw.answers, answers, hu, answers, List.length_append,
        List.length_singleton, List.replicate_succ']

theorem open_or_ends (p : RetryPolicy) (k : Nat) (as : List Trial) :
    p.Open k as ∨ ∃ before a later, as = before ++ a :: later ∧ p.Open k before ∧
      p.Ends (k + before.length) a.outcome := by
  induction as using List.reverseRecOn with
  | nil => exact .inl (fun i b hb => by simp at hb)
  | append_singleton as a ih =>
    rcases ih with ho | ⟨before, b, later, rfl, hb, he⟩
    · by_cases ha : p.Ends (k + as.length) a.outcome
      · exact .inr ⟨as, a, [], rfl, ho, ha⟩
      · exact .inl (RetryPolicy.open_concat.2 ⟨ho, ha⟩)
    · exact .inr ⟨before, b, later ++ [a], by simp, hb, he⟩

theorem count_after (n : Notification) (p : RetryPolicy) (as : List Trial) :
    (n.after p as).push.errorCount.toNat =
      min (n.push.errorCount.toNat + n.failures p as) 4294967295 := by
  induction as using List.reverseRecOn with
  | nil => exact (min_greatest _).symm
  | append_singleton as a ih =>
    rw [after_concat, failures_concat]
    by_cases hq : (n.after p as).push.state = .queued
    · rw [undergo_of_queued hq, count_settled, ih]
      cases a.outcome.isSuccess with
      | true => simp [Except.isOk, Except.toBool]
      | false =>
        simp only [Except.isOk, Except.toBool, Bool.not_false, Bool.and_self,
          Bool.false_eq_true, if_false, if_true]
        omega
    · rw [undergo_of_terminal hq, ih]
      simp [Except.isOk, Except.toBool]

theorem decided_of_ends {before : List Trial} (queued : n.push.state = .queued)
    (ho : p.Open n.push.errorCount.toNat before)
    (he : p.Ends (n.push.errorCount.toNat + before.length) a.outcome) (later : List Trial) :
    n.Decided p before a later := by
  have hw := waiting_of_open queued ho
  have hu : (n.after p before).undergo a.outcome p a.time = _ := undergo_of_queued hw.state
  have hlast : n.after p (before ++ [a]) = (n.after p before).settled a.outcome p a.time := by
    rw [after_concat, hu]
  have hstate : (n.after p (before ++ [a])).push.state =
      if a.outcome.isSuccess then .pushed else .undeliverable := by
    rw [hlast, state_settled, RetryPolicy.nextState_of_ends hw.count he]
  have hdone : (n.after p (before ++ [a])).push.state ≠ .queued := by
    rw [hstate]
    split <;> decide
  obtain ⟨hafter, hrefused⟩ := after_of_terminal (p := p) hdone later
  refine ⟨ho, he, hstate, ?_, ?_⟩
  · rw [List.append_cons, after_append, hafter]
  · rw [List.append_cons, answers_append, hrefused, answers_append, hw.answers,
      answers, hu, ← hlast, answers, List.append_assoc, List.singleton_append]

/-- The first attempt that ends the matter settles it: until then the notification is queued, and
from then on every attempt is refused and changes nothing. Failures are counted one by one, up to
the greatest count. So, from none on, as many failures that may pass as the policy allows are
survived, and all of them if it allows the greatest count. -/
theorem decided_once (p : RetryPolicy) (queued : n.push.state = .queued) :
    (∀ as, n.Waiting p as ∨ ∃ before a later, as = before ++ a :: later ∧
      n.Decided p before a later) ∧
    (∀ as, (n.after p as).push.errorCount.toNat =
      min (n.push.errorCount.toNat + n.failures p as) 4294967295) ∧
    (n.push.errorCount = 0 → p.maxErrorCount < 4294967295 →
      ∀ as : List Trial, (∀ a ∈ as, a.outcome.result = .temporaryError) →
        (n.after p as).push.state = if as.length ≤ p.maxErrorCount.toNat then .queued
        else .undeliverable) ∧
    (p.maxErrorCount = 4294967295 →
      ∀ as : List Trial, (∀ a ∈ as, a.outcome.result = .temporaryError) →
        (n.after p as).push.state = .queued) := by
  have course : ∀ as, n.Waiting p as ∨
      ∃ before a later, as = before ++ a :: later ∧ n.Decided p before a later := by
    intro as
    rcases open_or_ends p n.push.errorCount.toNat as with ho | ⟨before, a, later, rfl, ho, he⟩
    · exact .inl (waiting_of_open queued ho)
    · exact .inr ⟨before, a, later, rfl, decided_of_ends queued ho he later⟩
  refine ⟨course, count_after n p, fun hzero hmax as temporary => ?_, fun hmax as temporary => ?_⟩
  · have h0 : n.push.errorCount.toNat = 0 := by
      rw [hzero]
      rfl
    rcases course as with hw | ⟨before, a, later, rfl, hd⟩
    · rw [hw.state, if_pos (RetryPolicy.length_le_of_open hmax (h0 ▸ hw.unsettled))]
    · have ht := temporary a (by simp)
      have hlt := (RetryPolicy.ends_iff_of_temporary ht).1 hd.ends
      rw [hd.unchanged, hd.state, if_neg (by simp [Outcome.isSuccess, ht]), if_neg]
      rw [List.length_append, List.length_cons]
      omega
  · rcases course as with hw | ⟨before, a, later, rfl, hd⟩
    · exact hw.state
    · have hlt := (RetryPolicy.ends_iff_of_temporary (temporary a (by simp))).1 hd.ends
      rw [hmax] at hlt
      simp only [UInt32.reduceToNat] at hlt
      omega

theorem decided_once_of_three :
    let n : Notification := .create "ann" "news" .epoch
    let p : RetryPolicy := { maxErrorCount := 1 }
    let patient : RetryPolicy := { maxErrorCount := 4294967295 }
    let a : Trial := ⟨.unreported .temporaryError "later", .epoch⟩
    let done : Trial := ⟨⟨.success, none, .empty⟩, .epoch⟩
    n.answers p [a, a, done] =
        [.ok .queued, .ok .undeliverable, .error (.transition "UNDELIVERABLE" "PUSHED")] ∧
      (n.after p [a, a, done]).push.errorCount.toNat = 2 ∧ (n.after p [a]).push.state = .queued ∧
      (n.after p [a, a]).push.state = .undeliverable ∧
        (n.after patient [a, a]).push.state = .queued := by
  intro n p patient a done
  have queued : n.push.state = .queued := rfl
  have temporary : ∀ b ∈ [a, a], b.outcome.result =
    .temporaryError := by simp [a, Outcome.unreported]
  obtain ⟨course, count, short, _⟩ := decided_once p queued
  obtain ⟨_, _, _, long⟩ := decided_once patient queued
  refine ⟨?_, count [a, a, done], short rfl (by decide) [a] (fun b hb => temporary b (by simp_all)),
    short rfl (by decide) [a, a] temporary, long rfl [a, a] temporary⟩
  rcases course [a, a, done] with hw | ⟨before, b, later, has, hd⟩
  · exact absurd (by decide) (hw.unsettled 1 a rfl)
  · rcases before with _ | ⟨x, _ | ⟨y, l⟩⟩
    · cases has
      exact absurd hd.ends (by decide)
    · cases has
      exact hd.answers.trans (by rw [hd.state]; rfl)
    · obtain ⟨_, rfl, _⟩ : a = x ∧ a = y ∧ _ := by simpa using has
      exact absurd (by decide) (hd.unsettled 1 a rfl)

end Notification

end Herald
