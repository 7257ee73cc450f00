import Herald.Proofs.Delivery.Steps
/-!
A call with nobody else about. Step by step it comes to what the dispatcher performs at once, and
the attempt is a success just if some channel was seen to take the notification.
-/

set_option autoImplicit false

namespace Herald

variable {S σ α : Type}

def Delivery.seen? (d : Delivery S σ α) (s : σ) : Option (Notification × Attempt.Sign) :=
  match d with
  | .attempting _ a => (a.sign? s).map (a.notification, ·)
  | _ => none

/-- With all that was seen of its steps so far. -/
structure Solo (S σ α : Type) where
  delivery : Delivery S σ α
  locks : KeyLock Unit Int
  world : World S σ
  seen : List (Notification × Attempt.Sign)

namespace Solo

def begin (w : World S σ) (d : Delivery S σ α) : Solo S σ α := ⟨d, .empty, w, []⟩

variable [Store S]

def step (disp : Dispatcher σ) (now : Instant) (c : Solo S σ α) : Solo S σ α :=
  let (delivery, locks, world) := c.delivery.step disp () now c.locks c.world
  ⟨delivery, locks, world, c.seen ++ (c.delivery.seen? c.world.outside).toList⟩

def run (disp : Dispatcher σ) (now : Instant) : Nat → Solo S σ α → Solo S σ α
  | 0, c => c
  | k + 1, c => run disp now k (c.step disp now)

variable {disp : Dispatcher σ} {now : Instant} {b c d : Solo S σ α}

theorem run_add (disp : Dispatcher σ) (now : Instant) (i j : Nat) (c : Solo S σ α) :
    c.run disp now (i + j) = (c.run disp now i).run disp now j := by
  induction i generalizing c with
  | zero => rw [Nat.zero_add]; rfl
  | succ i ih => rw [Nat.succ_add]; exact ih _

theorem run_done {a : α} (h : c.delivery = .done a) (k : Nat) : c.run disp now k = c := by
  induction k with
  | zero => rfl
  | succ k ih =>
    have hs : c.step disp now = c := by
      obtain ⟨delivery, locks, world, seen⟩ := c
      subst h
      simp [step, Delivery.step, Delivery.seen?]
    rw [run, hs, ih]

def Leads (disp : Dispatcher σ) (now : Instant) (c d : Solo S σ α) : Prop :=
  ∃ k, c.run disp now k = d

theorem Leads.refl (c : Solo S σ α) : c.Leads disp now c := ⟨0, rfl⟩

theorem Leads.trans (h : b.Leads disp now c) (h' : c.Leads disp now d) : b.Leads disp now d := by
  obtain ⟨i, rfl⟩ := h
  obtain ⟨j, rfl⟩ := h'
  exact ⟨i + j, run_add disp now i j b⟩

theorem Leads.head (h : (c.step disp now).Leads disp now d) : c.Leads disp now d :=
  Leads.trans ⟨1, rfl⟩ h

end Solo

namespace Delivery

variable [Store S] {disp : Dispatcher σ} {now : Instant} {w : World S σ}

/-- The call is over at some time, with this answer and this world, and this was seen of it. -/
def Ends (disp : Dispatcher σ) (now : Instant) (w : World S σ) (d : Delivery S σ α) (a : α)
    (w' : World S σ) (seen : List (Notification × Attempt.Sign)) : Prop :=
  ∃ locks, (Solo.begin w d).Leads disp now ⟨.done a, locks, w', seen⟩

/-- A call ends in one way. -/
theorem Ends.unique {d : Delivery S σ α} {a b : α} {v v' : World S σ}
    {log log' : List (Notification × Attempt.Sign)} (h : d.Ends disp now w a v log)
    (h' : d.Ends disp now w b v' log') : a = b ∧ v = v' ∧ log = log' := by
  obtain ⟨l, i, hi⟩ := h
  obtain ⟨l', j, hj⟩ := h'
  have hij : (Solo.begin w d).run disp now (i + j) = ⟨.done a, l, v, log⟩ := by
    rw [Solo.run_add, hi]
    exact Solo.run_done rfl j
  have hji : (Solo.begin w d).run disp now (i + j) = ⟨.done b, l', v', log'⟩ := by
    rw [Nat.add_comm, Solo.run_add, hj]
    exact Solo.run_done rfl i
  rw [hij] at hji
  cases hji
  exact ⟨rfl, rfl, rfl⟩

def Accepted (n : Notification) (log : List (Notification × Attempt.Sign)) : Prop :=
  ∃ channel, (n, .ends channel true) ∈ log

theorem not_accepted_nil (n : Notification) : ¬ Accepted n [] := by
  rintro ⟨channel, h⟩
  cases h

theorem not_accepted {n : Notification} {log : List (Notification × Attempt.Sign)}
    (h : ∀ x ∈ log, x.1 = n) (hn : ¬ Accepted n log) (m : Notification) : ¬ Accepted m log := by
  rintro ⟨channel, hm⟩
  obtain rfl : m = n := h _ hm
  exact hn ⟨channel, hm⟩

end Delivery

def Errand.Shows [Store S] (e : Errand S α) (disp : Dispatcher σ) (now : Instant) (w : World S σ)
    (log : List (Notification × Attempt.Sign)) : Prop :=
  match e.start now w.store with
  | .inl _ => log = []
  | .inr n => (∀ x ∈ log, x.1 = n) ∧
    ((disp.attempt n e.ignoresFrequency w).1.isSuccess = true ↔ Delivery.Accepted n log)

namespace Solo

open Attempt (Sign)

variable [Store S] (disp : Dispatcher σ) (now : Instant) (l : KeyLock Unit Int) (e : Errand S α)
  (f : FanOut σ) (n : Notification) (p : Preferences) (store : S)

theorem leads_push (c : PushChannel σ) (d : Dispatch) (cs : List (PushChannel σ))
    (r : Report) (s : σ) (pauses : Nat) (seen : List (Notification × Sign)) :
    let answer := c.finish n d s
    let recorded := f.record n c answer.1 r answer.2
    Leads disp now ⟨.attempting e ⟨f, n, p, r, some ⟨c, d, pauses⟩, cs⟩, l, ⟨store, s⟩, seen⟩
      ⟨.attempting e ⟨f, n, p, recorded.1, none, cs⟩, l, ⟨store, recorded.2⟩,
        seen ++ [(n, .ends c.id answer.1.isOk)]⟩ := by
  intro answer recorded
  induction pauses with
  | zero => exact Leads.head (Leads.refl _)
  | succ k ih =>
    refine Leads.head ?_
    simpa [step, Delivery.step, Attempt.step, Delivery.seen?, Attempt.sign?] using ih

theorem leads_visitAll (cs : List (PushChannel σ)) (r : Report) (s : σ)
    (seen : List (Notification × Sign)) :
    ∃ log, Leads disp now ⟨.attempting e ⟨f, n, p, r, none, cs⟩, l, ⟨store, s⟩, seen⟩
        ⟨.finishing e n (.ofReport (f.visitAll n p cs r s).1), l,
          ⟨store, (f.visitAll n p cs r s).2⟩, seen ++ log⟩ ∧
      (∀ x ∈ log, x.1 = n) ∧
      (f.visitAll n p cs r s).1.succeeded =
        r.succeeded ++ log.flatMap fun x => Sign.taken (some x.2) := by
  induction cs generalizing r s seen with
  | nil => exact ⟨[(n, .closes)], Leads.head (Leads.refl _), by simp,
    by simp [FanOut.visitAll, Sign.taken]⟩
  | cons c cs ih =>
    simp only [FanOut.visitAll]
    cases hv : f.verdict n p c with
    | unrendered error =>
      obtain ⟨log, hl, hn, hs⟩ := ih (r.addError c.id error) s seen
      refine ⟨log, Leads.head ?_, hn, ?_⟩
      · simpa [step, Delivery.step, Attempt.step, Attempt.visit, Delivery.seen?, Attempt.sign?, hv,
          FanOut.visit] using hl
      · simpa [FanOut.visit, hv] using hs
    | refuse error =>
      obtain ⟨log, hl, hn, hs⟩ := ih (r.addError c.id error) (f.tell n c error s) seen
      refine ⟨log, Leads.head ?_, hn, ?_⟩
      · simpa [step, Delivery.step, Attempt.step, Attempt.visit, Delivery.seen?, Attempt.sign?, hv,
          FanOut.visit, FanOut.record] using hl
      · simpa [FanOut.visit, hv, FanOut.record] using hs
    | offer d =>
      let answer := c.push n d s
      let recorded := f.record n c answer.1 r answer.2
      obtain ⟨log, hl, hn, hs⟩ := ih recorded.1 recorded.2
        (seen ++ [(n, .begins c.id)] ++ [(n, .ends c.id answer.1.isOk)])
      have hpush := leads_push disp now l e f n p store c d cs r (c.start n d s) c.pauses
        (seen ++ [(n, .begins c.id)])
      have hvisit : f.visit n p c r s = recorded := by simp only [FanOut.visit, hv]; rfl
      refine ⟨(n, .begins c.id) :: (n, .ends c.id answer.1.isOk) :: log, Leads.head ?_,
        by simpa using hn, ?_⟩
      · rw [hvisit]
        simp only [step, Delivery.step, Attempt.step, Attempt.visit, Delivery.seen?,
          Attempt.sign?, hv]
        simpa using hpush.trans hl
      · have hr := f.succeeded_record n c answer.1 r answer.2
        rw [hvisit, hs, hr]
        cases answer.1.isOk <;> simp [Sign.taken]

end Solo

namespace Solo

open Attempt (Sign)

variable [Store S] {w : World S σ} {e : Errand S α} {n : Notification}

theorem accepted_iff {log : List (Notification × Sign)} (h : ∀ x ∈ log, x.1 = n) :
    Delivery.Accepted n log ↔ (log.flatMap fun x => Sign.taken (some x.2)) ≠ [] := by
  rw [Ne, List.flatMap_eq_nil_iff, not_forall]
  constructor
  · rintro ⟨channel, hm⟩
    exact ⟨_, fun hn => by simpa [Sign.taken] using hn hm⟩
  · rintro ⟨⟨m, sign⟩, hm⟩
    obtain ⟨hm, ht⟩ := Classical.not_imp.1 hm
    obtain rfl : m = n := h _ hm
    cases sign with
    | ends channel accepted =>
      cases accepted with
      | true => exact ⟨channel, hm⟩
      | false => exact absurd rfl ht
    | begins => exact absurd rfl ht
    | closes => exact absurd rfl ht

theorem isSuccess_ofReport (r : Report) : (Outcome.ofReport r).isSuccess = true ↔
    r.succeeded ≠ [] := by
  unfold Outcome.ofReport
  by_cases h : r.succeeded = []
  · simp only [h, ne_eq, not_true_eq_false, if_false, iff_false]
    split
    · simp [Outcome.isSuccess]
    · split <;> simp [Outcome.isSuccess]
  · simp [h, Outcome.isSuccess]

theorem isSuccess_of_prepare {s : S} {o : Outcome} (h : Dispatcher.prepare n s = .error o) :
    o.isSuccess = false := by
  unfold Dispatcher.prepare at h
  split at h
  · cases h
    rfl
  · cases h
    rfl
  · cases h

section Steps

variable (disp : Dispatcher σ) (now : Instant) (l : KeyLock Unit Int)

theorem leads_attempt (hs : e.start now w.store = .inr n) (seen : List (Notification × Sign)) :
    let o := disp.attempt n e.ignoresFrequency w
    ∃ log, Leads disp now ⟨.starting e, l, w, seen⟩ ⟨.finishing e n o.1, l, o.2, seen ++ log⟩ ∧
      (∀ x ∈ log, x.1 = n) ∧ (o.1.isSuccess = true ↔ Delivery.Accepted n log) := by
  intro o
  cases hp : Dispatcher.prepare n w.store with
  | error failed =>
    have ho : o = (failed, w) := by simp only [o, Dispatcher.attempt, hp]
    rw [ho]
    refine ⟨[], Leads.head ?_, by simp, ?_⟩
    · simp only [step, Delivery.step, hs, hp, Delivery.seen?]
      exact Leads.refl _
    · simp [isSuccess_of_prepare hp, Delivery.Accepted]
  | ok p =>
    let f := disp.fanOut e.ignoresFrequency
    let visited := f.visitAll n p (f.candidates n) .empty w.outside
    have ho : o = (.ofReport visited.1, { w with outside := visited.2 }) := by
      simp only [o, Dispatcher.attempt, hp]
      rfl
    rw [ho]
    obtain ⟨log, hl, hn, hr⟩ :=
      leads_visitAll disp now l e f n p w.store (f.candidates n) .empty w.outside seen
    refine ⟨log, Leads.head ?_, hn, ?_⟩
    · simp only [step, Delivery.step, hs, hp, Delivery.seen?, Option.toList_none, List.append_nil]
      exact hl
    · rw [isSuccess_ofReport, accepted_iff hn, hr]
      rfl

theorem leads_perform (w : World S σ) (e : Errand S α) (seen : List (Notification × Sign)) :
    let r := disp.perform e now w
    ∃ log, Leads disp now ⟨.starting e, l, w, seen⟩ ⟨.leave e r.1, l, r.2, seen ++ log⟩ ∧
      e.Shows disp now w log := by
  intro r
  unfold Errand.Shows
  cases hs : e.start now w.store with
  | inl a =>
    have hr : r = (a, w) := by simp only [r, Dispatcher.perform, hs]
    refine ⟨[], Leads.head ?_, rfl⟩
    simp only [step, Delivery.step, hs, Delivery.seen?, hr]
    exact Leads.refl _
  | inr n =>
    obtain ⟨log, hl, hn, ho⟩ := leads_attempt disp now l hs seen
    refine ⟨log, hl.trans (Leads.head ?_), hn, ho⟩
    simp only [step, Delivery.step, Delivery.seen?, Option.toList_none, List.append_nil, r,
      Dispatcher.perform, hs]
    exact Leads.refl _

def held (key : Int) : KeyLock Unit Int := ⟨[(key, 0)], [⟨(), key, 0, .holding⟩], 1⟩

theorem leads_claim {key : Int} (hk : e.key = some key) (seen : List (Notification × Sign)) :
    Leads disp now ⟨.claiming e, .empty, w, seen⟩ ⟨.starting e, held key, w, seen⟩ := by
  have hf : KeyLock.fetch (.empty : KeyLock Unit Int) () key =
    ⟨[(key, 0)], [⟨(), key, 0, .waiting⟩], 1⟩ := rfl
  have he : KeyLock.enter? (⟨[(key, 0)], [⟨(), key, 0, .waiting⟩], 1⟩ : KeyLock Unit Int) () =
      some (held key) := rfl
  refine Leads.head (Leads.head ?_)
  simp only [step, Delivery.step, Delivery.seen?, hk, hf, he, Option.toList_none, List.append_nil]
  exact Leads.refl _

theorem leads_release (key : Int) (a : α) (seen : List (Notification × Sign)) :
    Leads disp now ⟨.releasing a, held key, w, seen⟩ ⟨.done a, ⟨[], [], 1⟩, w, seen⟩ := by
  have hr : (held key).release () = ⟨[(key, 0)], [⟨(), key, 0, .leaving⟩], 1⟩ := rfl
  have he : KeyLock.evict (⟨[(key, 0)], [⟨(), key, 0, .leaving⟩], 1⟩ : KeyLock Unit Int) () =
      ⟨[], [], 1⟩ := by
    simp [KeyLock.evict, KeyLock.isShared, Claim.isStanding]
  refine Leads.head (Leads.head ?_)
  simp only [step, Delivery.step, Delivery.seen?, hr, he, Option.toList_none, List.append_nil]
  exact Leads.refl _

end Steps

theorem ends_perform (disp : Dispatcher σ) (now : Instant) (w : World S σ) (e : Errand S α) :
    let r := disp.perform e now w
    ∃ log, (Delivery.ofErrand e).Ends disp now w r.1 r.2 log ∧ e.Shows disp now w log := by
  intro r
  cases hk : e.key with
  | none =>
    obtain ⟨log, hl, hs⟩ := leads_perform disp now .empty w e []
    refine ⟨log, ⟨.empty, ?_⟩, hs⟩
    simp only [Delivery.leave, hk] at hl
    simp only [begin, Delivery.ofErrand, hk]
    exact hl
  | some key =>
    obtain ⟨log, hl, hs⟩ := leads_perform disp now (held key) w e []
    refine ⟨log, ⟨⟨[], [], 1⟩, ?_⟩, hs⟩
    simp only [Delivery.leave, hk] at hl
    simp only [begin, Delivery.ofErrand, hk]
    exact ((leads_claim disp now hk []).trans hl).trans (leads_release disp now key r.1 log)

end Solo

end Herald
