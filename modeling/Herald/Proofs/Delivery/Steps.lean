import Herald.Proofs.Dispatcher.Errand
import Herald.Proofs.Delivery.Claims
/-!
One delivery among others: what an observer sees of its steps, and what it relies on between them. A
delivery that attempts a stored notification holds its key, and the record is as it was read.
-/

set_option autoImplicit false

namespace Herald

namespace Attempt

variable {σ : Type}

inductive Sign where
  | begins (channel : String)
  | ends (channel : String) (accepted : Bool)
  /-- All channels are visited. -/
  | closes
  deriving DecidableEq, Repr

def sign? (a : Attempt σ) (s : σ) : Option Sign :=
  match a.push with
  | some p =>
    match p.pauses with
    | _ + 1 => none
    | 0 => some (.ends p.channel.id (p.channel.finish a.notification p.dispatch s).1.isOk)
  | none =>
    match a.remaining with
    | [] => some .closes
    | c :: _ =>
      match a.fanOut.verdict a.notification a.preferences c with
      | .offer _ => some (.begins c.id)
      | _ => none

def Sign.taken : Option Sign → List String
  | some (.ends channel true) => [channel]
  | _ => []

def Sign.Shows : Option Sign → Option String → Option String → Prop
  | none, before, behind => before = behind
  | some (.begins channel), before, behind => before = none ∧ behind = some channel
  | some (.ends channel _), before, behind => before = some channel ∧ behind = none
  | some .closes, _, _ => False

def current? (a : Attempt σ) : Option String := a.push.map (·.channel.id)

def channels (a : Attempt σ) : List String :=
  a.report.succeeded ++ a.current?.toList ++ a.remaining.map (·.id)

/-- What a step makes of an attempt, and what is seen of it. -/
inductive Progress (a : Attempt σ) : Option Sign → Attempt σ ⊕ Outcome → Prop where
  | closed : Progress a (some .closes) (.inr (.ofReport a.report))
  | goesOn {sign : Option Sign} {b : Attempt σ} (same : b.notification = a.notification)
      (shown : Sign.Shows sign a.current? b.current?) (channels : b.channels.Sublist a.channels)
      (report : b.report.succeeded = a.report.succeeded ++ Sign.taken sign) :
      Progress a sign (.inl b)

end Attempt

@[simp] theorem Report.succeeded_addError (r : Report) (channel : String) (e : PushError) :
    (r.addError channel e).succeeded = r.succeeded := by
  unfold Report.addError
  split <;> rfl

theorem FanOut.succeeded_record {σ : Type} (f : FanOut σ) (n : Notification) (c : PushChannel σ)
    (answer : Except PushError Unit) (r : Report) (s : σ) :
    (f.record n c answer r s).1.succeeded =
      if answer.isOk then r.succeeded ++ [c.id] else r.succeeded := by
  cases answer with
  | ok _ => rfl
  | error e => exact Report.succeeded_addError r c.id e

namespace Attempt

variable {σ : Type} {a : Attempt σ} {s : σ}

theorem progress_conclude {p : Push σ} (hp : a.push = some p) :
    a.Progress (some (.ends p.channel.id (p.channel.finish a.notification p.dispatch s).1.isOk))
      (.inl (a.conclude p s).1) := by
  have hr : (a.conclude p s).1.report.succeeded =
      if (p.channel.finish a.notification p.dispatch s).1.isOk then
        a.report.succeeded ++ [p.channel.id] else a.report.succeeded :=
    a.fanOut.succeeded_record ..
  have hc : (a.conclude p s).1.channels =
      (a.conclude p s).1.report.succeeded ++ a.remaining.map (·.id) := by
    simp [channels, current?, conclude]
  have hs : a.current? = some p.channel.id ∧ (a.conclude p s).1.current? = none := by
    simp [current?, conclude, hp]
  cases ho : (p.channel.finish a.notification p.dispatch s).1.isOk with
  | true =>
    simp only [ho, if_true] at hr
    exact .goesOn rfl hs (by rw [hc, hr]; simp [channels, hs.1]) hr
  | false =>
    simp only [ho, Bool.false_eq_true, if_false] at hr
    exact .goesOn rfl hs (by rw [hc, hr]; simp [channels, hs.1]) (by simp [hr, Sign.taken])

theorem progress_visit {c : PushChannel σ} {cs : List (PushChannel σ)} (hp : a.push = none)
    (hc : a.remaining = c :: cs) :
    a.Progress (a.sign? s) (.inl ({ a with remaining := cs }.visit c s).1) := by
  have hn : a.current? = none := by simp [current?, hp]
  simp only [sign?, hp, hc, visit]
  cases a.fanOut.verdict a.notification a.preferences c with
  | offer d =>
    refine .goesOn rfl ⟨hn, rfl⟩ ?_ (List.append_nil _).symm
    simp [channels, hc, current?, hp]
  | refuse e =>
    have hr : (a.report.addError c.id e).succeeded = a.report.succeeded :=
      Report.succeeded_addError ..
    refine .goesOn rfl hn ?_ (hr.trans (List.append_nil _).symm)
    simp [channels, hc, current?, hp, FanOut.record]
  | unrendered e =>
    have hr : (a.report.addError c.id e).succeeded = a.report.succeeded :=
      Report.succeeded_addError ..
    refine .goesOn rfl hn ?_ (hr.trans (List.append_nil _).symm)
    simp [channels, hc, current?, hp]

theorem progress (a : Attempt σ) (s : σ) : a.Progress (a.sign? s) (a.step s).1 := by
  cases hp : a.push with
  | some p =>
    cases hn : p.pauses with
    | zero =>
      have h := progress_conclude (s := s) hp
      simpa only [step, sign?, hp, hn] using h
    | succ k =>
      simp only [step, sign?, hp, hn]
      refine .goesOn rfl ?_ ?_ (List.append_nil _).symm
      · simp [Sign.Shows, current?, hp]
      · simp [channels, current?, hp]
  | none =>
    cases hc : a.remaining with
    | nil =>
      simp only [step, sign?, hp, hc]
      exact .closed
    | cons c cs =>
      have h := progress_visit (s := s) hp hc
      simpa only [step, hp, hc] using h

theorem same_of_step {b : Attempt σ} {s' : σ} (h : a.step s = (.inl b, s')) :
    b.notification = a.notification ∧ b.channels.Sublist a.channels := by
  have hp := a.progress s
  rw [h] at hp
  generalize a.sign? s = sign at hp
  cases hp with
  | goesOn same _ channels => exact ⟨same, channels⟩

theorem nodup_channels_begin {f : FanOut σ} {n : Notification} {p : Preferences}
    (h : (f.channels.map (·.id)).Nodup) : (begin f n p).channels.Nodup := by
  simpa [channels, current?, begin, Report.empty] using h.sublist
    ((f.candidates_sublist n).map (·.id))

end Attempt

namespace Delivery

open Claim (Phase)

variable {σ α β τ : Type}

def Current (key : Option Int) (s : MemoryStore) (n : Notification) : Prop :=
  n.push.state = .queued ∧ match key with
    | some id => s.find? id = some n
    | none => n.id = none

/-- What a delivery relies on between two steps, with `c` for its claim. -/
def Fits (s : MemoryStore) (c : Option (Claim τ Int)) : Delivery MemoryStore σ α → Prop
  | .opening f => c = none ∧ ∀ now s, (f now s).2 = s ∧ ∀ e, (f now s).1 = .inr e → e.Careful
  | .claiming e => c = none ∧ e.Careful
  | .awaiting e => e.Careful ∧ e.key.isSome ∧ Stake e.key .waiting c
  | .starting e => e.Careful ∧ Stake e.key .holding c
  | .attempting e a =>
    e.Careful ∧ Stake e.key .holding c ∧ Current e.key s a.notification ∧ a.channels.Nodup
  | .finishing e n _ => e.Careful ∧ Stake e.key .holding c ∧ Current e.key s n
  | .releasing _ => ∃ key, Stake (some key) .holding c
  | .evicting _ => ∃ key, Stake (some key) .leaving c
  | .done _ => c = none

def Minds (s : MemoryStore) : Delivery MemoryStore σ α → Prop
  | .opening f => ∀ now s, (f now s).2 = s ∧ ∀ e, (f now s).1 = .inr e → e.Careful
  | .claiming e | .awaiting e | .starting e => e.Careful
  | .attempting e a => e.Careful ∧ Current e.key s a.notification
  | .finishing e n _ => e.Careful ∧ Current e.key s n
  | .releasing _ | .evicting _ | .done _ => True

def Distinct : Delivery MemoryStore σ α → Prop
  | .attempting _ a => a.channels.Nodup
  | _ => True

variable {s t : MemoryStore} {c : Option (Claim τ Int)} {e : Errand MemoryStore α} {id : Int}
  {n : Notification} {key : Option Int}

theorem Current.id_eq (h : Current key s n) : n.id = key := by
  obtain ⟨_, h⟩ := h
  cases key with
  | none => exact h
  | some id => exact MemoryStore.id_of_find? h

theorem Current.found (h : Current key s n) : ∀ id, key = some id → s.find? id = some n := by
  rintro id rfl
  exact h.2

theorem fits_iff {d : Delivery MemoryStore σ α} : d.Fits s c ↔
    d.Staked c ∧ d.Minds s ∧ d.Distinct := by
  cases d <;> simp only [Fits, Staked, Minds, Distinct] <;> grind

theorem minds_ofErrand (h : e.Careful) (s : MemoryStore) :
    (ofErrand e : Delivery MemoryStore σ α).Minds s := by
  unfold ofErrand
  split <;> exact h

theorem minds_leave (e : Errand MemoryStore α) (a : α) (s : MemoryStore) :
    (leave e a : Delivery MemoryStore σ α).Minds s := by
  unfold leave
  split <;> trivial

theorem fits_ofErrand (h : e.Careful) (s : MemoryStore) :
    (ofErrand e : Delivery MemoryStore σ α).Fits s (none : Option (Claim τ Int)) := by
  refine fits_iff.2 ⟨staked_ofErrand e, minds_ofErrand h s, ?_⟩
  unfold ofErrand
  split <;> trivial

/-- The store may change otherwise as long as the record stays whose key the delivery holds. -/
theorem Minds.frame {d : Delivery MemoryStore σ α} (h : d.Minds s) (hd : d.Staked c)
    (hs : ∀ id, Stake (some id) .holding c → ∀ r, s.find? id = some r → t.find? id = some r) :
    d.Minds t := by
  have hcur : ∀ key n, Stake key .holding c → Current key s n → Current key t n := by
    intro key n hk ⟨hq, hc⟩
    cases key with
    | none => exact ⟨hq, hc⟩
    | some id => exact ⟨hq, hs id hk n hc⟩
  cases d with
  | attempting e a => exact ⟨h.1, hcur _ _ hd h.2⟩
  | finishing e n o => exact ⟨h.1, hcur _ _ hd h.2⟩
  | opening | claiming | awaiting | starting | releasing | evicting | done => exact h

theorem Fits.frame {d : Delivery MemoryStore σ α} (h : d.Fits s c)
    (hs : ∀ id, Stake (some id) .holding c → ∀ r, s.find? id = some r → t.find? id = some r) :
    d.Fits t c := by
  obtain ⟨hd, hm, hn⟩ := fits_iff.1 h
  exact fits_iff.2 ⟨hd, hm.frame hd hs, hn⟩

section Steps

variable [DecidableEq τ] {disp : Dispatcher σ} {task : τ} {now : Instant} {l : KeyLock τ Int}
  {w : World MemoryStore σ} {d : Delivery MemoryStore σ α}

theorem store_step (disp : Dispatcher σ) (task : τ) (now : Instant) (l : KeyLock τ Int)
    (h : d.Minds w.store) : (d.step disp task now l w).2.2.store = w.store ∨
    ∃ e n o, d = .finishing e n o ∧
      Errand.Ending disp.config.retry now n o w.store e.key
        (d.step disp task now l w).2.2.store := by
  have hm := d.moved_step disp task now l w
  generalize d.step disp task now l w = r at hm ⊢
  cases hm with
  | answered found | opened found =>
    have hs := (h now w.store).1
    rw [found] at hs
    exact .inl hs
  | @finished e n o => exact .inr ⟨e, n, o, rfl, h.1.ending _ _ _ _ _ h.2.1 h.2.found⟩
  | _ => exact .inl rfl

theorem change_step (h : d.Minds w.store) :
    w.store.Change disp.config.retry (d.step disp task now l w).2.2.store := by
  rcases store_step disp task now l h with hs | ⟨e, n, o, rfl, hs⟩
  · rw [hs]
    exact .refl _ _
  · exact hs.change h.2.1 h.2.found

theorem minds_step (h : d.Minds w.store) :
    (d.step disp task now l w).1.Minds (d.step disp task now l w).2.2.store := by
  have hm := d.moved_step disp task now l w
  generalize d.step disp task now l w = r at hm ⊢
  -- the record is read again under the claim, and nobody else changes it from here on
  have current : ∀ {e : Errand MemoryStore α} {n : Notification}, e.Careful →
    e.start now w.store = .inr n →
      Current e.key w.store n := by
    intro e n he hn
    refine ⟨he.queued _ _ _ hn, ?_⟩
    split
    · next id hk => exact he.found _ _ _ _ hn hk
    · next hk => exact he.unnumbered _ _ _ hn hk
  cases hm with
  | opened found =>
    have hs := h now w.store
    rw [found] at hs
    exact minds_ofErrand (hs.2 _ rfl) _
  | fetched | unkeyed | entered | shut => exact h
  | spared | finished => exact minds_leave _ _ _
  | unprepared started | begun started => exact ⟨h, current h started⟩
  | visited stepped => exact ⟨h.1, (Attempt.same_of_step stepped).1 ▸ h.2⟩
  | closed => exact h
  | answered | released | evicted | idle => trivial

theorem distinct_step (hd : disp.channels.ids.Nodup) (h : d.Distinct) :
    (d.step disp task now l w).1.Distinct := by
  have hm := d.moved_step disp task now l w
  generalize d.step disp task now l w = r at hm ⊢
  cases hm with
  | opened =>
    simp only [ofErrand]
    split <;> trivial
  | spared | finished =>
    simp only [leave]
    split <;> trivial
  | begun =>
    refine Attempt.nodup_channels_begin ?_
    simpa [Dispatcher.fanOut, Roster.ids] using hd
  | visited stepped => exact List.Nodup.sublist (Attempt.same_of_step stepped).2 h
  | _ => trivial

theorem fits_step (hl : l.Sound) (hd : disp.channels.ids.Nodup)
    (h : d.Fits w.store (l.claim? task)) :
    (d.step disp task now l w).1.Fits (d.step disp task now l w).2.2.store
      ((d.step disp task now l w).2.1.claim? task) := by
  obtain ⟨hs, hm, hn⟩ := fits_iff.1 h
  exact fits_iff.2 ⟨staked_step hl hs, minds_step hm, distinct_step hd hn⟩

end Steps

end Delivery

end Herald
