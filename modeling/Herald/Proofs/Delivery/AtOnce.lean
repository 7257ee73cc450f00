import Herald.Proofs.Delivery.Alone
import Herald.Store.Table
/-!
Deliveries at once, each with nobody else about. Over a store in memory the answer, the pushes and
the store agree in every case; over a table not when a confirmation key is taken.
-/

set_option autoImplicit false

namespace Herald

open Errand (failure)

namespace MemoryStore

/-- The notification with which a delivery of `n` deals: itself, or the record of its number. -/
def Meant (s : MemoryStore) (n m : Notification) : Prop :=
  match n.id with
  | none => m = n
  | some id => s.find? id = some m

inductive Dispatched (p : RetryPolicy) (now : Instant) (s : MemoryStore) (n : Notification) :
    Option (Notification × Outcome) → Except Fault Notification → MemoryStore → Prop where
  | terminal (unsaved : n.id = none) (final : n.push.state.isTerminal = true) :
      Dispatched p now s n none (.error (.invalid (.terminal n.push.state))) s
  | missing {id : Int} (number : n.id = some id) (free : s.find? id = none) :
      Dispatched p now s n none (.error (.noNotification id)) s
  | pushed {id : Int} {m : Notification} (number : n.id = some id) (found : s.find? id = some m)
      (before : m.push.state = .pushed) : Dispatched p now s n none (.ok m) s
  | undeliverable {id : Int} {m : Notification} (number : n.id = some id)
    (found : s.find? id = some m) (before : m.push.state = .undeliverable) :
      Dispatched p now s n none (.error (.undelivered (.undeliverable m))) s
  | added {o : Outcome} (unsaved : n.id = none) (queued : n.push.state = .queued)
      (success : o.isSuccess = true) : Dispatched p now s n (some (n, o))
        (.ok { n.settled o p now with id := some s.nextId }) (s.append (n.settled o p now))
  | refused {o : Outcome} (unsaved : n.id = none) (queued : n.push.state = .queued)
      (failed : o.isSuccess = false) : Dispatched p now s n (some (n, o)) (.error (failure n o)) s
  | settled {id : Int} {m : Notification} {o : Outcome} (number : n.id = some id)
      (found : s.find? id = some m) (queued : m.push.state = .queued)
      (success : o.isSuccess = true) :
      Dispatched p now s n (some (m, o)) (.ok (m.settled o p now))
        (s.replace id (m.settled o p now))
  | dropped {id : Int} {m : Notification} {o : Outcome} (number : n.id = some id)
      (found : s.find? id = some m) (queued : m.push.state = .queued)
      (failed : o.isSuccess = false) :
      Dispatched p now s n (some (m, o)) (.error (failure m o)) (s.erase id)

namespace Dispatched

variable {p : RetryPolicy} {now : Instant} {s t : MemoryStore} {n : Notification}
  {tried : Option (Notification × Outcome)} {r : Except Fault Notification} {id : Int}

theorem stored_of_ok {m : Notification} (h : Dispatched p now s n tried (.ok m) t) :
    ∃ id, m.id = some id ∧ t.find? id = some m ∧ m.push.state = .pushed ∧
      (n.id = none → s.find? id = none) ∧
      ((∃ x o, tried = some (x, o) ∧ o.isSuccess = true ∧ s.Meant n x) ∨
        n.id = some id ∧ s.find? id = some m ∧ tried = none) := by
  cases h with
  | @pushed id m number found before =>
    exact ⟨id, id_of_find? found, found, before, by simp [number], .inr ⟨number, found, rfl⟩⟩
  | @added o unsaved queued success =>
    have hp := Notification.push_settled_of_success success n p now
    refine ⟨s.nextId, rfl, by simp, by simp only [hp], fun _ => s.find?_nextId,
      .inl ⟨n, o, rfl, success, ?_⟩⟩
    simp only [Meant, unsaved]
  | @settled id x o number found queued success =>
    have hp := Notification.push_settled_of_success success x p now
    have hid : (x.settled o p now).id = some id := Notification.id_settled.trans (id_of_find? found)
    refine ⟨id, hid, find?_replace_self found Notification.id_settled, by rw [hp], by simp [number],
      .inl ⟨x, o, rfl, success, ?_⟩⟩
    simp only [Meant, number, found]

theorem gone_of_error {f : Fault} (h : Dispatched p now s n tried (.error f) t) :
    (∀ x o, tried = some (x, o) → o.isSuccess = false) ∧ (n.id = none → t = s) ∧
      ∀ id m, n.id = some id → s.find? id = some m →
        (m.push.state = .queued → t.find? id = none) ∧
        (m.push.state = .undeliverable → t = s ∧ tried = none) := by
  cases h with
  | terminal unsaved final => simp [unsaved]
  | missing number free =>
    refine ⟨by simp, fun _ => rfl, fun id m hid hm => ?_⟩
    rw [number] at hid
    cases hid
    rw [free] at hm
    cases hm
  | undeliverable number found before =>
    refine ⟨by simp, fun _ => rfl, fun id m hid hm => ⟨fun hq => ?_, fun _ => ⟨rfl, rfl⟩⟩⟩
    rw [number] at hid
    cases hid
    rw [found] at hm
    cases hm
    rw [before] at hq
    cases hq
  | refused unsaved queued failed =>
    refine ⟨?_, fun _ => rfl, by simp [unsaved]⟩
    rintro _ _ ⟨⟩
    exact failed
  | dropped number found queued failed =>
    refine ⟨?_, by simp [number], fun id m hid hm => ?_⟩
    · rintro _ _ ⟨⟩
      exact failed
    · rw [number] at hid
      cases hid
      rw [found] at hm
      cases hm
      exact ⟨fun _ => by simp, fun hu => by simp [queued] at hu⟩

theorem find?_eq (h : Dispatched p now s n tried r t) (hn : n.id ≠ some id)
    (hr : ∀ m, r = .ok m → m.id ≠ some id) : t.find? id = s.find? id := by
  cases h with
  | added =>
    have hne : id ≠ s.nextId := fun he => hr _ rfl (he ▸ rfl)
    rw [find?_append, if_neg hne]
  | settled number =>
    have hne : ¬ id = _ := fun he => hn (he ▸ number)
    rw [find?_replace, if_neg hne]
  | dropped number =>
    have hne : ¬ id = _ := fun he => hn (he ▸ number)
    rw [find?_erase, if_neg hne]
  | terminal | missing | pushed | undeliverable | refused => rfl

theorem untried (h : Dispatched p now s n tried r t)
    (hn : (∃ id, n.id = some id ∧ s.find? id = none) ∨ n.id = none ∧
      n.push.state.isTerminal = true) :
    tried = none := by
  cases h with
  | terminal | missing | pushed | undeliverable => rfl
  | added unsaved queued | refused unsaved queued =>
    simp [unsaved, queued, PushState.isTerminal] at hn
  | settled number found | dropped number found => simp [number, found] at hn

end Dispatched

end MemoryStore

open MemoryStore (Dispatched)

variable {σ : Type}

theorem Errand.dispatched_fresh {p : RetryPolicy} {now : Instant} {s : MemoryStore}
    {n m : Notification}
    (unsaved : n.id = none) (h : (fresh n : Errand MemoryStore _).start now s = .inr m)
    (o : Outcome) :
    Dispatched p now s n (some (m, o)) ((fresh n : Errand MemoryStore _).finish p now m o s).1
      ((fresh n : Errand MemoryStore _).finish p now m o s).2 := by
  obtain ⟨rfl, queued⟩ := start_fresh_eq_inr.1 h
  rw [finish_fresh queued]
  cases ho : o.isSuccess with
  | true => exact .added unsaved queued ho
  | false => exact .refused unsaved queued ho

theorem Errand.dispatched_stored {p : RetryPolicy} {now : Instant} {s : MemoryStore}
    {n m : Notification} {id : Int} (number : n.id = some id)
    (h : (stored id : Errand MemoryStore _).start now s = .inr m)
    (o : Outcome) :
    Dispatched p now s n (some (m, o)) ((stored id : Errand MemoryStore _).finish p now m o s).1
      ((stored id : Errand MemoryStore _).finish p now m o s).2 := by
  obtain ⟨found, queued⟩ := start_stored_eq_inr.1 h
  rw [finish_stored found queued]
  cases ho : o.isSuccess with
  | true => exact .settled number found queued ho
  | false => exact .dropped number found queued ho

theorem Errand.dispatched_of_inl {p : RetryPolicy} {now : Instant} {s : MemoryStore}
    {n : Notification}
    {r : Except Fault Notification} (h : (dispatch n : Errand MemoryStore _).start now s = .inl r) :
    Dispatched p now s n none r s := by
  cases hid : n.id with
  | none =>
    simp only [dispatch, hid] at h
    obtain ⟨rfl, final⟩ := start_fresh_eq_inl.1 h
    exact .terminal hid final
  | some id =>
    simp only [dispatch, hid, stored, Store.get] at h
    cases hf : s.find? id with
    | none =>
      rw [hf] at h
      cases h
      exact .missing hid hf
    | some m =>
      simp only [hf] at h
      cases hm : m.push.state with
      | pushed =>
        simp only [hm] at h
        cases h
        exact .pushed hid hf hm
      | undeliverable =>
        simp only [hm] at h
        cases h
        exact .undeliverable hid hf hm
      | queued =>
        simp only [hm] at h
        cases h

namespace Delivery

theorem ends_dispatchNow (disp : Dispatcher σ) (now : Instant) (w : World MemoryStore σ)
    (n : Notification) :
    ∃ tried r w' log, (dispatchNow n).Ends disp now w r w' log ∧
      Dispatched disp.config.retry now w.store n tried r w'.store ∧ (tried = none → log = []) ∧
      ∀ m o, tried = some (m, o) → (∀ x ∈ log, x.1 = m) ∧
        (o.isSuccess = true ↔ Accepted m log) := by
  let e : Errand MemoryStore (Except Fault Notification) := .dispatch n
  obtain ⟨log, hends, hlog⟩ := Solo.ends_perform disp now w e
  rcases disp.perform_cases e now w with ⟨r, hs, hp⟩ | ⟨m, hs, hr, hw⟩
  · simp only [Errand.Shows, hs] at hlog
    rw [hp] at hends
    exact ⟨none, r, w, log, hends, Errand.dispatched_of_inl hs, fun _ => hlog, by simp⟩
  · simp only [Errand.Shows, hs] at hlog
    refine ⟨some (m, (disp.attempt m e.ignoresFrequency w).1), _, _, log, hends, ?_, by simp, ?_⟩
    · rw [hr, hw]
      cases hid : n.id with
      | none =>
        have he : e = .fresh n := by simp only [e, Errand.dispatch, hid]
        rw [he] at hs ⊢
        exact Errand.dispatched_fresh hid hs _
      | some id =>
        have he : e = .stored id := by simp only [e, Errand.dispatch, hid]
        rw [he] at hs ⊢
        exact Errand.dispatched_stored hid hs _
    · rintro _ _ ⟨⟩
      exact hlog

/-- A call that returns a notification has stored just that as pushed: some channel took it, or it
was so before and nobody was asked. One that fails was taken by no channel, leaves nothing new in
the store and nothing queued under its number. Other records stay, and of a notification with a
number only that counts. -/
theorem all_or_nothing (disp : Dispatcher σ) (now : Instant) (w : World MemoryStore σ)
    (n : Notification) :
    ∃ r w' log, (dispatchNow n).Ends disp now w r w' log ∧
      (∀ m, r = .ok m → ∃ id, m.id = some id ∧ w'.store.find? id = some m ∧ m.push.state = .pushed ∧
        (n.id = none → w.store.find? id = none) ∧
        ((∃ x, w.store.Meant n x ∧ Accepted x log) ∨
          n.id = some id ∧ w.store.find? id = some m ∧ log = [])) ∧
      (∀ f, r = .error f → (∀ x, ¬ Accepted x log) ∧ (n.id = none → w'.store = w.store) ∧
        ∀ id m, n.id = some id → w.store.find? id = some m →
          (m.push.state = .queued → w'.store.find? id = none) ∧
          (m.push.state = .undeliverable → w'.store = w.store ∧ log = [])) ∧
      (∀ id, n.id ≠ some id → (∀ m, r = .ok m → m.id ≠ some id) →
        w'.store.find? id = w.store.find? id) ∧
      ((∃ id, n.id = some id ∧ w.store.find? id = none) ∨ n.id = none ∧
        n.push.state.isTerminal = true → log = []) ∧
      (∀ m, n.id.isSome = true → m.id = n.id → (dispatchNow m).Ends disp now w r w' log) := by
  obtain ⟨tried, r, w', log, hends, hd, hnone, hsome⟩ := ends_dispatchNow disp now w n
  refine ⟨r, w', log, hends, ?ok, ?error, fun id => hd.find?_eq,
    fun h => hnone (hd.untried h), ?same⟩
  case ok =>
    rintro m rfl
    obtain ⟨id, hid, hm, hp, hnew, ⟨x, o, ht, ho, hx⟩ | ⟨hn, hf, ht⟩⟩ := hd.stored_of_ok
    · exact ⟨id, hid, hm, hp, hnew, .inl ⟨x, hx, (hsome x o ht).2.1 ho⟩⟩
    · exact ⟨id, hid, hm, hp, hnew, .inr ⟨hn, hf, hnone ht⟩⟩
  case error =>
    rintro f rfl
    obtain ⟨hfail, hkeep, hgone⟩ := hd.gone_of_error
    refine ⟨?_, hkeep, fun id m hid hm => ?_⟩
    · cases ht : tried with
      | none =>
        rw [hnone ht]
        exact not_accepted_nil
      | some mo =>
        obtain ⟨hof, ho⟩ := hsome mo.1 mo.2 ht
        refine not_accepted hof fun hacc => ?_
        have hfalse := hfail mo.1 mo.2 ht
        rw [ho.2 hacc] at hfalse
        cases hfalse
    · obtain ⟨hq, hu⟩ := hgone id m hid hm
      exact ⟨hq, fun h => ⟨(hu h).1, hnone (hu h).2⟩⟩
  case same =>
    intro m hn hm
    obtain ⟨id, hid⟩ := Option.isSome_iff_exists.1 hn
    have he : (dispatchNow m : Delivery MemoryStore σ _) = dispatchNow n := by
      simp only [dispatchNow, Errand.dispatch, hm, hid]
    rw [he]
    exact hends

theorem all_or_nothing_of_two :
    let post : PushChannel Unit := .immediate "post" (fun _ => true) (fun _ => true) (some {})
      fun n _ _ => (if n.user = "ann" then .ok () else .error (.rejected "no"), ())
    let d : Dispatcher Unit :=
      ⟨Roster.enlist .empty post, fun _ _ _ => .ok ⟨⟨.text, "", ""⟩, .empty⟩, .empty, {}⟩
    let ann : Notification := .create "ann" "news" .epoch
    let bob : Notification := { Notification.create "bob" "news" .epoch with id := some 1 }
    let s : MemoryStore := (MemoryStore.empty.append bob).setPreferences
      (.ofList [("ann", { user := "ann" }), ("bob", { user := "bob" })])
    let pushed : Notification := { ann with id := some 2, push := ⟨.pushed, .epoch, 0, none⟩ }
    (∃ w' log, (dispatchNow ann).Ends d .epoch ⟨s, ()⟩ (.ok pushed) w' log ∧
      w'.store.find? 2 = some pushed ∧ w'.store.find? 1 = some bob ∧ ∃ x, Accepted x log) ∧
    (∃ f w' log, (dispatchNow bob).Ends d .epoch ⟨s, ()⟩ (.error f) w' log ∧
      w'.store.find? 1 = none ∧ ∀ x, ¬ Accepted x log) := by
  intro post d ann bob s pushed
  have hbob : s.find? 1 = some bob := by decide +kernel
  constructor
  · obtain ⟨r, w', log, hends, hok, _, hothers, _⟩ := all_or_nothing d .epoch ⟨s, ()⟩ ann
    obtain ⟨_, hp, _⟩ := Solo.ends_perform d .epoch ⟨s, ()⟩ (.dispatch ann)
    obtain rfl : r = .ok pushed := by
      rw [(hends.unique hp).1]
      decide +kernel
    obtain ⟨id, hid, hf, _, _, ⟨x, _, hx⟩ | ⟨hn, _⟩⟩ := hok pushed rfl
    · cases hid
      have hone := (hothers 1 (by decide) (by rintro m ⟨⟩; decide)).trans hbob
      exact ⟨w', log, hends, hf, hone, x, hx⟩
    · cases hn
  · obtain ⟨r, w', log, hends, _, herror, _⟩ := all_or_nothing d .epoch ⟨s, ()⟩ bob
    obtain ⟨_, hp, _⟩ := Solo.ends_perform d .epoch ⟨s, ()⟩ (.dispatch bob)
    have hr :
        r = .error (.undelivered (.failed .persistentError bob (some "post: rejected: no"))) := by
      rw [(hends.unique hp).1]
      decide +kernel
    subst hr
    obtain ⟨hno, _, hgone⟩ := herror _ rfl
    exact ⟨_, w', log, hends, (hgone 1 bob rfl hbob).1 rfl, hno⟩

end Delivery

namespace Table

def HasKeyOf (t : Table) (n : Notification) : Prop :=
  ∃ c, n.confirmation = some c ∧ ∃ row ∈ t.rows, row.confirmationKey = some c.key

theorem isKeyTaken_nextId {t : Table} {n : Notification} :
    t.isKeyTaken t.nextId (n.confirmation.map (·.key)) = true ↔ t.HasKeyOf n := by
  cases hc : n.confirmation with
  | none => simp [isKeyTaken, HasKeyOf, hc]
  | some c =>
    simp only [Option.map_some, isKeyTaken, HasKeyOf, hc, Option.some.injEq, exists_eq_left',
      List.any_eq_true, Bool.and_eq_true, bne_iff_ne, beq_iff_eq]
    exact ⟨fun ⟨row, hm, _, hk⟩ => ⟨row, hm, hk⟩,
      fun ⟨row, hm, hk⟩ => ⟨row, hm, Int.ne_of_lt (id_lt_nextId hm), hk⟩⟩

theorem saved_of_taken [Objections] {t : Table} {n : Notification} (h : t.HasKeyOf n) :
    Store.saved n t = (.error (.database .uniqueViolation), t) := by
  have hk : t.isKeyTaken t.nextId (Row.ofNotification t.nextId n).confirmationKey = true :=
    isKeyTaken_nextId.2 h
  simp only [Store.saved, Store.save, insert, hk, if_true]

theorem saved_of_free [Objections] {t : Table} {n : Notification} (h : ¬ t.HasKeyOf n) :
    Store.saved n t = (.ok { n with id := some t.nextId },
      t.append (.ofNotification t.nextId n)) := by
  have hk : ¬ t.isKeyTaken t.nextId (Row.ofNotification t.nextId n).confirmationKey = true :=
    fun hk => h (isKeyTaken_nextId.1 hk)
  simp only [Store.saved, Store.save, insert, if_neg hk]

end Table

namespace Delivery

/-- A call that fails for a notification without a number leaves the table as it was, and no channel
took the notification: unless a row has its confirmation key, which comes out only after it was
taken. -/
theorem unsent_unless_taken [Objections] (disp : Dispatcher σ) (now : Instant) (w : World Table σ)
    {n : Notification} (unsaved : n.id = none) :
    ∃ r w' log, (dispatchNow n).Ends disp now w r w' log ∧
      (∀ f, r = .error f → w'.store = w.store ∧ ((∀ x, ¬ Accepted x log) ∨
        f = .database .uniqueViolation ∧ w.store.HasKeyOf n ∧ Accepted n log)) ∧
      (∀ m, r = .ok m → m.id = some w.store.nextId ∧ m.push.state = .pushed ∧
        w'.store = w.store.append (.ofNotification w.store.nextId m) ∧ ¬ w.store.HasKeyOf n ∧
        Accepted n log) := by
  let e : Errand Table (Except Fault Notification) := .fresh n
  have he : (dispatchNow n : Delivery Table σ _) = ofErrand e := by
    simp only [dispatchNow, Errand.dispatch, unsaved, e]
  obtain ⟨log, hends, hlog⟩ := Solo.ends_perform disp now w e
  refine ⟨_, _, log, he ▸ hends, ?_⟩
  rcases disp.perform_cases e now w with ⟨r, hs, hp⟩ | ⟨m, hs, hr, hw⟩
  · obtain ⟨rfl, _⟩ := Errand.start_fresh_eq_inl.1 hs
    simp only [Errand.Shows, hs] at hlog
    subst hlog
    rw [hp]
    exact ⟨fun f _ => ⟨rfl, .inl not_accepted_nil⟩, fun m hm => by cases hm⟩
  · obtain ⟨rfl, queued⟩ := Errand.start_fresh_eq_inr.1 hs
    simp only [Errand.Shows, hs] at hlog
    obtain ⟨hof, hacc⟩ := hlog
    rw [hr, hw, Errand.finish_fresh_eq _ queued]
    cases ho : (disp.attempt m e.ignoresFrequency w).1.isSuccess with
    | false =>
      have hno : ¬ Accepted m log := by
        rw [← hacc, ho]
        decide
      exact ⟨fun f _ => ⟨rfl, .inl (not_accepted hof hno)⟩, fun x hx => by cases hx⟩
    | true =>
      let settled := m.settled (disp.attempt m e.ignoresFrequency w).1 disp.config.retry now
      have hkey : w.store.HasKeyOf settled ↔ w.store.HasKeyOf m := Iff.rfl
      by_cases taken : w.store.HasKeyOf m
      · rw [if_pos rfl, Table.saved_of_taken (hkey.2 taken)]
        refine ⟨?_, fun x hx => by cases hx⟩
        rintro _ ⟨⟩
        exact ⟨rfl, .inr ⟨rfl, taken, hacc.1 ho⟩⟩
      · rw [if_pos rfl, Table.saved_of_free (mt hkey.1 taken)]
        refine ⟨fun f hf => by (cases hf), ?_⟩
        rintro _ ⟨⟩
        have hp := Notification.push_settled_of_success ho m disp.config.retry now
        exact ⟨rfl, congrArg PushStatus.state hp, rfl, taken, hacc.1 ho⟩

theorem unsent_unless_taken_of_two :
    let post : PushChannel Unit := .immediate "post" (fun _ => true) (fun _ => true) (some {})
      fun n _ _ => (if n.user = "bob" then .error (.rejected "no") else .ok (), ())
    let d : Dispatcher Unit :=
      ⟨Roster.enlist .empty post, fun _ _ _ => .ok ⟨⟨.text, "", ""⟩, .empty⟩, .empty, {}⟩
    let ann : Notification :=
      { Notification.create "ann" "news" .epoch with confirmation := some ⟨"free", .epoch⟩ }
    let bob : Notification := .create "bob" "news" .epoch
    let old : Notification := { bob with confirmation := some ⟨"taken", .epoch⟩ }
    let t : Table := (Table.empty.append (.ofNotification 1 old)).setPreferences
      (.ofList [("ann", .ofPreferences { user := "ann" }),
        ("bob", .ofPreferences { user := "bob" })])
    (∃ m w' log, (dispatchNow ann).Ends d .epoch ⟨t, ()⟩ (.ok m) w' log ∧ m.id = some 2 ∧
      w'.store.rows.length = 2 ∧ Accepted ann log) ∧
    (∃ f w' log, (dispatchNow bob).Ends d .epoch ⟨t, ()⟩ (.error f) w' log ∧ w'.store = t ∧
      ∀ x, ¬ Accepted x log) := by
  intro post d ann bob old t
  have hno : ¬ t.HasKeyOf bob := by
    rintro ⟨c, hc, _⟩
    cases hc
  constructor
  · obtain ⟨r, w', log, hends, _, hok⟩ := unsent_unless_taken d .epoch ⟨t, ()⟩ (n := ann) rfl
    obtain ⟨_, hp, _⟩ := Solo.ends_perform d .epoch ⟨t, ()⟩ (.dispatch ann)
    have hr : r = .ok { ann with id := some 2, push := ⟨.pushed, .epoch, 0, none⟩ } := by
      rw [(hends.unique hp).1]
      decide +kernel
    obtain ⟨hid, _, hw, _, hacc⟩ := hok _ hr
    exact ⟨_, w', log, hr ▸ hends, hid, by rw [hw]; rfl, hacc⟩
  · obtain ⟨r, w', log, hends, herror, _⟩ := unsent_unless_taken d .epoch ⟨t, ()⟩ (n := bob) rfl
    obtain ⟨_, hp, _⟩ := Solo.ends_perform d .epoch ⟨t, ()⟩ (.dispatch bob)
    have hr :
        r = .error (.undelivered (.failed .persistentError bob (some "post: rejected: no"))) := by
      rw [(hends.unique hp).1]
      decide +kernel
    obtain ⟨hw, hnone | ⟨_, taken, _⟩⟩ := herror _ hr
    · exact ⟨_, w', log, hr ▸ hends, hw, hnone⟩
    · exact absurd taken hno

/-- A channel takes it, and then its key turns out to be taken. -/
theorem sent_though_refused :
    let post : PushChannel Unit :=
      .immediate "post" (fun _ => true) (fun _ => true) (some {}) fun _ _ _ => (.ok (), ())
    let d : Dispatcher Unit :=
      ⟨Roster.enlist .empty post, fun _ _ _ => .ok ⟨⟨.text, "", ""⟩, .empty⟩, .empty, {}⟩
    let ann : Notification :=
      { Notification.create "ann" "news" .epoch with confirmation := some ⟨"taken", .epoch⟩ }
    let t : Table := (Table.empty.append (.ofNotification 1 ann)).setPreferences
      (.ofList [("ann", .ofPreferences { user := "ann" })])
    ∃ w' log, (dispatchNow ann).Ends d .epoch ⟨t, ()⟩ (.error (.database .uniqueViolation)) w' log ∧
      ann.push.state = .queued ∧ Accepted ann log := by
  intro post d ann t
  obtain ⟨log, hends, hlog⟩ := Solo.ends_perform d .epoch ⟨t, ()⟩ (.dispatch ann)
  have hr : (d.perform (.dispatch ann) .epoch ⟨t, ()⟩).1 = .error (.database .uniqueViolation) := by
    decide +kernel
  have hsent : (d.attempt ann true ⟨t, ()⟩).1.isSuccess = true := by decide +kernel
  exact ⟨_, log, hr ▸ hends, rfl, hlog.2.1 hsent⟩

end Delivery

end Herald
