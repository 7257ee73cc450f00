import Herald.Proofs.Store.Healing
import Herald.Proofs.Delivery.Waiting
import Herald.Proofs.Delivery.Alone
/-!
When the head of a table is due. The table compares whole milliseconds and the dispatcher the
instants that they are read as, and the two find the same, whatever number is stored for a date. So
a call that is alone with the table attempts what the table gives it, and does not pass it over only
to be given it again.
-/

set_option autoImplicit false

namespace Herald

namespace Instant

variable {t now : Instant}

theorem toMillis_eq_div (t : Instant) : t.toMillis = t.toNanos / 1000000 := by
  simp only [toMillis, toNanos]
  omega

theorem first_le_toNanos (t : Instant) : first.toNanos ≤ t.toNanos := by
  have h := t.min_le
  simp only [toNanos, first]
  omega

/-- Whatever the number, the nearer end of the range of years stands for what is outside of it. -/
theorem toNanos_ofMillis (d : Int) :
    (ofMillis d).toNanos = max first.toNanos (min (d * 1000000) last.toNanos) := by
  by_cases h : first.toNanos ≤ d * 1000000
  · have hl : first.toNanos ≤ last.toNanos := first_le_toNanos last
    rw [ofMillis, toNanos_ofNanos h]
    omega
  · have hs : d * 1000000 / 1000000000 < minSecs := by
      simp only [toNanos, first] at h
      omega
    rw [ofMillis, ofNanos, dif_pos hs]
    omega

theorem plain_ofMillis (d : Int) : (ofMillis d).Plain := plain_ofNanos _

theorem ofMillis_le_iff (plain : now.Plain) (before : now < last) (d : Int) :
    ofMillis d ≤ now ↔ d ≤ now.toMillis := by
  have hf := first_le_toNanos now
  have hl : ¬ last.toNanos ≤ now.toNanos := fun h =>
    not_le.2 before ((le_iff_toNanos (by decide) plain).2 h)
  rw [le_iff_toNanos (plain_ofMillis d) plain, toNanos_ofMillis, toMillis_eq_div]
  omega

theorem ofMillis_mono {d e : Int} (h : d ≤ e) : ofMillis d ≤ ofMillis e := by
  rw [le_iff_toNanos (plain_ofMillis d) (plain_ofMillis e), toNanos_ofMillis, toNanos_ofMillis]
  omega

theorem toMillis_ofMillis {d : Int} (h : first.toMillis ≤ d) (h' : d ≤ last.toMillis) :
    (ofMillis d).toMillis = d := by
  rw [toMillis_eq_div] at h h' ⊢
  rw [toNanos_ofMillis]
  omega

/-- Whole milliseconds and instants tell the same time. -/
structure Attuned (now : Instant) : Prop where
  due : ∀ d : Int, d ≤ now.toMillis ↔ ofMillis d ≤ now
  mono : ∀ d e : Int, d ≤ e → ofMillis d ≤ ofMillis e
  number : ∀ d : Int, first.toMillis ≤ d → d ≤ last.toMillis → (ofMillis d).toMillis = d
  whole : ∀ t : Instant, t.IsMillis → ofMillis t.toMillis = t
  below : ∀ t : Instant, t.Plain → ofMillis t.toMillis ≤ t ∧
    t.toNanos - (ofMillis t.toMillis).toNanos < 1000000

theorem attuned (plain : now.Plain) (before : now < last) : now.Attuned where
  due d := (ofMillis_le_iff plain before d).symm
  mono _ _ := ofMillis_mono
  number _ := toMillis_ofMillis
  whole _ := ofMillis_toMillis
  below t h := by
    have ht : (ofMillis t.toMillis).toNanos = t.toNanos / 1000000 * 1000000 := toNanos_truncated h
    rw [le_iff_toNanos (plain_ofMillis _) h, ht]
    omega

end Instant

theorem Processing.map_some_ne_skipped {r : Except Fault Processing} (h : r ≠ .ok .skipped) :
    r.map some ≠ .ok (some .skipped) := by
  cases r with
  | error f => nofun
  | ok p =>
    intro hp
    cases hp
    exact h rfl

namespace Errand

variable {S : Type} [Store S]

theorem finish_queued_ne_skipped (id : Int) (p : RetryPolicy) (now : Instant)
    (n : Notification) (o : Outcome)
    (s : S) : ((queued id).finish p now n o s).1 ≠ .ok .skipped := by
  simp only [queued]
  cases n.recordAttempt o p now with
  | error f => simp
  | ok m =>
    cases hu : Store.update m s with
    | mk a t => cases a <;> simp [hu]

end Errand

namespace Table

variable {t t' : Table} {now : Instant} {n : Notification} {r : Row}

theorem find?_of_mem (h : r ∈ t.rows) : t.find? r.id = some r := by
  cases hf : t.find? r.id with
  | none => simpa using List.find?_eq_none.1 hf r h
  | some b =>
    have hid : b.id = r.id := by simpa using List.find?_some hf
    rw [eq_of_id (List.mem_of_find?_eq_some hf) h hid]

/-- What is given out next is read from a row that is due, and that stays. -/
theorem mem_of_getNext [Objections] (h : Store.getNext now t = (.ok (some n), t')) :
    ∃ r ∈ t'.rows, r.isDue now.toMillis ∧ r.notification = .ok n := by
  obtain ⟨first, healed, -⟩ := t.healed_next now.toMillis
  simp only [Store.getNext, Prod.mk.injEq, Except.ok.injEq] at h
  rw [h.1, h.2] at healed
  obtain ⟨r, rfl, hr⟩ := Option.map_eq_some_iff.1 healed.reads
  obtain ⟨hm, hd⟩ := List.mem_filter.1 healed.isFirst.1
  have hno : ¬ InFront now.toMillis (some r) r := fun h => h.2.1 healed.isFirst.2.1
  refine ⟨r, ?_, hd, hr⟩
  rw [healed.rows]
  exact List.mem_map.2 ⟨r, hm, if_neg hno⟩

theorem start_of_getNext [Objections] (plain : now.Plain) (before : now < .last)
    (h : Store.getNext now t = (.ok (some n), t')) :
    ∃ id, n.id = some id ∧ ∀ later, now ≤ later → (Errand.queued id).start later t' = .inr n := by
  obtain ⟨r, hm, hd, hr⟩ := mem_of_getNext h
  obtain ⟨hid, hstate, hdate⟩ := Row.columns_of_notification hr
  obtain ⟨hq, hle⟩ : r.pushState = .queued ∧
    r.pushDate ≤ now.toMillis := by simpa [Row.isDue] using hd
  refine ⟨r.id, hid, fun later hl => ?_⟩
  have hg : (Store.get r.id t' : Except Fault _) = .ok (some n) :=
    get_eq_some.2 ⟨r, find?_of_mem hm, hr⟩
  have hdue : n.push.date ≤ later := by
    rw [hdate]
    exact Instant.le_trans ((Instant.ofMillis_le_iff plain before _).2 hle) hl
  have hn : n.isDue later = true := by simp [Notification.isDue, hstate, hq, hdue]
  simp only [Errand.queued, hg, hn, if_true]

end Table

namespace Delivery

variable {S σ τ : Type} [Store S]

def Serves (now : Instant) (s : S) : Delivery S σ (Except Fault (Option Processing)) → Prop
  | .opening _ => False
  | .claiming e | .awaiting e | .starting e =>
    ∃ id n, e = (Errand.queued id).map (·.map some) ∧
      ∀ later, now ≤ later → (Errand.queued (S := S) id).start later s = .inr n
  | .attempting e _ | .finishing e _ _ => ∃ id, e = (Errand.queued id).map (·.map some)
  | .releasing a | .evicting a | .done a => a ≠ .ok (some .skipped)

theorem serves_leave {e : Errand S (Except Fault (Option Processing))}
    {a : Except Fault (Option Processing)} (h : a ≠ .ok (some .skipped)) (now : Instant) (s : S) :
    (leave e a : Delivery S σ (Except Fault (Option Processing))).Serves now s := by
  unfold leave
  split <;> exact h

theorem answer?_of_serves {d : Delivery S σ (Except Fault (Option Processing))}
    {now : Instant} {s : S} (h : d.Serves now s) : d.answer? ≠ some (.ok (some .skipped)) := by
  cases d with
  | done a => exact fun ha => h (Option.some.inj ha)
  | _ => nofun

variable [DecidableEq τ] {disp : Dispatcher σ} {task : τ} {now later : Instant} {l : KeyLock τ Int}
  {w : World S σ} {d : Delivery S σ (Except Fault (Option Processing))}

theorem serves_step (hl : now ≤ later) (h : d.Serves now w.store) :
    (d.step disp task later l w).1.Serves now (d.step disp task later l w).2.2.store := by
  have hm := d.moved_step disp task later l w
  generalize d.step disp task later l w = r at hm ⊢
  cases hm with
  | answered | opened => exact h.elim
  | fetched | unkeyed | entered | shut => exact h
  | spared spared =>
    -- nobody else wrote to the store since, and it is not earlier now
    obtain ⟨id, n, rfl, hs⟩ := h
    simp [Errand.map, hs later hl] at spared
  | unprepared | begun =>
    obtain ⟨id, n, he, -⟩ := h
    exact ⟨id, he⟩
  | visited | closed => exact h
  | @finished e n o =>
    obtain ⟨id, rfl⟩ := h
    refine serves_leave (e := (Errand.queued id).map (·.map some)) ?_ now _
    exact Processing.map_some_ne_skipped (Errand.finish_queued_ne_skipped id _ _ _ _ _)
  | released | evicted | idle => exact h

theorem serves_processNext [Objections] (plain : now.Plain) (before : now < .last)
    (disp : Dispatcher σ) (task : τ) (l : KeyLock τ Int) (w : World Table σ) :
    let d : Delivery Table σ (Except Fault (Option Processing)) := processNext
    (d.step disp task now l w).1.Serves now (d.step disp task now l w).2.2.store := by
  intro d
  cases hg : (Store.getNext now w.store : Except Fault (Option Notification) × Table) with
  | mk r t =>
    cases r with
    | error f => simp [d, processNext, step, hg, Serves]
    | ok found =>
      cases found with
      | none => simp [d, processNext, step, hg, Serves]
      | some n =>
        obtain ⟨id, hid, hs⟩ := Table.start_of_getNext plain before hg
        simp only [d, processNext, step, hg, Errand.process, hid]
        exact ⟨id, n, rfl, hs⟩

end Delivery

def Solo.follow {S σ α : Type} [Store S] (disp : Dispatcher σ) (c : Solo S σ α)
    (times : List Instant) : Solo S σ α :=
  times.foldl (fun c now => c.step disp now) c

theorem Solo.serves_follow {S σ : Type} [Store S] (disp : Dispatcher σ) {now : Instant}
    {c : Solo S σ (Except Fault (Option Processing))} {times : List Instant}
    (h : c.delivery.Serves now c.world.store) (ht : ∀ later ∈ times, now ≤ later) :
    (c.follow disp times).delivery.Serves now (c.follow disp times).world.store := by
  induction times generalizing c with
  | nil => exact h
  | cons later times ih =>
    obtain ⟨hl, ht⟩ := List.forall_mem_cons.1 ht
    exact ih (Delivery.serves_step hl h) ht

namespace Dispatcher

variable {σ : Type} {now : Instant}

theorem processNext_ne_skipped [Objections] (plain : now.Plain) (before : now < .last)
    (d : Dispatcher σ) (w : World Table σ) : (d.processNext now w).1 ≠ .ok (some .skipped) := by
  unfold processNext
  cases hg : (Store.getNext now w.store : Except Fault (Option Notification) × Table) with
  | mk r t =>
    cases r with
    | error f => nofun
    | ok found =>
      cases found with
      | none => nofun
      | some n =>
        obtain ⟨id, hid, hs⟩ := Table.start_of_getNext plain before hg
        simp only [processQueued, Errand.process, hid, perform, hs now (Instant.le_refl now)]
        exact Processing.map_some_ne_skipped (Errand.finish_queued_ne_skipped id _ _ _ _ _)

/-- At a time in no inserted second and before the last one there is, the table and the dispatcher
agree on what is due, and a call alone with the table does not skip what it finds there, whether it
is made at once or step by step while the clock goes on. -/
theorem never_skips [Objections] (plain : now.Plain) (before : now < .last) (d : Dispatcher σ)
    (w : World Table σ) : now.Attuned ∧ (d.processNext now w).1 ≠ .ok (some .skipped) ∧
      ∀ times : List Instant, (∀ later ∈ times, now ≤ later) →
        ((Solo.begin w .processNext).follow d (now :: times)).delivery.answer? ≠
          some (.ok (some .skipped)) := by
  refine ⟨Instant.attuned plain before, processNext_ne_skipped plain before d w,
    fun times ht ha => ?_⟩
  have hopen : ((Solo.begin w .processNext).step d now).delivery.Serves now
      ((Solo.begin w .processNext).step d now).world.store :=
    Delivery.serves_processNext plain before d () .empty w
  have hserves := Solo.serves_follow d hopen ht
  simp only [Solo.follow, List.foldl_cons] at ha hserves
  exact Delivery.answer?_of_serves hserves ha

theorem never_skips_of_two :
    let post : PushChannel Unit := .immediate "post" (fun _ => true) (fun _ => true) (some {})
      fun _ _ s => (.ok (), s)
    let d : Dispatcher Unit :=
      ⟨Roster.enlist .empty post, fun _ _ _ => .ok ⟨⟨.text, "", ""⟩, .empty⟩, .empty, {}⟩
    let row : Row := .ofNotification 1 (.create "ann" "news" .epoch)
    let torn : Row := { row with params := "not a bag", pushDate := -9223372036854775808 }
    let t : Table := (Table.empty.append torn).append { row with pushDate := -1 }
    let w : World Table Unit := ⟨(Store.savePreferences { user := "ann" } t).2, ()⟩
    let now : Instant := .ofNanos (-1)
    let times : List Instant := List.replicate 9 now
    now.Plain ∧ now < .last ∧ now.Attuned ∧
      (d.processNext now w).1 ≠ .ok (some .skipped) ∧
      (d.processNext now w).1 = .ok (some (.processed .success)) ∧
      ((Solo.begin w .processNext).follow d (now :: times)).delivery.answer? ≠
        some (.ok (some .skipped)) ∧
      ((Solo.begin w .processNext).follow d (now :: times)).delivery.answer? =
        some (.ok (some (.processed .success))) := by
  intro post d row torn t w now times
  have plain : now.Plain := by decide
  have before : now < .last := by decide
  obtain ⟨hattuned, hatonce, hsteps⟩ := never_skips plain before d w
  refine ⟨plain, before, hattuned, hatonce, by decide +kernel, hsteps times ?_, by decide +kernel⟩
  intro later hl
  rw [List.eq_of_mem_replicate hl]
  exact Instant.le_refl now

end Dispatcher

end Herald
