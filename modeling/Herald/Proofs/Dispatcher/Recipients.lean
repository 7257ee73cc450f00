import Herald.Proofs.Dispatcher.Errand
/-!
Whom an attempt is made for. A user without preferences is unknown, and a notification for one is
given up without a push, unless it names its channel: then it is offered there as to a user who has
stated no preference.
-/

set_option autoImplicit false

namespace Herald

namespace Dispatcher

variable {S σ : Type} [Store S] {n : Notification} {s : S} {p : Preferences} {o : Outcome}

theorem prepare_eq_ok : prepare n s = .ok p ↔ Store.getPreferences n.user s = .ok (some p) ∨
    Store.getPreferences n.user s = .ok none ∧ n.forced? ≠ none ∧ p = { user := n.user } := by
  simp only [prepare, preferencesFor?]
  cases Store.getPreferences n.user s with
  | error f => simp
  | ok found =>
    cases found with
    | some q => simp
    | none => cases n.forced? <;> simp [eq_comm]

theorem prepare_eq_error : prepare n s = .error o ↔
    (Store.getPreferences n.user s = .ok none ∧ n.forced? = none ∧
      o = ⟨.persistentError, some ("unknown user " ++ n.user), .empty⟩) ∨
    ∃ f, Store.getPreferences n.user s = .error f ∧
      o = ⟨.temporaryError,
        some ("cannot load preferences for " ++ n.user ++ ": " ++ f.message), .empty⟩ := by
  simp only [prepare, preferencesFor?]
  cases Store.getPreferences n.user s with
  | error f => simp [noPreferences, Outcome.unreported, eq_comm]
  | ok found =>
    cases found with
    | some q => simp
    | none => cases n.forced? <;> simp [unknownUser, Outcome.unreported, eq_comm]

variable (d : Dispatcher σ) (ignoreFrequency : Bool) {w : World S σ}

theorem attempt_of_prepare (h : prepare n w.store = .ok p) : d.attempt n ignoreFrequency w =
    (((d.fanOut ignoreFrequency).run n p w.outside).1,
      { w with outside := ((d.fanOut ignoreFrequency).run n p w.outside).2 }) := by
  simp only [attempt, h]

/-- A notification that names its channel is offered there though nobody knows its user. -/
theorem attempt_of_forced {id : String} (stranger : Store.getPreferences n.user w.store = .ok none)
    (forced : n.forced? = some id) : d.attempt n ignoreFrequency w =
      (((d.fanOut ignoreFrequency).run n { user := n.user } w.outside).1,
        { w with outside := ((d.fanOut ignoreFrequency).run n { user := n.user } w.outside).2 }) :=
  d.attempt_of_prepare ignoreFrequency
    (prepare_eq_ok.2 (.inr ⟨stranger, by rw [forced]; nofun, rfl⟩))

theorem attempt_of_unforced (stranger : Store.getPreferences n.user w.store = .ok none)
    (unforced : n.forced? = none) : d.attempt n ignoreFrequency w =
      (⟨.persistentError, some ("unknown user " ++ n.user), .empty⟩, w) := by
  simp only [attempt, prepare_eq_error.2 (.inl ⟨stranger, unforced, rfl⟩)]

/-- One attempt gives up what is due to a user whom nobody knows, and says so; no channel is pushed
and no listener told, and the store changes in that record alone. -/
theorem gives_up_on_stranger {w : World MemoryStore σ} {id : Int} {r : Notification} {now : Instant}
    (named : n.id = some id) (found : w.store.find? id = some r) (due : r.isDue now = true)
    (stranger : w.store.preferences.get? r.user = none) (unforced : r.forced? = none) :
    d.processQueued n now w = (.ok (.processed .persistentError),
      { w with store := w.store.replace id { r with push := {
        state := .undeliverable, date := now, errorCount := countUp r.push.errorCount,
        errorMessage := some ("unknown user " ++ r.user) } } }) := by
  have queued := Notification.queued_of_isDue due
  have start : (Errand.queued id : Errand MemoryStore _).start now w.store = .inr r :=
    Errand.start_queued_eq_inr.2 ⟨found, due⟩
  have nobody : Store.getPreferences r.user w.store = .ok none := congrArg Except.ok stranger
  have attempt := d.attempt_of_unforced (Errand.queued id : Errand MemoryStore _).ignoresFrequency
    nobody unforced
  simp only [processQueued, Errand.process, named, perform, start, attempt,
    Errand.finish_queued found queued]
  rfl

end Dispatcher

end Herald
