import Herald.Proofs.Bag.Fidelity
import Herald.Proofs.Store.Order
import Herald.Proofs.Store.Requests
import Herald.Store.Table
/-!
What a table gives back of what was put into it, and in which order. Bags come back if their texts
keep them, instants in milliseconds; an update does not touch the date of making.
-/

set_option autoImplicit false

namespace Herald

open Json (Doc)

namespace Table

variable {t t' : Table} {n : Notification} {id : Int} {c : Bag}

theorem find?_append (row : Row) (i : Int) : (t.append row).find? i =
    if i = t.nextId then some { row with id := t.nextId } else t.find? i := by
  simp only [find?, append, List.find?_append]
  by_cases hi : i = t.nextId
  · subst hi
    have hnone : t.rows.find? (fun r => r.id == t.nextId) = none := by
      refine List.find?_eq_none.2 fun r hr => ?_
      have hlt := id_lt_nextId hr
      simp only [beq_iff_eq]
      omega
    rw [hnone]
    simp
  · have hne : (t.nextId == i) = false := by simpa using fun h => hi h.symm
    simp [hi, hne]

theorem find?_change (f : Row → Row) (i : Int) : (t.change id f).find? i =
    if i = id then (t.find? id).map (renewed f) else t.find? i := by
  simp only [find?, change]
  induction t.rows with
  | nil => simp
  | cons r rs ih =>
    by_cases hr : r.id = id
    · by_cases hi : i = id
      · simp [hr, hi, renewed]
      · have hne : ¬ id = i := fun h => hi h.symm
        simpa [hr, hi, hne, renewed] using ih
    · by_cases hi : i = id
      · subst hi
        simpa [hr] using ih
      · by_cases hri : r.id = i
        · simp [hi, hri]
        · simpa [hr, hi, hri] using ih

theorem eq_of_save [Objections] (h : Store.save n t = (.ok id, t')) :
    id = t.nextId ∧ t' = t.append (.ofNotification t.nextId n) := by
  simp only [Store.save, insert] at h
  split at h
  · cases h
  · cases h
    exact ⟨rfl, rfl⟩

theorem get_of_save [Objections] (h : Store.save n t = (.ok id, t')) :
    Store.get id t' = (Row.ofNotification id n).notification.map some := by
  obtain ⟨rfl, rfl⟩ := eq_of_save h
  simp only [Store.get, find?_append, if_true]
  rfl

theorem getPreferences_savePreferences [Objections] (p : Preferences) (t : Table) :
    Store.getPreferences p.user (Store.savePreferences p t).2 =
      ((PreferencesRow.ofPreferences p).preferences p.user).map some := by
  simp only [Store.savePreferences, Store.getPreferences, setPreferences, Dict.get?_insert, if_true]

theorem kept_of_readable (h : Bag.read? n.params.encode.toText = some c) :
    n.params.Kept Doc.maxDepth ↔ c.same n.params = true := by
  rw [Bag.kept_iff_read?, h]
  simp

/-- What was saved can be read again just if its bag is kept: every number, and nothing nested too
deep. Otherwise it comes back as an error or with another bag. -/
theorem gives_back_iff_kept [Objections] (t : Table) :
    (∀ n id t', n.Plain → Store.save n t = (.ok id, t') →
      (Store.get id t' = .error (.unread .bag n.params.encode.toText) ∨
        ∃ c, Store.get id t' = .ok (some { n.inMillis with id := some id, params := c })) ∧
      ((∃ m, Store.get id t' = .ok (some m) ∧ m.Same { n.inMillis with id := some id }) ↔
        n.params.Kept Doc.maxDepth)) ∧
    ∀ p, (Store.savePreferences p t).1 = .ok () ∧
      ((∃ q, Store.getPreferences p.user (Store.savePreferences p t).2 = .ok (some q) ∧ q.Same p) ↔
        p.Kept) := by
  constructor
  · intro n id t' plain saved
    rw [get_of_save saved]
    cases hc : Bag.read? n.params.encode.toText with
    | none =>
      rw [Row.notification_unreadable hc]
      refine ⟨.inl rfl, ?_⟩
      have hk : ¬ n.params.Kept Doc.maxDepth := by
        rw [Bag.kept_iff_read?, hc]
        simp
      simp [Except.map, hk]
    | some c =>
      rw [Row.notification_ofNotification plain hc, kept_of_readable hc]
      refine ⟨.inr ⟨c, rfl⟩, ?_⟩
      constructor
      · rintro ⟨m, hm, hs⟩
        cases hm
        exact hs.2
      · intro hs
        exact ⟨_, rfl, rfl, hs⟩
  · intro p
    refine ⟨rfl, ?_⟩
    rw [getPreferences_savePreferences, ← Preferences.comes_back_iff]
    cases (PreferencesRow.ofPreferences p).preferences p.user <;> simp [Except.map]

theorem gives_back_iff_kept_of_two :
    let b : Bag := .ofList [("half", .double (.finite false ⟨1022 * Double.binade, by decide⟩)),
      ("list", .json (.array [.null, .object [("a", .number (.integer 1))]]))]
    let n : Notification := { Notification.create "ann" "news" .epoch with params := b }
    let p : Preferences :=
      { user := "ann", params := b, channels := .ofList [("mail", { channel.params := b })] }
    let t : Table := Table.empty.append (.ofNotification 1 n)
    (∃ m, Store.get 2 (Store.save n t).2 = .ok (some m) ∧ m.Same { n.inMillis with id := some 2 }) ∧
    ∃ q, Store.getPreferences "ann" (Store.savePreferences p t).2 = .ok (some q) ∧ q.Same p := by
  intro b n p t
  obtain ⟨hsave, hprefs⟩ := gives_back_iff_kept t
  have saved : Store.save n t = (.ok 2, (Store.save n t).2) := rfl
  exact ⟨(hsave n 2 _ (by decide) saved).2.2 (by decide +kernel),
    (hprefs p).2.2 (by decide +kernel)⟩

/-- Saved without complaint: a double that is no number and a value that nests too deep cannot be
read again, and a double may come back as its neighbour. -/
theorem accepted_not_given_back :
    let odd (v : Value) : Notification :=
      { Notification.create "ann" "news" .epoch with params := .ofList [("x", v)] }
    let nan : Value := .double .nan
    let deep : Value := .json (Nat.repeat (fun j => .array [j]) 126 .null)
    let long : Value := .double (.ofInt 1001234567890123456)
    let p : Preferences := { user := "ann", params := .ofList [("x", nan)] }
    let kept (n : Notification) : Table := (Store.save n Table.empty).2
    (∀ v ∈ [nan, deep, long], (Store.save (odd v) Table.empty).1 = .ok 1) ∧
    (∀ v ∈ [nan, deep], Store.get 1 (kept (odd v)) =
      .error (.unread .bag (odd v).params.encode.toText)) ∧
    (∃ m, Store.get 1 (kept (odd long)) = .ok (some m) ∧ m.params.same (odd long).params = false) ∧
    (Store.savePreferences p Table.empty).1 = .ok () ∧
      Store.getPreferences "ann" (Store.savePreferences p Table.empty).2 =
        .error (.unread .bag p.params.encode.toText) := by
  intro odd nan deep long p kept
  have saved : ∀ v, Store.save (odd v) Table.empty = (.ok 1, kept (odd v)) := fun v => rfl
  have plain : (odd long).Plain := by decide
  refine ⟨fun v _ => rfl, fun v hv => ?_, ?_, rfl, ?_⟩
  · have hr : Bag.read? (odd v).params.encode.toText = none := by
      rw [Bag.read?_eq]
      simp only [List.mem_cons, List.not_mem_nil, or_false] at hv
      rcases hv with rfl | rfl <;> decide +kernel
    rw [get_of_save (saved v), Row.notification_unreadable hr]
    rfl
  · have hk : ¬ (odd long).params.Kept Doc.maxDepth := by decide +kernel
    have hr : (Bag.read? (odd long).params.encode.toText).isSome = true := by
      rw [Bag.read?_eq]
      decide +kernel
    obtain ⟨c, hc⟩ := Option.isSome_iff_exists.1 hr
    rw [kept_of_readable hc, Bool.not_eq_true] at hk
    refine ⟨{ (odd long).inMillis with id := some 1, params := c }, ?_, hk⟩
    rw [get_of_save (saved long), Row.notification_ofNotification plain hc]
    rfl
  · rw [getPreferences_savePreferences p]
    have hr : Bag.read? (PreferencesRow.ofPreferences p).params = none := by
      rw [PreferencesRow.ofPreferences, Bag.read?_eq]
      decide +kernel
    simp only [PreferencesRow.preferences, hr]
    rfl

/-- All rows for these audiences of the user, by the dates that the rows have. -/
structure Ranked (t : Table) (user : String) (audiences : List Audience) (l : List Row) : Prop where
  all : l.Perm (t.rows.filter fun r => r.user == user && audiences.contains r.kind)
  latest : l.Pairwise fun a b => b.createdAt < a.createdAt ∨ a.createdAt = b.createdAt ∧ b.id ≤ a.id

def recentRows (t : Table) (user : String) (audiences : List Audience) : List Row :=
  (t.rows.filter fun r => r.user == user && audiences.contains r.kind).mergeSort isLater

theorem getRecent_eq [Objections] (t : Table) (user : String) (audiences : List Audience)
    (offset count : Nat) : Store.getRecent user audiences offset count t =
      readAll (((t.recentRows user audiences).drop (bound offset)).take (bound count)) := by
  simp only [Store.getRecent]
  split
  · next h =>
    simp only [Bool.or_eq_true, List.isEmpty_iff, decide_eq_true_eq] at h
    rcases h with rfl | rfl
    · simp [recentRows, readAll]
    · simp [bound, readAll]
  · rfl

theorem getRecent_ranked [Objections] (t : Table) (user : String) (audiences : List Audience)
    (offset count : Nat) :
    ∃ l, t.Ranked user audiences l ∧ Store.getRecent user audiences offset count t =
      readAll ((l.drop (bound offset)).take (bound count)) :=
  ⟨_, ⟨List.mergeSort_perm _ isLater, (pairwise_latest (t.ascending.filter _)).imp fun h =>
    h.1.imp_right fun ⟨he, hlt⟩ => ⟨he, Int.le_of_lt hlt⟩⟩,
      t.getRecent_eq user audiences offset count⟩

theorem eq_of_update_error [Objections] {f : Fault}
    (h : Store.update n t = (.error f, t')) : t' = t := by
  simp only [Store.update] at h
  split at h
  · cases h
    rfl
  · split at h
    · cases h
      rfl
    · split at h
      · cases h
        rfl
      · cases h

theorem eq_of_update [Objections] (number : n.id = some id) (h : Store.update n t = (.ok (), t')) :
    ∃ old, t.find? id = some old ∧ t' = t.change id (·.overwrite n) := by
  simp only [Store.update, number] at h
  cases hf : t.find? id with
  | none =>
    rw [hf] at h
    cases h
  | some old =>
    simp only [hf] at h
    split at h
    · cases h
    · cases h
      exact ⟨old, rfl, rfl⟩

theorem find?_overwritten {old : Row} (h : t.find? id = some old) :
    (t.change id (·.overwrite n)).find? id =
      some { Row.ofNotification id n with createdAt := old.createdAt } := by
  have hid : old.id = id := by simpa using List.find?_some h
  rw [find?_change, if_pos rfl, h, Option.map_some, renewed, Row.overwrite, hid]
  rfl

/-- An update gives the record all that it was called with but the date of making: that stays, also
for the order of the latest. Other rows stay as they are, and an update that fails changes
nothing. -/
theorem update_keeps_date [Objections] (t : Table) (number : n.id = some id) (plain : n.Plain)
    (readable : Bag.read? n.params.encode.toText = some c) :
    (∀ f t', Store.update n t = (.error f, t') → t' = t) ∧
    ∀ t', Store.update n t = (.ok (), t') → ∃ old, t.find? id = some old ∧
      Store.get id t' =
        .ok (some { n.inMillis with createdAt := .ofMillis old.createdAt, params := c }) ∧
      (Store.get id t' = .ok (some { n.inMillis with params := c }) ↔
        n.createdAt.inMillis = .ofMillis old.createdAt) ∧
      (c.same n.params = true ↔ n.params.Kept Doc.maxDepth) ∧
      t'.find? id = some { Row.ofNotification id n with createdAt := old.createdAt } ∧
      (∀ i, i ≠ id → t'.find? i = t.find? i) ∧ t'.preferences = t.preferences ∧
        t'.lastId = t.lastId ∧
      ∀ user audiences offset count, ∃ l, t'.Ranked user audiences l ∧
        Store.getRecent user audiences offset count t' =
          readAll ((l.drop (bound offset)).take (bound count)) := by
  refine ⟨fun f t' h => eq_of_update_error h, fun t' h => ?_⟩
  obtain ⟨old, hold, rfl⟩ := eq_of_update number h
  have hrow := find?_overwritten (n := n) hold
  have hget : Store.get id (t.change id (·.overwrite n)) =
      .ok (some { n.inMillis with createdAt := .ofMillis old.createdAt, params := c }) := by
    have hid : n.inMillis.id = some id := number
    simp only [Store.get, hrow, Row.notification_dated plain readable, ← hid]
    rfl
  refine ⟨old, hold, hget, ?_, (kept_of_readable readable).symm, hrow, fun i hi => ?_, rfl, rfl, ?_⟩
  · rw [hget]
    constructor
    · intro he
      have hm := Option.some.inj (Except.ok.inj he)
      exact (congrArg Notification.createdAt hm).symm
    · intro he
      rw [← he]
      rfl
  · rw [find?_change, if_neg hi]
  · exact fun user audiences offset count => getRecent_ranked _ user audiences offset count

theorem update_keeps_date_of_two :
    let old : Notification := .create "ann" "news" .epoch
    let n : Notification := { old with id := some 1, templateKey := "digest" }
    let other : Notification := { n with id := some 2 }
    let t : Table := Table.empty.append (.ofNotification 1 old)
    Store.get 1 (Store.update n t).2 = .ok (some n) ∧ (Store.update other t).2 = t := by
  intro old n other t
  have readable : Bag.read? n.params.encode.toText = some .empty := by
    rw [Bag.read?_eq]
    decide +kernel
  obtain ⟨_, hok⟩ := update_keeps_date t (rfl : n.id = some 1) (by decide) readable
  obtain ⟨herror, _⟩ := update_keeps_date t (rfl : other.id = some 2) (by decide) readable
  have done : Store.update n t = (.ok (), (Store.update n t).2) := rfl
  have failed : Store.update other t = (.error (.noNotification 2), (Store.update other t).2) := rfl
  obtain ⟨old, hold, hget, _⟩ := hok _ done
  have hmade : Instant.ofMillis old.createdAt = .epoch := by
    cases hold
    decide
  have hn : ({ n.inMillis with createdAt := .epoch, params := .empty } : Notification) =
    n := by decide
  rw [hmade, hn] at hget
  exact ⟨hget, herror _ _ failed⟩

/-- The record shows its first date, and stays behind one that was made between the two dates. -/
theorem update_loses_date :
    let first : Notification := .create "ann" "news" (.ofMillis 1000)
    let second : Notification := .create "ann" "news" .epoch
    let n : Notification := { second with id := some 2, createdAt := .ofMillis 5000 }
    let t : Table := (Table.empty.append (.ofNotification 1 first)).append
      (.ofNotification 2 second)
    ∃ t', Store.update n t = (.ok (), t') ∧ first.createdAt < n.createdAt ∧
      Store.get 2 t' = .ok (some { n with createdAt := .epoch }) ∧
      Store.getRecent "ann" [.personal] 0 2 t' =
        .ok [{ first with id := some 1 }, { n with createdAt := .epoch }] := by
  intro first second n t
  let rows := (t.change 2 (·.overwrite n)).rows.filter fun r =>
    r.user == "ann" && [.personal].contains r.kind
  have hsort : rows.mergeSort isLater = rows := List.mergeSort_of_pairwise (by decide +kernel)
  refine ⟨_, rfl, by decide, by decide +kernel, ?_⟩
  show readAll (((rows.mergeSort isLater).drop 0).take 2) = _
  rw [hsort]
  decide +kernel

end Table

end Herald
