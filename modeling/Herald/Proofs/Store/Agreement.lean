import Herald.Proofs.Store.Order
import Herald.Proofs.Store.Records
import Herald.Proofs.Store.Requests
import Herald.Store.Table
/-!
The store of rows and the store in memory answer alike. Rows mirror records, and each request keeps
it so.
-/

set_option autoImplicit false

namespace Herald

namespace Row

def ofRecord (r : Int × Notification) : Row := ofNotification r.1 r.2

theorem notification_ofRecord [Objections] {r : Int × Notification} (hd : r.2.Dated)
    (hl : r.2.params.Legible Json.Doc.maxDepth) (hid : r.2.id = some r.1) :
    ∃ n, (ofRecord r).notification = .ok n ∧ n.Same r.2 := by
  obtain ⟨b, hb, hs⟩ := Bag.legible_iff.1 hl
  rw [← Bag.read?_eq] at hb
  refine ⟨{ r.2 with params := b }, ?_, rfl, hs⟩
  rw [ofRecord, notification_ofNotification hd.plain hb, hd.inMillis_eq, ← hid]

theorem legible_of_alike [Objections] {r : Int × Notification}
    (h : Alike (Option.Rel Notification.Same) ((ofRecord r).notification.map some)
      (.ok (some r.2))) :
    r.2.params.Legible Json.Doc.maxDepth := by
  rw [Bag.legible_iff, ← Bag.read?_eq]
  have hp : (ofRecord r).params = r.2.params.encode.toText := rfl
  rw [notification, hp] at h
  cases hb : Bag.read? r.2.params.encode.toText with
  | none =>
    rw [hb] at h
    cases h
  | some b =>
    rw [hb] at h
    cases h with
    | ok h =>
      cases h with
      | some h => exact ⟨b, rfl, h.2⟩

theorem isDue_ofRecord {r : Int × Notification} (hd : r.2.Dated) {now : Instant} (hn : now.Plain) :
    (ofRecord r).isDue now.toMillis = r.2.isDue now := by
  simp only [isDue, ofRecord, ofNotification, Notification.isDue,
    Instant.toMillis_le_iff hd.date hn]

end Row

theorem PreferencesRow.isSome_of_alike [Objections] {p : Preferences}
    (h : Alike (Option.Rel Preferences.Same) (((ofPreferences p).preferences p.user).map some)
      (.ok (some p))) :
    (readChannels? (ofPreferences p).channels).isSome = true := by
  rw [preferences] at h
  cases hb : Bag.read? (ofPreferences p).params with
  | none =>
    rw [hb] at h
    cases h
  | some b =>
    rw [hb] at h
    cases hc : readChannels? (ofPreferences p).channels with
    | none =>
      rw [hc] at h
      cases h
    | some c => rfl

namespace Table

/-- The rows are those of the records, and so are the rest of the columns. -/
structure Mirrors (t : Table) (m : MemoryStore) : Prop where
  lastId : t.lastId = m.lastId
  rows : t.rows = m.records.map Row.ofRecord
  preferences : t.preferences = m.preferences.mapVal fun _ p => .ofPreferences p
  users : ∀ user p, m.preferences.get? user = some p → p.user = user

variable {t : Table} {m : MemoryStore} {own inner : Bag → Prop}

theorem mirrors_empty : (Table.empty).Mirrors MemoryStore.empty :=
  ⟨rfl, rfl, rfl, fun _ _ h => by cases h⟩

namespace Mirrors

theorem nextId_eq (h : t.Mirrors m) : t.nextId = m.nextId := by
  simp only [nextId, MemoryStore.nextId, h.lastId]

theorem find?_eq (h : t.Mirrors m) (id : Int) :
    t.find? id = (m.find? id).map fun n => Row.ofRecord (id, n) := by
  simp only [find?, MemoryStore.find?, h.rows]
  induction m.records with
  | nil => rfl
  | cons r rs ih =>
    by_cases hr : r.1 = id
    · subst hr
      simp [Row.ofRecord, Row.ofNotification]
    · have hr' : ¬ (Row.ofRecord r).id = id := hr
      simpa [hr, hr'] using ih

theorem isKeyTaken_eq (h : t.Mirrors m) (id : Int) (key : Option String) :
    t.isKeyTaken id key = true ↔
    ∃ r ∈ m.records, r.1 ≠ id ∧ ∃ k, key = some k ∧ r.2.key? = some k := by
  cases key with
  | none => simp [isKeyTaken]
  | some key =>
    simp only [isKeyTaken, h.rows, List.any_map, List.any_eq_true, Function.comp_apply,
      Bool.and_eq_true, bne_iff_ne, ne_eq, beq_iff_eq, Option.some.injEq, exists_eq_left']
    rfl

theorem append (h : t.Mirrors m) (n : Notification) :
    (t.append (.ofNotification t.nextId n)).Mirrors (m.append n) := by
  refine ⟨?_, ?_, h.preferences, h.users⟩
  · simp only [Table.append, MemoryStore.append, h.lastId]
  · simp only [Table.append, MemoryStore.append, h.rows, List.map_append,
      List.map_cons, List.map_nil, h.nextId_eq]
    rfl

theorem erase (h : t.Mirrors m) (id : Int) : (t.erase id).Mirrors (m.erase id) := by
  refine ⟨h.lastId, ?_, h.preferences, h.users⟩
  simp only [Table.erase, MemoryStore.erase, h.rows, List.filter_map]
  rfl

theorem replace (h : t.Mirrors m) {id : Int} {n r : Notification} (hr : m.find? id = some r)
    (hc : n.createdAt = r.createdAt) : (t.change id (·.overwrite n)).Mirrors (m.replace id n) := by
  refine ⟨h.lastId, ?_, h.preferences, h.users⟩
  simp only [Table.change, MemoryStore.replace, h.rows, List.map_map]
  refine List.map_congr_left fun a ha => ?_
  by_cases hid : a.1 = id
  · subst hid
    have har : a.2 = r := by
      have := MemoryStore.find?_eq_some.2 ha
      rw [hr] at this
      exact (Option.some.inj this).symm
    simp only [Function.comp_apply, if_true, renewed, Row.overwrite, Row.ofRecord,
      Row.ofNotification, har, hc]
  · have hrow : ¬ (Row.ofRecord a).id = id := hid
    simp only [Function.comp_apply, hrow, hid, if_false]

theorem save [Objections] (h : t.Mirrors m) {n : Notification}
    (hm : (m.append n).Regular own inner) :
    Store.save n t = (.ok m.nextId, t.append (.ofNotification t.nextId n)) := by
  have hk : t.isKeyTaken t.nextId (Row.ofNotification t.nextId n).confirmationKey = false := by
    rw [← Bool.not_eq_true, h.isKeyTaken_eq]
    rintro ⟨r, hr, hne, key, hkey, hrk⟩
    refine hne ?_
    rw [h.nextId_eq]
    exact hm.apart r (List.mem_append_left _ hr) (m.nextId, { n with id := some m.nextId })
      (List.mem_append_right _ (by simp)) key hrk hkey
  rw [← h.nextId_eq]
  simp only [Store.save, insert, hk, Bool.false_eq_true, if_false]

theorem update [Objections] (h : t.Mirrors m) {id : Int} {n r : Notification} (hid : n.id = some id)
    (hr : m.find? id = some r) (hm : (m.replace id n).Regular own inner) :
    Store.update n t = (.ok (), t.change id (·.overwrite n)) := by
  have hrow : t.find? id = some (Row.ofRecord (id, r)) := by rw [h.find?_eq, hr]; rfl
  -- a key taken by another row would be shared by two records afterwards
  have hk : t.isKeyTaken id (n.confirmation.map (·.key)) = false := by
    rw [← Bool.not_eq_true, h.isKeyTaken_eq]
    rintro ⟨s, hs, hne, key, hkey, hsk⟩
    have hs' : s ∈ (m.replace id n).records :=
      List.mem_map.2 ⟨s, hs, by simp [hne]⟩
    have hn' : (id, { n with id := some id }) ∈ (m.replace id n).records :=
      List.mem_map.2 ⟨(id, r), MemoryStore.find?_eq_some.1 hr, by simp⟩
    exact hne (hm.apart s hs' _ hn' key hsk hkey)
  simp only [Store.update, hid, hrow, hk, Bool.false_eq_true, if_false]

theorem due_eq (h : t.Mirrors m) (hm : m.Regular own inner) {now : Instant} (hn : now.Plain) :
    t.due now.toMillis = (m.records.filter fun r => r.2.isDue now).map Row.ofRecord := by
  simp only [due, h.rows, List.filter_map]
  congr 1
  refine List.filter_congr fun r hr => ?_
  exact Row.isDue_ofRecord (hm.dated r hr) hn

theorem earliest_ofRecord {l : List (Int × Notification)} (hl : ∀ r ∈ l, r.2.Dated) :
    Table.earliest (l.map Row.ofRecord) = (MemoryStore.earliest l).map Row.ofRecord := by
  refine earliestOf_map fun a ha b hb => ?_
  have hlt : decide ((Row.ofRecord a).pushDate < (Row.ofRecord b).pushDate) =
      decide (a.2.push.date < b.2.push.date) :=
    decide_eq_decide.2 (Instant.toMillis_lt_iff (hl a ha).date (hl b hb).date)
  have heq : decide ((Row.ofRecord a).pushDate = (Row.ofRecord b).pushDate) =
      decide (a.2.push.date = b.2.push.date) :=
    decide_eq_decide.2 (Instant.toMillis_inj (hl a ha).date (hl b hb).date)
  rw [inOrder, inOrder, hlt, heq]
  rfl

theorem getNext [Objections] (h : t.Mirrors m) (hm : m.Regular own inner)
    (hl : ∀ r ∈ m.records, r.2.params.Legible Json.Doc.maxDepth) {now : Instant} (hn : now.Plain) :
    ∃ n, Store.getNext now t = (.ok n, t) ∧ Option.Rel Notification.Same n (m.next? now) := by
  have hd : ∀ r ∈ m.records.filter fun r => r.2.isDue now, r.2.Dated :=
    fun r hr => hm.dated r (List.mem_of_mem_filter hr)
  have hhead : t.head? now.toMillis =
      (MemoryStore.earliest (m.records.filter fun r => r.2.isDue now)).map Row.ofRecord := by
    rw [head?, h.due_eq hm hn, earliest_ofRecord hd]
  cases he : MemoryStore.earliest (m.records.filter fun r => r.2.isDue now) with
  | none =>
    rw [he] at hhead
    refine ⟨none, ?_, ?_⟩
    · simp only [Store.getNext, next_of_head?_none hhead]
    · rw [MemoryStore.next?, he]
      exact .none
  | some r =>
    rw [he] at hhead
    have hr := List.mem_of_mem_filter (mem_of_earliestOf he)
    obtain ⟨n, hread, hs⟩ := Row.notification_ofRecord (hm.dated r hr) (hl r hr)
      (m.numbered r hr).2.2
    refine ⟨some n, ?_, ?_⟩
    · simp only [Store.getNext, next_of_head?_some hhead hread]
    · rw [MemoryStore.next?, he]
      exact .some hs

theorem isLater_ofRecord {a b : Int × Notification} (ha : a.2.Dated) (hb : b.2.Dated) :
    isLater (Row.ofRecord a) (Row.ofRecord b) = MemoryStore.isLater a b := by
  have hlt : decide ((Row.ofRecord b).createdAt < (Row.ofRecord a).createdAt) =
      decide (b.2.createdAt < a.2.createdAt) :=
    decide_eq_decide.2 (Instant.toMillis_lt_iff hb.createdAt ha.createdAt)
  have heq : decide ((Row.ofRecord b).createdAt = (Row.ofRecord a).createdAt) =
      decide (b.2.createdAt = a.2.createdAt) :=
    decide_eq_decide.2 (Instant.toMillis_inj hb.createdAt ha.createdAt)
  rw [isLater, MemoryStore.isLater, inOrder, inOrder, hlt, heq]
  rfl

theorem recent_eq (h : t.Mirrors m) (hm : m.Regular own inner) (user : String)
    (audiences : List Audience)
    {offset count : Nat} (ho : offset < 9223372036854775808) (hc : count < 9223372036854775808) :
    ∃ l : List (Int × Notification), (∀ r ∈ l, r ∈ m.records) ∧
      t.recent user audiences offset count = l.map Row.ofRecord ∧
      ((m.recent user audiences).drop offset).take count = l.map (·.2) := by
  have hbo : bound offset = offset := by simp only [bound]; omega
  have hbc : bound count = count := by simp only [bound]; omega
  -- both sort the same records, and by keys that compare alike
  let mine := m.records.filter fun r => r.2.user == user && audiences.contains r.2.audience
  have hmine : ∀ r ∈ mine, r ∈ m.records := fun r hr => List.mem_of_mem_filter hr
  have hlater : ∀ a ∈ mine, ∀ b ∈ mine,
      MemoryStore.isLater a b = isLater (Row.ofRecord a) (Row.ofRecord b) := fun a ha b hb =>
    (isLater_ofRecord (hm.dated a (hmine a ha)) (hm.dated b (hmine b hb))).symm
  refine ⟨((mine.mergeSort MemoryStore.isLater).drop offset).take count, fun r hr => ?_, ?_, ?_⟩
  · exact hmine r (List.mem_mergeSort.1 (List.mem_of_mem_drop (List.mem_of_mem_take hr)))
  · have hf : t.rows.filter (fun r => r.user == user && audiences.contains r.kind) =
        mine.map Row.ofRecord := by
      rw [h.rows, List.filter_map]
      rfl
    rw [recent, hf, ← List.map_mergeSort hlater, hbo, hbc, List.map_take, List.map_drop]
  · rw [MemoryStore.recent, List.map_take, List.map_drop]

theorem readAll_ofRecord [Objections] {l : List (Int × Notification)}
    (hl : ∀ r ∈ l, ∃ n, (Row.ofRecord r).notification = .ok n ∧ n.Same r.2) :
    ∃ ns, readAll (l.map Row.ofRecord) = .ok ns ∧
      List.Forall₂ Notification.Same ns (l.map (·.2)) := by
  induction l with
  | nil => exact ⟨[], rfl, .nil⟩
  | cons r rs ih =>
    obtain ⟨ns, hns, hs⟩ := ih fun a ha => hl a (List.mem_cons_of_mem _ ha)
    obtain ⟨n, hn, hsn⟩ := hl r (by simp)
    exact ⟨n :: ns, by simp only [List.map_cons, readAll, hn, hns], .cons hsn hs⟩

theorem getRecent [Objections] (h : t.Mirrors m) (hm : m.Regular own inner)
    (hl : ∀ r ∈ m.records, r.2.params.Legible Json.Doc.maxDepth) (user : String)
    (audiences : List Audience)
    {offset count : Nat} (ho : offset < 9223372036854775808) (hc : count < 9223372036854775808) :
    ∃ ns, Store.getRecent user audiences offset count t = .ok ns ∧
      List.Forall₂ Notification.Same ns (((m.recent user audiences).drop offset).take count) := by
  obtain ⟨l, hmem, hrows, hrecs⟩ := h.recent_eq hm user audiences ho hc
  by_cases he : (audiences.isEmpty || count = 0) = true
  · refine ⟨[], by simp only [Store.getRecent, he, if_true], ?_⟩
    have hnil : ((m.recent user audiences).drop offset).take count = [] := by
      simp only [Bool.or_eq_true, List.isEmpty_iff, decide_eq_true_eq] at he
      rcases he with rfl | rfl
      · simp [MemoryStore.recent]
      · exact List.take_zero
    rw [hnil]
    exact .nil
  · obtain ⟨ns, hns, hs⟩ := readAll_ofRecord (l := l) fun r hr =>
      Row.notification_ofRecord (hm.dated r (hmem r hr)) (hl r (hmem r hr))
        (m.numbered r (hmem r hr)).2.2
    refine ⟨ns, ?_, by rw [hrecs]; exact hs⟩
    simp only [Store.getRecent, he, Bool.false_eq_true, if_false, hrows, hns]

theorem getPreferences [Objections] (h : t.Mirrors m)
    (hl : ∀ e ∈ m.preferences.entries, e.2.params.Legible Json.Doc.maxDepth)
    (hc : ∀ e ∈ m.preferences.entries, ∀ f ∈ e.2.channels.entries,
      f.2.params.Legible (Json.Doc.maxDepth - 2)) (user : String) :
    ∃ p, Store.getPreferences user t = .ok p ∧
      Option.Rel Preferences.Same p (m.preferences.get? user) := by
  have hrow : t.preferences.get? user = (m.preferences.get? user).map .ofPreferences := by
    rw [h.preferences, Dict.get?_mapVal]
  cases hp : m.preferences.get? user with
  | none =>
    rw [hp] at hrow
    exact ⟨none, by simp only [Store.getPreferences, hrow, Option.map_none], .none⟩
  | some p =>
    have hmem := Dict.mem_of_findEntry hp
    have hu := h.users user p hp
    rw [hp] at hrow
    obtain ⟨q, hq, hs⟩ := PreferencesRow.preferences_ofPreferences_iff.2 ⟨hl _ hmem, hc _ hmem⟩
    rw [hu] at hq
    refine ⟨some q, ?_, .some hs⟩
    simp only [Store.getPreferences, hrow, Option.map_some, hq]
    rfl

theorem setPreferences (h : t.Mirrors m) (p : Preferences) :
    (t.setPreferences (t.preferences.insert p.user (.ofPreferences p))).Mirrors
      (m.setPreferences (m.preferences.insert p.user p)) := by
  refine ⟨h.lastId, h.rows, ?_, fun user q hq => ?_⟩
  · simp only [Table.setPreferences, MemoryStore.setPreferences, Dict.mapVal_insert, h.preferences]
  · have hq : (m.preferences.insert p.user p).get? user = some q := hq
    rw [Dict.get?_insert] at hq
    split at hq
    · next hu =>
      cases hq
      exact hu.symm
    · exact h.users user q hq

theorem erasePreferences (h : t.Mirrors m) (user : String) :
    (t.setPreferences (t.preferences.erase user)).Mirrors
      (m.setPreferences (m.preferences.erase user)) := by
  refine ⟨h.lastId, h.rows, ?_, fun other q hq => ?_⟩
  · simp only [Table.setPreferences, MemoryStore.setPreferences, Dict.mapVal_erase, h.preferences]
  · have hq : (m.preferences.erase user).get? other = some q := hq
    rw [Dict.get?_erase] at hq
    split at hq
    · cases hq
    · exact h.users other q hq

/-- One request keeps the rows those of the records, and is answered alike. -/
theorem answer [Objections] (h : t.Mirrors m) (q : Request)
    (hm : m.Regular (Bag.Legible Json.Doc.maxDepth) (Bag.Legible (Json.Doc.maxDepth - 2)))
    (hq : q.Fits m) (hnext : (q.answer m).2.Regular (Bag.Legible Json.Doc.maxDepth)
      (Bag.Legible (Json.Doc.maxDepth - 2))) :
    (q.answer t).1.Agrees (q.answer m).1 ∧ (q.answer t).2.Mirrors (q.answer m).2 := by
  cases q with
  | save n =>
    have hs := h.save hnext
    simp only [Request.answer, hs]
    exact ⟨.number _, h.append n⟩
  | update n =>
    cases hid : n.id with
    | none =>
      simp only [Request.answer, Store.update, hid]
      exact ⟨.done _, h⟩
    | some id =>
      cases hr : m.find? id with
      | none =>
        simp only [Request.answer, Store.update, hid, hr, h.find?_eq, Option.map_none]
        exact ⟨.done _, h⟩
      | some r =>
        have hu : Store.update n m =
          (.ok (), m.replace id n) := by simp only [Store.update, hid, hr]
        simp only [Request.answer, hu] at hnext ⊢
        rw [h.update hid hr hnext]
        exact ⟨.done _, h.replace hr (hq id hid r hr)⟩
  | delete id => exact ⟨.done _, h.erase id⟩
  | get id =>
    refine ⟨.notification ?_, h⟩
    cases hr : m.find? id with
    | none =>
      simp only [Store.get, h.find?_eq, hr, Option.map_none]
      exact .ok .none
    | some r =>
      have hmem := MemoryStore.find?_eq_some.1 hr
      obtain ⟨n, hn, hs⟩ := Row.notification_ofRecord (hm.dated _ hmem) (hm.params _ hmem)
        (MemoryStore.id_of_find? hr)
      simp only [Store.get, h.find?_eq, hr, Option.map_some, hn]
      exact .ok (.some hs)
  | getNext now =>
    obtain ⟨n, hn, hs⟩ := h.getNext hm hm.params hq
    simp only [Request.answer, hn]
    exact ⟨.notification (.ok hs), h⟩
  | getRecent user audiences offset count =>
    obtain ⟨ns, hns, hs⟩ := h.getRecent hm hm.params user audiences hq.1 hq.2
    refine ⟨.notifications ?_, h⟩
    rw [hns]
    exact .ok hs
  | getPreferences user =>
    obtain ⟨p, hp, hs⟩ := h.getPreferences hm.general hm.channels user
    refine ⟨.preferences ?_, h⟩
    rw [hp]
    exact .ok hs
  | savePreferences p => exact ⟨.done _, h.setPreferences p⟩
  | removePreferences user => exact ⟨.done _, h.erasePreferences user⟩

theorem replies_agree [Objections] {t : Table} {m : MemoryStore} (h : t.Mirrors m)
    {qs : List Request}
    (hp : Proper (Bag.Legible Json.Doc.maxDepth) (Bag.Legible (Json.Doc.maxDepth - 2)) m qs) :
    List.Forall₂ Reply.Agrees (replies t qs) (replies m qs) := by
  induction qs generalizing t m with
  | nil => exact .nil
  | cons q qs ih =>
    obtain ⟨hm, hq, hqs⟩ := hp
    have hnext : (q.answer m).2.Regular _ _ := hqs.regular
    obtain ⟨ha, ht⟩ := h.answer q hm hq hnext
    exact .cons ha (ih ht hqs)

end Mirrors

end Table

/-- The two stores answer alike from the beginning. -/
theorem stores_agree [Objections] {qs : List Request}
    (h : Proper (Bag.Legible Json.Doc.maxDepth) (Bag.Legible (Json.Doc.maxDepth - 2))
      MemoryStore.empty qs) :
    List.Forall₂ Reply.Agrees (replies Table.empty qs) (replies MemoryStore.empty qs) :=
  Table.mirrors_empty.replies_agree h

theorem stores_agree_of_each :
    let b : Bag := .ofList [("name", .text "Ann"), ("part", .double (.ofInt 3)),
      ("more", .json .null)]
    let m : Notification := .create "ann" "news" .epoch
    let n : Notification := { m with params := b, confirmation := some ⟨"key", .epoch⟩ }
    let p : Preferences :=
      { user := "ann", params := b, channels := .ofList [("mail", { channel.params := b })] }
    let qs : List Request := [.save n, .save m, .update n, .update { m with id := some 3 },
      .update { m with id := some 2, params := b }, .get 1, .getNext .epoch, .delete 1,
      .getRecent "ann" [.personal] 0 5, .savePreferences p, .getPreferences "ann",
        .removePreferences "ann"]
    Proper (Bag.Legible Json.Doc.maxDepth) (Bag.Legible (Json.Doc.maxDepth - 2))
      MemoryStore.empty qs ∧
      List.Forall₂ Reply.Agrees (replies Table.empty qs) (replies MemoryStore.empty qs) := by
  intro b m n p qs
  exact ⟨by decide +kernel, stores_agree (by decide +kernel)⟩

theorem legible_of_agree [Objections] {n : Notification} (h : List.Forall₂ Reply.Agrees
    (replies Table.empty [.save n, .get 1]) (replies MemoryStore.empty [.save n, .get 1])) :
    n.params.Legible Json.Doc.maxDepth := by
  have hk : Table.empty.isKeyTaken Table.empty.nextId (n.confirmation.map (·.key)) = false := by
    cases n.confirmation <;> rfl
  have hs : Store.save n Table.empty = (.ok 1, Table.empty.append (.ofNotification 1 n)) := by
    simp only [Store.save, Table.insert, Row.ofNotification, hk, Bool.false_eq_true, if_false]
    rfl
  simp only [replies, Request.answer, hs] at h
  cases h with
  | cons _ h =>
    cases h with
    | cons h _ =>
      cases h with
      | notification h => exact Row.legible_of_alike (r := (1, { n with id := some 1 })) h

theorem isSome_of_agree [Objections] {p : Preferences} (h : List.Forall₂ Reply.Agrees
    (replies Table.empty [.savePreferences p, .getPreferences p.user])
    (replies MemoryStore.empty [.savePreferences p, .getPreferences p.user])) :
    (PreferencesRow.readChannels? (PreferencesRow.ofPreferences p).channels).isSome = true := by
  have ht : Store.getPreferences p.user (Store.savePreferences p Table.empty).2 =
      ((PreferencesRow.ofPreferences p).preferences p.user).map some := by
    simp only [Store.savePreferences, Store.getPreferences, Table.setPreferences,
      Dict.get?_insert, if_true]
  have hm : Store.getPreferences p.user (Store.savePreferences p MemoryStore.empty).2 =
      .ok (some p) := by
    simp only [Store.savePreferences, Store.getPreferences, MemoryStore.setPreferences,
      Dict.get?_insert, if_true]
  simp only [replies, Request.answer, ht, hm] at h
  cases h with
  | cons _ h =>
    cases h with
    | cons h _ =>
      cases h with
      | preferences h => exact PreferencesRow.isSome_of_alike h

/-- It is not enough that texts can be read: a double may come back as its neighbour. Nor is it that
every bag comes back from a text of its own. -/
theorem stores_disagree :
    let rounded : Bag := .ofList [("x", .double (.ofInt 1001234567890123456))]
    let qs : List Request :=
      [.save { Notification.create "ann" "news" .epoch with params := rounded }, .get 1]
    let deep : Bag := .ofList [("x", .json (Nat.repeat (fun j => .array [j]) 125 .null))]
    let ps : List Request :=
      [.savePreferences { user := "ann", channels := .ofList [("mail", { channel.params := deep })]
        }, .getPreferences "ann"]
    (Proper (Bag.Readable Json.Doc.maxDepth) (Bag.Readable Json.Doc.maxDepth) MemoryStore.empty qs ∧
      ¬ List.Forall₂ Reply.Agrees (replies Table.empty qs) (replies MemoryStore.empty qs)) ∧
    (Proper (Bag.Legible Json.Doc.maxDepth) (Bag.Legible Json.Doc.maxDepth) MemoryStore.empty ps ∧
      ¬ List.Forall₂ Reply.Agrees (replies Table.empty ps) (replies MemoryStore.empty ps)) := by
  intro rounded qs deep ps
  refine ⟨⟨by decide +kernel, fun h => ?_⟩, by decide +kernel, fun h => ?_⟩
  · exact absurd (legible_of_agree h) (by decide +kernel)
  · have hd := isSome_of_agree h
    rw [PreferencesRow.readChannels?, PreferencesRow.ofPreferences, Json.Doc.read?_toText] at hd
    exact absurd hd (by decide +kernel)

end Herald
