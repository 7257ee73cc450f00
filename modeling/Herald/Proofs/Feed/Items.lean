import Herald.Channel.Feed
import Herald.Proofs.Json.Reading
import Herald.Proofs.Store.Recent
import Herald.Proofs.Time.Timestamps
/-!
What a feed says: which of the user's notifications it looks at, how many of them, and what it lists
of each one that has content. One without content is passed over and keeps no place from another.
-/

set_option autoImplicit false

namespace Herald.Feed

variable {s : MemoryStore} {user : String} {audiences : List Audience} {produce : Producer}
    {p : Preferences} {request : Bag} {rs : List (Int × Notification)} {js : List Json}

def stated (b : Bag) : Option Int :=
  match b.getValue "amount" with
  | some (.integer i) => some i.toInt
  | _ => none

def within (i : Int) : Nat := if i < 1 then 1 else if 100 < i then 100 else i.toNat

/-- The amount in the request, else the one in the preferences for the feed, else 25. -/
def wanted (p : Preferences) (request : Bag) : Nat :=
  within (((stated request).or (stated (preferencesFor p).params)).getD 25)

theorem map_get_amountKey (b : Bag) : (b.get amountKey).map (·.toInt) = stated b := by
  simp only [Bag.get, amountKey, stated]
  cases b.getValue "amount" with
  | none => rfl
  | some v => cases v <;> rfl

theorem clamp_eq (i : Int64) : clamp i = within i.toInt := by
  simp only [clamp, maxAmount, within]
  split
  · omega
  · split <;> omega

theorem amount_eq (p : Preferences) (request : Bag) :
    amount request (preferencesFor p).params = wanted p request := by
  rw [amount, clamp_eq, wanted, ← map_get_amountKey, ← map_get_amountKey]
  cases request.get amountKey with
  | some i => rfl
  | none => cases (preferencesFor p).params.get amountKey <;> rfl

def item (id : Int) (n : Notification) (m : Message) : Json :=
  .object [("id", .ofInt id), ("template_key", .text n.templateKey),
    ("created_at", .text n.createdAt.toText), ("subject", .text m.subject), ("body", .text m.body)]

/-- The items are those of the records that have content, in their order; each one's date is a text
that is read as the instant of its making. -/
inductive Lists (produce : Producer) (p : Preferences) :
    List (Int × Notification) → List Json → Prop where
  | nil : Lists produce p [] []
  | listed {id : Int} {n : Notification} {d : Dispatch} {rs : List (Int × Notification)}
    {js : List Json} (made : produce n p (preferencesFor p) = .ok d)
      (dated : Instant.read? n.createdAt.toText = some n.createdAt) (rest : Lists produce p rs js) :
      Lists produce p ((id, n) :: rs) (item id n d.message :: js)
  | passed {id : Int} {n : Notification} {e : RenderError} {rs : List (Int × Notification)}
    {js : List Json}
      (failed : produce n p (preferencesFor p) = .error e) (rest : Lists produce p rs js) :
      Lists produce p ((id, n) :: rs) js

theorem encode_entry {id : Int} {n : Notification} (h : n.id = some id) (m : Message) :
    Entry.encode ⟨n, m⟩ = item id n m := by
  simp only [Entry.encode, h]
  rfl

theorem lists_iff (numbered : ∀ r ∈ rs, r.2.id = some r.1) :
    Lists produce p rs js ↔ js = (entries produce p (rs.map (·.2))).map Entry.encode := by
  induction rs generalizing js with
  | nil =>
    constructor
    · rintro ⟨⟩
      rfl
    · rintro rfl
      exact .nil
  | cons r rs ih =>
    obtain ⟨id, n⟩ := r
    obtain ⟨hid, numbered⟩ := List.forall_mem_cons.1 numbered
    simp only [entries, List.map_cons, List.filterMap_cons, entryFor?] at ih ⊢
    cases hd : produce n p (preferencesFor p) with
    | error e =>
      constructor
      · intro h
        cases h with
        | listed made _ => cases hd.symm.trans made
        | passed _ rest => exact (ih numbered).1 rest
      · exact fun h => .passed hd ((ih numbered).2 h)
    | ok d =>
      rw [List.map_cons, encode_entry hid]
      constructor
      · intro h
        cases h with
        | listed made _ rest =>
          cases hd.symm.trans made
          rw [(ih numbered).1 rest]
        | passed failed => cases hd.symm.trans failed
      · rintro rfl
        exact .listed hd n.createdAt.read?_toText ((ih numbered).2 rfl)

theorem lists_nil_iff : Lists produce p rs [] ↔
    ∀ r ∈ rs, ∃ e, produce r.2 p (preferencesFor p) = .error e := by
  constructor
  · intro h
    generalize hjs : ([] : List Json) = js at h
    induction h with
    | nil => simp
    | listed => cases hjs
    | passed failed _ ih => exact List.forall_mem_cons.2 ⟨⟨_, failed⟩, ih hjs⟩
  · intro h
    induction rs with
    | nil => exact .nil
    | cons r rs ih =>
      obtain ⟨⟨e, he⟩, h⟩ := List.forall_mem_cons.1 h
      exact .passed he (ih h)

def listing (user : String) (js : List Json) : Json :=
  .object [("channel", .text "feed"), ("user_id", .text user), ("entries", .array js)]

theorem serve_eq (known : s.preferences.get? user = some p) (audiences : List Audience)
    (produce : Producer) (request : Bag) :
    let es := entries produce p
      (((s.recentRecords user audiences).take (wanted p request)).map (·.2))
    serve audiences produce s user request =
      if es.isEmpty then .error (.noContent user) else .ok (document user es).toText := by
  intro es
  have he : entries produce p
    (((s.recent user audiences).drop 0).take (amount request (preferencesFor p).params)) =
      es := by rw [amount_eq, MemoryStore.recent_eq_map, List.drop_zero, ← List.map_take]
  simp only [serve, Store.getPreferences, Store.getRecent, known, he]
  cases es <;> rfl

theorem id_of_mem_take {k : Nat} :
    ∀ r ∈ (s.recentRecords user audiences).take k, r.2.id = some r.1 := fun r hr =>
  MemoryStore.id_of_find? (((s.newest_recentRecords user audiences).all r.1 r.2).1
    (List.mem_of_mem_take hr)).1

theorem serve_eq_error {e : PullError} (known : s.preferences.get? user = some p) :
    serve audiences produce s user request = .error e ↔
      e = .noContent user ∧ Lists produce p
        ((s.recentRecords user audiences).take (wanted p request)) [] := by
  rw [lists_iff id_of_mem_take, serve_eq known]
  cases entries produce p (((s.recentRecords user audiences).take (wanted p request)).map
    (·.2)) with
  | nil => simp [eq_comm]
  | cons a es => simp

theorem serve_eq_ok {text : String} (known : s.preferences.get? user = some p) :
    serve audiences produce s user request = .ok text ↔ ∃ js, js ≠ [] ∧
      Lists produce p ((s.recentRecords user audiences).take (wanted p request)) js ∧
      text = (listing user js).toText := by
  simp only [lists_iff id_of_mem_take, serve_eq known]
  cases entries produce p (((s.recentRecords user audiences).take (wanted p request)).map
    (·.2)) with
  | nil => simp
  | cons a es =>
    constructor
    · rintro ⟨⟩
      exact ⟨_, List.cons_ne_nil _ _, rfl, rfl⟩
    · rintro ⟨_, -, rfl, rfl⟩
      rfl

/-- To a user that it knows the feed looks at the newest notifications for its audiences, as many as
are wanted. It says that there is nothing if none of them has content, and fails in no other way.
Otherwise its text is a document that lists those that have content, in that order, each one with
its own number, key, date of making, subject and body. -/
theorem serves_newest (known : s.preferences.get? user = some p) (audiences : List Audience)
    (produce : Producer) (request : Bag) : ∃ l, (∀ l', s.Newest user audiences l' ↔ l' = l) ∧
      (serve audiences produce s user request = .error (.noContent user) ↔
        ∀ r ∈ l.take (wanted p request), ∃ e, produce r.2 p (preferencesFor p) = .error e) ∧
      (∀ e, serve audiences produce s user request = .error e → e = .noContent user) ∧
      ∀ text, serve audiences produce s user request = .ok text ↔
        ∃ js, js ≠ [] ∧ Lists produce p (l.take (wanted p request)) js ∧
          text = (listing user js).toText ∧
          Json.Doc.read? text.toList = some (.ofJson (listing user js)) := by
  have hl := s.newest_recentRecords user audiences
  refine ⟨_, fun l' => ⟨fun h => h.unique hl, fun h => h ▸ hl⟩, ?_,
    fun e h => ((serve_eq_error known).1 h).1, fun text => ?_⟩
  · rw [serve_eq_error known, ← lists_nil_iff]
    exact and_iff_right rfl
  · rw [serve_eq_ok known]
    constructor
    · rintro ⟨js, ne_nil, listed, rfl⟩
      exact ⟨js, ne_nil, listed, rfl, Json.Doc.read?_toText _⟩
    · rintro ⟨js, ne_nil, listed, written, -⟩
      exact ⟨js, ne_nil, listed, written⟩

theorem serves_newest_of_four :
    let c : ChannelPreferences := { params := Bag.empty.set amountKey 2 }
    let p : Preferences := { user := "ann", channels := .ofList [(id, { channel := c })] }
    let told (user key : String) : Notification :=
      { Notification.create user key .epoch with audience := .everyone }
    let produce : Producer := fun n _ _ =>
      if n.templateKey = "torn" then .error (.templateNotFound "torn")
      else .ok ⟨⟨.text, n.user, n.templateKey⟩, .empty⟩
    let s : MemoryStore :=
      (Store.savePreferences p ((((MemoryStore.empty.append (told "ann" "old")).append
      (told "ann" "news")).append (told "ann" "torn")).append (told "bob" "news"))).2
    s.preferences.get? "ann" = some p ∧ serve [.everyone] produce s "ann" .empty =
      .ok (listing "ann" [item 2 { told "ann" "news" with id := some 2 } ⟨.text, "ann",
        "news"⟩]).toText := by
  intro c p told produce s
  have known : s.preferences.get? "ann" = some p := by decide +kernel
  let l : List (Int × Notification) := [(3, { told "ann" "torn" with id := some 3 }),
    (2, { told "ann" "news" with id := some 2 }), (1, { told "ann" "old" with id := some 1 })]
  have newest : s.Newest "ann" [.everyone] l := by
    have own : ∀ r ∈ l, r.2.user = "ann" ∧ r.2.audience ∈ [Audience.everyone] := by decide +kernel
    refine ⟨fun id n => ?_, by simp [l, MemoryStore.Newer, told, Notification.create]⟩
    have hm : (id, n) ∈ s.records ↔
        (id, n) ∈ l ∨ (id, n) = (4, { told "bob" "news" with id := some 4 }) := by
      change (id, n) ∈ [_, _, _, _] ↔ _
      simp only [l, List.mem_cons, List.not_mem_nil, or_false]
      tauto
    rw [MemoryStore.find?_eq_some, hm]
    constructor
    · exact fun h => ⟨.inl h, own _ h⟩
    · rintro ⟨h | h, hu, -⟩
      · exact h
      · cases h
        exact absurd hu (by decide)
  obtain ⟨l', hl, -, -, ht⟩ := serves_newest known [.everyone] produce .empty
  cases (hl l).1 newest
  refine ⟨known, (ht _).2 ⟨_, List.cons_ne_nil _ _, ?_, rfl, Json.Doc.read?_toText _⟩⟩
  have hw : wanted p .empty = 2 := by decide +kernel
  rw [hw]
  exact .passed rfl (.listed (d := ⟨⟨.text, "ann", "news"⟩, .empty⟩) rfl
    (Instant.read?_toText _) .nil)

end Herald.Feed
