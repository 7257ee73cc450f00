import Herald.Channel.Feed
import Herald.Proofs.Store.Recent
import Herald.Service
/-!
Who may have a feed, and what it is made of. The secret decides, in whatever way it is missed the
answer is the same, and nothing of other users or for other audiences can be told from a feed.
-/

set_option autoImplicit false

namespace Herald

namespace MemoryStore

variable {s t : MemoryStore} {user : String} {audiences : List Audience}

/-- The stores hold the same preferences of the user, and the same notifications of the user for
these audiences. -/
structure AgreeOn (user : String) (audiences : List Audience) (s t : MemoryStore) : Prop where
  preferences : s.preferences.get? user = t.preferences.get? user
  notifications : ∀ (id : Int) (n : Notification), n.user = user → n.audience ∈ audiences →
    (s.find? id = some n ↔ t.find? id = some n)

theorem AgreeOn.recent_eq (h : AgreeOn user audiences s t) :
    s.recent user audiences = t.recent user audiences := by
  have hs := s.newest_recentRecords user audiences
  have ht := t.newest_recentRecords user audiences
  have hst : s.Newest user audiences (t.recentRecords user audiences) := by
    refine ⟨fun id n => (ht.all id n).trans (and_congr_left fun hn => ?_), ht.ordered⟩
    exact (h.notifications id n hn.1 hn.2).symm
  rw [recent_eq_map, recent_eq_map, hs.unique hst]

end MemoryStore

namespace Feed

variable {s t : MemoryStore} {user : String} {audiences : List Audience}
    {produce : Producer} {request : Bag}

/-- The request names a secret that is not empty, and the user keeps the same one for the feed. -/
def Admits (s : MemoryStore) (user : String) (request : Bag) : Prop :=
  ∃ secret p c, secret ≠ "" ∧ request.getValue "secret" = some (.text secret) ∧
    s.preferences.get? user = some p ∧ p.channel? id = some c ∧
      c.params.getValue "secret" = some (.text secret)

theorem get_secretKey_eq_some {b : Bag} {secret : String} :
    b.get secretKey = some secret ↔ b.getValue "secret" = some (.text secret) := by
  simp only [Bag.get, secretKey]
  cases b.getValue "secret" with
  | none => simp
  | some v => cases v <;> simp [Value.as?]

theorem isAuthorized_eq (s : MemoryStore) (user : String) (request : Bag) :
    ∃ b, isAuthorized s user request = .ok b ∧ (b = true ↔ Admits s user request) := by
  simp only [isAuthorized, Store.getPreferences, Admits, ← get_secretKey_eq_some]
  split
  · next hr => exact ⟨false, rfl, by simp [hr]⟩
  · next hr =>
    refine ⟨false, rfl, iff_of_false Bool.false_ne_true ?_⟩
    rintro ⟨secret, _, _, hne, hs, _⟩
    exact hne (Option.some.inj (hs.symm.trans hr))
  · next secret hne hr =>
    cases hp : s.preferences.get? user with
    | none => exact ⟨false, rfl, by simp⟩
    | some p =>
      refine ⟨((p.channel? id).bind fun c => c.params.get secretKey) == some secret, rfl, ?_⟩
      rw [beq_iff_eq, Option.bind_eq_some_iff]
      constructor
      · rintro ⟨c, hc, hs⟩
        exact ⟨secret, p, c, hne, hr, rfl, hc, hs⟩
      · rintro ⟨secret', p', c, -, hr', ⟨⟩, hc, hs⟩
        cases hr.symm.trans hr'
        exact ⟨c, hc, hs⟩

theorem isConfigured_iff {b : Bag} :
    isConfigured b = true ↔ ∃ secret, b.get secretKey = some secret ∧ secret ≠ "" := by
  simp [isConfigured, Option.any_eq_true]

/-- The feed is configured for the users whom some request opens it to, and for no others. -/
theorem exists_admits_iff : (∃ request, Admits s user request) ↔
    ∃ p c, s.preferences.get? user = some p ∧ p.channel? id = some c ∧
      isConfigured c.params = true := by
  constructor
  · rintro ⟨request, secret, p, c, hne, -, hp, hc, hs⟩
    exact ⟨p, c, hp, hc, isConfigured_iff.2 ⟨secret, get_secretKey_eq_some.2 hs, hne⟩⟩
  · rintro ⟨p, c, hp, hc, hconf⟩
    obtain ⟨secret, hget, hne⟩ := isConfigured_iff.1 hconf
    have hs := get_secretKey_eq_some.1 hget
    exact ⟨c.params, secret, p, c, hne, hs, hp, hc, hs⟩

theorem serve_eq_of_agree (h : s.AgreeOn user audiences t) :
    serve audiences produce s user request = serve audiences produce t user request := by
  simp only [serve, Store.getPreferences, Store.getRecent, h.preferences, h.recent_eq]

/-- To one who is admitted the feed says what it has, or that it has nothing. -/
theorem serve_of_admits (h : Admits s user request) :
    (∃ text, serve audiences produce s user request = .ok text) ∨
      serve audiences produce s user request = .error (.noContent user) := by
  obtain ⟨-, p, -, -, -, hp, -⟩ := h
  simp only [serve, Store.getPreferences, Store.getRecent, hp]
  split
  · exact .inr rfl
  · exact .inl ⟨_, rfl⟩

theorem admits_iff_of_agree (h : s.AgreeOn user audiences t) : Admits s user request ↔
    Admits t user request := by
  simp only [Admits, h.preferences]

end Feed

namespace Service

variable {σ τ : Type} {sv : Service MemoryStore σ τ} {audiences : List Audience}
    {produce : Producer} {user : String} {request : Bag} {v w : World MemoryStore σ}

theorem pull_of_not_admits (hc : sv.pullChannel? Feed.id = some (Feed.channel audiences))
    (h : ¬ Feed.Admits w.store user request) :
    sv.pull produce Feed.id user request w = (.error (.unauthorized user), w) := by
  obtain ⟨b, hb, hiff⟩ := Feed.isAuthorized_eq w.store user request
  have hfalse : b = false := Bool.eq_false_iff.2 fun hb => h (hiff.1 hb)
  subst hfalse
  simp only [pull, hc, Feed.channel, hb]

theorem pull_of_admits (hc : sv.pullChannel? Feed.id = some (Feed.channel audiences))
    (h : Feed.Admits w.store user request) : sv.pull produce Feed.id user request w =
      (Feed.serve audiences produce w.store user request, w) := by
  obtain ⟨b, hb, hiff⟩ := Feed.isAuthorized_eq w.store user request
  have htrue : b = true := hiff.2 h
  subst htrue
  simp only [pull, hc, Feed.channel, hb]

theorem pull_eq_of_agree (hc : sv.pullChannel? Feed.id = some (Feed.channel audiences))
    (h : v.store.AgreeOn user audiences w.store) :
    (sv.pull produce Feed.id user request v).1 = (sv.pull produce Feed.id user request w).1 := by
  by_cases ha : Feed.Admits v.store user request
  · rw [pull_of_admits hc ha, pull_of_admits hc ((Feed.admits_iff_of_agree h).1 ha)]
    exact Feed.serve_eq_of_agree h
  · rw [pull_of_not_admits hc ha,
      pull_of_not_admits hc fun hw => ha ((Feed.admits_iff_of_agree h).2 hw)]

/-- Only one who names the user's own secret has an answer from the feed, whether content or that
there is none; everyone else is told the same, and nothing changes. The answer depends on the user's
preferences and on the user's notifications for the feed's audiences alone. -/
theorem feed_secluded (hc : sv.pullChannel? Feed.id = some (Feed.channel audiences))
    (produce : Producer) (user : String) (request : Bag) :
    (∀ w : World MemoryStore σ,
      (¬ Feed.Admits w.store user request →
        sv.pull produce Feed.id user request w = (.error (.unauthorized user), w)) ∧
      (Feed.Admits w.store user request →
        (∃ text, sv.pull produce Feed.id user request w = (.ok text, w)) ∨
          sv.pull produce Feed.id user request w = (.error (.noContent user), w))) ∧
    ∀ v w : World MemoryStore σ, v.store.AgreeOn user audiences w.store →
      (sv.pull produce Feed.id user request v).1 = (sv.pull produce Feed.id user request w).1 := by
  refine ⟨fun w => ⟨pull_of_not_admits hc, fun ha => ?_⟩, fun v w => pull_eq_of_agree hc⟩
  rw [pull_of_admits hc ha]
  rcases Feed.serve_of_admits ha with ⟨text, he⟩ | he
  · exact .inl ⟨text, by rw [he]⟩
  · exact .inr (by rw [he])

theorem feed_secluded_of_two :
    let c : ChannelPreferences := { params := Bag.empty.set Feed.secretKey "open sesame" }
    let p : Preferences := { user := "ann", channels := .ofList [(Feed.id, { channel := c })] }
    let news (user : String) : Notification :=
      { Notification.create user "news" .epoch with audience := .everyone }
    let produce : Producer := fun n _ _ => .ok ⟨⟨.text, n.user, n.templateKey⟩, .empty⟩
    let sv : Service MemoryStore Unit Unit :=
      (Service.empty .empty).addPullChannel (Feed.channel [.everyone])
    let s : MemoryStore := (Store.savePreferences p (MemoryStore.empty.append (news "ann"))).2
    let t : MemoryStore := (Store.savePreferences { p with user := "bob" }
      ((s.append (news "bob")).append (Notification.create "ann" "news" .epoch))).2
    (Feed.Admits t "ann" c.params ∧ s.AgreeOn "ann" [.everyone] t ∧
      (sv.pull produce Feed.id "ann" c.params ⟨s, ()⟩).1 =
        (sv.pull produce Feed.id "ann" c.params ⟨t, ()⟩).1) ∧
    ¬ Feed.Admits t "ann" .empty ∧
      sv.pull produce Feed.id "ann" .empty ⟨t, ()⟩ = (.error (.unauthorized "ann"), ⟨t, ()⟩) := by
  intro c p news produce sv s t
  have h : s.AgreeOn "ann" [.everyone] t := by
    refine ⟨by decide +kernel, fun id n hu ha => ?_⟩
    have hm : (id, n) ∈ t.records ↔
        (id, n) ∈ s.records ∨ (id, n) = (2, { news "bob" with id := some 2 }) ∨
          (id, n) = (3, { Notification.create "ann" "news" .epoch with id := some 3 }) := by
      change (id, n) ∈ s.records ++ [_] ++ [_] ↔ _
      rw [List.mem_append, List.mem_append, List.mem_singleton, List.mem_singleton, or_assoc]
      rfl
    rw [MemoryStore.find?_eq_some, MemoryStore.find?_eq_some, hm, or_iff_left]
    rintro (e | e)
    · cases e
      exact absurd hu (by decide)
    · cases e
      exact absurd ha (by decide)
  have hc : Feed.Admits t "ann" c.params :=
    ⟨"open sesame", p, { channel := c },
      by decide, by decide +kernel, by decide +kernel, by decide +kernel,
      by decide +kernel⟩
  have hn : ¬ Feed.Admits t "ann" .empty := by
    rintro ⟨secret, -, -, -, hs, -⟩
    cases hs
  exact ⟨⟨hc, h, (feed_secluded rfl produce "ann" c.params).2 ⟨s, ()⟩ ⟨t, ()⟩ h⟩,
    hn, ((feed_secluded rfl produce "ann" .empty).1 ⟨t, ()⟩).1 hn⟩

end Service

end Herald
