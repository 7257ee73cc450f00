import Herald.Proofs.Json.Reading
import Herald.Store.Row
import Mathlib.Data.List.Forall2
/-!
Bags and preferences that are kept as texts: what comes back, and where a text must stand for that.
The text of a user's channels holds each bag two levels deeper than the bag's own text does.
-/

set_option autoImplicit false

namespace Herald

open Json

namespace Dict

variable {α : Type}

theorem insertEntry_of_lt {l : List (String × α)} {k : String} (v : α) (h : ∀ e ∈ l, e.1 < k) :
    insertEntry k v l = l ++ [(k, v)] := by
  induction l with
  | nil => rfl
  | cons e l ih =>
    have he : e.1 < k := h e (by simp)
    have hn : ¬ k < e.1 := fun hk => String.lt_irrefl k (String.lt_trans hk he)
    have hne : ¬ k = e.1 := fun hk => String.lt_irrefl k (hk ▸ he)
    rw [insertEntry, if_neg hn, if_neg hne, ih fun a ha => h a (List.mem_cons_of_mem _ ha)]
    rfl

theorem entries_foldl_insert {l : List (String × α)} {d : Dict α}
    (h : (d.entries ++ l).Pairwise fun a b => a.1 < b.1) :
    (l.foldl (fun d e => d.insert e.1 e.2) d).entries = d.entries ++ l := by
  induction l generalizing d with
  | nil => simp
  | cons e l ih =>
    have hi : (d.insert e.1 e.2).entries = d.entries ++ [e] := by
      refine insertEntry_of_lt e.2 fun a ha => ?_
      exact (List.pairwise_append.1 h).2.2 a ha e (by simp)
    rw [List.foldl_cons, ih (by rw [hi]; simpa using h), hi]
    simp

theorem entries_ofList {l : List (String × α)} (h : l.Pairwise fun a b => a.1 < b.1) :
    (ofList l).entries = l :=
  entries_foldl_insert (d := empty) h

theorem pairwise_of_keys {β : Type} {l : List (String × α)} {m : List (String × β)}
    (h : l.map (·.1) = m.map (·.1)) (hm : m.Pairwise fun a b => a.1 < b.1) :
    l.Pairwise fun a b => a.1 < b.1 := by
  have hk : (m.map (·.1)).Pairwise (· < ·) := List.pairwise_map.2 hm
  rw [← h] at hk
  exact List.pairwise_map.1 hk

theorem get?_mapVal {β : Type} (f : α → β) (d : Dict α) (k : String) :
    (d.mapVal fun _ a => f a).get? k = (d.get? k).map f := by
  simp only [get?, mapVal]
  induction d.entries with
  | nil => rfl
  | cons e l ih =>
    by_cases hk : k = e.1
    · simp [findEntry, hk]
    · simpa [findEntry, hk] using ih

theorem mapVal_insert {β : Type} (f : α → β) (d : Dict α) (k : String) (v : α) :
    (d.insert k v).mapVal (fun _ a => f a) = (d.mapVal fun _ a => f a).insert k (f v) := by
  refine ext_get? fun other => ?_
  rw [get?_mapVal, get?_insert, get?_insert, get?_mapVal]
  split <;> rfl

theorem mapVal_erase {β : Type} (f : α → β) (d : Dict α) (k : String) :
    (d.erase k).mapVal (fun _ a => f a) = (d.mapVal fun _ a => f a).erase k := by
  refine ext_get? fun other => ?_
  rw [get?_mapVal, get?_erase, get?_erase, get?_mapVal]
  split <;> rfl

end Dict

namespace Json.Doc

section Entries

variable {α β : Type} (read : Doc → Option α)

variable {read} in
theorem keys_readEntries? {ms : List (String × Json)} {l : List (String × α)}
    (h : readEntries? read (ofMembers ms) = some l) : l.map (·.1) = ms.map (·.1) := by
  induction ms generalizing l with
  | nil =>
    cases h
    rfl
  | cons m ms ih =>
    obtain ⟨k, j⟩ := m
    simp only [ofMembers, readEntries?, Option.bind_eq_bind, Option.bind_some,
      Option.bind_eq_some_iff, Option.pure_def, Option.some.injEq] at h
    obtain ⟨a, _, l', hl, rfl⟩ := h
    simp only [List.map_cons, ih hl]

theorem readEntries?_ofMembers_iff (write : β → Json) (R : α → β → Prop) (l : List (String × β)) :
    (∃ l', readEntries? read (ofMembers (l.map fun e => (e.1, write e.2))) = some l' ∧
      List.Forall₂ (fun a b => a.1 = b.1 ∧ R a.2 b.2) l' l) ↔
    ∀ e ∈ l, ∃ a, read (ofJson (write e.2)) = some a ∧ R a e.2 := by
  induction l with
  | nil => simp [ofMembers, readEntries?]
  | cons e l ih =>
    rw [List.forall_mem_cons, ← ih]
    simp only [List.map_cons, ofMembers, readEntries?, Option.bind_eq_bind, Option.bind_some,
      Option.bind_eq_some_iff, Option.pure_def, Option.some.injEq]
    constructor
    · rintro ⟨_, ⟨a, ha, l', hl, rfl⟩, hs⟩
      obtain ⟨⟨_, hr⟩, hs⟩ := List.forall₂_cons.1 hs
      exact ⟨⟨a, ha, hr⟩, l', hl, hs⟩
    · rintro ⟨⟨a, ha, hr⟩, l', hl, hs⟩
      exact ⟨(e.1, a) :: l', ⟨a, ha, l', hl, rfl⟩, .cons ⟨rfl, hr⟩ hs⟩

theorem dict?_ofDict_iff (write : β → Json) (R : α → β → Prop) (d : Dict β) :
    (∃ d', (ofJson (.ofDict write d)).dict? read = some d' ∧
      List.Forall₂ (fun a b => a.1 = b.1 ∧ R a.2 b.2) d'.entries d.entries) ↔
    ∀ e ∈ d.entries, ∃ a, read (ofJson (write e.2)) = some a ∧ R a e.2 := by
  rw [← readEntries?_ofMembers_iff read]
  have hkeys : ∀ {l : List (String × α)},
      readEntries? read (ofMembers (d.entries.map fun e => (e.1, write e.2))) = some l →
      (Dict.ofList l).entries = l := by
    intro l hl
    have hk := keys_readEntries? hl
    rw [List.map_map] at hk
    exact Dict.entries_ofList (Dict.pairwise_of_keys hk d.sorted)
  simp only [Json.ofDict, ofJson, dict?, Option.map_eq_some_iff]
  constructor
  · rintro ⟨_, ⟨l, hl, rfl⟩, hs⟩
    exact ⟨l, hl, hkeys hl ▸ hs⟩
  · rintro ⟨l, hl, hs⟩
    exact ⟨Dict.ofList l, ⟨l, hl, rfl⟩, (hkeys hl).symm ▸ hs⟩

end Entries

end Json.Doc

namespace Bag

def Readable (room : Nat) (b : Bag) : Prop :=
  ((Doc.read? b.encode.toText.toList).bind (decode? room)).isSome

/-- And then it is read as an equal bag. -/
def Legible (room : Nat) (b : Bag) : Prop :=
  ∃ c, (Doc.read? b.encode.toText.toList).bind (decode? room) = some c ∧ c.same b = true

theorem read?_eq (b : Bag) :
    read? b.encode.toText = decode? Doc.maxDepth (Doc.ofJson b.encode) := by
  simp only [read?, Doc.read?_toText, Option.bind_eq_bind, Option.bind_some]

theorem readable_iff {room : Nat} {b : Bag} :
    b.Readable room ↔ (decode? room (Doc.ofJson b.encode)).isSome := by
  rw [Readable, Doc.read?_toText, Option.bind_some]

theorem legible_iff {room : Nat} {b : Bag} :
    b.Legible room ↔ ∃ c, decode? room (Doc.ofJson b.encode) = some c ∧ c.same b = true := by
  rw [Legible, Doc.read?_toText, Option.bind_some]

instance (room : Nat) : DecidablePred (Readable room) :=
  fun _ => decidable_of_iff _ readable_iff.symm

instance (room : Nat) : DecidablePred (Legible room) := fun _ => decidable_of_iff _ legible_iff.symm

theorem sound_of_decode? {room : Nat} {d : Doc} {b : Bag} (h : decode? room d = some b) :
    d.sound room = true := by
  unfold decode? at h
  split at h
  · assumption
  · cases h

end Bag

structure PushPreferences.Same (p q : PushPreferences) : Prop where
  version : p.channel.version = q.channel.version
  frequency : p.frequency = q.frequency
  params : p.params.same q.params = true

structure Preferences.Same (p q : Preferences) : Prop where
  user : p.user = q.user
  params : p.params.same q.params = true
  channels : List.Forall₂ (fun e f => e.1 = f.1 ∧
    e.2.Same f.2) p.channels.entries q.channels.entries

namespace PushPreferences

theorem decode?_encode (p : PushPreferences) (room : Nat) :
    decode? (room + 1) (Doc.ofJson p.encode) =
      (Bag.decode? room (Doc.ofJson p.params.encode)).map fun c =>
        { p with channel.params := c } := by
  generalize hd : Doc.ofJson p.params.encode = d
  have he : Doc.ofJson p.encode =
    .object [(some "version", .text (some (Named.name p.channel.version))),
      (some "params", d), (some "frequency", .text (some (Named.name p.frequency)))] := by
    rw [← hd]
    rfl
  have hv : Named.decode? true (.text (some (Named.name p.channel.version))) =
      some p.channel.version :=
    Named.ofName?_name _
  have hf : Named.decode? false (.text (some (Named.name p.frequency))) = some p.frequency :=
    Named.ofName?_name _
  rw [he]
  cases hb : Bag.decode? room d with
  | none =>
    simp [decode?, Doc.fields?, Doc.members?, Dict.findEntry, ChannelPreferences.ofFields?,
      Fields.withDefault, Fields.find?, hv, hb]
  | some c =>
    have hs := Bag.sound_of_decode? hb
    simp [decode?, Doc.fields?, Doc.members?, Doc.soundMembers, Doc.sound, Dict.findEntry, hs,
      ChannelPreferences.ofFields?, Fields.withDefault, Fields.find?, hv, hf, hb]

theorem decode?_encode_iff {p : PushPreferences} {room : Nat} :
    (∃ q, decode? (room + 1) (Doc.ofJson p.encode) = some q ∧ q.Same p) ↔
    p.params.Legible room := by
  rw [decode?_encode, Bag.legible_iff]
  constructor
  · rintro ⟨q, hq, hs⟩
    obtain ⟨c, hc, rfl⟩ := Option.map_eq_some_iff.1 hq
    exact ⟨c, hc, hs.params⟩
  · rintro ⟨c, hc, hs⟩
    exact ⟨{ p with channel.params := c }, by rw [hc]; rfl, rfl, rfl, hs⟩

end PushPreferences

namespace PreferencesRow

theorem readChannels?_ofPreferences_iff {p : Preferences} :
    (∃ d, readChannels? (ofPreferences p).channels = some d ∧
      List.Forall₂ (fun e f => e.1 = f.1 ∧ e.2.Same f.2) d.entries p.channels.entries) ↔
    ∀ e ∈ p.channels.entries, e.2.params.Legible (Doc.maxDepth - 2) := by
  have hr : readChannels? (ofPreferences p).channels = (Doc.ofJson (.ofDict PushPreferences.encode
      p.channels)).dict? (PushPreferences.decode? (Doc.maxDepth - 2 + 1)) := by
    simp only [readChannels?, ofPreferences, Doc.read?_toText, Option.bind_eq_bind,
      Option.bind_some]
    rfl
  rw [hr, Doc.dict?_ofDict_iff]
  exact forall₂_congr fun e _ => PushPreferences.decode?_encode_iff

theorem preferences_ofPreferences_iff [Objections] {p : Preferences} :
    (∃ q, (ofPreferences p).preferences p.user = .ok q ∧ q.Same p) ↔
    p.params.Legible Doc.maxDepth ∧
      ∀ e ∈ p.channels.entries, e.2.params.Legible (Doc.maxDepth - 2) := by
  have hb : Bag.read? (ofPreferences p).params =
      Bag.decode? Doc.maxDepth (Doc.ofJson p.params.encode) := Bag.read?_eq p.params
  rw [← readChannels?_ofPreferences_iff, Bag.legible_iff, ← hb]
  unfold preferences
  constructor
  · rintro ⟨q, hq, hs⟩
    cases hp : Bag.read? (ofPreferences p).params with
    | none =>
      rw [hp] at hq
      cases hq
    | some b =>
      cases hc : readChannels? (ofPreferences p).channels with
      | none =>
        rw [hp, hc] at hq
        cases hq
      | some d =>
        rw [hp, hc] at hq
        cases hq
        exact ⟨⟨b, rfl, hs.params⟩, d, rfl, hs.channels⟩
  · rintro ⟨⟨b, hp, hs⟩, d, hc, hds⟩
    exact ⟨⟨p.user, b, d⟩, by rw [hp, hc], rfl, hs, hds⟩

end PreferencesRow

end Herald
