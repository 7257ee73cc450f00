import Herald.Preferences.Codec
import Herald.Proofs.Bag.Exactness
import Herald.Proofs.Codec.Fields
/-!
What is written of each record comes back, up to the defaults that its bags remember. And what was
read has a document that can be read.
-/

set_option autoImplicit false

namespace Herald

open Json

theorem orNull?_text (o : Option String) :
    orNull? Doc.text? (Doc.ofJson (.ofOption .text o)) = some o :=
  orNull?_ofOption fun _ _ => ⟨nofun, rfl⟩

namespace Confirmation

@[simp] theorem decode?_encode (c : Confirmation) : decode? (Doc.ofJson c.encode) = some c := by
  simp [decode?, encode, Doc.fields?_ofJson, Fields.required, Fields.find?, Dict.findEntry]

theorem orNull?_ofOption (o : Option Confirmation) :
    orNull? decode? (Doc.ofJson (.ofOption encode o)) = some o :=
  Herald.orNull?_ofOption fun c _ => ⟨nofun, decode?_encode c⟩

theorem depth_encode (c : Confirmation) : c.encode.depth = 1 := rfl

end Confirmation

namespace PushStatus

@[simp] theorem decode?_encode (s : PushStatus) : decode? (Doc.ofJson s.encode) = some s := by
  simp [decode?, encode, Doc.fields?_ofJson, Fields.required, Fields.find?, Dict.findEntry,
    Fields.nullable_eq, orNull?_text]

theorem depth_encode (s : PushStatus) : s.encode.depth = 1 := by
  obtain ⟨state, date, errorCount, errorMessage⟩ := s
  cases errorMessage <;> rfl

end PushStatus

namespace Message

@[simp] theorem decode?_encode (m : Message) : decode? (Doc.ofJson m.encode) = some m := by
  simp [decode?, encode, Doc.fields?_ofJson, Fields.required, Fields.find?, Dict.findEntry]

theorem depth_encode (m : Message) : m.encode.depth = 1 := rfl

end Message

namespace Mail

theorem decode?_encode (m : Mail) : decode? (Doc.ofJson m.encode) = some m := by
  simp [decode?, encode, Doc.fields?_ofJson, Fields.required, Fields.find?, Dict.findEntry]

theorem depth_encode (m : Mail) : m.encode.depth = 1 := rfl

end Mail

namespace LoggingSettings

theorem decode?_encode (s : LoggingSettings) : decode? (Doc.ofJson s.encode) = some s := by
  simp [decode?, encode, Doc.fields?_ofJson, Fields.withDefault_eq, Fields.find?,
    Dict.findEntry, orNull?_text]

theorem depth_encode (s : LoggingSettings) : s.encode.depth = 1 := by
  obtain ⟨filter, json⟩ := s
  cases filter <;> rfl

end LoggingSettings

namespace Config

theorem decode?_encode (c : Config) : decode? (Doc.ofJson c.encode) = some c := by
  have hb := Doc.list?_ofJson Doc.uint64?_ofJson c.backoffSecs
  simp [decode?, encode, Doc.fields?_ofJson, Fields.withDefault_eq, Fields.find?,
    Dict.findEntry, orNull?_text, hb]

theorem depth_encode_le (c : Config) : c.encode.depth ≤ 2 := by
  simp [encode, depth_object_le_iff, depth_array_le_iff, depth_ofOption_le_iff]

end Config

namespace WebhookConfig

theorem decode?_encode (c : WebhookConfig) : decode? (Doc.ofJson c.encode) = some c := by
  have hh :
    (Doc.ofJson (.array (c.headers.map fun h => .array [.text h.1, .text h.2]))).list? header? =
      some c.headers := Doc.list?_ofJson (fun _ => rfl) c.headers
  simp [decode?, encode, Doc.fields?_ofJson, Fields.withDefault_eq, Fields.find?,
    Dict.findEntry, hh]

theorem depth_encode_le (c : WebhookConfig) : c.encode.depth ≤ 3 := by
  have hh : (Json.array (c.headers.map fun h => .array [.text h.1, .text h.2])).depth ≤ 2 := by
    rw [depth_array_le_iff, List.forall_mem_map]
    exact ⟨by decide, fun _ _ => Nat.le_refl 1⟩
  simp [encode, depth_object_le_iff, hh]

end WebhookConfig

namespace Span

theorem eq_of_nanos {d e : Span} (h : d.nanos = e.nanos) : d = e := by
  cases d
  cases e
  cases h
  rfl

theorem toNat_subNanos (d : Span) : (UInt32.ofNat d.subNanos).toNat = d.subNanos :=
  UInt32.toNat_ofNat_of_lt' (Nat.lt_trans (Nat.mod_lt _ (by decide))
    (by decide : 1000000000 < UInt32.size))

theorem ofParts?_secs (d : Span) : ofParts? d.secs (.ofNat d.subNanos) = some d := by
  have hd : d.secs.toNat * 1000000000 + (UInt32.ofNat d.subNanos).toNat = d.nanos := by
    rw [toNat_subNanos, toNat_secs, subNanos]
    omega
  have hb := d.bounded
  rw [← hd] at hb
  rw [ofParts?, dif_pos hb]
  exact congrArg some (eq_of_nanos hd)

theorem ofSecs_secs {d : Span} (h : d.subNanos = 0) : ofSecs d.secs = d := by
  rw [subNanos] at h
  refine eq_of_nanos ?_
  show d.secs.toNat * 1000000000 = d.nanos
  rw [toNat_secs]
  omega

@[simp] theorem decode?_encode (d : Span) : decode? (Doc.ofJson d.encode) = some d := by
  have hf : (Doc.ofJson d.encode).fields? ["secs", "nanos"] = some ⟨false,
      [("secs", Doc.ofJson (.ofNat d.secs.toNat)), ("nanos", Doc.ofJson (.ofNat d.subNanos))]⟩ :=
    Doc.fields?_ofJson rfl (by decide)
  have he : Doc.ofJson d.encode = .object [(some "secs", Doc.ofJson (.ofNat d.secs.toNat)),
      (some "nanos", Doc.ofJson (.ofNat d.subNanos))] := rfl
  have hn := Doc.uint32?_ofJson (.ofNat d.subNanos)
  rw [toNat_subNanos] at hn
  rw [decode?, hf, he]
  simp only [Option.bind_eq_bind, Option.bind_some, List.length_cons, List.length_nil,
    BEq.rfl, if_true, Fields.required, Fields.find?, Dict.findEntry, String.reduceEq, if_false]
  rw [hn, Doc.uint64?_ofJson, Option.bind_some, Option.bind_some, ofParts?_secs]

theorem depth_encode (d : Span) : d.encode.depth = 1 := rfl

end Span

namespace WorkerPoolConfig

theorem decode?_encode (c : WorkerPoolConfig) : decode? (Doc.ofJson c.encode) = some c := by
  simp [decode?, encode, Doc.fields?_ofJson, Fields.required, Fields.find?, Dict.findEntry]

theorem depth_encode (c : WorkerPoolConfig) : c.encode.depth = 2 := rfl

end WorkerPoolConfig

namespace BackoffTable

def Whole (t : BackoffTable) : Prop := ∀ d ∈ t.delays, d.subNanos = 0

instance : DecidablePred Whole := fun t => inferInstanceAs (Decidable (∀ d ∈ t.delays, _))

theorem decode?_encode {t : BackoffTable} (h : t.Whole) :
    decode? (Doc.ofJson t.encode) = some t := by
  have hs : t.secs.map Span.ofSecs = t.delays := by
    rw [secs, List.map_map]
    exact (List.map_congr_left fun d hd => Span.ofSecs_secs (h d hd)).trans (List.map_id _)
  rw [decode?, encode, Doc.list?_ofJson Doc.uint64?_ofJson, Option.bind_some, ofSecs?, hs, ofSpans?,
    dif_neg t.ne_nil, dif_pos t.climbs]
  rfl

theorem whole_of_decode? {d : Doc} {t : BackoffTable} (h : decode? d = some t) : t.Whole := by
  obtain ⟨l, -, h⟩ := Option.bind_eq_some_iff.1 h
  rw [ofSecs?, ofSpans?] at h
  split at h
  · cases h
  · split at h
    · cases h
      rintro x hx
      obtain ⟨s, -, rfl⟩ := List.mem_map.1 hx
      exact Nat.mul_mod_left _ _
    · cases h

end BackoffTable

namespace RetryPolicy

theorem decode?_encode {p : RetryPolicy} (h : p.backoff.Whole) :
    decode? (Doc.ofJson p.encode) = some p := by
  simp [decode?, encode, Doc.fields?_ofJson, Fields.withDefault_eq, Fields.find?, Dict.findEntry,
    BackoffTable.decode?_encode h]

theorem whole_of_decode? {d : Doc} {p : RetryPolicy} (h : decode? d = some p) :
    p.backoff.Whole := by
  simp only [decode?, Option.bind_eq_bind, Option.bind_eq_some_iff, Option.pure_def,
    Option.some.injEq] at h
  obtain ⟨f, -, count, -, t, ht, rfl⟩ := h
  rcases Fields.of_withDefault ht with rfl | ⟨d, hd⟩
  · show BackoffTable.standard.Whole
    decide
  · exact BackoffTable.whole_of_decode? hd

theorem depth_encode_le (p : RetryPolicy) : p.encode.depth ≤ 2 := by
  simp [encode, BackoffTable.encode, depth_object_le_iff, depth_array_le_iff]

end RetryPolicy

namespace Bag

theorem of_withDefault {f : Fields} {name : String} {room : Nat} (hr : 0 < room) {b : Bag}
    (h : f.withDefault name (decode? room) .empty = some b) :
    b.bare = b ∧ b.encode.depth ≤ room := by
  rcases Fields.of_withDefault h with rfl | ⟨d, hd⟩
  · exact ⟨rfl, hr⟩
  · exact ⟨bare_of_decode? hd, depth_of_decode? hd⟩

end Bag

namespace Notification

def bare (n : Notification) : Notification := { n with params := n.params.bare }

def Numbered (n : Notification) : Prop := ∀ i ∈ n.id, -Doc.int64Limit ≤ i ∧ i < Doc.int64Limit

theorem orNull?_id {o : Option Int} (h : ∀ i ∈ o, -Doc.int64Limit ≤ i ∧ i < Doc.int64Limit) :
    orNull? (Doc.integer? (-Doc.int64Limit) Doc.int64Limit) (Doc.ofJson (.ofOption .ofInt o)) =
      some o := by
  refine orNull?_ofOption fun i hi => ?_
  have hr := Doc.integer?_ofJson (h i hi) (by decide) (by decide)
  refine ⟨fun hn => ?_, hr⟩
  rw [hn] at hr
  cases hr

theorem decode?_encode {n : Notification} {room : Nat} (hid : n.Numbered) (hk : n.params.Faithful)
    (hd : n.encode.depth ≤ room) : decode? room (Doc.ofJson n.encode) = some n.bare := by
  have hb : Bag.decode? (room - 1) (Doc.ofJson n.params.encode) = some n.params.bare :=
    Bag.decode?_encode hk ((depth_object_le_iff.1 hd).2 ("params", n.params.encode) (by simp))
  simp [decode?, encode, Doc.fields?_ofJson, Fields.required, Fields.find?, Dict.findEntry,
    Fields.nullable_eq, orNull?_id hid, Confirmation.orNull?_ofOption, hb, bare]

theorem of_decode? {d : Doc} {n : Notification} {room : Nat} (h : decode? room d = some n)
    (hr : 1 < room) : n.Numbered ∧ n.bare = n ∧ n.encode.depth ≤ room := by
  simp only [decode?, Option.bind_eq_bind, Option.bind_eq_some_iff, Option.pure_def,
    Option.some.injEq] at h
  obtain ⟨f, -, id, hid, user, -, key, -, audience, -, created, -, params, hp, confirmation, -,
      push, -, rfl⟩ :=
    h
  obtain ⟨_, -, hp⟩ := Option.bind_eq_some_iff.1 hp
  refine ⟨fun i hi => ?_, congrArg (Notification.mk _ _ _ _ _ · _ _) (Bag.bare_of_decode? hp), ?_⟩
  · obtain ⟨_, hi⟩ := Fields.of_nullable hid i hi
    exact Doc.of_integer? hi
  · have hd := Bag.depth_of_decode? hp
    have hone : 1 ≤ room - 1 := by omega
    have hroom : 0 < room := by omega
    simp [encode, depth_object_le_iff, depth_ofOption_le_iff, Confirmation.depth_encode,
      PushStatus.depth_encode, hd, hone, hroom]

end Notification

namespace ChannelPreferences

def bare (p : ChannelPreferences) : ChannelPreferences := { p with params := p.params.bare }

theorem decode?_encode {p : ChannelPreferences} {room : Nat} (hk : p.params.Faithful)
    (hd : p.encode.depth ≤ room) : decode? room (Doc.ofJson p.encode) = some p.bare := by
  have hb : Bag.decode? (room - 1) (Doc.ofJson p.params.encode) = some p.params.bare :=
    Bag.decode?_encode hk ((depth_object_le_iff.1 hd).2 ("params",
      p.params.encode) (by simp [members]))
  simp [decode?, ofFields?, encode, members, Doc.fields?_ofJson,
    Fields.withDefault_eq, Fields.find?, Dict.findEntry, hb, bare]

theorem of_ofFields? {loose : Bool} {f : Fields} {p : ChannelPreferences} {room : Nat}
    (h : ofFields? loose room f = some p) (hr : 1 < room) :
    p.bare = p ∧ p.params.encode.depth ≤ room - 1 := by
  simp only [ofFields?, Option.bind_eq_bind, Option.bind_eq_some_iff, Option.pure_def,
    Option.some.injEq] at h
  obtain ⟨version, -, params, hp, rfl⟩ := h
  obtain ⟨hb, hd⟩ := Bag.of_withDefault (by omega) hp
  exact ⟨congrArg (ChannelPreferences.mk _) hb, hd⟩

theorem of_decode? {d : Doc} {p : ChannelPreferences} {room : Nat} (h : decode? room d = some p)
    (hr : 1 < room) : p.bare = p ∧ p.encode.depth ≤ room := by
  obtain ⟨f, -, h⟩ := Option.bind_eq_some_iff.1 h
  obtain ⟨hb, hd⟩ := of_ofFields? h hr
  refine ⟨hb, ?_⟩
  simp [encode, members, depth_object_le_iff, hd]
  omega

end ChannelPreferences

namespace PushPreferences

def bare (p : PushPreferences) : PushPreferences := { p with channel := p.channel.bare }

theorem decode?_of_depth {p : PushPreferences} {room : Nat} (hk : p.params.Faithful)
    (hd : p.encode.depth ≤ room) : decode? room (Doc.ofJson p.encode) = some p.bare := by
  obtain ⟨hroom, hms⟩ := depth_object_le_iff.1 hd
  have hb : Bag.decode? (room - 1) (Doc.ofJson p.params.encode) = some p.params.bare :=
    Bag.decode?_encode hk (hms ("params",
      p.params.encode) (by simp [ChannelPreferences.members, params]))
  -- the flattened fields are read whatever becomes of the bag
  have he := decode?_encode p (room - 1)
  rw [Nat.sub_add_cancel hroom, hb] at he
  exact he

theorem of_decode? {d : Doc} {p : PushPreferences} {room : Nat} (h : decode? room d = some p)
    (hr : 1 < room) : p.bare = p ∧ p.encode.depth ≤ room := by
  unfold decode? at h
  split at h
  · obtain ⟨f, -, h⟩ := Option.bind_eq_some_iff.1 h
    split at h
    · simp only [Option.bind_eq_bind, Option.bind_eq_some_iff, Option.pure_def,
        Option.some.injEq] at h
      obtain ⟨channel, hc, frequency, -, rfl⟩ := h
      obtain ⟨hb, hd⟩ := ChannelPreferences.of_ofFields? hc hr
      refine ⟨congrArg (PushPreferences.mk · _) hb, ?_⟩
      simp [encode, ChannelPreferences.members, depth_object_le_iff, hd]
      omega
    · cases h
  · cases h

end PushPreferences

namespace Preferences

def bare (p : Preferences) : Preferences :=
  { p with params := p.params.bare, channels := p.channels.mapVal fun _ q => q.bare }

def bags (p : Preferences) : List Bag := p.params :: p.channels.entries.map (·.2.params)

theorem channels_of_depth {d : Dict PushPreferences} {room : Nat}
    (hk : ∀ e ∈ d.entries, e.2.params.Faithful)
    (hd : (Json.ofDict PushPreferences.encode d).depth ≤ room) :
    (Doc.ofJson (.ofDict PushPreferences.encode d)).dict? (PushPreferences.decode? (room - 1)) =
      some (d.mapVal fun _ q => q.bare) := by
  have hdepth := (depth_object_le_iff.1 hd).2
  rw [List.forall_mem_map] at hdepth
  obtain ⟨t, ht, hs⟩ :=
    (Doc.dict?_ofDict_iff (PushPreferences.decode? (room - 1)) PushPreferences.encode
    (fun a b => a = b.bare) d).2 fun e he =>
      ⟨e.2.bare, PushPreferences.decode?_of_depth (hk e he) (hdepth e he), rfl⟩
  have he : t = d.mapVal fun _ q => q.bare := by
    refine Dict.ext ?_
    rw [Dict.mapVal, ← List.forall₂_eq_eq_eq, List.forall₂_map_right_iff]
    exact hs.imp fun _ _ h => Prod.ext h.1 h.2
  rw [← he]
  exact ht

theorem decode?_encode {p : Preferences} {room : Nat} (hk : ∀ b ∈ p.bags, b.Faithful)
    (hd : p.encode.depth ≤ room) : decode? room (Doc.ofJson p.encode) = some p.bare := by
  obtain ⟨hroom, hms⟩ := depth_object_le_iff.1 hd
  obtain ⟨hown, hchannels⟩ := List.forall_mem_cons.1 hk
  rw [List.forall_mem_map] at hchannels
  have hb : Bag.decode? (room - 1) (Doc.ofJson p.params.encode) = some p.params.bare :=
    Bag.decode?_encode hown (hms ("params", p.params.encode) (by simp))
  have hc := channels_of_depth hchannels
    (hms ("channel_prefs", .ofDict PushPreferences.encode p.channels) (by simp))
  have hroom : room - 1 - 1 = room - 2 := by omega
  rw [hroom] at hc
  simp [decode?, encode, Doc.fields?_ofJson, Fields.required, Fields.withDefault_eq, Fields.find?,
    Dict.findEntry, hb, hc, bare]

theorem of_decode? {d : Doc} {p : Preferences} {room : Nat} (h : decode? room d = some p)
    (hr : 3 < room) : p.bare = p ∧ p.encode.depth ≤ room := by
  simp only [decode?, Option.bind_eq_bind, Option.bind_eq_some_iff, Option.pure_def,
    Option.some.injEq] at h
  obtain ⟨f, -, user, -, params, hp, channels, hc, rfl⟩ := h
  obtain ⟨hb, hd⟩ := Bag.of_withDefault (by omega) hp
  have hq : ∀ e ∈ channels.entries, e.2.bare = e.2 ∧ e.2.encode.depth ≤ room - 2 := by
    rcases Fields.of_withDefault hc with rfl | ⟨d, hc⟩
    · intro e he
      cases he
    · obtain ⟨ms, -, hms⟩ := Doc.of_dict? hc
      intro e he
      obtain ⟨x, -, hx⟩ := hms e he
      exact PushPreferences.of_decode? hx (by omega)
  have hbare : (channels.mapVal fun _ q => q.bare) = channels := by
    refine Dict.ext ((List.map_congr_left (g := id) fun e he => ?_).trans (List.map_id _))
    exact Prod.ext rfl (hq e he).1
  have hdepth : (Json.ofDict PushPreferences.encode channels).depth ≤ room - 1 := by
    rw [ofDict, depth_object_le_iff, List.forall_mem_map]
    exact ⟨by omega, fun e he => (hq e he).2⟩
  refine ⟨by rw [bare, hb, hbare], ?_⟩
  simp [encode, depth_object_le_iff, hd, hdepth]
  omega

end Preferences

namespace Dispatch

def bare (x : Dispatch) : Dispatch := { x with params := x.params.bare }

theorem decode?_encode {x : Dispatch} {room : Nat} (hk : x.params.Faithful)
    (hd : x.encode.depth ≤ room) : decode? room (Doc.ofJson x.encode) = some x.bare := by
  have hb : Bag.decode? (room - 1) (Doc.ofJson x.params.encode) = some x.params.bare :=
    Bag.decode?_encode hk ((depth_object_le_iff.1 hd).2 ("params", x.params.encode) (by simp))
  simp [decode?, encode, Doc.fields?_ofJson, Fields.required, Fields.find?,
    Dict.findEntry, hb, bare]

theorem of_decode? {d : Doc} {x : Dispatch} {room : Nat} (h : decode? room d = some x)
    (hr : 1 < room) : x.bare = x ∧ x.encode.depth ≤ room := by
  simp only [decode?, Option.bind_eq_bind, Option.bind_eq_some_iff, Option.pure_def,
    Option.some.injEq] at h
  obtain ⟨f, -, message, -, params, hp, rfl⟩ := h
  obtain ⟨_, -, hp⟩ := Option.bind_eq_some_iff.1 hp
  refine ⟨congrArg (Dispatch.mk _) (Bag.bare_of_decode? hp), ?_⟩
  have hd := Bag.depth_of_decode? hp
  simp [encode, Message.depth_encode, depth_object_le_iff, hd]
  omega

end Dispatch

end Herald
