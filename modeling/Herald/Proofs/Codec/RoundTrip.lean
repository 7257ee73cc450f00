import Herald.Proofs.Codec.Readings
/-!
Everything that is written as a document and read again, and that writing and reading agree: on what
is written, and on what was read in any other accepted spelling.
-/

set_option autoImplicit false

namespace Herald

open Json

/-- How values of a type are written as documents and read again. -/
structure Codec (α : Type) where
  encode : α → Json
  decode? (room : Nat) : Doc → Option α
  bags : α → List Bag
  /-- The value without what no document says: the defaults that its bags remember. -/
  bare : α → α
  /-- What every document of the type says of its value, though the type does not. -/
  Regular : α → Prop
  decode?_encode (v : α) (regular : Regular v) (faithful : ∀ b ∈ bags v, b.Faithful)
    (fits : (encode v).depth ≤ Doc.maxDepth) :
    decode? Doc.maxDepth (Doc.ofJson (encode v)) = some (bare v)
  of_decode? (d : Doc) (v : α) (h : decode? Doc.maxDepth d = some v) :
    Regular v ∧ bare v = v ∧ (encode v).depth ≤ Doc.maxDepth

namespace Codec

variable {α : Type}

def read? (c : Codec α) (s : String) : Option α :=
  (Doc.read? s.toList).bind (c.decode? Doc.maxDepth)

/-- Records that hold no bag, where every value has a document. -/
def ofPlain (encode : α → Json) (decode? : Doc → Option α)
    (decode?_encode : ∀ v, decode? (Doc.ofJson (encode v)) = some v)
    (fits : ∀ v, (encode v).depth ≤ Doc.maxDepth) : Codec α where
  encode := encode
  decode? _ := decode?
  bags _ := []
  bare := id
  Regular _ := True
  decode?_encode v _ _ _ := decode?_encode v
  of_decode? _ v _ := ⟨trivial, rfl, fits v⟩

/-- Records of which nothing but their bags may stay behind. -/
def ofBags (encode : α → Json) (decode? : Nat → Doc → Option α) (bags : α → List Bag) (bare : α → α)
    (decode?_encode : ∀ v, (∀ b ∈ bags v, b.Faithful) → (encode v).depth ≤ Doc.maxDepth →
      decode? Doc.maxDepth (Doc.ofJson (encode v)) = some (bare v))
    (of_decode? : ∀ d v, decode? Doc.maxDepth d = some v →
      bare v = v ∧ (encode v).depth ≤ Doc.maxDepth) :
    Codec α where
  encode := encode
  decode? := decode?
  bags := bags
  bare := bare
  Regular _ := True
  decode?_encode v _ := decode?_encode v
  of_decode? d v h := ⟨trivial, of_decode? d v h⟩

end Codec

/-- What is written as a document and read again. -/
inductive Form where
  | bag
  | notification
  | pushStatus
  | confirmation
  | channelPreferences
  | pushPreferences
  | preferences
  | message
  | dispatch
  | mail
  | retryPolicy
  | config
  | workerPool
  | webhook
  | logging
  deriving DecidableEq, Repr

namespace Form

abbrev Carrier : Form → Type
  | .bag => Bag
  | .notification => Notification
  | .pushStatus => PushStatus
  | .confirmation => Confirmation
  | .channelPreferences => ChannelPreferences
  | .pushPreferences => PushPreferences
  | .preferences => Preferences
  | .message => Message
  | .dispatch => Dispatch
  | .mail => Mail
  | .retryPolicy => RetryPolicy
  | .config => Config
  | .workerPool => WorkerPoolConfig
  | .webhook => WebhookConfig
  | .logging => LoggingSettings

def codec : (f : Form) → Codec f.Carrier
  | .bag =>
    .ofBags Bag.encode Bag.decode? (fun b => [b]) Bag.bare
      (fun b hb => Bag.decode?_encode (hb b List.mem_cons_self))
      fun _ _ h => ⟨Bag.bare_of_decode? h, Bag.depth_of_decode? h⟩
  | .notification =>
    { encode := Notification.encode
      decode? := Notification.decode?
      bags := fun n => [n.params]
      bare := Notification.bare
      Regular := Notification.Numbered
      decode?_encode := fun n hn hb =>
        Notification.decode?_encode hn (hb n.params List.mem_cons_self)
      of_decode? := fun _ _ h => Notification.of_decode? h (by decide) }
  | .pushStatus =>
    .ofPlain PushStatus.encode PushStatus.decode? PushStatus.decode?_encode fun s =>
      s.depth_encode.trans_le (by decide)
  | .confirmation =>
    .ofPlain Confirmation.encode Confirmation.decode? Confirmation.decode?_encode fun c =>
      c.depth_encode.trans_le (by decide)
  | .channelPreferences =>
    .ofBags ChannelPreferences.encode ChannelPreferences.decode? (fun p => [p.params])
      ChannelPreferences.bare
      (fun p hb => ChannelPreferences.decode?_encode (hb p.params List.mem_cons_self))
      fun _ _ h => ChannelPreferences.of_decode? h (by decide)
  | .pushPreferences =>
    .ofBags PushPreferences.encode PushPreferences.decode? (fun p => [p.params])
      PushPreferences.bare
      (fun p hb => PushPreferences.decode?_of_depth (hb p.params List.mem_cons_self))
      fun _ _ h => PushPreferences.of_decode? h (by decide)
  | .preferences =>
    .ofBags Preferences.encode Preferences.decode? Preferences.bags Preferences.bare
      (fun _ => Preferences.decode?_encode) fun _ _ h => Preferences.of_decode? h (by decide)
  | .message =>
    .ofPlain Message.encode Message.decode? Message.decode?_encode fun m =>
      m.depth_encode.trans_le (by decide)
  | .dispatch =>
    .ofBags Dispatch.encode Dispatch.decode? (fun x => [x.params]) Dispatch.bare
      (fun x hb => Dispatch.decode?_encode (hb x.params List.mem_cons_self))
      fun _ _ h => Dispatch.of_decode? h (by decide)
  | .mail =>
    .ofPlain Mail.encode Mail.decode? Mail.decode?_encode fun m =>
      m.depth_encode.trans_le (by decide)
  | .retryPolicy =>
    { encode := RetryPolicy.encode
      decode? := fun _ => RetryPolicy.decode?
      bags := fun _ => []
      bare := id
      Regular := fun p => p.backoff.Whole
      decode?_encode := fun _ hp _ _ => RetryPolicy.decode?_encode hp
      of_decode? := fun _ p h => ⟨RetryPolicy.whole_of_decode? h, rfl,
        p.depth_encode_le.trans (by decide)⟩ }
  | .config =>
    .ofPlain Config.encode Config.decode? Config.decode?_encode fun c =>
      c.depth_encode_le.trans (by decide)
  | .workerPool =>
    .ofPlain WorkerPoolConfig.encode WorkerPoolConfig.decode?
      WorkerPoolConfig.decode?_encode fun c =>
      c.depth_encode.trans_le (by decide)
  | .webhook =>
    .ofPlain WebhookConfig.encode WebhookConfig.decode? WebhookConfig.decode?_encode fun c =>
      c.depth_encode_le.trans (by decide)
  | .logging =>
    .ofPlain LoggingSettings.encode LoggingSettings.decode? LoggingSettings.decode?_encode fun s =>
      s.depth_encode.trans_le (by decide)

/-- What is written comes back, if the values of its bags survive and it does not nest too deep; and
what was read, in whatever spelling, comes back from the one spelling that is written. -/
theorem comes_back (f : Form) :
    (∀ v : f.Carrier, f.codec.Regular v → (∀ b ∈ f.codec.bags v, b.Faithful) →
      (f.codec.encode v).depth ≤ Doc.maxDepth →
      f.codec.read? (f.codec.encode v).toText = some (f.codec.bare v)) ∧
    ∀ (s : String) (v : f.Carrier), f.codec.read? s = some v → (∀ b ∈ f.codec.bags v, b.Faithful) →
      f.codec.read? (f.codec.encode v).toText = some v := by
  have written (v : f.Carrier) (regular : f.codec.Regular v)
    (faithful : ∀ b ∈ f.codec.bags v, b.Faithful) (fits : (f.codec.encode v).depth ≤ Doc.maxDepth) :
      f.codec.read? (f.codec.encode v).toText = some (f.codec.bare v) := by
    rw [Codec.read?, Doc.read?_toText, Option.bind_some]
    exact f.codec.decode?_encode v regular faithful fits
  refine ⟨written, fun s v h faithful => ?_⟩
  obtain ⟨d, -, hd⟩ := Option.bind_eq_some_iff.1 h
  obtain ⟨regular, bare, fits⟩ := f.codec.of_decode? d v hd
  rw [written v regular faithful fits, bare]

theorem comes_back_of_two :
    let b : Bag := Bag.withDefaults (.ofList
      [("half", .double (.finite false ⟨1022 * Double.binade, by decide⟩)),
        ("list", .json (.array [.null, .object [("a", .number (.integer 1))]]))])
    let n : Notification :=
      { Notification.create "ann" "news" .epoch with
        id := some 7, params := b, confirmation := some ⟨"key", .last⟩ }
    let p : Preferences :=
      { user := "ann", channels := .ofList [("mail",
        { channel.params := .ofList [("x", .integer 2)] })] }
    let s : String :=
      "\x7b\"channel_prefs\":\x7b\"mail\":\x7b\"params\":\x7b\"x\":[\"integer\",1]," ++
      "\"x\":\x7b\"value\":2,\"type\":\"integer\"\x7d\x7d\x7d\x7d,\"user_id\":\"ann\"\x7d"
    Form.notification.codec.read? n.encode.toText = some n.bare ∧
      Form.preferences.codec.read? s = some p ∧
        Form.preferences.codec.read? p.encode.toText = some p := by
  intro b n p s
  have hs : Form.preferences.codec.read? s = some p := by decide +kernel
  have hn : n.Numbered := by
    rintro _ ⟨⟩
    decide
  exact ⟨(comes_back .notification).1 n hn (by decide +kernel) (by decide +kernel), hs,
    (comes_back .preferences).2 s p hs (by decide +kernel)⟩

end Form

end Herald
