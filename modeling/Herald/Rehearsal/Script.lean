import Herald.Rehearsal
import Herald.Content
import Herald.Channel.Feed
import Herald.Channel.Webhook
import Herald.Json.Lookup
import Herald.Message.Codec
import Herald.Notification.Codec
import Herald.Preferences.Codec
/-!
Rehearsals as documents: the script says what differs from what is usual, and the log what has
happened.
-/

set_option autoImplicit false

namespace Herald.Rehearsal

open Json (Doc)

def caseAt? {α : Type} [Named α] (d : Doc) (name : String) : Option α :=
  (d.textAt? name).bind Named.ofName?

def caseAt {α : Type} [Named α] (d : Doc) (name : String) (default : α) : α :=
  (caseAt? d name).getD default

def bagOf (d : Doc) : Bag := (Bag.decode? Doc.maxDepth d).getD .empty

def bagAt (d : Doc) (name : String) : Bag := ((d.member? name).map bagOf).getD .empty

def instantAt (d : Doc) (name : String) (default : Instant) : Instant :=
  ((d.intAt? name).map Instant.ofMillis).getD default

/-- A notification by how it differs from one that is created now. -/
def notificationOf (now : Instant) (d : Doc) : Notification :=
  let n := Notification.create (d.textAt "user" "john") (d.textAt "key" "welcome") now
  let n := { n with params := bagAt d "params" }
  let n := match d.textAt? "force" with
    | some c => n.force c
    | none => n
  let p := d.part "push"
  { n with
    id := d.intAt? "id"
    audience := caseAt d "type" .personal
    createdAt := instantAt d "created_ms" now
    confirmation := (d.given? "confirmation").map fun c => ⟨c.textAt "key" "",
      instantAt c "touched_ms" .epoch⟩
    push := ⟨caseAt p "state" .queued, instantAt p "date_ms" now, .ofNat (p.natAt "error_count" 0),
      p.textAt? "error_message"⟩ }

def notificationAt (now : Instant) (d : Doc) (name : String) : Notification :=
  notificationOf now (d.part name)

def preferencesAt (d : Doc) (name : String) : Preferences :=
  ((d.given? name).bind (Preferences.decode? Doc.maxDepth)).getD { user := "john" }

def messageAt (d : Doc) (name : String) : Message :=
  let m := d.part name
  ⟨caseAt m "kind" .text, m.textAt "subject" "s", m.textAt "body" "b"⟩

def register (c : Catalog) (d : Doc) : Catalog :=
  (d.itemsAt "templates").foldl
    (fun c t => c.register (t.textAt "key" "") (caseAt t "version" .long)
    ⟨caseAt t "kind" .text, t.textAt "source" ""⟩) c

/-- A factory that fails, or contributes a bag, perhaps with a text about the users in it. -/
def factoryOf (d : Doc) : Factory := fun n p =>
  match d.textAt? "error", d.textAt? "user_as" with
  | some e, _ => .error (.factory e)
  | none, some name => .ok ((bagAt d "params").setValue name (.text (n.user ++ "/" ++ p.user)))
  | none, none => .ok (bagAt d "params")

def contentOf (d : Doc) : ContentService :=
  ⟨register .empty d, .ofList ((d.itemsAt "factories").map factoryOf)⟩

def everybody : List Audience := [.everyone, .personal]

def audiencesAt (d : Doc) (default : List Audience) : List Audience :=
  match d.given? "types" with
  | some _ => (d.textsAt "types").filterMap Named.ofName?
  | none => default

def defaultsAt {α : Type} (d : Doc) (read : Doc → Option α) (default : α) : Option α :=
  match d.member? "defaults" with
  | none => some default
  | some .null => none
  | some p => some ((read p).getD default)

def answerOf (d : Doc) : Except PushError Unit :=
  match d.textAt? "error" with
  | some k => .error ⟨(Named.ofName? k).getD .transient, d.textAt "message" ""⟩
  | none => .ok ()

def mailAnswerOf (d : Doc) : Except MailError Unit :=
  match d with
  | .object _ => .error ⟨d.boolAt "temporary" false, d.textAt "message" ""⟩
  | _ => .ok ()

/-- One client, or several in rotation, of which the log has a note. -/
def mailClientOf (performer : String) (d : Doc) (s : Stage) : MailClient Stage × Stage :=
  let clients := (d.itemsAt "clients").zipIdx.map fun c =>
    mailClient (performer ++ "." ++ toString c.2) c.2 ((c.1.itemsAt "script").map mailAnswerOf)
  match d.textAt? "client" with
  | some "tracing" => (.silent, s)
  | some "single" => (clients.headD .silent, s)
  | _ =>
    (.roundRobin clients (Stage.play (performer ++ ".turn")), s.note (.rotation clients.length))

def webhookConfigOf (d : Doc) : Except Fault WebhookConfig :=
  match d.given? "config" with
  | none => .ok {}
  | some c =>
    match WebhookConfig.decode? c with
    | some c => .ok c
    | none => .error (.unreadable "not a configuration of webhooks")

/-- Nothing answers what is sent to the web. -/
def channelOf (performer : String) (d : Doc) (s : Stage) :
    Except Fault (PushChannel Stage × Stage) :=
  match d.textAt "channel" "" with
  | "mail" =>
    let (c, s) := mailClientOf performer d s
    .ok (MailChannel.channel c, s)
  | "webhook" => do return (WebhookChannel.channel (← webhookConfigOf d) .unreachable, s)
  | _ =>
    let c : ScriptedChannel :=
      ⟨performer, d.textAt "id" "", audiencesAt d everybody, d.textsAt "requires",
      defaultsAt d (PushPreferences.decode? Doc.maxDepth) {}, (d.itemsAt "script").map answerOf,
      d.natAt "yields" 0⟩
    .ok (c.channel, s)

def channelsOf : List Doc → Stage → Except Fault (List (PushChannel Stage) × Stage)
  | [], s => .ok ([], s)
  | d :: ds, s => do
    let (c, s) ← channelOf (toString ds.length) d s
    let (cs, s) ← channelsOf ds s
    return (c :: cs, s)

def pullChannelOf {S : Type} [Store S] (performer : String) (d : Doc) : PullChannel S Stage :=
  match d.textAt? "id" with
  | none => Feed.channel (audiencesAt d [.everyone])
  | some id =>
    let c : ScriptedPull := ⟨performer, id, audiencesAt d everybody, d.textsAt "requires",
      defaultsAt d (ChannelPreferences.decode? Doc.maxDepth) {},
      (d.itemsAt "script").map fun i => i.text? != some "not_configured"⟩
    c.channel

def errorListenerOf (d : Doc) : Listener ChannelFailure Stage :=
  errorListener (d.textAt "name" "") (d.boolAt "panics" false)

def enqueueListenerOf (d : Doc) : Listener Notification Stage :=
  enqueueListener (d.textAt "name" "") (d.boolAt "panics" false)

def Event.encode : Event → Json
  | .push channel n d overlap => .object [("event", .text "push"), ("channel", .text channel),
      ("id", .ofOption .ofInt n.id), ("user", .text n.user), ("message", d.message.encode),
      ("params", d.params.encode), ("overlap", .bool overlap)]
  | .error listener f => .object [("event", .text "error"), ("listener", .text listener),
      ("channel", .text f.channel), ("id", .ofOption .ofInt f.notification.id),
      ("error", .text f.error.display), ("temporary", .bool f.error.isTemporary)]
  | .enqueued listener n => .object [("event", .text "enqueued"), ("listener", .text listener),
      ("id", .ofOption .ofInt n.id)]
  | .mail client m => .object [("event", .text "mail"), ("client", .ofNat client),
    ("mail", m.encode)]
  | .rotation size => .object [("event", .text "round_robin"), ("len", .ofNat size),
    ("empty", .bool (size = 0))]

end Herald.Rehearsal
