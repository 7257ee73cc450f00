import Herald.Channel
import Herald.Http
import Herald.Json.Fields
/-!
The webhook channel: a notification is posted as a document to an address of the user's. What the
server answers decides whether another attempt makes sense.
-/

set_option autoImplicit false

namespace Herald

structure WebhookConfig where
  timeoutSecs : UInt64 := 30
  headers : List (String × String) := []
  deriving DecidableEq, Repr

namespace WebhookConfig

def encode (c : WebhookConfig) : Json :=
  .object [("timeout_secs", .ofNat c.timeoutSecs.toNat),
    ("headers", .array (c.headers.map fun h => .array [.text h.1, .text h.2]))]

def header? : Json.Doc → Option (String × String)
  | .array [name, value] => do return (← name.text?, ← value.text?)
  | _ => none

def decode? (d : Json.Doc) : Option WebhookConfig := do
  let f ← d.fields? ["timeout_secs", "headers"]
  return ⟨← f.withDefault "timeout_secs" Json.Doc.uint64? 30,
    ← f.withDefault "headers" (Json.Doc.list? header?) []⟩

end WebhookConfig

namespace WebhookChannel

def id : String := "webhook"

def urlKey : Key .text := ⟨"webhook_url", by decide⟩

def endpoint? (b : Bag) : Option Url := (b.get urlKey).bind Url.read?

def payload (n : Notification) (d : Dispatch) : Json :=
  .object [("body", .text d.message.body), ("created_at", .text n.createdAt.toText),
    ("kind", .text (Named.name d.message.kind)), ("notification_id", .ofOption .ofInt n.id),
    ("subject", .text d.message.subject), ("template_key", .text n.templateKey),
    ("type", .text (Named.name n.audience)), ("user_id", .text n.user)]

def contentType : String := "content-type"

/-- The configured headers, and what the document is unless they say it. -/
def headers (c : WebhookConfig) : Dict String :=
  let hs := Http.headers c.headers
  if hs.contains contentType then hs else hs.insert contentType "application/json"

def request (c : WebhookConfig) (u : Url) (n : Notification) (d : Dispatch) : Http.Request :=
  ⟨u, headers c, payload n d⟩

def noUrl : PushError := .configuration "no valid webhook url configured"

def unsendable (u : Url) : PushError :=
  .rejected ("webhook request failed: builder error for url (" ++ u.text ++ ")")

def unanswered (u : Url) : PushError :=
  .transient ("webhook request failed: error sending request for url (" ++ u.text ++ ")")

def refused (r : Http.Response) : PushError :=
  let text := "webhook failed: " ++ r.statusText
  if r.isTemporary then .transient text else .rejected text

variable {σ : Type}

def push (c : WebhookConfig) (send : Http.Transport σ) (n : Notification) (d : Dispatch) (s : σ) :
    Except PushError Unit × σ :=
  match endpoint? d.params with
  | none => (.error noUrl, s)
  | some u =>
    if !Http.isSendable u then (.error (unsendable u), s)
    else match send (request c u n d) s with
      | (none, s) => (.error (unanswered u), s)
      | (some r, s) => (if r.isSuccess then .ok () else .error (refused r), s)

def channel (c : WebhookConfig) (send : Http.Transport σ) : PushChannel σ :=
  .immediate id (fun _ => true) (fun b => (endpoint? b).isSome) none (push c send)

end WebhookChannel

end Herald
