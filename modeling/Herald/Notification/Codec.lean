import Herald.Notification
import Herald.Bag.Codec
/-!
Notifications as documents.
-/

set_option autoImplicit false

namespace Herald

open Json

namespace Instant

def encode (t : Instant) : Json := .text t.toZulu

def decode? (d : Doc) : Option Instant := d.text?.bind read?

end Instant

namespace Confirmation

def encode (c : Confirmation) : Json :=
  .object [("key", .text c.key), ("touched", c.touched.encode)]

def decode? (d : Doc) : Option Confirmation := do
  let f ← d.fields? ["key", "touched"]
  return ⟨← f.required "key" Doc.text?, ← f.required "touched" Instant.decode?⟩

end Confirmation

namespace PushStatus

def encode (s : PushStatus) : Json :=
  .object [("state", Named.encode s.state), ("date", s.date.encode),
    ("error_count", .ofNat s.errorCount.toNat), ("error_message", .ofOption .text s.errorMessage)]

def decode? (d : Doc) : Option PushStatus := do
  let f ← d.fields? ["state", "date", "error_count", "error_message"]
  return ⟨← f.required "state" (Named.decode? false), ← f.required "date" Instant.decode?,
    ← f.required "error_count" Doc.uint32?, ← f.nullable "error_message" Doc.text?⟩

end PushStatus

namespace Notification

def encode (n : Notification) : Json :=
  .object [("id", .ofOption .ofInt n.id), ("user_id", .text n.user),
    ("template_key", .text n.templateKey),
    ("notification_type", Named.encode n.audience), ("created_at", n.createdAt.encode),
    ("params", n.params.encode), ("confirmation", .ofOption Confirmation.encode n.confirmation),
    ("push", n.push.encode)]

def decode? (room : Nat) (d : Doc) : Option Notification := do
  let f ← d.fields? ["id", "user_id", "template_key", "notification_type", "created_at", "params",
    "confirmation", "push"]
  return ⟨← f.nullable "id" (Doc.integer? (-Doc.int64Limit) Doc.int64Limit),
    ← f.required "user_id" Doc.text?,
    ← f.required "template_key" Doc.text?, ← f.required "notification_type" (Named.decode? false),
    ← f.required "created_at" Instant.decode?, ← f.required "params" (Bag.decode? (room - 1)),
    ← f.nullable "confirmation" Confirmation.decode?, ← f.required "push" PushStatus.decode?⟩

end Notification

end Herald
