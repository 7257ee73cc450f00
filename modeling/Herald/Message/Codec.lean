import Herald.Message
import Herald.Bag.Codec
/-!
Messages, dispatches and mails as documents.
-/

set_option autoImplicit false

namespace Herald

open Json

namespace Message

def encode (m : Message) : Json :=
  .object [("kind", Named.encode m.kind), ("subject", .text m.subject), ("body", .text m.body)]

def decode? (d : Doc) : Option Message := do
  let f ← d.fields? ["kind", "subject", "body"]
  return ⟨← f.required "kind" (Named.decode? false), ← f.required "subject" Doc.text?,
    ← f.required "body" Doc.text?⟩

end Message

namespace Dispatch

def encode (x : Dispatch) : Json :=
  .object [("message", x.message.encode), ("params", x.params.encode)]

def decode? (room : Nat) (d : Doc) : Option Dispatch := do
  let f ← d.fields? ["message", "params"]
  return ⟨← f.required "message" Message.decode?, ← f.required "params" (Bag.decode? (room - 1))⟩

end Dispatch

namespace Mail

def encode (m : Mail) : Json :=
  .object [("recipient", .text m.recipient), ("subject", .text m.subject), ("body", .text m.body),
    ("kind", Named.encode m.kind)]

def decode? (d : Doc) : Option Mail := do
  let f ← d.fields? ["recipient", "subject", "body", "kind"]
  return ⟨← f.required "recipient" Doc.text?, ← f.required "subject" Doc.text?,
    ← f.required "body" Doc.text?, ← f.required "kind" (Named.decode? false)⟩

end Mail

end Herald
