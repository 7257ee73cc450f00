import Herald.Channel
import Herald.Text.Blank
/-!
The mail channel, for personal notifications, and the rotation of several mail clients.
-/

set_option autoImplicit false

namespace Herald

structure MailError where
  temporary : Bool
  message : String
  deriving DecidableEq, Repr

structure MailClient (σ : Type) where
  send : Mail → σ → Except MailError Unit × σ

namespace MailClient

variable {σ : Type}

def silent : MailClient σ := ⟨fun _ s => (.ok (), s)⟩

def noClients : MailError := ⟨false, "no mail clients configured"⟩

def allFailed (count : Nat) (temporary : Bool) (last : String) : MailError :=
  ⟨temporary, "all " ++ String.ofList (Nat.toDigits 10 count) ++
    " mail clients failed, last error: " ++ last⟩

/-- Tries one client after another until one takes the mail. With the failures so far go whether
one of them may pass, and what the last one said. -/
def tryEach (count : Nat) (m : Mail) :
    List (MailClient σ) → Bool → String → σ → Except MailError Unit × σ
  | [], temporary, last, s => (.error (allFailed count temporary last), s)
  | c :: cs, temporary, _, s =>
    match c.send m s with
    | (.ok _, s) => (.ok (), s)
    | (.error e, s) => tryEach count m cs (temporary || e.temporary) e.message s

def inTurn (clients : List (MailClient σ)) (turn : Nat) : List (MailClient σ) :=
  clients.rotateLeft turn

/-- Each mail goes first to the client whose turn it is; `takeTurn` counts the mails. -/
def roundRobin (clients : List (MailClient σ)) (takeTurn : σ → Nat × σ) : MailClient σ :=
  ⟨fun m s =>
    if clients.isEmpty then (.error noClients, s)
    else
      let (turn, s) := takeTurn s
      tryEach clients.length m (inTurn clients turn) false "" s⟩

def beside {τ : Type} (c : MailClient σ) : MailClient (τ × σ) :=
  ⟨fun m s =>
    let (answer, t) := c.send m s.2
    (answer, s.1, t)⟩

/-- Turns are counted in 64 bits, and from the beginning again behind the greatest number. -/
def nextTurn (s : UInt64 × σ) : Nat × UInt64 × σ := (s.1.toNat, s.1 + 1, s.2)

def rotation (clients : List (MailClient σ)) : MailClient (UInt64 × σ) :=
  roundRobin (clients.map beside) nextTurn

end MailClient

namespace MailChannel

def recipientKey : Key .text := ⟨"recipient", by decide⟩

def isAddressChar (c : Char) : Bool :=
  !(Text.isBlank c || ['@', '<', '>', '(', ')', '[', ']', ',', ';', ':'].contains c)

/-- Something before and after exactly one `@`, and nothing that groups or separates addresses. -/
def isAddress (s : List Char) : Bool :=
  match s.dropWhile isAddressChar with
  | '@' :: r => s.takeWhile isAddressChar ≠ [] && r ≠ [] && r.all isAddressChar
  | _ => false

def noRecipient : PushError := .configuration "no recipient configured"

def invalidRecipient (r : String) : PushError := .configuration ("invalid recipient address: " ++ r)

def mailFor (d : Dispatch) : Except PushError Mail :=
  match d.params.get recipientKey with
  | none => .error noRecipient
  | some r =>
    let r := Text.trimmed r
    if isAddress r.toList then .ok ⟨r, d.message.subject, d.message.body, d.message.kind⟩
    else .error (invalidRecipient r)

def ofMailError (e : MailError) : PushError := if e.temporary then .transient e.message
    else .rejected e.message

variable {σ : Type}

def push (client : MailClient σ) (d : Dispatch) (s : σ) : Except PushError Unit × σ :=
  match mailFor d with
  | .error e => (.error e, s)
  | .ok m =>
    match client.send m s with
    | (.ok _, s) => (.ok (), s)
    | (.error e, s) => (.error (ofMailError e), s)

def id : String := "mail"

def channel (client : MailClient σ) : PushChannel σ :=
  .immediate id (· == .personal) (·.contains recipientKey.name)
    (some {}) fun _ d s => push client d s

end MailChannel

end Herald
