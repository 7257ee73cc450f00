import Herald.Dispatcher
/-!
What an application asks of the engine: notifications to be queued, preferences to be kept, and
content on request.
-/

set_option autoImplicit false

namespace Herald

/-- Enqueue listeners hear in a world of type `τ`, which may be more than the world outside. The
engine's own is there from the start. -/
structure Service (S σ τ : Type) where
  pullChannels : Registry String (PullChannel S σ)
  listeners : Registry Mark (Listener Notification τ)
  defaultParams : Bag

namespace Service

variable {S σ τ : Type}

def empty (defaultParams : Bag) : Service S σ τ := ⟨.empty, .empty, defaultParams⟩

section Enqueue

variable [Store S]

/-- Stores a notification as queued and due at once. -/
def keep (n : Notification) (now : Instant) (s : S) : Except Fault Notification × S :=
  match n.id with
  | some id => (.error (.invalid (.alreadyStored id)), s)
  | none => Store.saved (n.requeued now) s

def enqueue (sv : Service S σ τ) (n : Notification) (now : Instant) (s : S) (t : τ) :
    Except Fault Notification × S × τ :=
  match keep n now s with
  | (.error e, s) => (.error e, s, t)
  | (.ok n, s) => (.ok n, s, Listener.tellAll sv.listeners.toList n t)

end Enqueue

/-- With a request to confirm, under a fresh key. -/
def confirmed (n : Notification) (key : String) (now : Instant) : Notification :=
  { n with confirmation := some ⟨key, now⟩ }

def confirm [Store S] (sv : Service S σ τ) (n : Notification) (key : String) (now : Instant) (s : S)
    (t : τ) : Except Fault Notification × S × τ :=
  sv.enqueue (confirmed n key now) now s t

/-- What a new user starts with: the defaults of every channel that has some, those of pull
channels over those of push channels. -/
def newPreferences (sv : Service S σ τ) (d : Dispatcher σ) (user : String) : Preferences where
  user
  params := sv.defaultParams.withDefaults
  channels := sv.pullChannels.toList.foldl (fun m c =>
    match c.defaults with
    | some p => m.insert c.id { channel := p }
    | none => m) d.channels.defaults

def setPreferences [Store S] (p : Preferences) (s : S) : Except Fault Unit × S :=
  if p.user = "" then (.error (.invalid .noUser), s) else Store.savePreferences p s

def addPullChannel (sv : Service S σ τ) (c : PullChannel S σ) : Service S σ τ :=
  { sv with pullChannels := (sv.pullChannels.removeWhere fun d => d.id == c.id).add c.id c }

def pullChannel? (sv : Service S σ τ) (id : String) : Option (PullChannel S σ) :=
  sv.pullChannels.find? fun c => c.id == id

def removePullChannel (sv : Service S σ τ) (id : String) : Bool × Service S σ τ :=
  ((sv.pullChannel? id).isSome,
    { sv with pullChannels := sv.pullChannels.removeWhere fun c => c.id == id })

def pull (sv : Service S σ τ) (produce : Producer) (channel user : String) (request : Bag)
    (w : World S σ) : Except PullError String × World S σ :=
  match sv.pullChannel? channel with
  | none => (.error (.unknownChannel channel), w)
  | some c =>
    match c.isAuthorized w.store user request with
    | .error e => (.error e, w)
    | .ok false => (.error (.unauthorized user), w)
    | .ok true =>
      let (r, s) := c.pull produce w.store user request w.outside
      (r, { w with outside := s })

end Service

end Herald
