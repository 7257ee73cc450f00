import Herald.Notification
import Herald.Backoff
import Herald.Push
/-!
Why an operation of the engine fails, and the one text of each cause.
-/

set_option autoImplicit false

namespace Herald

inductive Invalid where
  | alreadyStored (id : Int)
  | unsavedUpdate
  | unsavedProcess
  | terminal (state : PushState)
  | noUser
  | stated (text : String)
  deriving DecidableEq, Repr

def Invalid.message : Invalid → String
  | .alreadyStored id => "notification " ++ Notification.intText id ++ " is already stored"
  | .unsavedUpdate => "cannot update an unsaved notification"
  | .unsavedProcess => "cannot process an unsaved notification"
  | .terminal s => "cannot dispatch a " ++ Named.name s ++ " notification"
  | .noUser => "preferences need a user id"
  | .stated text => text

inductive Misconfigured where
  | noChannels
  | noNotificationStore
  | noPreferencesStore
  | noProducer
  | noWorkers
  | noPollInterval
  | backoff (why : BackoffFault)
  | unreadableFile (path reason : String)
  | variable (name raw reason : String)
  | directive (reason : String)
  | stated (text : String)
  deriving DecidableEq, Repr

/-- The variable's raw text comes quoted. -/
def Misconfigured.message : Misconfigured → String
  | .noChannels => "no push channels registered"
  | .noNotificationStore => "no notification store configured"
  | .noPreferencesStore => "no preferences store configured"
  | .noProducer => "no content producer configured"
  | .noWorkers => "worker_count must be at least 1"
  | .noPollInterval => "poll_interval_secs must be at least 1"
  | .backoff why => why.message
  | .unreadableFile path reason => "cannot read " ++ path ++ ": " ++ reason
  | .variable name raw reason => name ++ "=" ++ raw ++ ": " ++ reason
  | .directive reason => "Invalid filter directive: " ++ reason
  | .stated text => text

inductive Undelivered where
  | failed (result : PushResult) (n : Notification) (message : Option String)
  | undeliverable (n : Notification)
  | stated (text : String)
  deriving DecidableEq, Repr

def Undelivered.message : Undelivered → String
  | .failed result n message =>
    Named.name result ++ " for " ++ n.display ++ ": " ++ message.getD "no details"
  | .undeliverable n => n.display ++ " is undeliverable"
  | .stated text => text

inductive DatabaseFault where
  | uniqueViolation
  | checkViolation
  | other
  deriving DecidableEq, Repr

def DatabaseFault.message : DatabaseFault → String
  | .uniqueViolation => "unique violation"
  | .checkViolation => "check violation"
  | .other => "other"

inductive Fault where
  | database (why : DatabaseFault)
  /-- The tables could not be set up. -/
  | unmigrated
  | unreadable (what : String)
  | transition (source target : String)
  | notFound (entity id : String)
  | invalid (why : Invalid)
  | misconfigured (why : Misconfigured)
  | undelivered (why : Undelivered)
  | io (reason : String)
  | other (text : String)
  deriving DecidableEq, Repr

inductive Document where
  | bag
  | channels
  | configuration
  deriving DecidableEq, Repr

/-- The words in which a text that is no such document is refused. They are those of the reader of
documents, and nothing hangs on them. -/
class Objections where
  words (wanted : Document) (text : String) : String

/-- Objections of few words, for want of others. -/
instance (priority := low) Objections.short : Objections where
  words
    | .bag, _ => "not a bag"
    | .channels, _ => "not preferences of channels"
    | .configuration, _ => "not a configuration"

namespace Fault

def unread [Objections] (wanted : Document) (text : String) : Fault :=
  .unreadable (Objections.words wanted text)

def message : Fault → String
  | .database why => "Database error: " ++ why.message
  | .unmigrated => "Migration error: migration"
  | .unreadable what => "Serialization error: " ++ what
  | .transition source target =>
    "Invalid state transition: cannot transition from " ++ source ++ " to " ++ target
  | .notFound entity id => "Entity not found: " ++ entity ++ " with id " ++ id
  | .invalid why => "Validation error: " ++ why.message
  | .misconfigured why => "Configuration error: " ++ why.message
  | .undelivered why => "Dispatch failed: " ++ why.message
  | .io reason => "IO error: " ++ reason
  | .other text => text

def noNotification (id : Int) : Fault := .notFound "Notification" (Notification.intText id)

end Fault

inductive PullError where
  | unknownUser (user : String)
  | unknownChannel (channel : String)
  | unauthorized (user : String)
  | noContent (user : String)
  | notConfigured (what : String)
  | failed (reason : String)
  deriving DecidableEq, Repr

namespace PullError

def message : PullError → String
  | .unknownUser user => "unknown user: " ++ user
  | .unknownChannel channel => "unknown pull channel: " ++ channel
  | .unauthorized user => "not authorized: " ++ user
  | .noContent user => "no content available for user " ++ user
  | .notConfigured what => "channel not configured: " ++ what
  | .failed reason => "pull failed: " ++ reason

def ofFault (f : Fault) : PullError := .failed f.message

end PullError

end Herald
