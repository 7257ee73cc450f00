import Herald.Named
/-!
What comes of offering a notification to channels: the answer of one channel, the report of all of
them, and the outcome of the attempt. One success makes the attempt a success; else one failure
that may pass, or no channel at all, leaves hope for another attempt.
-/

set_option autoImplicit false

namespace Herald

namespace PushError

inductive Kind where
  /-- No content could be made for the channel. -/
  | render
  /-- The user has not set the channel up, or wrongly. -/
  | configuration
  /-- The channel does not take such notifications. -/
  | notApplicable
  /-- The user wants the channel's texts collected. -/
  | frequencyMismatch
  /-- The remote end may accept it later. -/
  | transient
  /-- The remote end refused for good. -/
  | rejected
  deriving DecidableEq, Repr

instance : Named Kind where
  all := [.render, .configuration, .notApplicable, .frequencyMismatch, .transient, .rejected]
  name
    | .render => "render"
    | .configuration => "configuration"
    | .notApplicable => "not_applicable"
    | .frequencyMismatch => "frequency_mismatch"
    | .transient => "transient"
    | .rejected => "rejected"
  complete a := by cases a <;> decide

def Kind.isTemporary : Kind → Bool
  | .render | .frequencyMismatch | .transient => true
  | .configuration | .notApplicable | .rejected => false

end PushError

structure PushError where
  kind : PushError.Kind
  message : String
  deriving DecidableEq, Repr

namespace PushError

def isTemporary (e : PushError) : Bool := e.kind.isTemporary

def display (e : PushError) : String := Named.name e.kind ++ ": " ++ e.message

def configuration (message : String) : PushError := ⟨.configuration, message⟩

def transient (message : String) : PushError := ⟨.transient, message⟩

def rejected (message : String) : PushError := ⟨.rejected, message⟩

end PushError

inductive PushResult where
  | success
  | temporaryError
  | persistentError
  deriving DecidableEq, Repr

instance : Named PushResult where
  all := [.success, .temporaryError, .persistentError]
  name
    | .success => "SUCCESS"
    | .temporaryError => "TEMPORARY_ERROR"
    | .persistentError => "PERSISTENT_ERROR"
  complete a := by cases a <;> decide

/-- The channels of one attempt by how they answered, each list in the order of the offers. -/
structure Report where
  succeeded : List String
  temporary : List (String × PushError)
  persistent : List (String × PushError)
  deriving DecidableEq, Repr

namespace Report

def empty : Report := ⟨[], [], []⟩

def addSuccess (r : Report) (channel : String) : Report :=
  { r with succeeded := r.succeeded ++ [channel] }

def addError (r : Report) (channel : String) (e : PushError) : Report :=
  if e.isTemporary then { r with temporary := r.temporary ++ [(channel, e)] }
  else { r with persistent := r.persistent ++ [(channel, e)] }

def add (r : Report) (channel : String) : Except PushError Unit → Report
  | .ok _ => r.addSuccess channel
  | .error e => r.addError channel e

end Report

/-- What an attempt comes to; a success has no message. -/
structure Outcome where
  result : PushResult
  message : Option String
  report : Report
  deriving DecidableEq, Repr

namespace Outcome

def isSuccess (o : Outcome) : Bool := o.result == .success

def unreported (result : PushResult) (message : String) : Outcome := ⟨result, some message, .empty⟩

def summary (errors : List (String × PushError)) : String :=
  "; ".intercalate (errors.map fun e => e.1 ++ ": " ++ e.2.display)

def noChannelText : String := "no allowed channels available"

def ofReport (r : Report) : Outcome :=
  if r.succeeded ≠ [] then ⟨.success, none, r⟩
  else if r.temporary ≠ [] then ⟨.temporaryError, some (summary r.temporary), r⟩
  else if r.persistent ≠ [] then ⟨.persistentError, some (summary r.persistent), r⟩
  else ⟨.temporaryError, some noChannelText, r⟩

end Outcome

end Herald
