import Redial.Failure.Basic
import Redial.Time

/-!
A call to make, and what carries it. A call has the method of a service, a
payload and the caller's metadata. A payload that was not given, one that is
null and one that is undefined are three different things. A transport is
given by what comes of each call to it: after some milliseconds a response or
a failure, or nothing at all. An attempt waits for that as long as its
deadline allows; what comes at the deadline is still in time.
-/

namespace Redial

inductive Payload (α : Type) where
  | absent
  | value (message : α)
  | null
  | undefined
  deriving DecidableEq, Repr, Inhabited

namespace Payload

variable {α : Type}

def message? : Payload α → Option α
  | .value message => some message
  | _ => none

def isAbsent : Payload α → Bool
  | .absent => true
  | _ => false

def stateName : Payload α → String
  | .absent => "absent"
  | .value _ => "value"
  | .null => "null"
  | .undefined => "undefined"

def toJson (write : α → Json) (payload : Payload α) : Json :=
  .object (("state", .string payload.stateName) ::
    (payload.message?.map fun message => ("value", write message)).toList)

end Payload

structure CallRequest (α : Type) where
  service : String
  method : String
  payload : Payload α := .absent
  metadata? : Option Metadata := none
  deriving DecidableEq, Repr, Inhabited

namespace CallRequest

variable {α : Type}

def withMessage (request : CallRequest α) (message : α) : CallRequest α :=
  { request with payload := .value message }

/-- Sends metadata only. -/
def withNull (request : CallRequest α) : CallRequest α :=
  { request with payload := .null }

/-- Sends a payload that says that it is not set. -/
def withUndefined (request : CallRequest α) : CallRequest α :=
  { request with payload := .undefined }

def withMetadata (request : CallRequest α) (metadata : Metadata) :
    CallRequest α :=
  { request with metadata? := some metadata }

end CallRequest

structure Invocation (α : Type) where
  service : String
  method : String
  payload : Payload α
  metadata : Metadata
  deriving DecidableEq, Repr, Inhabited

/-- What comes of a call to the transport. -/
inductive Reply (β : Type) where
  | settles (after : Nat) (outcome : Except Failure β)
  | never

/-- An outcome that comes after a pause. -/
def Reply.afterPause {β : Type} (milliseconds : Nat)
    (outcome : Except Failure β) : Reply β :=
  .settles (pauseLength milliseconds) outcome

/-- What comes of each call to the transport, by the number of calls before it
and by what was sent. -/
abbrev Transport (α β : Type) := Nat → Invocation α → Reply β

/-- What an attempt comes to, and after how long. It abandons the transport if
the deadline passes. -/
structure Settlement (β : Type) where
  elapsed : Nat
  outcome : Except Failure β
  abandons : Bool

/-- Whole seconds, but at least one for a deadline that is not zero. -/
def wholeSeconds (milliseconds : Nat) : Nat :=
  if milliseconds = 0 then 0 else max 1 (milliseconds / 1000)

/-- The end of a message about a deadline. -/
def inSeconds (milliseconds : Nat) : String :=
  "(" ++ String.ofList (Numeral.digits (wholeSeconds milliseconds)) ++ " sec)"

namespace Failure

def attemptTimeout (timeout : Nat) : Failure :=
  .timeout ⟨.attempt, "Request timed out " ++ inSeconds timeout⟩

def windowTimeout (window : Nat) : Failure :=
  .timeout ⟨.retryWindow, "Retry-request timed out " ++ inSeconds window⟩

end Failure

def Reply.settlement {β : Type} (timeout : Nat) : Reply β → Settlement β
  | .settles after outcome =>
    if after ≤ timeout then ⟨after, outcome, false⟩
    else ⟨timeout, .error (.attemptTimeout timeout), true⟩
  | .never => ⟨timeout, .error (.attemptTimeout timeout), true⟩

/-- A transport that answers from a list, one reply for each call. The last
one repeats, and an empty list never answers. -/
def Transport.ofReplies {α β : Type} (replies : List (Reply β)) :
    Transport α β := fun index _ =>
  ((replies[index]?).or replies.getLast?).getD .never

end Redial
