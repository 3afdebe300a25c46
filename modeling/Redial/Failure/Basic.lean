import Redial.Metadata.Basic
import Redial.Status.StatusCode

/-!
What a single attempt can fail with, before anything is made of it: a deadline
that passed, a status of the remote, a bare message, a decoded value, or any
other error with the errors below it.

The error of a call, as its caller sees it, is a timeout, an internal error
that is laid to the caller, or an external one that is laid to the remote.
Each keeps the failure it was made from, if it was made from one.
-/

namespace Redial

inductive TimeoutKind where
  | attempt
  | retryWindow
  deriving DecidableEq, Repr, Inhabited

def TimeoutKind.name : TimeoutKind → String
  | .attempt => "attempt"
  | .retryWindow => "retry_window"

/-- Says that a deadline passed before the work it guards was done. -/
structure TimeoutSignal where
  kind : TimeoutKind
  message : String
  deriving DecidableEq, Repr, Inhabited

/-- What a remote says about a call that it did not answer. -/
structure RemoteStatus where
  code : Code
  message : String
  metadata : Metadata := {}
  deriving DecidableEq, Repr, Inhabited

inductive Failure where
  | timeout (signal : TimeoutSignal)
  | status (status : RemoteStatus)
  | message (text : String)
  | object (value : Json)
  | other (text : String) (sources : List String)
  deriving Repr, Inhabited

namespace Failure

/-- The message of a timeout that has none of its own. -/
def timeoutMessage : String := "Request timed out"

/-- The failure of an attempt whose deadline passed, without a message of its
own. -/
def elapsed : Failure :=
  .timeout ⟨.attempt, timeoutMessage⟩

def ofStatus (code : Code) (message : String) : Failure :=
  .status { code, message }

end Failure

/-- The side that an error is laid to. -/
inductive Marker where
  | internal
  | external
  deriving DecidableEq, Repr, Inhabited

def Marker.name : Marker → String
  | .internal => "internal"
  | .external => "external"

inductive CallError where
  | timeout (kind : TimeoutKind) (message : String) (cause? : Option Failure)
  | internal (message : String) (statusCode : StatusCode)
      (details? : Option String) (headers? : Option Metadata)
      (cause? : Option Failure)
  | external (message : String) (statusCode? : Option StatusCode)
      (details? : Option String) (headers? : Option Metadata)
      (cause? : Option Failure)
  deriving Repr, Inhabited

namespace CallError

/-- An internal error with nothing from the remote. -/
def ofInternal (message : String) (statusCode : StatusCode) : CallError :=
  .internal message statusCode none none none

/-- An external error with nothing from the remote. -/
def ofExternal (message : String) (statusCode? : Option StatusCode) :
    CallError :=
  .external message statusCode? none none none

def message : CallError → String
  | .timeout _ message _ => message
  | .internal message _ _ _ _ => message
  | .external message _ _ _ _ => message

/-- The failure class, if the error has one. Timeouts always do. -/
def statusCode? : CallError → Option StatusCode
  | .timeout _ _ _ => some .timeout
  | .internal _ statusCode _ _ _ => some statusCode
  | .external _ statusCode? _ _ _ => statusCode?

def marker : CallError → Marker
  | .timeout _ _ _ => .external
  | .internal _ _ _ _ _ => .internal
  | .external _ _ _ _ _ => .external

def details? : CallError → Option String
  | .timeout _ _ _ => none
  | .internal _ _ details? _ _ => details?
  | .external _ _ details? _ _ => details?

/-- The metadata that the remote sent, without credentials. -/
def headers? : CallError → Option Metadata
  | .timeout _ _ _ => none
  | .internal _ _ _ headers? _ => headers?
  | .external _ _ _ headers? _ => headers?

def cause? : CallError → Option Failure
  | .timeout _ _ cause? => cause?
  | .internal _ _ _ _ cause? => cause?
  | .external _ _ _ _ cause? => cause?

def timeoutKind? : CallError → Option TimeoutKind
  | .timeout kind _ _ => some kind
  | _ => none

def isTimeout (error : CallError) : Bool :=
  error.timeoutKind?.isSome

/-- Whether the retry window passed before the call was done. -/
def isRetryWindow (error : CallError) : Bool :=
  error.timeoutKind? == some .retryWindow

def kindName : CallError → String
  | .timeout _ _ _ => "Timeout"
  | .internal _ _ _ _ _ => "Internal"
  | .external _ _ _ _ _ => "External"

end CallError

end Redial
