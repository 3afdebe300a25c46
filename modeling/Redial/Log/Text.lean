import Redial.Failure.Basic
import Redial.Status.StatusCode

/-!
Log entries of calls. An entry is a level, which says how grave it is, a
message and the fields of one call; a record is the same for a sink that holds
texts only, with the part of the library it comes from. In the JSON text of
either, fields that are not set are left out.
-/

namespace Redial.Log

/-- The levels, from the gravest to the least. -/
inductive Level where
  | error
  | warn
  | info
  | debug
  | trace
  deriving DecidableEq, Repr, Inhabited

def Level.name : Level → String
  | .error => "ERROR"
  | .warn => "WARN"
  | .info => "INFO"
  | .debug => "DEBUG"
  | .trace => "TRACE"

def Level.all : List Level :=
  [.error, .warn, .info, .debug, .trace]

/-- The fields of a call. All but its name may be unset. -/
structure Fields where
  service : String
  method : String
  marker? : Option Marker := none
  statusCode? : Option StatusCode := none
  retryCount? : Option UInt32 := none
  error? : Option String := none
  deriving DecidableEq, Repr, Inhabited

structure Entry where
  level : Level
  message : String
  fields : Fields
  deriving DecidableEq, Repr, Inhabited

/-- The part of the library that a record comes from. -/
inductive Source where
  | outcomes
  | attempts
  deriving DecidableEq, Repr, Inhabited

/-- A level, a message and named texts. -/
structure Record where
  level : Level
  source : Source
  message : String
  fields : List (String × String)
  deriving DecidableEq, Repr, Inhabited

namespace Fields

def withRetryCount (fields : Fields) (count : UInt32) : Fields :=
  { fields with retryCount? := some count }

/-- A member with this name, if there is a value for it. -/
def member? {α β : Type} (name : String) (write : α → β) (value? : Option α) :
    List (String × β) :=
  (value?.map fun value => (name, write value)).toList

/-- The fields that are set, as texts. -/
def toTexts (fields : Fields) : List (String × String) :=
  [("service", fields.service), ("method", fields.method)] ++
    member? "logger_marker" Marker.name fields.marker? ++
    member? "status_code" StatusCode.text fields.statusCode? ++
    member? "retry_count"
      (fun count => String.ofList (Numeral.digits count.toNat))
      fields.retryCount? ++
    member? "error" id fields.error?

end Fields

def Entry.toRecord (entry : Entry) : Record where
  level := entry.level
  source := .outcomes
  message := entry.message
  fields := entry.fields.toTexts

def Fields.toJson (fields : Fields) : Json :=
  .object ([("service", .string fields.service),
    ("method", .string fields.method)] ++
    member? "logger_marker" (fun marker => Json.string marker.name)
      fields.marker? ++
    member? "status_code" StatusCode.toJson fields.statusCode? ++
    member? "retry_count" (fun count => Json.ofInt count.toNat)
      fields.retryCount? ++
    member? "error" Json.string fields.error?)

/-- The texts of a record in JSON, with the message among them. -/
def Record.fieldsToJson (record : Record) : Json :=
  .object (("message", .string record.message) ::
    record.fields.map fun (name, text) => (name, .string text))

end Redial.Log
