import Redial.Failure.Assessment
import Redial.Log.Text

/-!
What is logged about a call: its start, each failed attempt that is retried,
and how it ended.
-/

namespace Redial.Log

namespace Fields

/-- The fields of a failure: its description, and its side and class where it
is an error. Where it is none the class is that of the status. -/
def ofAssessment (fields : Fields) (assessment : Assessment) : Fields :=
  match assessment.error? with
  | some error =>
    { fields with
      error? := some assessment.summary
      marker? := some error.marker
      statusCode? := error.statusCode? }
  | none =>
    { fields with
      error? := some assessment.summary
      statusCode? := some (.remote .notFound) }

end Fields

namespace Entry

def started (fields : Fields) : Entry :=
  ⟨.info, "gRPC request started", fields⟩

def succeeded (fields : Fields) : Entry :=
  ⟨.info, "gRPC request succeeded", fields⟩

def retrying (assessment : Assessment) (fields : Fields) : Entry :=
  ⟨assessment.severity, "gRPC request failed, retrying",
    fields.ofAssessment assessment⟩

def failed (assessment : Assessment) (fields : Fields) : Entry :=
  let message :=
    if assessment.error?.isSome then "gRPC request failed"
    else "gRPC request found nothing"
  ⟨assessment.severity, message, fields.ofAssessment assessment⟩

end Entry

namespace Record

def attempting (service method : String) : Record where
  level := .debug
  source := .attempts
  message := "Executing gRPC call"
  fields := [("service", service), ("method", method)]

def windowElapsed (service method : String) (window : Nat) : Record where
  level := .debug
  source := .attempts
  message := "Retry window elapsed"
  fields :=
    [("service", service), ("method", method),
      ("window_ms", String.ofList (Numeral.digits window))]

end Record

end Redial.Log
