import Redial.Failure.Basic
import Redial.Log.Text

/-!
What is made of a failure: the error for the caller, how gravely it is logged,
and a line that describes it. The status `NOT_FOUND` is no error, since the
caller learns that there is nothing.
-/

namespace Redial

/-- What is made of a failure. Without an error the answer of the call is that
there is nothing. -/
structure Assessment where
  error? : Option CallError
  severity : Log.Level
  summary : String
  deriving Repr, Inhabited

namespace Assessment

def externalMessage : String := "External service error"

def credentialsKey : String := "authorization"

/-- The codes that are laid to the caller. -/
def isInternal : Code → Bool
  | .invalidArgument => true
  | .deadlineExceeded => true
  | .permissionDenied => true
  | .unauthenticated => true
  | _ => false

def ofError (error : CallError) : Assessment where
  error? := some error
  severity := .error
  summary := error.message

end Assessment

namespace RemoteStatus

/-- The number, name and message of a status in one line. -/
def summary (status : RemoteStatus) : String :=
  String.ofList (Numeral.digits status.code.toNat) ++ " " ++
    status.code.name ++ ": " ++ status.message

/-- The message of a status, unless it is empty. -/
def details? (status : RemoteStatus) : Option String :=
  if status.message = "" then none else some status.message

/-- The metadata of a status without credentials, unless nothing is left. -/
def headers? (status : RemoteStatus) : Option Metadata :=
  let headers := status.metadata.remove Assessment.credentialsKey
  if headers.isEmpty then none else some headers

def toError (status : RemoteStatus) : CallError :=
  if Assessment.isInternal status.code then
    .internal status.summary (.remote status.code) status.details?
      status.headers? (some (.status status))
  else
    .external status.summary (some (.remote status.code)) status.details?
      status.headers? (some (.status status))

def assess (status : RemoteStatus) : Assessment :=
  if status.code = .notFound then
    { error? := none, severity := .warn, summary := status.summary }
  else .ofError status.toError

end RemoteStatus

namespace Failure

def assess : Failure → Assessment
  | .timeout signal =>
    .ofError (.timeout signal.kind signal.message (some (.timeout signal)))
  | .status answer => answer.assess
  | .message text => .ofError (.ofExternal text none)
  | .object value =>
    let message :=
      ((value.member? "message").bind Json.string?).getD
        Assessment.externalMessage
    .ofError (.external message none none none (some (.object value)))
  | .other text sources =>
    .ofError (.external Assessment.externalMessage none none none
      (some (.other text sources)))

/-- A failure is the status that stands for nothing, or an error. -/
theorem assess_cases (failure : Failure) :
    (∃ status : RemoteStatus, failure = .status status ∧
      status.code = .notFound ∧
      failure.assess =
        { error? := none, severity := .warn, summary := status.summary }) ∨
    ∃ error, failure.assess = .ofError error := by
  cases failure with
  | status answer =>
    by_cases hcode : answer.code = .notFound
    · exact .inl ⟨answer, rfl, hcode,
        by simp [assess, RemoteStatus.assess, hcode]⟩
    · exact .inr ⟨_, by simp [assess, RemoteStatus.assess, hcode]; rfl⟩
  | timeout | message | object | other => exact .inr ⟨_, rfl⟩

theorem assess_eq_ofError {failure : Failure} {error : CallError}
    (herror : failure.assess.error? = some error) :
    failure.assess = .ofError error := by
  rcases failure.assess_cases with ⟨_, -, -, hassess⟩ | ⟨other, hassess⟩
  · simp [hassess] at herror
  · rw [hassess] at herror ⊢
    rw [Option.some.inj herror]

end Failure

end Redial
