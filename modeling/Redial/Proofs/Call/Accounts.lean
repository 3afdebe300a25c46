import Redial.Proofs.Call.Grammar

/-!
The accounts of a call that its caller did not drop, drawn up from the grammar
of its record. Every attempt has one timer and one call to the transport, and
there is one attempt more than there were retries. Every attempt that failed
is counted once, whether it was retried or ended the call, and a window that
passes during a pause is counted for itself.
-/

namespace Redial

variable {α β : Type}

namespace Event

def isTimerStop : Event α → Bool
  | .timerStopped _ => true
  | _ => false

/-- Whether the event is a log entry with one of some messages. -/
def isLogged (messages : List String) : Event α → Bool
  | .logged entry => messages.contains entry.message
  | _ => false

end Event

namespace Log

/-- The messages with which a call that is not dropped ends. -/
def finalMessages : List String :=
  ["gRPC request succeeded", "gRPC request found nothing",
    "gRPC request failed"]

end Log

/-- Whether the caller gets an error. -/
def Ending.isFailed : Ending β → Bool
  | .failed _ => true
  | _ => false

namespace Plan

variable {plan : Plan α β} {first finish retries : Nat}
  {errors : List CallError} {ending : Ending β} {closing : List (Event α)}

/-- The retries of a log entry, as long as 32 bits hold them. -/
theorem retryCount?_fieldsAfter (plan : Plan α β)
    (hretries : retries < UInt32.size) :
    (plan.fieldsAfter retries).retryCount?.map UInt32.toNat = some retries :=
  congrArg some (UInt32.toNat_ofNat_of_lt hretries)

theorem retryCount?_ofAssessment (fields : Log.Fields)
    (assessment : Assessment) :
    (fields.ofAssessment assessment).retryCount? = fields.retryCount? := by
  unfold Log.Fields.ofAssessment
  split <;> rfl

/-- The one final entry of a call that was not dropped. -/
theorem Closing.final
    (hclosing : Closing plan first retries finish ending closing)
    (hended : ending ≠ .dropped) :
    ∃ entry : Log.Entry,
      closing.filter (Event.isLogged Log.finalMessages) = [.logged entry] ∧
      entry.fields.retryCount? = (plan.fieldsAfter retries).retryCount? := by
  cases hclosing with
  | answered response =>
    refine ⟨.succeeded (plan.fieldsAfter retries), ?_, rfl⟩
    simp [Event.isLogged, Log.finalMessages, Log.Entry.succeeded]
  | @nothing assessment herror =>
    refine ⟨.failed assessment (plan.fieldsAfter retries), ?_,
      retryCount?_ofAssessment ..⟩
    simp [Event.isLogged, Log.finalMessages, Log.Entry.failed, herror]
  | failed error =>
    refine ⟨.failed (.ofError error) (plan.fieldsAfter retries), ?_,
      retryCount?_ofAssessment ..⟩
    simp [Event.isLogged, Log.finalMessages, Log.Entry.failed,
      Assessment.ofError]
  | elapsedInPause error =>
    refine ⟨.failed (.ofError plan.windowError) (plan.fieldsAfter retries),
      ?_, retryCount?_ofAssessment ..⟩
    simp [Event.isLogged, Log.finalMessages, Log.Entry.failed,
      Log.Entry.retrying, Assessment.ofError]
  | droppedInAttempt | droppedInPause => exact absurd rfl hended

/-- Every timer is stopped, also that of a call that is dropped. -/
theorem Closing.countP_stops
    (hclosing : Closing plan first errors.length finish ending closing) :
    (plan.opened ++ plan.reopenedAfter 0 errors ++ closing).countP
      Event.isTimerStop = errors.length + 1 := by
  rw [countP_record 1 fun _ _ => rfl]
  cases hclosing <;> simp [opened, List.countP_cons, Event.isTimerStop]

end Plan

namespace Client

variable {client : Client} {span : String} {transport : Transport α β}
  {visit : Visit α} {start : Nat} {plan : Plan α β}

end Client

end Redial
