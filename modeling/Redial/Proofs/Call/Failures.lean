import Mathlib.Data.List.Forall2
import Mathlib.Data.List.TakeWhile
import Redial.Proofs.Call.Accounts

/-!
The failures of a call, on its counter and in its log. The two agree: each
failure that is counted is logged as an error with the same labels, in the
same order. Each attempt counts for at most one failure, so there are no more
failures than calls to the transport, but for one case. If the window passes
during a pause, then the attempt before it was counted as one to retry, and
the end of the call is counted once more.
-/

namespace Redial

variable {α β : Type}

/-- What is recorded of each attempt, from its call to the transport up
to the next one. -/
def attempts : List (Event α) → List (List (Event α))
  | [] => []
  | .called _ :: rest =>
    rest.takeWhile (fun event => !event.isCall) :: attempts rest
  | _ :: rest => attempts rest

/-- Whether the last attempt of a record was logged as one to retry. -/
def endsInPause (record : List (Event α)) : Bool :=
  ((attempts record).getLast?.getD []).any
    (Event.isLogged ["gRPC request failed, retrying"])

theorem attempts_eq_nil {record : List (Event α)}
    (hcalls : ∀ event ∈ record, event.isCall = false) :
    attempts record = [] := by
  induction record with
  | nil => rfl
  | cons event rest ih =>
    have hfirst := hcalls event List.mem_cons_self
    have hrest :=
      ih fun later hmem => hcalls later (List.mem_cons_of_mem _ hmem)
    cases event with
    | called => cases hfirst
    | timerStarted | timerStopped | incremented | logged | traced
    | abandoned => exact hrest

/-- What the attempts of a call that was not dropped count for as failures. -/
structure FailuresByAttempt (ending : Ending β) (record : List (Event α)) :
    Prop where
  retried : ∀ attempt ∈ (attempts record).dropLast,
    attempt.countP (Event.increments .failures) = 1
  once : endsInPause record = false →
    (∀ attempt ∈ attempts record,
        attempt.countP (Event.increments .failures) ≤ 1) ∧
      record.countP (Event.increments .failures) ≤ record.countP Event.isCall
  twice : endsInPause record = true →
    (∃ last ∈ (attempts record).getLast?,
        last.countP (Event.increments .failures) = 2) ∧
      record.countP (Event.increments .failures) =
        record.countP Event.isCall + 1 ∧
      ∃ message cause?, ending =
        .failed (.timeout .retryWindow message cause?)

/-- The labels of a failure that is counted. -/
def Event.failure? : Event α → Option Labels
  | .incremented .failures labels => some labels
  | _ => none

def Event.entry? : Event α → Option Log.Entry
  | .logged entry => some entry
  | _ => none

/-- Whether the labels of a failure say what the fields of a log entry say. -/
structure Labels.Describe (labels : Labels) (fields : Log.Fields) : Prop where
  service : labels.get? "service" = some fields.service
  method : labels.get? "method" = some fields.method
  statusCode : labels.get? "status_code" =
    some ((fields.statusCode?.map StatusCode.text).getD "unknown")
  marker : labels.get? "type" = fields.marker?.map Marker.name

/-- Whether the failures that are counted and the errors that are logged
agree one by one. -/
def FailuresLogged (record : List (Event α)) : Prop :=
  List.Forall₂ (fun labels entry => labels.Describe entry.fields)
    (record.filterMap Event.failure?)
    ((record.filterMap Event.entry?).filter fun entry => entry.level = .error)

/-- What the log of a call says of its failures and of a call that
found nothing. -/
structure LogAgrees (ending : Ending β) (record : List (Event α)) : Prop where
  failures : FailuresLogged record
  warned : ending = .nothing → ∃ earlier last,
    record.filterMap Event.entry? = earlier ++ [last] ∧ last.level = .warn ∧
      ∀ entry ∈ earlier, entry.level ≠ .warn
  quiet : ending ≠ .nothing →
    ∀ entry ∈ record.filterMap Event.entry?, entry.level ≠ .warn

theorem FailuresLogged.append {before behind : List (Event α)}
    (hbefore : FailuresLogged before) (hbehind : FailuresLogged behind) :
    FailuresLogged (before ++ behind) := by
  simp only [FailuresLogged, List.filterMap_append, List.filter_append]
  exact List.rel_append hbefore hbehind

namespace Plan

variable {plan : Plan α β} {first retries finish : Nat}
  {errors : List CallError} {ending : Ending β} {closing : List (Event α)}

section Counter

theorem Closing.isCall_eq_false
    (hclosing : Closing plan first retries finish ending closing) :
    ∀ event ∈ closing, event.isCall = false := by
  cases hclosing <;> simp [Event.isCall]

/-- Every attempt that was retried is counted as one failure, and the last
attempt is the closing of the record. -/
theorem attempts_reopenedAfter
    (hcalls : ∀ event ∈ closing, event.isCall = false) :
    ∃ retried,
      attempts (.called plan.invocation ::
          (plan.reopenedAfter retries errors ++ closing)) =
        retried ++ [closing] ∧
      ∀ attempt ∈ retried,
        attempt.countP (Event.increments .failures) = 1 := by
  induction errors generalizing retries with
  | nil =>
    have hlast : closing.takeWhile (fun event => !event.isCall) = closing :=
      List.takeWhile_eq_self_iff.mpr fun event hmem => by
        simp [hcalls event hmem]
    refine ⟨[], ?_, by simp⟩
    simp [attempts, reopenedAfter, hlast, attempts_eq_nil hcalls]
  | cons error errors ih =>
    obtain ⟨retried, hattempts, hcounts⟩ := @ih (retries + 1)
    refine ⟨(plan.reopened retries error).dropLast :: retried, ?_, ?_⟩
    · rw [reopenedAfter_cons, List.append_assoc, List.cons_append,
        ← hattempts]
      rfl
    · intro attempt hmem
      rcases List.mem_cons.mp hmem with rfl | hmem
      · rfl
      · exact hcounts attempt hmem

/-- The failures in the closing of a call that was not dropped. -/
theorem Closing.countP_failures
    (hclosing : Closing plan first retries finish ending closing)
    (hended : ending ≠ .dropped) :
    closing.any (Event.isLogged ["gRPC request failed, retrying"]) = false ∧
        closing.countP (Event.increments .failures) ≤ 1 ∨
      closing.any (Event.isLogged ["gRPC request failed, retrying"]) = true ∧
        closing.countP (Event.increments .failures) = 2 ∧
        ∃ message cause?, ending =
          .failed (.timeout .retryWindow message cause?) := by
  cases hclosing with
  | answered =>
    refine .inl ⟨?_, ?_⟩ <;>
      simp [Event.isLogged, Event.increments, Log.Entry.succeeded]
  | nothing herror =>
    refine .inl ⟨?_, ?_⟩ <;>
      simp [Event.isLogged, Event.increments, Log.Entry.failed, herror]
  | failed =>
    refine .inl ⟨?_, ?_⟩ <;>
      simp [Event.isLogged, Event.increments, Log.Entry.failed,
        Assessment.ofError]
  | elapsedInPause =>
    refine .inr ⟨?_, ?_, _, _, rfl⟩ <;>
      simp [Event.isLogged, Event.increments, Log.Entry.retrying]
  | droppedInAttempt | droppedInPause => exact absurd rfl hended

/-- The failures of a record with a closing of a call that was not dropped. -/
theorem Closing.failuresByAttempt
    (hclosing : Closing plan first errors.length finish ending closing)
    (hended : ending ≠ .dropped) :
    FailuresByAttempt ending
      (plan.opened ++ plan.reopenedAfter 0 errors ++ closing) := by
  have hcalls := hclosing.countP_calls
  have hfailures :
      (plan.opened ++ plan.reopenedAfter 0 errors ++ closing).countP
        (Event.increments .failures) =
          errors.length + closing.countP (Event.increments .failures) := by
    rw [countP_record 1 fun _ _ => rfl]
    simp [opened, Event.increments]
  obtain ⟨retried, hattempts, hretried⟩ :
      ∃ retried,
        attempts (plan.opened ++ plan.reopenedAfter 0 errors ++ closing) =
          retried ++ [closing] ∧
        ∀ attempt ∈ retried,
          attempt.countP (Event.increments .failures) = 1 := by
    rw [List.append_assoc]
    exact plan.attempts_reopenedAfter hclosing.isCall_eq_false
  have hpause :
      endsInPause (plan.opened ++ plan.reopenedAfter 0 errors ++ closing) =
        closing.any (Event.isLogged ["gRPC request failed, retrying"]) := by
    rw [endsInPause, hattempts, List.getLast?_concat]
    rfl
  constructor
  case retried => rwa [hattempts, List.dropLast_concat]
  case once =>
    intro hquiet
    obtain ⟨-, hcount⟩ | ⟨hlogged, -⟩ := hclosing.countP_failures hended
    · refine ⟨?_, by omega⟩
      rw [hattempts]
      intro attempt hmem
      rcases List.mem_append.mp hmem with hmem | hmem
      · exact Nat.le_of_eq (hretried attempt hmem)
      · rwa [List.mem_singleton.mp hmem]
    · rw [hpause, hlogged] at hquiet
      cases hquiet
  case twice =>
    intro hlogged
    obtain ⟨hquiet, -⟩ | ⟨-, hcount, hending⟩ :=
      hclosing.countP_failures hended
    · rw [hpause, hquiet] at hlogged
      cases hlogged
    · refine ⟨⟨closing, ?_, hcount⟩, by omega, hending⟩
      rw [hattempts, List.getLast?_concat]
      rfl

end Counter

section Log

theorem describe_failureLabels (plan : Plan α β) (retries : Nat)
    (error : CallError) :
    (plan.failureLabels error).Describe
      ((plan.fieldsAfter retries).ofAssessment (.ofError error)) where
  service := rfl
  method := rfl
  statusCode := rfl
  marker := rfl

theorem failuresLogged_reopenedAfter :
    FailuresLogged (plan.reopenedAfter retries errors) := by
  induction errors generalizing retries with
  | nil => exact .nil
  | cons error errors ih =>
    have hblock : FailuresLogged (plan.reopened retries error) :=
      .cons (plan.describe_failureLabels retries error) .nil
    rw [reopenedAfter_cons]
    exact hblock.append ih

theorem Closing.failuresLogged
    (hclosing : Closing plan first retries finish ending closing) :
    FailuresLogged closing := by
  cases hclosing with
  | answered | droppedInAttempt => exact .nil
  | nothing _ hseverity =>
    rw [FailuresLogged]
    simp only [List.filterMap_cons, Event.failure?, Event.entry?,
      Log.Entry.failed]
    simp [hseverity]
  | failed error | droppedInPause error =>
    exact .cons (plan.describe_failureLabels retries error) .nil
  | elapsedInPause error =>
    exact .cons (plan.describe_failureLabels retries error)
      (.cons (plan.describe_failureLabels retries plan.windowError) .nil)

/-- Nothing is warned of before the closing of a record. -/
theorem level_ne_warn_of_mem_opened_reopenedAfter {entry : Log.Entry}
    (hmem : entry ∈
      (plan.opened ++ plan.reopenedAfter retries errors).filterMap
        Event.entry?) :
    entry.level ≠ .warn := by
  rw [List.filterMap_append, List.mem_append] at hmem
  rcases hmem with hmem | hmem
  · have hstarted : (.started plan.fields : Log.Entry) = entry := by
      simpa [opened, Event.entry?] using hmem
    have hlevel : entry.level = .info := hstarted ▸ rfl
    simp [hlevel]
  · induction errors generalizing retries with
    | nil => simp [reopenedAfter] at hmem
    | cons error errors ih =>
      rw [reopenedAfter_cons, List.filterMap_append, List.mem_append] at hmem
      rcases hmem with hmem | hmem
      · have hretrying : .retrying (.ofError error)
            (plan.fieldsAfter retries) = entry := by
          simpa [reopened, Event.entry?] using hmem
        have hlevel : entry.level = .error := hretrying ▸ rfl
        simp [hlevel]
      · exact ih hmem

/-- The closing of a record warns only of a call that found nothing, and with
its last entry. -/
theorem Closing.warns
    (hclosing : Closing plan first retries finish ending closing) :
    (ending = .nothing → ∃ last, closing.filterMap Event.entry? = [last] ∧
        last.level = .warn) ∧
      (ending ≠ .nothing →
        ∀ entry ∈ closing.filterMap Event.entry?, entry.level ≠ .warn) := by
  cases hclosing with
  | nothing _ hseverity =>
    exact ⟨fun _ => ⟨_, rfl, hseverity⟩, fun hother => absurd rfl hother⟩
  | answered | failed | droppedInAttempt | droppedInPause =>
    simp [Event.entry?, Log.Entry.succeeded, Log.Entry.failed,
      Log.Entry.retrying, Assessment.ofError]
  | elapsedInPause error =>
    refine ⟨fun hnothing => (by cases hnothing), fun _ entry hmem => ?_⟩
    have hentry :
        entry = .retrying (.ofError error) (plan.fieldsAfter retries) ∨
          entry = .failed (.ofError plan.windowError)
            (plan.fieldsAfter retries) := by
      simpa only [List.filterMap_cons, Event.entry?, List.filterMap_nil,
        List.mem_cons, List.not_mem_nil, or_false] using hmem
    have hlevel : entry.level = .error := by
      rcases hentry with rfl | rfl
      · rfl
      · rfl
    simp [hlevel]

/-- The log of a record with any closing. -/
theorem Closing.logAgrees
    (hclosing : Closing plan first retries finish ending closing) :
    LogAgrees ending
      (plan.opened ++ plan.reopenedAfter 0 errors ++ closing) := by
  obtain ⟨hwarned, hquiet⟩ := hclosing.warns
  constructor
  case failures =>
    have hopened : FailuresLogged plan.opened := .nil
    exact (hopened.append plan.failuresLogged_reopenedAfter).append
      hclosing.failuresLogged
  case warned =>
    intro hnothing
    obtain ⟨last, hlast, hlevel⟩ := hwarned hnothing
    refine ⟨(plan.opened ++ plan.reopenedAfter 0 errors).filterMap
      Event.entry?, last, ?_, hlevel, ?_⟩
    · rw [List.filterMap_append, hlast]
    · intro entry hmem
      exact level_ne_warn_of_mem_opened_reopenedAfter hmem
  case quiet =>
    intro hother entry hmem
    rw [List.filterMap_append, List.mem_append] at hmem
    rcases hmem with hmem | hmem
    · exact level_ne_warn_of_mem_opened_reopenedAfter hmem
    · exact hquiet hother entry hmem

end Log

end Plan

namespace Client

variable {client : Client} {span : String} {transport : Transport α β}
  {visit : Visit α} {start : Nat}

/-- Each attempt of a call that is not dropped is counted as at most one
failure, and there are no more failures than calls to the transport, unless
the last attempt was logged as one to retry. Then the window passed during the
pause after it, the attempt is counted twice, and there is one failure more
than there are calls. -/
theorem request_failures_by_attempt
    (hended : (client.request span transport visit start).ending ≠ .dropped) :
    FailuresByAttempt (client.request span transport visit start).ending
      (recorded (client.request span transport visit start).events) := by
  cases hplan : client.plan span transport visit.context visit.request
      visit.overrides? with
  | error error =>
    rw [request_eq_failed hplan]
    exact ⟨nofun, fun _ => ⟨nofun, Nat.le_refl _⟩, nofun⟩
  | ok plan =>
    rw [request_eq_run hplan] at hended ⊢
    obtain ⟨errors, closing, hrecorded, hclosing⟩ :=
      plan.run_recorded (plan_sound hplan) start visit.patience?
    rw [hrecorded]
    exact hclosing.failuresByAttempt hended

/-- A window that passes during the third pause counts four failures of
three attempts. -/
theorem request_failures_of_elapsed_pause :
    let client : Client :=
      { defaults :=
          { retry :=
              { delay? := some 1000, timeout? := some 2500,
                maxCount? := some 0 } }
        builder := fun _ _ _ _ => .ok {} }
    let transport : Transport Unit Unit :=
      fun _ _ => .settles 0 (.error (.ofStatus .unavailable ""))
    let run :=
      client.request "" transport { context := default, request := default } 0
    (recorded run.events).countP Event.isCall = 3 ∧
      (recorded run.events).countP (Event.increments .failures) = 4 := by
  intro client transport run
  have hfailed : run.ending.isFailed = true := by decide +kernel
  have hended : run.ending ≠ .dropped := by
    intro hdropped
    simp [hdropped, Ending.isFailed] at hfailed
  have hpause : endsInPause (recorded run.events) = true := by decide +kernel
  have hcalls : (recorded run.events).countP Event.isCall = 3 := by
    decide +kernel
  obtain ⟨-, hcount, -⟩ := (request_failures_by_attempt hended).twice hpause
  exact ⟨hcalls, by rw [hcount, hcalls]⟩

/-- One attempt that fails at once is counted twice if the window is shorter
than the pause. -/
theorem request_counts_one_failure_twice :
    let client : Client :=
      { defaults := { retry := { timeout? := some 100 } }
        builder := fun _ _ _ _ => .ok {} }
    let transport : Transport Unit Unit :=
      fun _ _ => .settles 0 (.error (.ofStatus .unavailable ""))
    let run :=
      client.request "" transport { context := default, request := default } 0
    run.ending.isFailed = true ∧
      (attempts (recorded run.events)).map
        (List.countP (Event.increments .failures)) = [2] ∧
      (recorded run.events).countP Event.isCall = 1 ∧
      (recorded run.events).countP (Event.increments .failures) = 2 := by
  decide +kernel

/-- Failures are counted and logged alike, whether or not the call is dropped:
each one that is counted is logged as an error with the same service, method,
class and marker, and no other error is logged. Only a call that found nothing
logs a warning, and it does so with its last entry. -/
theorem request_failures_logged (client : Client) (span : String)
    (transport : Transport α β) (visit : Visit α) (start : Nat) :
    LogAgrees (client.request span transport visit start).ending
      (recorded (client.request span transport visit start).events) := by
  cases hplan : client.plan span transport visit.context visit.request
      visit.overrides? with
  | error error =>
    rw [request_eq_failed hplan]
    exact ⟨.nil, nofun, fun _ _ hmem => absurd hmem List.not_mem_nil⟩
  | ok plan =>
    obtain ⟨errors, closing, hrecorded, hclosing⟩ :=
      plan.run_recorded (plan_sound hplan) start visit.patience?
    rw [request_eq_run hplan, hrecorded]
    exact hclosing.logAgrees

end Client

end Redial
