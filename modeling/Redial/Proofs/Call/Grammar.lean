import Redial.Proofs.Call.Course

/-!
The grammar of what a call records: its timers, its counters, its log entries
and its calls to the transport, in their order. Every call opens in the same
way. Then each failed attempt that is retried adds one block, up to the next
call to the transport, and `Closing` lists the few ways in which the record
can end. The ways are told apart by the ending of the call, but for the window
that passes during a pause: it leaves a longer record, since the last failure
is already on it.
-/

namespace Redial

variable {α β : Type}

namespace Event

/-- Whether an event is recorded by a timer, a counter, the log or the
transport. -/
def isRecorded : Event α → Bool
  | .traced _ | .abandoned => false
  | _ => true

/-- Whether the event is an increment of a counter. -/
def increments (family : Metrics.Family) : Event α → Bool
  | .incremented other _ => other == family
  | _ => false

end Event

/-- The recorded ones of some events, without their times. -/
def recorded (events : List (TimedEvent α)) : List (Event α) :=
  (events.map TimedEvent.event).filter Event.isRecorded

@[simp] theorem recorded_append (before behind : List (TimedEvent α)) :
    recorded (before ++ behind) = recorded before ++ recorded behind := by
  simp [recorded]

@[simp] theorem recorded_allAt (time : Nat) (events : List (Event α)) :
    recorded (allAt time events) = events.filter Event.isRecorded := by
  simp [recorded, allAt, Function.comp_def]

namespace Plan

/-- The record up to the first call to the transport. -/
def opened (plan : Plan α β) : List (Event α) :=
  [.timerStarted (plan.stop 0), .logged (.started plan.fields),
    .called plan.invocation]

/-- The record of an attempt that failed and was retried, up to the next call
to the transport. -/
def reopened (plan : Plan α β) (retries : Nat) (error : CallError) :
    List (Event α) :=
  [.incremented .failures (plan.failureLabels error),
    .timerStopped (plan.stop retries),
    .logged (.retrying (.ofError error) (plan.fieldsAfter retries)),
    .incremented .retries plan.labels,
    .timerStarted (plan.stop (retries + 1)), .called plan.invocation]

/-- The record of attempts that failed one after another, the first of them
after some retries. -/
def reopenedAfter (plan : Plan α β) (retries : Nat)
    (errors : List CallError) : List (Event α) :=
  (errors.zipIdx retries).flatMap fun (error, index) =>
    plan.reopened index error

/-- The error of a call whose window elapsed. -/
def windowError (plan : Plan α β) : CallError :=
  let signal : TimeoutSignal :=
    ⟨.retryWindow, "Retry-request timed out " ++
      inSeconds plan.policy.retry.window⟩
  .timeout signal.kind signal.message (some (.timeout signal))

/-- How the record of a call can end, with its ending and the time of its end.
The retry sequence began at the time `first`, and there were some retries. -/
inductive Closing (plan : Plan α β) (first retries : Nat) :
    (finish : Nat) → Ending β → List (Event α) → Prop where
  | answered {finish : Nat} (response : β) :
      Closing plan first retries finish (.answered response)
        [.timerStopped (plan.stop retries),
          .logged (.succeeded (plan.fieldsAfter retries))]
  | nothing {finish : Nat} {assessment : Assessment}
      (herror : assessment.error? = none)
      (hseverity : assessment.severity = .warn) :
      Closing plan first retries finish .nothing
        [.timerStopped (plan.stop retries),
          .logged (.failed assessment (plan.fieldsAfter retries))]
  | failed {finish : Nat} (error : CallError) :
      Closing plan first retries finish (.failed error)
        [.timerStopped (plan.stop retries),
          .logged (.failed (.ofError error) (plan.fieldsAfter retries)),
          .incremented .failures (plan.failureLabels error)]
  | elapsedInPause {finish : Nat} (error : CallError)
      (hwindow : plan.windowEnd? first = some ⟨finish, .windowElapsed⟩) :
      Closing plan first retries finish (.failed plan.windowError)
        [.incremented .failures (plan.failureLabels error),
          .timerStopped (plan.stop retries),
          .logged (.retrying (.ofError error) (plan.fieldsAfter retries)),
          .logged (.failed (.ofError plan.windowError)
            (plan.fieldsAfter retries)),
          .incremented .failures (plan.failureLabels plan.windowError)]
  | droppedInAttempt {finish : Nat} :
      Closing plan first retries finish .dropped
        [.timerStopped (plan.stop retries)]
  | droppedInPause {finish : Nat} (error : CallError) :
      Closing plan first retries finish .dropped
        [.incremented .failures (plan.failureLabels error),
          .timerStopped (plan.stop retries),
          .logged (.retrying (.ofError error) (plan.fieldsAfter retries))]

variable {plan : Plan α β} {first retries now : Nat} {error : CallError}

theorem reopenedAfter_cons (errors : List CallError) :
    plan.reopenedAfter retries (error :: errors) =
      plan.reopened retries error ++
        plan.reopenedAfter (retries + 1) errors := by
  simp [reopenedAfter, List.zipIdx_cons]

section Counting

variable {finish : Nat} {ending : Ending β} {errors : List CallError}
  {closing : List (Event α)}

/-- What every block counts for, all blocks count for together. -/
theorem countP_reopenedAfter {counted : Event α → Bool} {each : Nat}
    (hblock :
      ∀ index error, (plan.reopened index error).countP counted = each) :
    (plan.reopenedAfter retries errors).countP counted =
      errors.length * each := by
  induction errors generalizing retries with
  | nil => simp [reopenedAfter]
  | cons error errors ih =>
    rw [reopenedAfter_cons, List.countP_append, hblock, ih, List.length_cons,
      Nat.add_mul, Nat.one_mul, Nat.add_comm]

/-- The count over a whole record, with a known count for each block. -/
theorem countP_record {counted : Event α → Bool} (each : Nat)
    (hblock :
      ∀ index error, (plan.reopened index error).countP counted = each) :
    (plan.opened ++ plan.reopenedAfter 0 errors ++ closing).countP counted =
      plan.opened.countP counted + errors.length * each +
        closing.countP counted := by
  rw [List.countP_append, List.countP_append, countP_reopenedAfter hblock]

theorem Closing.countP_calls
    (hclosing : Closing plan first errors.length finish ending closing) :
    (plan.opened ++ plan.reopenedAfter 0 errors ++ closing).countP
      Event.isCall = errors.length + 1 := by
  rw [countP_record 1 fun _ _ => rfl]
  cases hclosing <;> simp [opened, Event.isCall, Nat.add_comm]

theorem Closing.countP_retries
    (hclosing : Closing plan first errors.length finish ending closing) :
    (plan.opened ++ plan.reopenedAfter 0 errors ++ closing).countP
      (Event.increments .retries) = errors.length := by
  rw [countP_record 1 fun _ _ => rfl]
  cases hclosing <;> simp [opened, Event.increments]

end Counting

theorem recorded_prologue (start : Nat) :
    recorded (plan.prologue start) = plan.opened := rfl

theorem recorded_leg :
    recorded (plan.leg retries now (.ofError error) error) =
      plan.reopened retries error := rfl

theorem recorded_lapse (index done : Nat) :
    recorded (plan.lapse index done) = [] := by
  unfold lapse
  split <;> rfl

theorem assess_windowTimeout :
    (Failure.windowTimeout plan.policy.retry.window).assess =
      .ofError plan.windowError := rfl

/-- A failure that ends a call during an attempt. -/
theorem ended_closing (plan : Plan α β) (first retries now : Nat)
    (failure : Failure) :
    Closing plan first retries now
      (plan.ended (plan.inAttempt retries) now failure.assess).ending
      (recorded
        (plan.ended (plan.inAttempt retries) now failure.assess).events) := by
  rcases failure.assess_cases with ⟨status, -, -, hassess⟩ | ⟨error, hassess⟩
  · rw [hassess]
    exact .nothing rfl rfl
  · rw [hassess]
    exact .failed error

/-- An interruption during an attempt. -/
theorem interrupted_inAttempt_closing (plan : Plan α β) (first retries : Nat)
    (deadline : Deadline) :
    Closing plan first retries deadline.time
      (plan.interrupted (plan.inAttempt retries) deadline).ending
      (recorded
        (plan.interrupted (plan.inAttempt retries) deadline).events) := by
  unfold interrupted
  split
  · exact .failed plan.windowError
  · exact .droppedInAttempt

/-- An interruption during the pause after a failed attempt. -/
theorem interrupted_inPause_closing (plan : Plan α β) (now retries : Nat)
    (error : CallError) {deadline : Deadline}
    (hwindow : deadline.cause = .windowElapsed →
      plan.windowEnd? first = some deadline) :
    Closing plan first retries deadline.time
      (plan.interrupted (.inPause retries) deadline).ending
      (recorded (allAt now (plan.failing retries (.ofError error) error)) ++
        recorded (plan.interrupted (.inPause retries) deadline).events) := by
  obtain ⟨time, cause⟩ := deadline
  cases cause with
  | windowElapsed => exact .elapsedInPause error (hwindow rfl)
  | dropped => exact .droppedInPause error

/-- The record of a retry sequence: a block for each attempt that was retried,
and a closing. -/
theorem Sequence.recorded {limit? : Option Deadline} {legs : Nat}
    {failure : Failure} {run : Run α β}
    (hsequence : Sequence plan limit? legs retries now failure run)
    (hfinished : run.Finished)
    (hwindow : ∀ deadline ∈ limit?, deadline.cause = .windowElapsed →
      plan.windowEnd? first = some deadline) :
    ∃ errors closing,
      recorded run.events = plan.reopenedAfter retries errors ++ closing ∧
      Closing plan first (retries + errors.length) run.finish run.ending
        closing := by
  induction hsequence with
  | ended => exact ⟨[], _, rfl, plan.ended_closing ..⟩
  | unfinished => exact absurd rfl hfinished
  | @inPause _ retries now failure error deadline hretried hlimit =>
    rw [Failure.assess_eq_ofError (Option.filter_eq_some_iff.mp hretried).1]
    have hclosing :=
      plan.interrupted_inPause_closing now retries error
        (hwindow deadline hlimit)
    exact ⟨[], _, recorded_append ..,
      interrupted_finish plan _ deadline ▸ hclosing⟩
  | @inAttempt _ retries now failure error deadline hretried =>
    rw [Failure.assess_eq_ofError (Option.filter_eq_some_iff.mp hretried).1]
    have hclosing :=
      plan.interrupted_inAttempt_closing first (retries + 1) deadline
    refine ⟨[error], _, ?_, interrupted_finish plan _ deadline ▸ hclosing⟩
    simp [recorded_leg, reopenedAfter, Event.isRecorded]
  | @answered _ retries now done failure error response hretried =>
    rw [Failure.assess_eq_ofError (Option.filter_eq_some_iff.mp hretried).1]
    refine ⟨[error], _, ?_, .answered response⟩
    simp [recorded_leg, recorded_lapse, reopenedAfter, answered_inAttempt,
      Event.isRecorded]
  | @again _ retries now done failure next error rest hretried _ _ _ _ ih =>
    rw [Failure.assess_eq_ofError (Option.filter_eq_some_iff.mp hretried).1]
    obtain ⟨errors, closing, hrecorded, hclosing⟩ := ih hfinished
    refine ⟨error :: errors, closing, ?_, ?_⟩
    · simp [recorded_leg, recorded_lapse, reopenedAfter_cons, hrecorded]
    · rw [List.length_cons, Nat.add_comm errors.length, ← Nat.add_assoc]
      exact hclosing

/-- The record of a call that was followed to its end: an opening, a block for
each attempt that was retried, and a closing. -/
theorem Course.recorded {first? : Option Deadline}
    {sequence? : Nat → Option Deadline} {legs start : Nat} {run : Run α β}
    (hcourse : Course plan first? sequence? legs start run)
    (hfinished : run.Finished)
    (hwindow : ∀ deadline ∈ sequence? (plan.firstDone start),
      deadline.cause = .windowElapsed →
      plan.windowEnd? (plan.firstDone start) = some deadline) :
    ∃ errors closing,
      recorded run.events =
        plan.opened ++ plan.reopenedAfter 0 errors ++ closing ∧
      Closing plan (plan.firstDone start) errors.length run.finish run.ending
        closing := by
  cases hcourse with
  | @interrupted deadline =>
    have hclosing :=
      plan.interrupted_inAttempt_closing (plan.firstDone start) 0 deadline
    refine ⟨[], _, ?_, interrupted_finish plan _ deadline ▸ hclosing⟩
    simp [recorded_prologue, reopenedAfter, Event.isRecorded]
  | @answered response =>
    refine ⟨[], _, ?_, .answered response⟩
    simp [recorded_prologue, recorded_lapse, reopenedAfter,
      answered_inAttempt, Event.isRecorded]
  | @ended failure =>
    have hclosing :=
      plan.ended_closing (plan.firstDone start) 0 (plan.firstDone start)
        failure
    refine ⟨[], _, ?_, hclosing⟩
    simp [recorded_prologue, recorded_lapse, reopenedAfter]
  | retried _ _ _ hrest =>
    obtain ⟨errors, closing, hrecorded, hclosing⟩ :=
      hrest.recorded hfinished hwindow
    refine ⟨errors, closing, ?_, Nat.zero_add errors.length ▸ hclosing⟩
    simp [recorded_prologue, recorded_lapse, hrecorded]

end Plan

namespace Deadline

theorem earlier?_eq_some {first? second? : Option Deadline}
    {deadline : Deadline}
    (hearlier : earlier? first? second? = some deadline) :
    first? = some deadline ∨ second? = some deadline := by
  cases first? with
  | none => exact .inr (by simpa [earlier?] using hearlier)
  | some first =>
    cases second? with
    | none => exact .inl (by simpa [earlier?] using hearlier)
    | some second =>
      simp only [earlier?] at hearlier
      split at hearlier
      · exact .inl hearlier
      · exact .inr hearlier

end Deadline

namespace Plan

/-- The record of every call with a sound policy. -/
theorem run_recorded {plan : Plan α β} (hsound : plan.policy.Sound)
    (start : Nat) (patience? : Option Nat) :
    ∃ errors closing,
      recorded (plan.run start patience?).events =
        plan.opened ++ plan.reopenedAfter 0 errors ++ closing ∧
      Closing plan (plan.firstDone start) errors.length
        (plan.run start patience?).finish (plan.run start patience?).ending
        closing := by
  refine (plan.follow_course _ _ _ start).recorded
    (plan.run_finished hsound start patience?) ?_
  intro deadline hlimit hcause
  rcases Deadline.earlier?_eq_some hlimit with hwindow | hdrop
  · exact hwindow
  · obtain ⟨patience, -, rfl⟩ := Option.map_eq_some_iff.mp hdrop
    cases hcause

end Plan

end Redial
