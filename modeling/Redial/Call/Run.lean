import Redial.Call.Event
import Redial.Options.Policy

/-!
How a call goes. The first attempt runs under its own deadline. If it fails
and retries are enabled, the retry sequence begins: as long as a failure is
one to retry and the count allows another retry, the call pauses and makes
the next attempt. The window bounds the whole sequence from the first
failure on, and the caller may drop the call at any time; work that is done
at the very millisecond of a deadline is done in time, and of the two the
window passes first.

Time is a number of milliseconds that moves only when the call waits.
`retrying` follows the sequence for a number of retries, and `run` gives it as
many as a policy can lead to. A call keeps its state from one attempt to the
next. When it ends the state goes out of scope, and with it the timer, which
was stopped before unless the caller dropped the call.
-/

namespace Redial

inductive Interruption where
  | windowElapsed
  | dropped
  deriving DecidableEq, Repr, Inhabited

structure Deadline where
  time : Nat
  cause : Interruption
  deriving DecidableEq, Repr, Inhabited

/-- The earlier of two deadlines, or the first one where they are at
the same time. -/
def Deadline.earlier? : Option Deadline → Option Deadline → Option Deadline
  | some first, some second =>
    some (if first.time ≤ second.time then first else second)
  | first?, second? => first?.or second?

/-- The deadline that interrupts work that is done at a time. -/
def Deadline.before? (deadline? : Option Deadline) (done : Nat) :
    Option Deadline :=
  deadline?.filter fun deadline => deadline.time < done

/-- How a call ended. A run that was not followed far enough is unfinished. -/
inductive Ending (β : Type) where
  | answered (response : β)
  | nothing
  | failed (error : CallError)
  | dropped
  | unfinished
  deriving Repr, Inhabited

structure Run (α β : Type) where
  events : List (TimedEvent α)
  ending : Ending β
  finish : Nat
  deriving Repr, Inhabited

namespace Run

variable {α β : Type}

def after (events : List (TimedEvent α)) (run : Run α β) : Run α β :=
  { run with events := events ++ run.events }

def calls (run : Run α β) : Nat :=
  run.events.countP fun timed => timed.event.isCall

end Run

/-- What an attempt comes to: it settles at a time, or it is interrupted. -/
inductive Trial (β : Type) where
  | settled (time : Nat) (outcome : Except Failure β)
  | interrupted (deadline : Deadline)

/-- What a call keeps from one attempt to the next: the retries so far,
and the timer. -/
structure CallState where
  retries : Nat
  timer : Timer
  deriving DecidableEq, Repr, Inhabited

/-- What a call runs by: its policy, what it sends, and what comes of each
attempt. -/
structure Plan (α β : Type) where
  policy : CallPolicy
  invocation : Invocation α
  reply : Nat → Reply β

/-- The most retries that a policy leads to: its count, or one more than there
are pauses in the window. -/
def RetryPolicy.maxRetries (policy : RetryPolicy) : Nat :=
  if policy.maxCount = 0 then policy.window / policy.pause + 1
  else policy.maxCount.toNat

namespace Plan

variable {α β : Type}

def fields (plan : Plan α β) : Log.Fields where
  service := plan.invocation.service
  method := plan.invocation.method

/-- The log fields after some retries. The count is kept in 32 bits. -/
def fieldsAfter (plan : Plan α β) (retries : Nat) : Log.Fields :=
  plan.fields.withRetryCount (UInt32.ofNat retries)

def labels (plan : Plan α β) : Labels :=
  (({} : Labels).add "service" plan.invocation.service).add "method"
    plan.invocation.method

def failureLabels (plan : Plan α β) (error : CallError) : Labels :=
  (plan.labels.add "status_code"
      ((error.statusCode?.map StatusCode.text).getD "unknown")).add
    "type" error.marker.name

/-- What the attempt after some retries comes to under the timeout of the
policy. -/
def settlement (plan : Plan α β) (index : Nat) : Settlement β :=
  (plan.reply index).settlement plan.policy.attemptTimeout

def opening (plan : Plan α β) : List (Event α) :=
  [.traced (.attempting plan.invocation.service plan.invocation.method),
    .called plan.invocation]

/-- An attempt that begins at a time: its events, and what it comes to. -/
def attempt (plan : Plan α β) (index now : Nat) (limit? : Option Deadline) :
    List (TimedEvent α) × Trial β :=
  let settlement := plan.settlement index
  let done := now + settlement.elapsed
  match Deadline.before? limit? done with
  | some deadline =>
    (allAt now plan.opening ++ allAt deadline.time [.abandoned],
      .interrupted deadline)
  | none =>
    (allAt now plan.opening ++
        allAt done (if settlement.abandons then [.abandoned] else []),
      .settled done settlement.outcome)

/-- The events with which a call begins, and its state then. -/
def beginning (plan : Plan α β) : List (Event α) × CallState :=
  let (started, timer) := Timer.start 0 plan.labels
  (started ++ [.logged (.started plan.fields)], ⟨0, timer⟩)

def answered (plan : Plan α β) (state : CallState) (time : Nat)
    (response : β) : Run α β :=
  let (stopped, timer) := state.timer.stop
  { events :=
      allAt time
        (stopped ++ .logged (.succeeded (plan.fieldsAfter state.retries)) ::
          timer.leave)
    ending := .answered response
    finish := time }

def ended (plan : Plan α β) (state : CallState) (time : Nat)
    (assessment : Assessment) : Run α β :=
  let (stopped, timer) := state.timer.stop
  { events :=
      allAt time
        (stopped ++
          .logged (.failed assessment (plan.fieldsAfter state.retries)) ::
          (assessment.error?.map fun error =>
            .incremented .failures (plan.failureLabels error)).toList ++
          timer.leave)
    ending :=
      match assessment.error? with
      | some error => .failed error
      | none => .nothing
    finish := time }

def interrupted (plan : Plan α β) (state : CallState) (deadline : Deadline) :
    Run α β :=
  match deadline.cause with
  | .windowElapsed =>
    let window := plan.policy.retry.window
    (plan.ended state deadline.time
        (Failure.windowTimeout window).assess).after
      (allAt deadline.time
        [.traced (.windowElapsed plan.invocation.service
          plan.invocation.method window)])
  | .dropped =>
    ⟨allAt deadline.time state.timer.leave, .dropped, deadline.time⟩

/-- An attempt that begins at a time, and what follows: the end of the call,
or what is made of a failure. -/
def attempting (plan : Plan α β) (state : CallState) (now : Nat)
    (limit? : Option Deadline) (failed : Nat → Failure → Run α β) : Run α β :=
  let (events, trial) := plan.attempt state.retries now limit?
  let rest :=
    match trial with
    | .interrupted deadline => plan.interrupted state deadline
    | .settled time (.ok response) => plan.answered state time response
    | .settled time (.error failure) => failed time failure
  rest.after events

/-- The error of a failed attempt, if another attempt is made for it. -/
def retried? (plan : Plan α β) (retries : Nat) (assessment : Assessment) :
    Option CallError :=
  assessment.error?.filter fun error =>
    plan.policy.retry.admits error.statusCode? &&
      plan.policy.retry.allowsAnother retries

/-- The events of a failed attempt that is retried, and the state
during the pause. -/
def pausing (plan : Plan α β) (state : CallState) (assessment : Assessment)
    (error : CallError) : List (Event α) × CallState :=
  let (stopped, timer) := state.timer.stop
  (.incremented .failures (plan.failureLabels error) :: stopped ++
      [.logged (.retrying assessment (plan.fieldsAfter state.retries))],
    { state with timer })

/-- The events with which a retry begins, and the state then. -/
def resuming (plan : Plan α β) (state : CallState) :
    List (Event α) × CallState :=
  let retries := state.retries + 1
  let (replaced, timer) := state.timer.replace retries plan.labels
  (.incremented .retries plan.labels :: replaced, ⟨retries, timer⟩)

/-- The retry sequence from a failure on, followed for at most `legs`
retries. -/
def retrying (plan : Plan α β) (limit? : Option Deadline) :
    (legs : Nat) → CallState → (now : Nat) → Failure → Run α β
  | legs, state, now, failure =>
    let assessment := failure.assess
    match plan.retried? state.retries assessment with
    | none => plan.ended state now assessment
    | some error =>
      match legs with
      | 0 => ⟨[], .unfinished, now⟩
      | legs + 1 =>
        let (failing, paused) := plan.pausing state assessment error
        let resume := now + plan.policy.retry.pause
        let rest :=
          match Deadline.before? limit? resume with
          | some deadline => plan.interrupted paused deadline
          | none =>
            let (resuming, resumed) := plan.resuming paused
            (plan.attempting resumed resume limit?
                (plan.retrying limit? legs resumed)).after
              (allAt resume resuming)
        rest.after (allAt now failing)

/-- The call from a time on, followed for at most `legs` retries. The
first attempt has a limit, and the retry sequence has one that may depend
on when it begins. -/
def follow (plan : Plan α β) (first? : Option Deadline)
    (sequence? : Nat → Option Deadline) (legs start : Nat) : Run α β :=
  let (events, state) := plan.beginning
  let failed (time : Nat) (failure : Failure) : Run α β :=
    if plan.policy.retry.enabled then
      plan.retrying (sequence? time) legs state time failure
    else plan.ended state time failure.assess
  (plan.attempting state start first? failed).after (allAt start events)

def windowEnd? (plan : Plan α β) (now : Nat) : Option Deadline :=
  let window := plan.policy.retry.window
  if window = 0 then none else some ⟨now + window, .windowElapsed⟩

/-- The call from a time on, with a caller who waits for some milliseconds
or without end. -/
def run (plan : Plan α β) (start : Nat) (patience? : Option Nat) : Run α β :=
  let drop? := patience?.map fun patience => ⟨start + patience, .dropped⟩
  plan.follow drop?
    (fun time => Deadline.earlier? (plan.windowEnd? time) drop?)
    plan.policy.retry.maxRetries start

end Plan

end Redial
