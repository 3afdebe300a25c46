import Redial.Call.Run

/-!
What a retry sequence can do. While an attempt is in flight the timer with its
number runs, and during a pause no timer runs; on these two states each step
of a call has an equation below. From them `Sequence` lists the ways in which
a sequence goes on after a failure, and `retrying_sequence` says that it goes
in one of these ways, whatever its limit. What holds of every sequence is then
proved by induction on them. The last part is about the number of retries that
are followed: a run that is finished stays the same when more are allowed, and
a limit or a count of retries is reached after a known number.
-/

namespace Redial

variable {α β : Type}

namespace Deadline

theorem before?_eq_some_iff {limit? : Option Deadline} {done : Nat}
    {deadline : Deadline} :
    before? limit? done = some deadline ↔
      limit? = some deadline ∧ deadline.time < done := by
  simp [before?, Option.filter_eq_some_iff]

theorem before?_eq_none_iff {limit? : Option Deadline} {done : Nat} :
    before? limit? done = none ↔
      ∀ deadline ∈ limit?, done ≤ deadline.time := by
  simp [before?, Option.filter_eq_none_iff]

end Deadline

namespace Run

@[simp] theorem after_events (run : Run α β) (events : List (TimedEvent α)) :
    (run.after events).events = events ++ run.events := rfl

@[simp] theorem after_ending (run : Run α β) (events : List (TimedEvent α)) :
    (run.after events).ending = run.ending := rfl

@[simp] theorem after_finish (run : Run α β) (events : List (TimedEvent α)) :
    (run.after events).finish = run.finish := rfl

theorem after_after (run : Run α β) (first second : List (TimedEvent α)) :
    (run.after second).after first = run.after (first ++ second) := by
  simp [after]

/-- Whether a run was followed to its end. -/
def Finished (run : Run α β) : Prop := run.ending ≠ .unfinished

@[simp] theorem after_finished (run : Run α β)
    (events : List (TimedEvent α)) :
    (run.after events).Finished ↔ run.Finished := Iff.rfl

end Run

/-- The state during the pause after some retries. -/
def CallState.inPause (retries : Nat) : CallState := ⟨retries, .stopped⟩

namespace Plan

/-- The stop of the timer of an attempt. -/
def stop (plan : Plan α β) (number : Nat) : TimerStop :=
  { plan.labels with number }

/-- The state while the attempt after some retries is in flight. -/
def inAttempt (plan : Plan α β) (retries : Nat) : CallState :=
  ⟨retries, .running retries plan.labels⟩

/-- The events of a failed attempt that is retried. -/
def failing (plan : Plan α β) (retries : Nat) (assessment : Assessment)
    (error : CallError) : List (Event α) :=
  [.incremented .failures (plan.failureLabels error),
    .timerStopped (plan.stop retries),
    .logged (.retrying assessment (plan.fieldsAfter retries))]

/-- The events from the end of a pause to the call to the transport. -/
def reopening (plan : Plan α β) (retries : Nat) : List (Event α) :=
  [.incremented .retries plan.labels,
    .timerStarted (plan.stop (retries + 1))] ++ plan.opening

/-- The events from a failure to the next call to the transport. -/
def leg (plan : Plan α β) (retries now : Nat) (assessment : Assessment)
    (error : CallError) : List (TimedEvent α) :=
  allAt now (plan.failing retries assessment error) ++
    allAt (now + plan.policy.retry.pause) (plan.reopening retries)

/-- The event of an attempt that gives up the transport at its own
deadline. -/
def lapse (plan : Plan α β) (index done : Nat) : List (TimedEvent α) :=
  allAt done (if (plan.settlement index).abandons then [.abandoned] else [])

theorem beginning_eq (plan : Plan α β) :
    plan.beginning =
      ([.timerStarted (plan.stop 0), .logged (.started plan.fields)],
        plan.inAttempt 0) := rfl

theorem answered_inAttempt (plan : Plan α β) (retries time : Nat)
    (response : β) :
    plan.answered (plan.inAttempt retries) time response =
      ⟨allAt time [.timerStopped (plan.stop retries),
          .logged (.succeeded (plan.fieldsAfter retries))],
        .answered response, time⟩ := rfl

theorem interrupted_finish (plan : Plan α β) (state : CallState)
    (deadline : Deadline) :
    (plan.interrupted state deadline).finish = deadline.time := by
  unfold interrupted
  split <;> rfl

theorem ended_finished {plan : Plan α β} {state : CallState} {time : Nat}
    {assessment : Assessment} :
    (plan.ended state time assessment).Finished := by
  cases herror : assessment.error? <;> simp [ended, herror, Run.Finished]

theorem interrupted_finished {plan : Plan α β} {state : CallState}
    {deadline : Deadline} :
    (plan.interrupted state deadline).Finished := by
  unfold interrupted
  split
  · exact (Run.after_finished ..).mpr ended_finished
  · simp [Run.Finished]

theorem attempting_interrupted {plan : Plan α β} {state : CallState}
    {now : Nat} {limit? : Option Deadline} {deadline : Deadline}
    {failed : Nat → Failure → Run α β} (hlimit : limit? = some deadline)
    (hearly : deadline.time < now + (plan.settlement state.retries).elapsed) :
    plan.attempting state now limit? failed =
      (plan.interrupted state deadline).after
        (allAt now plan.opening ++ allAt deadline.time [.abandoned]) := by
  have hbefore : Deadline.before? limit?
        (now + (plan.settlement state.retries).elapsed) =
      some deadline := Deadline.before?_eq_some_iff.mpr ⟨hlimit, hearly⟩
  simp [attempting, attempt, hbefore]

theorem attempting_answered {plan : Plan α β} {state : CallState} {now : Nat}
    {limit? : Option Deadline} {response : β}
    {failed : Nat → Failure → Run α β} (hlimit : ∀ deadline ∈ limit?,
      now + (plan.settlement state.retries).elapsed ≤ deadline.time)
    (houtcome : (plan.settlement state.retries).outcome = .ok response) :
    plan.attempting state now limit? failed =
      (plan.answered state (now + (plan.settlement state.retries).elapsed)
          response).after
        (allAt now plan.opening ++
          plan.lapse state.retries
            (now + (plan.settlement state.retries).elapsed)) := by
  have hbefore : Deadline.before? limit?
      (now + (plan.settlement state.retries).elapsed) = none :=
    Deadline.before?_eq_none_iff.mpr hlimit
  simp [attempting, attempt, hbefore, houtcome, lapse]

theorem attempting_failed {plan : Plan α β} {state : CallState} {now : Nat}
    {limit? : Option Deadline} {failure : Failure}
    {failed : Nat → Failure → Run α β} (hlimit : ∀ deadline ∈ limit?,
      now + (plan.settlement state.retries).elapsed ≤ deadline.time)
    (houtcome : (plan.settlement state.retries).outcome = .error failure) :
    plan.attempting state now limit? failed =
      (failed (now + (plan.settlement state.retries).elapsed) failure).after
        (allAt now plan.opening ++
          plan.lapse state.retries
            (now + (plan.settlement state.retries).elapsed)) := by
  have hbefore : Deadline.before? limit?
      (now + (plan.settlement state.retries).elapsed) = none :=
    Deadline.before?_eq_none_iff.mpr hlimit
  simp [attempting, attempt, hbefore, houtcome, lapse]

section Retrying

variable {plan : Plan α β} {limit? : Option Deadline} {legs retries now : Nat}
  {failure : Failure} {error : CallError}

theorem retrying_ended
    (hretried : plan.retried? retries failure.assess = none) :
    plan.retrying limit? legs (plan.inAttempt retries) now failure =
      plan.ended (plan.inAttempt retries) now failure.assess := by
  rw [retrying]
  simp [inAttempt, hretried]

theorem retrying_zero
    (hretried : plan.retried? retries failure.assess = some error) :
    plan.retrying limit? 0 (plan.inAttempt retries) now failure =
      ⟨[], .unfinished, now⟩ := by
  rw [retrying]
  simp [inAttempt, hretried]

theorem retrying_inPause {deadline : Deadline}
    (hretried : plan.retried? retries failure.assess = some error)
    (hlimit : limit? = some deadline)
    (hearly : deadline.time < now + plan.policy.retry.pause) :
    plan.retrying limit? (legs + 1) (plan.inAttempt retries) now failure =
      (plan.interrupted (.inPause retries) deadline).after
        (allAt now (plan.failing retries failure.assess error)) := by
  have hbefore : Deadline.before? limit? (now + plan.policy.retry.pause) =
      some deadline :=
    Deadline.before?_eq_some_iff.mpr ⟨hlimit, hearly⟩
  rw [retrying]
  simp [inAttempt, hretried, hbefore, pausing, failing, stop,
    CallState.inPause]

/-- A failure that is retried leads to another attempt. -/
theorem retrying_again
    (hretried : plan.retried? retries failure.assess = some error)
    (hlimit : ∀ deadline ∈ limit?,
      now + plan.policy.retry.pause ≤ deadline.time) :
    plan.retrying limit? (legs + 1) (plan.inAttempt retries) now failure =
      ((plan.attempting (plan.inAttempt (retries + 1))
        (now + plan.policy.retry.pause) limit?
          (plan.retrying limit? legs (plan.inAttempt (retries + 1)))).after
          (allAt (now + plan.policy.retry.pause)
            [.incremented .retries plan.labels,
              .timerStarted (plan.stop (retries + 1))])).after
          (allAt now (plan.failing retries failure.assess error)) := by
  have hbefore :
      Deadline.before? limit? (now + plan.policy.retry.pause) = none :=
    Deadline.before?_eq_none_iff.mpr hlimit
  rw [retrying]
  simp [inAttempt, hretried, hbefore, pausing, failing, stop, resuming,
    Timer.replace, Timer.start]

/-- What precedes the end of the attempt after a failure that is
retried, in one list. -/
theorem leg_append (rest : List (TimedEvent α)) :
    allAt now (plan.failing retries failure.assess error) ++
          allAt (now + plan.policy.retry.pause)
            [.incremented .retries plan.labels,
              .timerStarted (plan.stop (retries + 1))] ++
        (allAt (now + plan.policy.retry.pause) plan.opening ++ rest) =
      plan.leg retries now failure.assess error ++ rest := by
  simp [leg, reopening, allAt]

theorem retrying_inAttempt {deadline : Deadline}
    (hretried : plan.retried? retries failure.assess = some error)
    (hlimit : limit? = some deadline)
    (hresume : now + plan.policy.retry.pause ≤ deadline.time)
    (hearly : deadline.time <
      now + plan.policy.retry.pause +
        (plan.settlement (retries + 1)).elapsed) :
    plan.retrying limit? (legs + 1) (plan.inAttempt retries) now failure =
      (plan.interrupted (plan.inAttempt (retries + 1)) deadline).after
        (plan.leg retries now failure.assess error ++
          allAt deadline.time [.abandoned]) := by
  have hopen :
      ∀ deadline ∈ limit?, now + plan.policy.retry.pause ≤ deadline.time := by
    simpa [hlimit] using hresume
  rw [retrying_again hretried hopen, attempting_interrupted hlimit hearly,
    Run.after_after, Run.after_after, leg_append]

theorem retrying_answered {response : β}
    (hretried : plan.retried? retries failure.assess = some error)
    (hlimit : ∀ deadline ∈ limit?,
      now + plan.policy.retry.pause +
        (plan.settlement (retries + 1)).elapsed ≤ deadline.time)
    (houtcome : (plan.settlement (retries + 1)).outcome = .ok response) :
    plan.retrying limit? (legs + 1) (plan.inAttempt retries) now failure =
      (plan.answered (plan.inAttempt (retries + 1))
          (now + plan.policy.retry.pause +
            (plan.settlement (retries + 1)).elapsed)
          response).after
        (plan.leg retries now failure.assess error ++
          plan.lapse (retries + 1)
            (now + plan.policy.retry.pause +
              (plan.settlement (retries + 1)).elapsed)) := by
  have hopen :
      ∀ deadline ∈ limit?, now + plan.policy.retry.pause ≤ deadline.time :=
    fun deadline hmem => Nat.le_of_add_right_le (hlimit deadline hmem)
  rw [retrying_again hretried hopen, attempting_answered hlimit houtcome,
    Run.after_after, Run.after_after, leg_append]
  rfl

theorem retrying_failed {next : Failure}
    (hretried : plan.retried? retries failure.assess = some error)
    (hlimit : ∀ deadline ∈ limit?,
      now + plan.policy.retry.pause +
        (plan.settlement (retries + 1)).elapsed ≤ deadline.time)
    (houtcome : (plan.settlement (retries + 1)).outcome = .error next) :
    plan.retrying limit? (legs + 1) (plan.inAttempt retries) now failure =
      (plan.retrying limit? legs (plan.inAttempt (retries + 1))
          (now + plan.policy.retry.pause +
            (plan.settlement (retries + 1)).elapsed) next).after
        (plan.leg retries now failure.assess error ++
          plan.lapse (retries + 1)
            (now + plan.policy.retry.pause +
              (plan.settlement (retries + 1)).elapsed)) := by
  have hopen :
      ∀ deadline ∈ limit?, now + plan.policy.retry.pause ≤ deadline.time :=
    fun deadline hmem => Nat.le_of_add_right_le (hlimit deadline hmem)
  rw [retrying_again hretried hopen, attempting_failed hlimit houtcome,
    Run.after_after, Run.after_after, leg_append]
  rfl

end Retrying

/-- What a retry sequence comes to, from a failure at a time on and after some
retries, when it is followed for at most `legs` more. -/
inductive Sequence (plan : Plan α β) (limit? : Option Deadline) :
    (legs retries now : Nat) → Failure → Run α β → Prop where
  | ended {legs retries now : Nat} {failure : Failure}
      (hretried : plan.retried? retries failure.assess = none) :
      Sequence plan limit? legs retries now failure
        (plan.ended (plan.inAttempt retries) now failure.assess)
  | unfinished {retries now : Nat} {failure : Failure} {error : CallError}
      (hretried : plan.retried? retries failure.assess = some error) :
      Sequence plan limit? 0 retries now failure ⟨[], .unfinished, now⟩
  | inPause {legs retries now : Nat} {failure : Failure} {error : CallError}
      {deadline : Deadline}
      (hretried : plan.retried? retries failure.assess = some error)
      (hlimit : limit? = some deadline)
      (hearly : deadline.time < now + plan.policy.retry.pause) :
      Sequence plan limit? (legs + 1) retries now failure
        ((plan.interrupted (.inPause retries) deadline).after
          (allAt now (plan.failing retries failure.assess error)))
  | inAttempt {legs retries now : Nat} {failure : Failure} {error : CallError}
      {deadline : Deadline}
      (hretried : plan.retried? retries failure.assess = some error)
      (hlimit : limit? = some deadline)
      (hresume : now + plan.policy.retry.pause ≤ deadline.time)
      (hearly : deadline.time <
        now + plan.policy.retry.pause +
          (plan.settlement (retries + 1)).elapsed) :
      Sequence plan limit? (legs + 1) retries now failure
        ((plan.interrupted (plan.inAttempt (retries + 1)) deadline).after
          (plan.leg retries now failure.assess error ++
            allAt deadline.time [.abandoned]))
  | answered {legs retries now done : Nat} {failure : Failure}
      {error : CallError} {response : β}
      (hretried : plan.retried? retries failure.assess = some error)
      (hdone : done =
        now + plan.policy.retry.pause +
          (plan.settlement (retries + 1)).elapsed)
      (hlimit : ∀ deadline ∈ limit?, done ≤ deadline.time)
      (houtcome : (plan.settlement (retries + 1)).outcome = .ok response) :
      Sequence plan limit? (legs + 1) retries now failure
        ((plan.answered (plan.inAttempt (retries + 1)) done response).after
          (plan.leg retries now failure.assess error ++
            plan.lapse (retries + 1) done))
  | again {legs retries now done : Nat} {failure next : Failure}
      {error : CallError} {rest : Run α β}
      (hretried : plan.retried? retries failure.assess = some error)
      (hdone : done =
        now + plan.policy.retry.pause +
          (plan.settlement (retries + 1)).elapsed)
      (hlimit : ∀ deadline ∈ limit?, done ≤ deadline.time)
      (houtcome : (plan.settlement (retries + 1)).outcome = .error next)
      (hrest : Sequence plan limit? legs (retries + 1) done next rest) :
      Sequence plan limit? (legs + 1) retries now failure
        (rest.after
          (plan.leg retries now failure.assess error ++
            plan.lapse (retries + 1) done))

/-- Every retry sequence goes on in one of the listed ways. -/
theorem retrying_sequence (plan : Plan α β) (limit? : Option Deadline)
    (legs retries now : Nat) (failure : Failure) :
    Sequence plan limit? legs retries now failure
      (plan.retrying limit? legs (plan.inAttempt retries) now failure) := by
  induction legs generalizing retries now failure with
  | zero =>
    cases hretried : plan.retried? retries failure.assess with
    | none => exact retrying_ended hretried ▸ .ended hretried
    | some error => exact retrying_zero hretried ▸ .unfinished hretried
  | succ legs ih =>
    cases hretried : plan.retried? retries failure.assess with
    | none => exact retrying_ended hretried ▸ .ended hretried
    | some error =>
      cases hpause :
          Deadline.before? limit? (now + plan.policy.retry.pause) with
      | some deadline =>
        obtain ⟨hlimit, hearly⟩ := Deadline.before?_eq_some_iff.mp hpause
        exact retrying_inPause hretried hlimit hearly ▸ .inPause hretried
          hlimit hearly
      | none =>
        have hopen := Deadline.before?_eq_none_iff.mp hpause
        cases hattempt : Deadline.before? limit?
            (now + plan.policy.retry.pause +
              (plan.settlement (retries + 1)).elapsed) with
        | some deadline =>
          obtain ⟨hlimit, hearly⟩ := Deadline.before?_eq_some_iff.mp hattempt
          have hresume := hopen deadline hlimit
          exact retrying_inAttempt hretried hlimit hresume hearly ▸
            .inAttempt hretried hlimit hresume hearly
        | none =>
          have hlimit := Deadline.before?_eq_none_iff.mp hattempt
          cases houtcome : (plan.settlement (retries + 1)).outcome with
          | ok response =>
            exact retrying_answered hretried hlimit houtcome ▸
              .answered hretried rfl hlimit houtcome
          | error next =>
            exact retrying_failed hretried hlimit houtcome ▸
              .again hretried rfl hlimit houtcome (ih ..)

section Legs

variable {plan : Plan α β} {limit? : Option Deadline} {legs retries now : Nat}
  {failure : Failure} {run : Run α β}

/-- A sequence that was followed to its end stays the same when more
retries are allowed. -/
theorem Sequence.retrying_add
    (hsequence : Sequence plan limit? legs retries now failure run)
    (hfinished : run.Finished) (more : Nat) :
    plan.retrying limit? (legs + more) (plan.inAttempt retries) now failure =
      run := by
  induction hsequence with
  | ended hretried => exact retrying_ended hretried
  | unfinished hretried => exact absurd rfl hfinished
  | inPause hretried hlimit hearly =>
    rw [Nat.add_right_comm, retrying_inPause hretried hlimit hearly]
  | inAttempt hretried hlimit hresume hearly =>
    rw [Nat.add_right_comm, retrying_inAttempt hretried hlimit hresume hearly]
  | answered hretried hdone hlimit houtcome =>
    subst hdone
    rw [Nat.add_right_comm, retrying_answered hretried hlimit houtcome]
  | again hretried hdone hlimit houtcome hrest ih =>
    subst hdone
    rw [Nat.add_right_comm, retrying_failed hretried hlimit houtcome,
      ih hfinished]

/-- A limit is reached after as many retries as there are pauses before
it, and one more. -/
theorem Sequence.finished_of_limit {deadline : Deadline}
    (hsequence : Sequence plan limit? legs retries now failure run)
    (hlimit : limit? = some deadline) (hnow : now ≤ deadline.time)
    (hlegs : deadline.time < now + legs * plan.policy.retry.pause) :
    run.Finished := by
  induction hsequence with
  | ended => exact ended_finished
  | unfinished => omega
  | inPause | inAttempt =>
    exact (Run.after_finished ..).mpr interrupted_finished
  | answered => simp [Run.Finished, answered_inAttempt]
  | again _ hdone hopen _ _ ih =>
    have hnext := hopen deadline hlimit
    rw [Nat.add_mul, Nat.one_mul] at hlegs
    exact ih hnext (by omega)

/-- The count of the policy is reached after that many retries. -/
theorem Sequence.finished_of_count
    (hsequence : Sequence plan limit? legs retries now failure run)
    (hcount : plan.policy.retry.maxCount ≠ 0)
    (hlegs : plan.policy.retry.maxCount.toNat ≤ retries + legs) :
    run.Finished := by
  induction hsequence with
  | ended => exact ended_finished
  | unfinished hretried =>
    have hallows := (Option.filter_eq_some_iff.mp hretried).2
    simp [RetryPolicy.allowsAnother, hcount] at hallows
    omega
  | inPause | inAttempt =>
    exact (Run.after_finished ..).mpr interrupted_finished
  | answered => simp [Run.Finished, answered_inAttempt]
  | again _ _ _ _ _ ih => exact ih (by omega)

end Legs

end Plan

end Redial
