import Redial.Proofs.Call.Grammar

/-!
How many retries a call makes. Each of them needs another pause before the
limit of its sequence and another place in the count of the policy, so a call
makes no more of them than `capacity` says. Where the window is the only bound
that many retries do happen: it takes a transport that fails each attempt at
once, with an error that is retried.
-/

namespace Redial

variable {α β : Type}

@[simp] theorem Event.increments_abandoned (family : Metrics.Family) :
    (.abandoned : Event α).increments family = false := rfl

/-- The retries that were counted among some events. -/
def retriesIn (events : List (TimedEvent α)) : Nat :=
  (recorded events).countP (Event.increments .retries)

@[simp] theorem retriesIn_nil :
    retriesIn ([] : List (TimedEvent α)) = 0 := rfl

@[simp] theorem retriesIn_append (before behind : List (TimedEvent α)) :
    retriesIn (before ++ behind) = retriesIn before + retriesIn behind := by
  simp [retriesIn]

@[simp] theorem retriesIn_allAt (time : Nat) (events : List (Event α)) :
    retriesIn (allAt time events) =
      events.countP (Event.increments .retries) := by
  have hrecorded (event : Event α) :
      (event.increments .retries && event.isRecorded) =
        event.increments .retries := by
    cases event <;> simp [Event.increments, Event.isRecorded]
  simp [retriesIn, List.countP_filter, hrecorded]

/-- The most retries that calls under a policy make: its count or, where it
has none, as many as there are pauses in its window. -/
def RetryPolicy.capacity (policy : RetryPolicy) : Nat :=
  if policy.enabled then
    if policy.maxCount = 0 then policy.window / policy.pause
    else policy.maxCount.toNat
  else 0

namespace Plan

variable {plan : Plan α β}

section Sequences

variable {limit? : Option Deadline} {legs retries now time : Nat}
  {failure : Failure} {run : Run α β} {assessment : Assessment}
  {error : CallError} {state : CallState}

@[simp] theorem countP_retries_failing :
    (plan.failing retries assessment error).countP
      (Event.increments .retries) = 0 := by
  simp [failing, Event.increments]

@[simp] theorem retriesIn_prologue : retriesIn (plan.prologue time) = 0 := by
  simp [retriesIn, recorded_prologue, opened, Event.increments]

@[simp] theorem retriesIn_leg :
    retriesIn (plan.leg retries now assessment error) = 1 := by
  simp [leg, failing, reopening, opening, Event.increments]

@[simp] theorem retriesIn_lapse :
    retriesIn (plan.lapse retries time) = 0 := by
  simp [retriesIn, recorded_lapse]

@[simp] theorem retriesIn_answered {response : β} :
    retriesIn (plan.answered (plan.inAttempt retries) time response).events =
      0 := by
  simp [answered_inAttempt, Event.increments]

@[simp] theorem countP_retries_stop (timer : Timer) :
    (timer.stop (α := α)).1.countP (Event.increments .retries) = 0 := by
  simp [Timer.stop, Event.increments]

@[simp] theorem retriesIn_ended :
    retriesIn (plan.ended state time assessment).events = 0 := by
  cases herror : assessment.error? <;>
    simp [ended, herror, Timer.leave, Event.increments]

@[simp] theorem retriesIn_interrupted {deadline : Deadline} :
    retriesIn (plan.interrupted state deadline).events = 0 := by
  unfold interrupted
  split
  · simp [Event.increments]
  · simp [Timer.leave]

/-- A sequence makes no more retries than there are pauses up to its limit. -/
theorem Sequence.retries_mul_pause_le {deadline : Deadline}
    (hsequence : Sequence plan limit? legs retries now failure run)
    (hlimit : limit? = some deadline) (hnow : now ≤ deadline.time) :
    now + retriesIn run.events * plan.policy.retry.pause ≤ deadline.time := by
  induction hsequence with
  | ended => simpa using hnow
  | unfinished => simpa using hnow
  | inPause => simpa using hnow
  | inAttempt _ hother hresume =>
    obtain rfl := Option.some.inj (hother.symm.trans hlimit)
    simpa using hresume
  | answered _ hdone hopen =>
    have hwithin := hopen deadline hlimit
    simp only [Run.after_events, retriesIn_append, retriesIn_leg,
      retriesIn_lapse, retriesIn_answered]
    omega
  | again _ hdone hopen _ _ ih =>
    have hrest := ih (hopen deadline hlimit)
    simp only [Run.after_events, retriesIn_append, retriesIn_leg,
      retriesIn_lapse, Nat.add_mul]
    omega

/-- A failure is retried only as long as there is another place in the
count. -/
theorem lt_maxCount_of_retried (hcount : plan.policy.retry.maxCount ≠ 0)
    (hretried : plan.retried? retries assessment = some error) :
    retries < plan.policy.retry.maxCount.toNat := by
  have hallows := (Option.filter_eq_some_iff.mp hretried).2
  simp only [Bool.and_eq_true, RetryPolicy.allowsAnother,
    beq_false_of_ne hcount, Bool.false_or, decide_eq_true_eq] at hallows
  exact hallows.2

/-- A sequence makes no more retries than are left of the count. -/
theorem Sequence.retries_le_count
    (hsequence : Sequence plan limit? legs retries now failure run)
    (hcount : plan.policy.retry.maxCount ≠ 0)
    (hretries : retries ≤ plan.policy.retry.maxCount.toNat) :
    retries + retriesIn run.events ≤ plan.policy.retry.maxCount.toNat := by
  induction hsequence with
  | ended => simpa using hretries
  | unfinished => simpa using hretries
  | inPause => simpa using hretries
  | inAttempt hretried | answered hretried =>
    have hless := lt_maxCount_of_retried hcount hretried
    simpa using Nat.succ_le_of_lt hless
  | again hretried _ _ _ _ ih =>
    have hless := lt_maxCount_of_retried hcount hretried
    have hrest := ih hless
    simp only [Run.after_events, retriesIn_append, retriesIn_leg,
      retriesIn_lapse]
    omega

/-- Every attempt fails at once, and its failure is retried. -/
def FailsAtOnce (plan : Plan α β) (failure : Failure) : Prop :=
  ∀ index, (plan.settlement index).elapsed = 0 ∧
    (plan.settlement index).outcome = .error failure ∧
    plan.retried? index failure.assess ≠ none

/-- Where every attempt fails at once, retries are made until no pause is left
up to the limit. -/
theorem Sequence.lt_retries_mul_pause {deadline : Deadline}
    (hsequence : Sequence plan limit? legs retries now failure run)
    (hlimit : limit? = some deadline) (hfinished : run.Finished)
    (hfails : plan.FailsAtOnce failure) :
    deadline.time < now + (retriesIn run.events + 1) *
      plan.policy.retry.pause := by
  induction hsequence with
  | ended hretried => exact absurd hretried (hfails _).2.2
  | unfinished => exact absurd rfl hfinished
  | inPause _ hother hearly =>
    obtain rfl := Option.some.inj (hother.symm.trans hlimit)
    simpa using hearly
  | @inAttempt _ retries _ _ _ _ _ hother hresume hearly =>
    obtain rfl := Option.some.inj (hother.symm.trans hlimit)
    have hat := (hfails (retries + 1)).1
    omega
  | @answered _ retries _ _ _ _ _ _ _ _ houtcome =>
    have hfailed := (hfails (retries + 1)).2.1
    rw [houtcome] at hfailed
    cases hfailed
  | @again _ retries _ _ _ _ _ _ _ hdone _ houtcome _ ih =>
    obtain ⟨hat, hfailed, -⟩ := hfails (retries + 1)
    obtain rfl := Except.error.inj (houtcome.symm.trans hfailed)
    have hrest := ih hfinished hfails
    simp only [Run.after_events, retriesIn_append, retriesIn_leg,
      retriesIn_lapse]
    rw [Nat.add_zero, Nat.add_assoc 1, Nat.add_mul 1]
    omega

end Sequences

section Runs

/-- The retries of a call are those of its retry sequence, if it comes to
one. -/
theorem Course.retries_cases {first? : Option Deadline}
    {sequence? : Nat → Option Deadline} {legs start : Nat} {run : Run α β}
    (hcourse : Course plan first? sequence? legs start run) :
    retriesIn run.events = 0 ∨
      plan.policy.retry.enabled = true ∧ ∃ failure rest,
        (∀ deadline ∈ first?, plan.firstDone start ≤ deadline.time) ∧
        Sequence plan (sequence? (plan.firstDone start)) legs 0
          (plan.firstDone start) failure rest ∧
        retriesIn run.events = retriesIn rest.events := by
  cases hcourse with
  | interrupted | answered | ended => simp
  | retried hlimit _ henabled hrest =>
    exact .inr ⟨henabled, _, _, hlimit, hrest, by simp⟩

/-- A call makes no more retries than the capacity of its policy. -/
theorem run_retries_le (hsound : plan.policy.Sound) (start : Nat)
    (patience? : Option Nat) :
    retriesIn (plan.run start patience?).events ≤
      plan.policy.retry.capacity := by
  have hcourse : Course plan _ _ plan.policy.retry.maxRetries start
      (plan.run start patience?) :=
    plan.follow_course ..
  obtain hnone | ⟨henabled, failure, rest, hlimit, hrest, hretries⟩ :=
    hcourse.retries_cases
  · rw [hnone]
    exact Nat.zero_le _
  · rw [hretries, RetryPolicy.capacity, if_pos henabled]
    split
    next hcount =>
      have hwindow : 0 < plan.policy.retry.window :=
        (hsound.bounded henabled).resolve_left (not_not_intro hcount)
      obtain ⟨deadline, hdeadline, hfrom, hwithin⟩ :=
        earlier?_windowEnd? hwindow hlimit
      have hpauses := hrest.retries_mul_pause_le hdeadline hfrom
      apply (Nat.le_div_iff_mul_le hsound.pause_pos).mpr
      omega
    next hcount =>
      have hleft := hrest.retries_le_count hcount (Nat.zero_le _)
      omega

/-- With no count but the window, a call whose attempts all fail at once makes
as many retries as there are pauses in the window. -/
theorem run_retries_of_failsAtOnce {failure : Failure}
    (hsound : plan.policy.Sound) (henabled : plan.policy.retry.enabled = true)
    (hcount : plan.policy.retry.maxCount = 0)
    (hfails : plan.FailsAtOnce failure) (start : Nat) :
    retriesIn (plan.run start none).events =
      plan.policy.retry.window / plan.policy.retry.pause := by
  have hwindow : 0 < plan.policy.retry.window :=
    (hsound.bounded henabled).resolve_left (not_not_intro hcount)
  have hmost := run_retries_le hsound start none
  simp only [RetryPolicy.capacity, henabled, hcount, if_true] at hmost
  have hfinished := plan.run_finished hsound start none
  have houtcome := (hfails 0).2.1
  rw [run_none, follow_failed (by simp) houtcome,
    if_pos henabled] at hfinished hmost ⊢
  have hleast :=
    (plan.retrying_sequence ..).lt_retries_mul_pause
      (windowEnd?_of_pos hwindow) hfinished hfails
  dsimp only at hleast
  simp only [Run.after_events, retriesIn_append, retriesIn_prologue,
    retriesIn_lapse, Nat.zero_add] at hmost ⊢
  apply Nat.le_antisymm hmost
  apply Nat.lt_add_one_iff.mp
  apply (Nat.div_lt_iff_lt_mul hsound.pause_pos).mpr
  omega

end Runs

end Plan

end Redial
