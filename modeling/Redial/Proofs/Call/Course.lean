import Redial.Proofs.Call.Sequence
import Redial.Proofs.Options.Sound

/-!
How a whole call goes: its first attempt is interrupted or answered, or it
fails and either ends the call or begins a retry sequence. `Course` lists
these ways, as `Sequence` does for what follows the first failure, and
`follow_course` says that a call goes in one of them. When the policy pauses
before each retry and bounds the number of retries, or the time for them, then
a call that is followed as far as `run` does comes to its end.
-/

namespace Redial

variable {α β : Type}

namespace Plan

/-- The events from the start of a call to its first call to the transport. -/
def prologue (plan : Plan α β) (start : Nat) : List (TimedEvent α) :=
  allAt start
    ([.timerStarted (plan.stop 0), .logged (.started plan.fields)] ++
      plan.opening)

/-- The time at which the first attempt settles if nothing interrupts it. -/
def firstDone (plan : Plan α β) (start : Nat) : Nat :=
  start + (plan.settlement 0).elapsed

section Follow

variable {plan : Plan α β} {first? : Option Deadline}
  {sequence? : Nat → Option Deadline} {legs start : Nat}

theorem follow_interrupted {deadline : Deadline}
    (hlimit : first? = some deadline)
    (hearly : deadline.time < plan.firstDone start) :
    plan.follow first? sequence? legs start =
      (plan.interrupted (plan.inAttempt 0) deadline).after
        (plan.prologue start ++ allAt deadline.time [.abandoned]) := by
  simp only [follow, beginning_eq]
  rw [attempting_interrupted hlimit hearly, Run.after_after]
  simp [prologue, allAt]

theorem follow_answered {response : β}
    (hlimit : ∀ deadline ∈ first?, plan.firstDone start ≤ deadline.time)
    (houtcome : (plan.settlement 0).outcome = .ok response) :
    plan.follow first? sequence? legs start =
      (plan.answered (plan.inAttempt 0) (plan.firstDone start) response).after
        (plan.prologue start ++ plan.lapse 0 (plan.firstDone start)) := by
  simp only [follow, beginning_eq]
  rw [attempting_answered hlimit houtcome, Run.after_after]
  simp [prologue, allAt, firstDone, inAttempt]

theorem follow_failed {failure : Failure}
    (hlimit : ∀ deadline ∈ first?, plan.firstDone start ≤ deadline.time)
    (houtcome : (plan.settlement 0).outcome = .error failure) :
    plan.follow first? sequence? legs start =
      (if plan.policy.retry.enabled then
        plan.retrying (sequence? (plan.firstDone start)) legs
          (plan.inAttempt 0) (plan.firstDone start) failure
      else plan.ended (plan.inAttempt 0) (plan.firstDone start)
        failure.assess).after
        (plan.prologue start ++ plan.lapse 0 (plan.firstDone start)) := by
  simp only [follow, beginning_eq]
  rw [attempting_failed hlimit houtcome, Run.after_after]
  simp [prologue, allAt, firstDone, inAttempt]

end Follow

/-- What a call comes to, whose first attempt has a limit and whose retry
sequence has one that depends on when it begins. -/
inductive Course (plan : Plan α β) (first? : Option Deadline)
    (sequence? : Nat → Option Deadline) (legs start : Nat) :
    Run α β → Prop where
  | interrupted {deadline : Deadline} (hlimit : first? = some deadline)
      (hearly : deadline.time < plan.firstDone start) :
      Course plan first? sequence? legs start
        ((plan.interrupted (plan.inAttempt 0) deadline).after
          (plan.prologue start ++ allAt deadline.time [.abandoned]))
  | answered {response : β}
      (hlimit : ∀ deadline ∈ first?, plan.firstDone start ≤ deadline.time)
      (houtcome : (plan.settlement 0).outcome = .ok response) :
      Course plan first? sequence? legs start
        ((plan.answered (plan.inAttempt 0) (plan.firstDone start)
            response).after
          (plan.prologue start ++ plan.lapse 0 (plan.firstDone start)))
  | ended {failure : Failure}
      (hlimit : ∀ deadline ∈ first?, plan.firstDone start ≤ deadline.time)
      (houtcome : (plan.settlement 0).outcome = .error failure)
      (hdisabled : plan.policy.retry.enabled = false) :
      Course plan first? sequence? legs start
        ((plan.ended (plan.inAttempt 0) (plan.firstDone start)
            failure.assess).after
          (plan.prologue start ++ plan.lapse 0 (plan.firstDone start)))
  | retried {failure : Failure} {rest : Run α β}
      (hlimit : ∀ deadline ∈ first?, plan.firstDone start ≤ deadline.time)
      (houtcome : (plan.settlement 0).outcome = .error failure)
      (henabled : plan.policy.retry.enabled = true)
      (hrest : Sequence plan (sequence? (plan.firstDone start)) legs 0
        (plan.firstDone start) failure rest) :
      Course plan first? sequence? legs start
        (rest.after
          (plan.prologue start ++ plan.lapse 0 (plan.firstDone start)))

/-- Every call goes in one of the listed ways. -/
theorem follow_course (plan : Plan α β) (first? : Option Deadline)
    (sequence? : Nat → Option Deadline) (legs start : Nat) :
    Course plan first? sequence? legs start
      (plan.follow first? sequence? legs start) := by
  cases hattempt : Deadline.before? first? (plan.firstDone start) with
  | some deadline =>
    obtain ⟨hlimit, hearly⟩ := Deadline.before?_eq_some_iff.mp hattempt
    exact follow_interrupted hlimit hearly ▸ .interrupted hlimit hearly
  | none =>
    have hlimit := Deadline.before?_eq_none_iff.mp hattempt
    cases houtcome : (plan.settlement 0).outcome with
    | ok response =>
      exact follow_answered hlimit houtcome ▸ .answered hlimit houtcome
    | error failure =>
      rw [follow_failed hlimit houtcome]
      cases henabled : plan.policy.retry.enabled with
      | false => exact .ended hlimit houtcome henabled
      | true =>
        exact .retried hlimit houtcome henabled (plan.retrying_sequence ..)

theorem windowEnd?_of_pos {plan : Plan α β} {time : Nat}
    (hwindow : 0 < plan.policy.retry.window) :
    plan.windowEnd? time =
      some ⟨time + plan.policy.retry.window, .windowElapsed⟩ :=
  if_neg (Nat.ne_of_gt hwindow)

theorem le_of_mem_windowEnd? {plan : Plan α β} {time : Nat}
    {deadline : Deadline} (hwindow : deadline ∈ plan.windowEnd? time) :
    time ≤ deadline.time := by
  simp only [windowEnd?, Option.mem_def] at hwindow
  split at hwindow
  · cases hwindow
  · obtain rfl := Option.some.inj hwindow
    exact Nat.le_add_right ..

theorem run_none (plan : Plan α β) (start : Nat) :
    plan.run start none =
      plan.follow none plan.windowEnd? plan.policy.retry.maxRetries
        start := by
  have hearlier (time : Nat) :
      Deadline.earlier? (plan.windowEnd? time) none =
        plan.windowEnd? time := by
    cases plan.windowEnd? time <;> rfl
  simp [run, hearlier]

/-- The limit of a sequence in a call with a window and a caller who may drop
it lies within the window. -/
theorem earlier?_windowEnd? {plan : Plan α β} {time : Nat}
    {drop? : Option Deadline} (hwindow : 0 < plan.policy.retry.window)
    (hdrop : ∀ deadline ∈ drop?, time ≤ deadline.time) :
    ∃ deadline,
      Deadline.earlier? (plan.windowEnd? time) drop? = some deadline ∧
      time ≤ deadline.time ∧
      deadline.time ≤ time + plan.policy.retry.window := by
  rw [windowEnd?_of_pos hwindow]
  cases drop? with
  | none => exact ⟨_, rfl, Nat.le_add_right .., Nat.le_refl _⟩
  | some drop =>
    simp only [Deadline.earlier?]
    split
    · exact ⟨_, rfl, Nat.le_add_right .., Nat.le_refl _⟩
    · exact ⟨_, rfl, hdrop drop rfl, by omega⟩

/-- As many retries as a sound policy leads to are enough to come to the
end of a call. -/
theorem run_finished {plan : Plan α β} (hsound : plan.policy.Sound)
    (start : Nat) (patience? : Option Nat) :
    (plan.run start patience?).Finished := by
  have hcourse := plan.follow_course
    (patience?.map fun patience => ⟨start + patience, .dropped⟩)
    (fun time => Deadline.earlier? (plan.windowEnd? time)
      (patience?.map fun patience => ⟨start + patience, .dropped⟩))
    plan.policy.retry.maxRetries start
  change (plan.follow _ _ _ start).Finished
  generalize plan.follow _ _ _ start = run at hcourse ⊢
  cases hcourse with
  | interrupted => exact (Run.after_finished ..).mpr interrupted_finished
  | answered => simp [Run.Finished, answered_inAttempt]
  | ended => exact (Run.after_finished ..).mpr ended_finished
  | retried hlimit houtcome henabled hrest =>
    rw [Run.after_finished]
    by_cases hcount : plan.policy.retry.maxCount = 0
    · have hwindow : 0 < plan.policy.retry.window :=
        (hsound.bounded henabled).resolve_left (not_not_intro hcount)
      obtain ⟨deadline, hdeadline, hfrom, hwithin⟩ :=
        earlier?_windowEnd? hwindow hlimit
      refine hrest.finished_of_limit hdeadline hfrom ?_
      have hlegs : plan.policy.retry.window <
          (plan.policy.retry.window / plan.policy.retry.pause + 1) *
            plan.policy.retry.pause :=
        (Nat.div_lt_iff_lt_mul hsound.pause_pos).mp (Nat.lt_succ_self _)
      simp only [RetryPolicy.maxRetries, hcount, if_true]
      omega
    · refine hrest.finished_of_count hcount ?_
      simp [RetryPolicy.maxRetries, hcount]

end Plan

end Redial
