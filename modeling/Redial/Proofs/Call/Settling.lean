import Redial.Proofs.Call.Cancellation
import Redial.Proofs.Call.Retries
import Redial.Proofs.Call.Window

/-!
When a call settles. Every call that its caller does not drop comes to a
result, whatever the transport does. It takes at most the timeout of one
attempt to come to the first failure. From there the window ends the call or,
where there is none, each retry takes no longer than a pause and one more
timeout, and the count bounds the retries.
-/

namespace Redial

variable {α β : Type}

/-- Whether a call came to a result for its caller. -/
def Ending.isSettled : Ending β → Bool
  | .answered _ | .nothing | .failed _ => true
  | .dropped | .unfinished => false

theorem Reply.settlement_elapsed_le (timeout : Nat) (reply : Reply β) :
    (reply.settlement timeout).elapsed ≤ timeout := by
  cases reply with
  | never => exact Nat.le_refl _
  | settles after outcome =>
    by_cases htime : after ≤ timeout
    · simp [settlement, htime]
    · simp [settlement, htime]

namespace Plan

variable {plan : Plan α β}

theorem settlement_elapsed_le (plan : Plan α β) (index : Nat) :
    (plan.settlement index).elapsed ≤ plan.policy.attemptTimeout :=
  Reply.settlement_elapsed_le ..

theorem ended_settled {state : CallState} {time : Nat}
    {assessment : Assessment} :
    (plan.ended state time assessment).ending.isSettled = true := by
  cases herror : assessment.error? <;> simp [ended, herror, Ending.isSettled]

theorem interrupted_settled {state : CallState} {deadline : Deadline}
    (hcause : deadline.cause = .windowElapsed) :
    (plan.interrupted state deadline).ending.isSettled = true := by
  simp only [interrupted, hcause, Run.after_ending]
  exact ended_settled

section Sequences

variable {limit? : Option Deadline} {legs retries now : Nat}
  {failure : Failure} {run : Run α β}

/-- A sequence that only the window can cut off settles. -/
theorem Sequence.settled
    (hsequence : Sequence plan limit? legs retries now failure run)
    (hfinished : run.Finished)
    (hcause : ∀ deadline ∈ limit?, deadline.cause = .windowElapsed) :
    run.ending.isSettled = true := by
  induction hsequence with
  | ended => exact ended_settled
  | unfinished => exact absurd rfl hfinished
  | inPause _ hlimit | inAttempt _ hlimit =>
    exact interrupted_settled (hcause _ hlimit)
  | answered => rfl
  | again _ _ _ _ _ ih => exact ih hfinished

/-- Without a limit, each retry takes at most a pause and the timeout
of an attempt. -/
theorem Sequence.finish_le_of_retries
    (hsequence : Sequence plan none legs retries now failure run) :
    run.finish ≤
      now + retriesIn run.events *
        (plan.policy.retry.pause + plan.policy.attemptTimeout) := by
  induction hsequence with
  | ended | unfinished => exact Nat.le_add_right ..
  | inPause _ hlimit | inAttempt _ hlimit => cases hlimit
  | @answered _ retries _ done _ _ response _ hdone =>
    have hattempt := plan.settlement_elapsed_le (retries + 1)
    have hfinish :
        (plan.answered (plan.inAttempt (retries + 1)) done response).finish =
          done := rfl
    simp only [Run.after_finish, hfinish, Run.after_events, retriesIn_append,
      retriesIn_leg, retriesIn_lapse, retriesIn_answered]
    omega
  | @again _ retries _ _ _ _ _ _ _ hdone _ _ _ ih =>
    have hattempt := plan.settlement_elapsed_le (retries + 1)
    simp only [Run.after_finish, Run.after_events, retriesIn_append,
      retriesIn_leg, retriesIn_lapse, Nat.add_mul]
    omega

end Sequences

section Runs

variable {start : Nat}

theorem cause_of_mem_windowEnd? {time : Nat} {deadline : Deadline}
    (hwindow : deadline ∈ plan.windowEnd? time) :
    deadline.cause = .windowElapsed := by
  simp only [windowEnd?, Option.mem_def] at hwindow
  split at hwindow
  · cases hwindow
  · obtain rfl := Option.some.inj hwindow
    rfl

/-- A call that only the window can cut off settles. -/
theorem Course.settled {legs : Nat} {run : Run α β}
    (hcourse : Course plan none plan.windowEnd? legs start run)
    (hfinished : run.Finished) :
    run.ending.isSettled = true := by
  cases hcourse with
  | interrupted hlimit => cases hlimit
  | answered => rfl
  | ended =>
    rw [Run.after_ending]
    exact ended_settled
  | retried _ _ _ hrest =>
    exact hrest.settled hfinished fun _ => cause_of_mem_windowEnd?

theorem run_settled (hsound : plan.policy.Sound) (start : Nat) :
    (plan.run start none).ending.isSettled = true := by
  have hfinished := plan.run_finished hsound start none
  rw [run_none] at hfinished ⊢
  exact (plan.follow_course ..).settled hfinished

/-- There is one call to the transport more than there are retries. -/
theorem run_calls (hsound : plan.policy.Sound) (start : Nat)
    (patience? : Option Nat) :
    (plan.run start patience?).calls =
      retriesIn (plan.run start patience?).events + 1 := by
  obtain ⟨errors, closing, hrecorded, hclosing⟩ :=
    plan.run_recorded hsound start patience?
  rw [Run.calls_eq_countP_recorded, retriesIn, hrecorded,
    hclosing.countP_calls, hclosing.countP_retries]

/-- A call lasts no longer than its first attempt may and than the retry
sequence after it does. -/
theorem Course.finish_le {legs longest : Nat} {run : Run α β}
    (hcourse : Course plan none plan.windowEnd? legs start run)
    (hrest : plan.policy.retry.enabled = true → ∀ {failure rest},
      Sequence plan (plan.windowEnd? (plan.firstDone start)) legs 0
        (plan.firstDone start) failure rest →
          rest.finish ≤ plan.firstDone start + longest) :
    run.finish ≤ start + plan.policy.attemptTimeout + longest := by
  have hfirst : plan.firstDone start ≤ start + plan.policy.attemptTimeout :=
    Nat.add_le_add_left (plan.settlement_elapsed_le 0) start
  cases hcourse with
  | interrupted hlimit => cases hlimit
  | answered | ended => exact Nat.le_trans hfirst (Nat.le_add_right ..)
  | retried _ _ henabled hsequence =>
    have hfinish := hrest henabled hsequence
    rw [Run.after_finish]
    omega

theorem run_finish_le_of_disabled
    (hdisabled : plan.policy.retry.enabled = false) :
    (plan.run start none).finish ≤ start + plan.policy.attemptTimeout := by
  rw [← Nat.add_zero (start + plan.policy.attemptTimeout), run_none]
  apply (plan.follow_course ..).finish_le
  intro henabled
  simp [hdisabled] at henabled

theorem run_finish_le_of_window (hwindow : 0 < plan.policy.retry.window) :
    (plan.run start none).finish ≤
      start + plan.policy.attemptTimeout + plan.policy.retry.window := by
  rw [run_none]
  apply (plan.follow_course ..).finish_le
  intro _ _ _ hsequence
  exact hsequence.finish_le (windowEnd?_of_pos hwindow) (Nat.le_add_right ..)

theorem run_finish_le_of_count (hcount : plan.policy.retry.maxCount ≠ 0)
    (hwindow : plan.policy.retry.window = 0) :
    let count := plan.policy.retry.maxCount.toNat
    (plan.run start none).finish ≤
      start + (count + 1) * plan.policy.attemptTimeout + count *
        plan.policy.retry.delay := by
  intro count
  have hpause : plan.policy.retry.pause ≤ plan.policy.retry.delay :=
    pauseLength_le _
  have hpauses := Nat.mul_le_mul_left count hpause
  have hfinish :
      (plan.run start none).finish ≤ start + plan.policy.attemptTimeout +
        count * (plan.policy.retry.pause + plan.policy.attemptTimeout) := by
    rw [run_none]
    apply (plan.follow_course ..).finish_le
    intro _ _ _ hsequence
    have hretries := hsequence.retries_le_count hcount (Nat.zero_le _)
    simp only [windowEnd?, hwindow, if_true] at hsequence
    apply Nat.le_trans hsequence.finish_le_of_retries
    apply Nat.add_le_add_left
    apply Nat.mul_le_mul_right
    omega
  rw [Nat.mul_add] at hfinish
  rw [Nat.add_mul, Nat.one_mul]
  omega

end Runs

end Plan

namespace Client

theorem plan_policy {client : Client} {span : String}
    {transport : Transport α β} {context : TraceContext}
    {request : CallRequest α} {overrides? : Option CallOptions}
    {plan : Plan α β}
    (hplan :
      client.plan span transport context request overrides? = .ok plan) :
    plan.policy = client.policy overrides? := by
  obtain ⟨metadata, -, rfl⟩ := plan_eq_ok_iff.mp hplan
  rfl

/-- Whatever its options say and whatever the transport does, a call that
nobody drops settles. It makes no more calls to the transport than its policy
has room for, and following its retry sequence any further adds nothing. It is
over at the latest after the timeout of one attempt if retries are off, after
that and the window if there is one, and otherwise after as many timeouts and
pauses as the count allows. -/
theorem request_settles (client : Client) (span : String)
    (transport : Transport α β) (visit : Visit α) (start : Nat) :
    let run :=
      client.request span transport { visit with patience? := none } start
    let policy := client.policy visit.overrides?
    let retry := policy.retry
    let count := retry.maxCount.toNat
    run.ending.isSettled = true ∧
      run.calls ≤ retry.capacity + 1 ∧
      (∀ plan, client.plan span transport visit.context visit.request
        visit.overrides? = .ok plan →
        ∀ more, plan.follow none plan.windowEnd? (retry.maxRetries + more)
          start = run) ∧
      (retry.enabled = false → run.finish ≤ start + policy.attemptTimeout) ∧
      (retry.enabled = true → 0 < retry.window →
        run.finish ≤ start + policy.attemptTimeout + retry.window) ∧
      (retry.enabled = true → retry.window = 0 →
        run.finish ≤ start + (count + 1) * policy.attemptTimeout + count *
          retry.delay) := by
  intro run policy retry count
  cases hplan : client.plan span transport visit.context visit.request
      visit.overrides? with
  | error error =>
    have hrun : run = ⟨[], .failed error, start⟩ := request_eq_failed hplan
    rw [hrun]
    refine ⟨rfl, Nat.zero_le _, nofun,
      fun _ => Nat.le_add_right .., fun _ _ => ?_, fun _ _ => ?_⟩
    · exact Nat.le_trans (Nat.le_add_right ..) (Nat.le_add_right ..)
    · exact Nat.le_trans (Nat.le_add_right ..) (Nat.le_add_right ..)
  | ok plan =>
    have hrun : run = plan.run start none := request_eq_run hplan
    have hpolicy : policy = plan.policy := (plan_policy hplan).symm
    have hsound := plan_sound hplan
    simp only [hrun, retry, count, hpolicy]
    refine ⟨plan.run_settled hsound start, ?_, ?_,
      plan.run_finish_le_of_disabled, ?_, ?_⟩
    · rw [plan.run_calls hsound]
      exact Nat.add_le_add_right (plan.run_retries_le hsound start none) 1
    · rintro _ ⟨⟩ more
      have hfinished := plan.run_finished hsound start none
      rw [Plan.run_none] at hfinished ⊢
      exact Plan.follow_add hfinished more
    · intro _ hwindow
      exact Plan.run_finish_le_of_window hwindow
    · intro henabled hwindow
      have hcount := (hsound.bounded henabled).resolve_right (by omega)
      exact Plan.run_finish_le_of_count hcount hwindow

/-- A call with the usual timeout and no count, whose attempts are never
answered, is over within its window of one minute. -/
theorem request_settles_of_silence :
    let client : Client :=
      { defaults :=
          { retry := { timeout? := some 60000, maxCount? := some (-1) } }
        builder := fun _ _ _ _ => .ok {} }
    let transport : Transport Unit Unit := fun _ _ => .never
    let run :=
      client.request "" transport { context := default, request := default } 0
    run.ending.isSettled = true ∧ run.calls ≤ 13 ∧ run.finish ≤ 75000 := by
  intro client transport run
  obtain ⟨hsettled, hcalls, -, -, hwindow, -⟩ :=
    request_settles client "" transport
      { context := default, request := default } 0
  have hcapacity : (client.policy none).retry.capacity + 1 = 13 := by
    decide +kernel
  have hlatest :
      (client.policy none).attemptTimeout +
        (client.policy none).retry.window = 75000 := by
    decide +kernel
  have hfinish := hwindow (by decide +kernel) (by decide +kernel)
  rw [Nat.zero_add] at hfinish
  refine ⟨hsettled, ?_, ?_⟩
  · exact Nat.le_trans hcalls (Nat.le_of_eq hcapacity)
  · exact Nat.le_trans hfinish (Nat.le_of_eq hlatest)

end Client

end Redial
