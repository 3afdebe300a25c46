import Redial.Proofs.Call.Settling

/-!
Calls that are not retried. A call that must not be retried ends with its
first failure at once, on another way than one whose first failure is none to
retry: there the retry sequence begins, under its window, and ends at the
same moment. On both ways the rest of the retry policy leaves no trace, so
two such calls that agree on what they send and on the timeout of their
attempt are the same.
-/

namespace Redial

variable {α β : Type}

namespace Plan

/-- The class of the failure of the first attempt, if it fails with one
that has a class. -/
def firstFailureClass? (plan : Plan α β) : Option StatusCode :=
  match (plan.settlement 0).outcome with
  | .ok _ => none
  | .error failure => failure.assess.error?.bind CallError.statusCode?

/-- Whether a call does not retry its first failure: it may not retry, or the
failure is none to retry. -/
def RetriesNothing (plan : Plan α β) : Prop :=
  plan.policy.retry.enabled = true →
    ∀ failure, (plan.settlement 0).outcome = .error failure →
    plan.retried? 0 failure.assess = none

/-- The plan under another retry policy. -/
def withRetry (plan : Plan α β) (retry : RetryPolicy) : Plan α β :=
  { plan with policy.retry := retry }

variable {plan : Plan α β} {retry : RetryPolicy} {first? : Option Deadline}
  {sequence? : Nat → Option Deadline} {legs start : Nat} {failure : Failure}

theorem retriesNothing_of_disabled
    (hdisabled : plan.policy.retry.enabled = false) :
    plan.RetriesNothing := by
  intro henabled
  simp [hdisabled] at henabled

theorem retriesNothing_of_unlisted
    (hunlisted : ∀ status ∈ plan.firstFailureClass?,
      status ∉ plan.policy.retry.statusCodes) :
    plan.RetriesNothing := by
  intro _ failure houtcome
  refine Option.filter_eq_none_iff.mpr fun error herror => ?_
  have hclass : plan.firstFailureClass? = error.statusCode? := by
    simp [firstFailureClass?, houtcome, herror]
  rw [hclass] at hunlisted
  simp [RetryPolicy.admits_eq_false_iff.mpr hunlisted]

/-- A first failure that is not retried ends the call at once, whether or not
the retry sequence begins with it. -/
theorem RetriesNothing.follow_failed (hnothing : plan.RetriesNothing)
    (hlimit : ∀ deadline ∈ first?, plan.firstDone start ≤ deadline.time)
    (houtcome : (plan.settlement 0).outcome = .error failure) :
    plan.follow first? sequence? legs start =
      (plan.ended (plan.inAttempt 0) (plan.firstDone start)
          failure.assess).after
        (plan.prologue start ++ plan.lapse 0 (plan.firstDone start)) := by
  rw [Plan.follow_failed hlimit houtcome]
  split
  next henabled => rw [retrying_ended (hnothing henabled failure houtcome)]
  next => rfl

/-- Two calls that retry nothing and differ in their retry policies only go
the same way, if nothing but their caller can interrupt the first attempt. -/
theorem RetriesNothing.follow_withRetry (hnothing : plan.RetriesNothing)
    (hother : (plan.withRetry retry).RetriesNothing)
    (hcause : ∀ deadline ∈ first?, deadline.cause = .dropped)
    {otherSequence? : Nat → Option Deadline} {otherLegs : Nat} :
    (plan.withRetry retry).follow first? otherSequence? otherLegs start =
      plan.follow first? sequence? legs start := by
  cases hfirst : Deadline.before? first? (plan.firstDone start) with
  | some deadline =>
    obtain ⟨hlimit, hearly⟩ := Deadline.before?_eq_some_iff.mp hfirst
    have hinterrupted :
        (plan.withRetry retry).interrupted (plan.inAttempt 0) deadline =
          plan.interrupted (plan.inAttempt 0) deadline := by
      simp only [interrupted, hcause deadline hlimit]
    have hsame :
        (plan.withRetry retry).follow first? otherSequence? otherLegs start =
          ((plan.withRetry retry).interrupted (plan.inAttempt 0)
              deadline).after
            (plan.prologue start ++ allAt deadline.time [.abandoned]) :=
      follow_interrupted hlimit hearly
    rw [hsame, hinterrupted, follow_interrupted hlimit hearly]
  | none =>
    have hlimit := Deadline.before?_eq_none_iff.mp hfirst
    -- The first attempt does not depend on the retry policy, so it is in time
    -- on both sides.
    have hintime : ∀ deadline ∈ first?,
        (plan.withRetry retry).firstDone start ≤ deadline.time :=
      hlimit
    cases houtcome : (plan.settlement 0).outcome with
    | ok response =>
      exact (follow_answered hintime houtcome).trans
        (follow_answered hlimit houtcome).symm
    | error failure =>
      exact (hother.follow_failed hintime houtcome).trans
        (hnothing.follow_failed hlimit houtcome).symm

theorem RetriesNothing.run_withRetry (hnothing : plan.RetriesNothing)
    (hother : (plan.withRetry retry).RetriesNothing) (start : Nat)
    (patience? : Option Nat) :
    (plan.withRetry retry).run start patience? =
      plan.run start patience? := by
  apply hnothing.follow_withRetry hother
  intro deadline hdrop
  obtain ⟨patience, -, rfl⟩ := Option.map_eq_some_iff.mp hdrop
  rfl

/-- Without retries there is at most one call to the transport. -/
theorem calls_le_one_of_disabled (hsound : plan.policy.Sound)
    (hdisabled : plan.policy.retry.enabled = false) (start : Nat)
    (patience? : Option Nat) :
    (plan.run start patience?).calls ≤ 1 := by
  have hretries := run_retries_le hsound start patience?
  rw [RetryPolicy.capacity, hdisabled, if_neg Bool.false_ne_true] at hretries
  rw [run_calls hsound]
  omega

end Plan

namespace Client

variable {client : Client} {span : String} {transport : Transport α β}
  {context : TraceContext} {request : CallRequest α}
  {overrides? other? : Option CallOptions}

/-- Options that agree on the timeout of an attempt and on the metadata lead
to plans that differ in their retry policies only. -/
theorem plan_eq_map_withRetry
    (htimeout : (client.policy other?).attemptTimeout =
      (client.policy overrides?).attemptTimeout)
    (hheaders : (client.policy other?).headers =
      (client.policy overrides?).headers) :
    client.plan span transport context request other? =
      (client.plan span transport context request overrides?).map fun plan =>
        plan.withRetry (client.policy other?).retry := by
  have hpolicy : client.policy other? =
      { client.policy overrides? with
        retry := (client.policy other?).retry } := by
    rw [CallPolicy.mk.injEq]
    exact ⟨hheaders, htimeout, rfl⟩
  rw [plan_eq_map, plan_eq_map, hheaders]
  cases client.builder span context request.metadata?
      (client.policy overrides?).headers with
  | error error => rfl
  | ok metadata =>
    rw [hpolicy]
    rfl

variable {visit : Visit α} {start : Nat} {plan : Plan α β}

theorem plan_disabled
    (hplan : client.plan span transport context request overrides? = .ok plan)
    (hdisabled : (client.policy overrides?).retry.enabled = false) :
    plan.policy.retry.enabled = false := by
  rw [plan_policy hplan]
  exact hdisabled

theorem calls_le_one_of_disabled
    (hdisabled : (client.policy overrides?).retry.enabled = false) :
    (client.request span transport { visit with overrides? } start).calls ≤
      1 := by
  cases hplan :
      client.plan span transport visit.context visit.request overrides? with
  | error error =>
    have hrun :
        client.request span transport { visit with overrides? } start =
          ⟨[], .failed error, start⟩ := request_eq_failed hplan
    rw [hrun]
    exact Nat.zero_le 1
  | ok plan =>
    have hrun :
        client.request span transport { visit with overrides? } start =
          plan.run start visit.patience? := request_eq_run hplan
    rw [hrun]
    exact Plan.calls_le_one_of_disabled (plan_sound hplan)
      (plan_disabled hplan hdisabled) start visit.patience?

/-- Two calls that retry nothing and resolve to the same attempt and
metadata are the same. -/
theorem request_eq_of_retriesNothing
    (htimeout : (client.policy other?).attemptTimeout =
      (client.policy overrides?).attemptTimeout)
    (hheaders : (client.policy other?).headers =
      (client.policy overrides?).headers)
    (hnothing : ∀ plan,
      client.plan span transport visit.context visit.request overrides? =
        .ok plan →
      plan.RetriesNothing)
    (hother : ∀ plan,
      client.plan span transport visit.context visit.request other? =
        .ok plan →
      plan.RetriesNothing) :
    client.request span transport { visit with overrides? := other? } start =
      client.request span transport { visit with overrides? } start := by
  have hplans :
      client.plan span transport visit.context visit.request other? = _ :=
    plan_eq_map_withRetry htimeout hheaders
  cases hplan :
      client.plan span transport visit.context visit.request overrides? with
  | error error =>
    rw [hplan] at hplans
    exact (request_eq_failed hplans).trans (request_eq_failed hplan).symm
  | ok plan =>
    rw [hplan] at hplans
    have hone :
        client.request span transport { visit with overrides? } start =
          plan.run start visit.patience? := request_eq_run hplan
    have htwo : client.request span transport
          { visit with overrides? := other? } start =
        (plan.withRetry (client.policy other?).retry).run start
          visit.patience? :=
      request_eq_run hplans
    rw [hone, htwo]
    exact (hnothing plan hplan).run_withRetry (hother _ hplans) start
      visit.patience?

/-- Not retrying is one behaviour. Of three calls that resolve to the same
timeout of an attempt and the same metadata options, one has its retries
turned off, one has neither a count nor a window, and the classes to retry of
the third do not include that of its first failure, if it has one. Then the
three do the same at the same times, whether or not their caller drops them,
their callers get the same, and there is at most one attempt. -/
theorem request_unretried (client : Client) (span : String)
    (transport : Transport α β) (visit : Visit α) (start : Nat)
    {off? unbounded? unlisted? : Option CallOptions}
    (hsame : ∀ overrides? ∈ [unbounded?, unlisted?],
      (client.policy overrides?).attemptTimeout =
        (client.policy off?).attemptTimeout ∧
        (client.policy overrides?).headers = (client.policy off?).headers)
    (hoff :
      (client.defaults.overriddenBy (off?.getD {})).retry.retry? = some false)
    (hunbounded : (client.policy unbounded?).retry.maxCount = 0 ∧
      (client.policy unbounded?).retry.window = 0)
    (hunlisted : ∀ plan,
      client.plan span transport visit.context visit.request unlisted? =
        .ok plan →
        ∀ status ∈ plan.firstFailureClass?,
          status ∉ plan.policy.retry.statusCodes) :
    let run (overrides? : Option CallOptions) :=
      client.request span transport { visit with overrides? } start
    run unbounded? = run off? ∧ run unlisted? = run off? ∧
      (run off?).calls ≤ 1 := by
  intro run
  have hoffDisabled : (client.policy off?).retry.enabled = false :=
    CallOptions.resolve_disabled hoff
  have hunboundedDisabled :
      (client.policy unbounded?).retry.enabled = false :=
    (CallOptions.resolve_sound _).disabled hunbounded.1 hunbounded.2
  have hnothing (plan : Plan α β)
      (hplan : client.plan span transport visit.context visit.request
        off? = .ok plan) :
      plan.RetriesNothing :=
    Plan.retriesNothing_of_disabled (plan_disabled hplan hoffDisabled)
  refine ⟨?_, ?_, calls_le_one_of_disabled hoffDisabled⟩
  · obtain ⟨htimeout, hheaders⟩ := hsame unbounded? (by simp)
    refine request_eq_of_retriesNothing htimeout hheaders hnothing
      fun plan hplan => ?_
    exact Plan.retriesNothing_of_disabled
      (plan_disabled hplan hunboundedDisabled)
  · obtain ⟨htimeout, hheaders⟩ := hsame unlisted? (by simp)
    refine request_eq_of_retriesNothing htimeout hheaders hnothing
      fun plan hplan => ?_
    exact Plan.retriesNothing_of_unlisted (hunlisted plan hplan)

/-- With a window of one millisecond and no count, a failure that is not
listed ends a call as it does where there are no retries. -/
theorem request_unretried_within_a_millisecond :
    let client : Client :=
      { defaults := { retry := { timeout? := some 1, maxCount? := some 0 } }
        builder := fun _ _ _ _ => .ok {} }
    let off : CallOptions := { retry := { retry? := some false } }
    let unbounded : CallOptions :=
      { retry := { retry? := some true, timeout? := some 0 } }
    let unlisted : CallOptions :=
      { retry := { statusCodes? := some [.timeout] } }
    let transport : Transport Unit Unit :=
      .ofReplies [.settles 10 (.error (.ofStatus .unavailable ""))]
    let visit : Visit Unit := { context := default, request := default }
    let run (options : CallOptions) :=
      client.request "" transport { visit with overrides? := some options } 0
    (client.policy (some unlisted)).retry.enabled = true ∧
      run unbounded = run off ∧ run unlisted = run off ∧
      (run off).finish = 10 := by
  intro client off unbounded unlisted transport visit run
  have hsame : ∀ overrides? ∈ [some unbounded, some unlisted],
      (client.policy overrides?).attemptTimeout =
        (client.policy (some off)).attemptTimeout ∧
        (client.policy overrides?).headers =
          (client.policy (some off)).headers := by
    decide +kernel
  have hunlisted : ∀ plan,
      client.plan "" transport visit.context visit.request (some unlisted) =
        .ok plan →
        ∀ status ∈ plan.firstFailureClass?,
          status ∉ plan.policy.retry.statusCodes := by
    rintro plan ⟨⟩ status hstatus
    obtain rfl : StatusCode.remote .unavailable = status :=
      Option.some.inj hstatus
    decide +kernel
  obtain ⟨hfirst, hsecond, -⟩ := request_unretried client "" transport visit 0
    hsame rfl (by decide +kernel) hunlisted
  exact ⟨by decide +kernel, hfirst, hsecond, by decide +kernel⟩

end Client

end Redial
