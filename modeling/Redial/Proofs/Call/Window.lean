import Redial.Proofs.Call.Cut
import Redial.Proofs.Call.Grammar

/-!
The retry window only ever cuts a call short. `Plan.unbounded` is the call in
which nothing races the retry sequence; it may go on forever, so it is
followed for a number of retries, and what it comes to does not depend on that
number once it is large enough. A call with a window does exactly what the
unbounded one does until the window has passed.
-/

namespace Redial

variable {α β : Type}

namespace Plan

/-- The call whose retry sequence has no limit, followed for at most
`legs` retries. -/
def unbounded (plan : Plan α β) (legs start : Nat) : Run α β :=
  plan.follow none (fun _ => none) legs start

section Legs

variable {plan : Plan α β} {first? : Option Deadline}
  {sequence? : Nat → Option Deadline} {legs start : Nat}

theorem follow_add
    (hfinished : (plan.follow first? sequence? legs start).Finished)
    (more : Nat) :
    plan.follow first? sequence? (legs + more) start =
      plan.follow first? sequence? legs start := by
  cases hattempt : Deadline.before? first? (plan.firstDone start) with
  | some deadline =>
    obtain ⟨hlimit, hearly⟩ := Deadline.before?_eq_some_iff.mp hattempt
    rw [follow_interrupted hlimit hearly, follow_interrupted hlimit hearly]
  | none =>
    have hlimit := Deadline.before?_eq_none_iff.mp hattempt
    cases houtcome : (plan.settlement 0).outcome with
    | ok response =>
      rw [follow_answered hlimit houtcome, follow_answered hlimit houtcome]
    | error failure =>
      rw [follow_failed hlimit houtcome] at hfinished ⊢
      rw [follow_failed hlimit houtcome]
      split
      next henabled =>
        rw [if_pos henabled] at hfinished
        rw [(plan.retrying_sequence ..).retrying_add hfinished more]
      next => rfl

/-- However far a call is followed, it comes to the same end. -/
theorem follow_eq_of_finished {more : Nat}
    (hfinished : (plan.follow first? sequence? legs start).Finished)
    (hother : (plan.follow first? sequence? more start).Finished) :
    plan.follow first? sequence? legs start =
      plan.follow first? sequence? more start := by
  rw [← follow_add hfinished more, ← follow_add hother legs, Nat.add_comm]

end Legs

variable {plan : Plan α β} {legs start : Nat}

/-- With a window, a call whose first attempt fails is the unbounded one, cut
off at the end of the window. -/
theorem follow_window {failure : Failure}
    (henabled : plan.policy.retry.enabled = true)
    (hwindow : 0 < plan.policy.retry.window)
    (houtcome : (plan.settlement 0).outcome = .error failure) :
    plan.follow none plan.windowEnd? legs start =
      plan.cut ⟨plan.firstDone start + plan.policy.retry.window,
          .windowElapsed⟩ {}
        (plan.unbounded legs start) := by
  have hearly := (plan.prologue_lapse_within start).le_of_le
    (Nat.le_add_right _ plan.policy.retry.window)
  rw [unbounded, follow_failed (by simp) houtcome,
    follow_failed (by simp) houtcome, if_pos henabled, if_pos henabled,
    cut_after hearly, windowEnd?_of_pos hwindow]
  congr 1
  exact (plan.retrying_sequence ..).retrying_cut (by simp)
    (Nat.le_add_right ..) (plan.after_prologue_lapse_retries start)

/-- Where a call is cut off by its window, an attempt in flight is given up
and its timer stopped, and the call fails. -/
theorem cut_windowElapsed {whole : Run α β} {time : Nat} {progress : Progress}
    (hlate : time < whole.finish) :
    let happened := upTo time whole.events
    let reached := progress.after happened
    plan.cut ⟨time, .windowElapsed⟩ progress whole =
      ⟨happened ++ allAt time
          ((if reached.waiting then [.abandoned] else []) ++
            [.traced (.windowElapsed plan.invocation.service
              plan.invocation.method plan.policy.retry.window)] ++
            (if reached.waiting then
              [.timerStopped (plan.stop reached.retries)] else []) ++
            [.logged (.failed (.ofError plan.windowError)
                (plan.fieldsAfter reached.retries)),
              .incremented .failures (plan.failureLabels plan.windowError)]),
        .failed plan.windowError, time⟩ := by
  intro happened reached
  have hfinish : ¬ whole.finish ≤ time := Nat.not_le_of_lt hlate
  cases hwaiting : reached.waiting with
  | false =>
    simp [cut, hfinish, happened, reached, hwaiting, interrupted, stateAt,
      CallState.inPause, Run.after, allAt, ended, assess_windowTimeout,
      Assessment.ofError]
  | true =>
    simp [cut, hfinish, happened, reached, hwaiting, interrupted, stateAt,
      inAttempt, stop, Run.after, allAt, ended, assess_windowTimeout,
      Assessment.ofError]

/-- A call with a window comes to its end if it is followed as far as
`run` follows it. -/
theorem run_eq_follow_of_finished (hsound : plan.policy.Sound)
    (hfinished : (plan.follow none plan.windowEnd? legs start).Finished) :
    plan.run start none = plan.follow none plan.windowEnd? legs start := by
  have hrun := plan.run_finished hsound start none
  rw [run_none] at hrun ⊢
  exact follow_eq_of_finished hrun hfinished

end Plan

namespace Client

variable {client : Client} {span : String} {transport : Transport α β}
  {visit : Visit α} {plan : Plan α β}

/-- The window as truncation. A call with a window is the unbounded one if its
first attempt is answered, or if the unbounded one comes to its end within the
window. Otherwise it does what the unbounded one does up to the end of the
window, gives up an attempt in flight, and fails at that time. -/
theorem request_window
    (hplan : client.plan span transport visit.context visit.request
      visit.overrides? = .ok plan)
    (henabled : plan.policy.retry.enabled = true)
    (hwindow : 0 < plan.policy.retry.window) (start : Nat) :
    let run :=
      client.request span transport { visit with patience? := none } start
    let windowEnd := plan.firstDone start + plan.policy.retry.window
    (∀ response, (plan.settlement 0).outcome = .ok response →
      ∀ legs, (plan.unbounded legs start).Finished ∧
        run = plan.unbounded legs start) ∧
    ∀ failure, (plan.settlement 0).outcome = .error failure →
      (∀ legs, (plan.unbounded legs start).Finished →
        (plan.unbounded legs start).finish ≤ windowEnd →
        run = plan.unbounded legs start) ∧
      (∀ legs, windowEnd < (plan.unbounded legs start).finish →
        let happened := upTo windowEnd (plan.unbounded legs start).events
        let reached := Progress.after {} happened
        run =
          ⟨happened ++ allAt windowEnd
              ((if reached.waiting then [.abandoned] else []) ++
                [.traced (.windowElapsed plan.invocation.service
                  plan.invocation.method plan.policy.retry.window)] ++
                (if reached.waiting then
                  [.timerStopped (plan.stop reached.retries)] else []) ++
                [.logged (.failed (.ofError plan.windowError)
                    (plan.fieldsAfter reached.retries)),
                  .incremented .failures
                    (plan.failureLabels plan.windowError)]),
            .failed plan.windowError, windowEnd⟩) ∧
      ∃ legs, (plan.unbounded legs start).Finished ∧
          (plan.unbounded legs start).finish ≤ windowEnd ∨
        windowEnd < (plan.unbounded legs start).finish := by
  intro run windowEnd
  have hrun : run = plan.run start none := request_eq_run hplan
  have hsound := plan_sound hplan
  constructor
  · intro response houtcome legs
    have hanswered : plan.unbounded legs start = plan.run start none := by
      rw [Plan.run_none, Plan.unbounded,
        Plan.follow_answered (by simp) houtcome,
        Plan.follow_answered (by simp) houtcome]
    rw [hanswered]
    exact ⟨plan.run_finished hsound start none, hrun⟩
  · intro failure houtcome
    -- A cut run is finished, so the number of retries for which it was
    -- followed does not matter.
    have hcut (legs : Nat) : plan.follow none plan.windowEnd? legs start =
        plan.cut ⟨windowEnd, .windowElapsed⟩ {} (plan.unbounded legs start) :=
      Plan.follow_window henabled hwindow houtcome
    refine ⟨fun legs hfinished hfinish => ?_, fun legs hlate => ?_, ?_⟩
    · have hwhole : plan.follow none plan.windowEnd? legs start =
          plan.unbounded legs start := by
        rw [hcut, Plan.cut_of_finish_le hfinish]
      rw [hrun, Plan.run_eq_follow_of_finished hsound (hwhole ▸ hfinished),
        hwhole]
    · have hfailed := (hcut legs).trans (Plan.cut_windowElapsed hlate)
      have hfinished :
          (plan.follow none plan.windowEnd? legs start).Finished := by
        rw [hfailed]
        nofun
      rw [hrun, Plan.run_eq_follow_of_finished hsound hfinished, hfailed]
    · refine ⟨plan.policy.retry.maxRetries, ?_⟩
      by_cases hfinish :
        (plan.unbounded plan.policy.retry.maxRetries start).finish ≤ windowEnd
      · have hfinished := plan.run_finished hsound start none
        rw [Plan.run_none, hcut, Plan.cut_of_finish_le hfinish] at hfinished
        exact .inl ⟨hfinished, hfinish⟩
      · exact .inr (Nat.lt_of_not_le hfinish)

/-- A call that would be retried without end fails twelve seconds after its
first failure, during a pause. -/
theorem request_window_of_endless_retries :
    let client : Client :=
      { defaults :=
          { retry := { timeout? := some 12000, maxCount? := some 0 } }
        builder := fun _ _ _ _ => .ok {} }
    let transport : Transport Unit Unit :=
      .ofReplies [.settles 10 (.error (.ofStatus .unavailable ""))]
    let run :=
      client.request "" transport { context := default, request := default } 0
    run.finish = 12010 ∧
      ∃ message source?, run.ending =
        .failed (.timeout .retryWindow message source?) := by
  intro client transport run
  let visit : Visit Unit := { context := default, request := default }
  have hplan : client.plan "" transport visit.context visit.request
      visit.overrides? = .ok _ := rfl
  obtain ⟨-, hfailed⟩ := request_window hplan rfl (by decide) 0
  obtain ⟨-, hlate, -⟩ := hfailed (.ofStatus .unavailable "") rfl
  have hrun : run = _ := hlate 3 (by decide +kernel)
  rw [hrun]
  exact ⟨by decide +kernel, _, _, rfl⟩

end Client

end Redial
