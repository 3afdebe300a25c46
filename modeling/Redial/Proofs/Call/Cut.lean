import Redial.Proofs.Call.Chronology

/-!
A deadline cuts a call off. Up to the deadline the call with it does what the
call without it does. A call that is done by then is not changed at all. Any
other one is interrupted at the deadline, in the state that it has reached:
`Progress` reads that state off the events so far, whose last one is a call to
the transport exactly if an attempt is in flight. The same holds of a deadline
that is added to another one, where the earlier one counts.
-/

namespace Redial

variable {α β : Type}

/-- The events up to a time, in their order. -/
def upTo (time : Nat) (events : List (TimedEvent α)) : List (TimedEvent α) :=
  events.filter fun timed => timed.time ≤ time

theorem upTo_append (time : Nat) (before behind : List (TimedEvent α)) :
    upTo time (before ++ behind) = upTo time before ++ upTo time behind :=
  List.filter_append ..

theorem upTo_of_le {time : Nat} {events : List (TimedEvent α)}
    (hearly : ∀ timed ∈ events, timed.time ≤ time) :
    upTo time events = events :=
  List.filter_eq_self.mpr fun timed hmem => decide_eq_true (hearly timed hmem)

theorem upTo_of_lt {time : Nat} {events : List (TimedEvent α)}
    (hlate : ∀ timed ∈ events, time < timed.time) : upTo time events = [] :=
  List.filter_eq_nil_iff.mpr fun timed hmem => by
    simpa using hlate timed hmem

/-- Where events are in order, those up to a time come first. -/
theorem upTo_prefix {time : Nat} {events : List (TimedEvent α)}
    (hordered :
      events.Pairwise fun earlier later => earlier.time ≤ later.time) :
    upTo time events <+: events := by
  induction events with
  | nil => exact List.nil_prefix
  | cons timed rest ih =>
    rw [List.pairwise_cons] at hordered
    by_cases htime : timed.time ≤ time
    · simpa [upTo, htime] using ih hordered.2
    · have hlate : ∀ later ∈ timed :: rest, time < later.time := by
        intro later hmem
        rcases List.mem_cons.mp hmem with rfl | hmem
        · omega
        · have horder := hordered.1 later hmem
          omega
      rw [upTo_of_lt hlate]
      exact List.nil_prefix

/-- How far a call has come: the retries that were counted, and whether it
waits for the transport, which it called last. -/
structure Progress where
  retries : Nat := 0
  waiting : Bool := false

namespace Progress

/-- The progress after one more event. -/
def observe (progress : Progress) : Event α → Progress
  | .incremented .retries _ => ⟨progress.retries + 1, false⟩
  | .called _ => ⟨progress.retries, true⟩
  | _ => ⟨progress.retries, false⟩

/-- The progress after some events. -/
def after (progress : Progress) (events : List (TimedEvent α)) : Progress :=
  events.foldl (fun progress timed => progress.observe timed.event) progress

theorem after_append (progress : Progress)
    (before behind : List (TimedEvent α)) :
    progress.after (before ++ behind) =
      (progress.after before).after behind :=
  List.foldl_append ..

end Progress

namespace Plan

/-- The state of a call that has come so far. -/
def stateAt (plan : Plan α β) (progress : Progress) : CallState :=
  if progress.waiting then plan.inAttempt progress.retries
  else .inPause progress.retries

/-- A run with a deadline: what it does up to then, and the interruption if it
is not done. The progress is that before the run. -/
def cut (plan : Plan α β) (deadline : Deadline) (progress : Progress)
    (whole : Run α β) : Run α β :=
  if whole.finish ≤ deadline.time then whole
  else
    let happened := upTo deadline.time whole.events
    let reached := progress.after happened
    (plan.interrupted (plan.stateAt reached) deadline).after
      (happened ++ allAt deadline.time
        (if reached.waiting then [.abandoned] else []))

variable {plan : Plan α β} {deadline : Deadline} {progress : Progress}

theorem cut_of_finish_le {whole : Run α β}
    (hfinish : whole.finish ≤ deadline.time) :
    plan.cut deadline progress whole = whole := by
  simp [cut, hfinish]

theorem cut_after {run : Run α β} {events : List (TimedEvent α)}
    (hearly : ∀ timed ∈ events, timed.time ≤ deadline.time) :
    plan.cut deadline progress (run.after events) =
      (plan.cut deadline (progress.after events) run).after events := by
  by_cases hfinish : run.finish ≤ deadline.time
  · rw [cut_of_finish_le hfinish, cut_of_finish_le (by exact hfinish)]
  · simp only [cut, Run.after_finish, if_neg hfinish, Run.after_events,
      upTo_append, upTo_of_le hearly, Progress.after_append, Run.after_after,
      List.append_assoc]

theorem cut_of_late {run : Run α β} {first : Nat}
    (hrun : run.Chronological first) (hlate : deadline.time < first) :
    plan.cut deadline progress run =
      (plan.interrupted (plan.stateAt progress) deadline).after
        (allAt deadline.time
          (if progress.waiting then [.abandoned] else [])) := by
  have hfinish : ¬ run.finish ≤ deadline.time := by
    have hfirst := hrun.first_le_finish
    omega
  have hnone : upTo deadline.time run.events = [] :=
    upTo_of_lt fun timed hmem =>
      Nat.lt_of_lt_of_le hlate (hrun.within.2 timed hmem).1
  simp [cut, hfinish, hnone, Progress.after]

theorem after_failing {retries now : Nat} {assessment : Assessment}
    {error : CallError} :
    progress.after (allAt now (plan.failing retries assessment error)) =
      ⟨progress.retries, false⟩ := rfl

theorem after_leg {retries now : Nat} {assessment : Assessment}
    {error : CallError} :
    progress.after (plan.leg retries now assessment error) =
      ⟨progress.retries + 1, true⟩ := rfl

theorem after_prologue {start : Nat} :
    progress.after (plan.prologue start) = ⟨progress.retries, true⟩ := rfl

theorem after_lapse_retries {index done : Nat} :
    (progress.after (plan.lapse index done)).retries = progress.retries := by
  unfold lapse
  split <;> rfl

theorem after_prologue_lapse_retries (plan : Plan α β) (start : Nat) :
    (Progress.after {}
        (plan.prologue start ++ plan.lapse 0
          (plan.firstDone start))).retries =
      0 := by
  rw [Progress.after_append, after_lapse_retries, after_prologue]

theorem stateAt_waiting (plan : Plan α β) (retries : Nat) :
    plan.stateAt ⟨retries, true⟩ = plan.inAttempt retries := rfl

theorem stateAt_pausing (plan : Plan α β) (retries : Nat) :
    plan.stateAt ⟨retries, false⟩ = .inPause retries := rfl

section Retrying

variable {limit? : Option Deadline} {legs retries now later : Nat}
  {failure : Failure}

theorem cut_after_failing {assessment : Assessment} {error : CallError}
    {rest : Run α β} (hnow : now ≤ deadline.time)
    (hrest : rest.Chronological later) (hlate : deadline.time < later) :
    plan.cut deadline progress
        (rest.after (allAt now (plan.failing retries assessment error))) =
      (plan.interrupted (.inPause progress.retries) deadline).after
        (allAt now (plan.failing retries assessment error)) := by
  have hearly :=
    (Within.allAt_self now
      (plan.failing retries assessment error)).le_of_le hnow
  rw [cut_after hearly, after_failing, cut_of_late hrest hlate,
    stateAt_pausing]
  simp [allAt, Run.after]

/-- A sequence that has not come to the end of its next attempt by the
deadline is interrupted in the pause before that attempt, or in the
attempt. -/
theorem retrying_cut_leg {error : CallError} {rest : Run α β}
    (hretried : plan.retried? retries failure.assess = some error)
    (hresume : now + plan.policy.retry.pause ≤ later)
    (hlater : later ≤ now + plan.policy.retry.pause +
      (plan.settlement (retries + 1)).elapsed)
    (hrest : rest.Chronological later) (hnow : now ≤ deadline.time)
    (hlate : deadline.time < later) (hprogress : progress.retries = retries) :
    plan.retrying (some deadline) (legs + 1) (plan.inAttempt retries) now
        failure =
      plan.cut deadline progress
        (rest.after (plan.leg retries now failure.assess error)) := by
  by_cases hpause : deadline.time < now + plan.policy.retry.pause
  · have hreopening : (rest.after (allAt (now + plan.policy.retry.pause)
        (plan.reopening retries))).Chronological
          (now + plan.policy.retry.pause) :=
      hrest.after (.allAt (Nat.le_refl _) hresume _) hresume
    rw [retrying_inPause hretried rfl hpause, leg, ← Run.after_after,
      cut_after_failing hnow hreopening hpause, hprogress]
  · have hresumed := Nat.le_of_not_lt hpause
    rw [retrying_inAttempt hretried rfl hresumed
      (Nat.lt_of_lt_of_le hlate hlater),
      cut_after (leg_within.le_of_le hresumed), after_leg, hprogress,
      cut_of_late hrest hlate, stateAt_waiting, Run.after_after]
    simp

/-- A sequence with an earlier deadline is the one without it, cut off
at the deadline. -/
theorem Sequence.retrying_cut {run : Run α β}
    (hsequence : Sequence plan limit? legs retries now failure run)
    (hlimit : ∀ limit ∈ limit?, deadline.time < limit.time)
    (hnow : now ≤ deadline.time) (hprogress : progress.retries = retries) :
    plan.retrying (some deadline) legs (plan.inAttempt retries) now failure =
      plan.cut deadline progress run := by
  -- Where the next attempt is over by the deadline, both sequences go through
  -- it. Where it is not, the one with the deadline is cut off before its end,
  -- and all that the other one does then is late.
  induction hsequence generalizing progress with
  | ended hretried => rw [retrying_ended hretried, cut_of_finish_le hnow]
  | unfinished hretried => rw [retrying_zero hretried, cut_of_finish_le hnow]
  | inPause hretried hother hearly =>
    have hlate := hlimit _ hother
    rw [retrying_inPause hretried rfl (Nat.lt_trans hlate hearly),
      cut_after_failing hnow interrupted_chronological hlate, hprogress]
  | inAttempt hretried hother hresume hearly =>
    rw [← Run.after_after]
    exact retrying_cut_leg hretried hresume (Nat.le_of_lt hearly)
      (interrupted_chronological.after_allAt _) hnow (hlimit _ hother)
      hprogress
  | @answered _ _ _ done _ _ _ hretried hdone _ houtcome =>
    by_cases htime : done ≤ deadline.time
    · rw [cut_of_finish_le htime]
      subst hdone
      exact retrying_answered hretried (by simpa using htime) houtcome
    · rw [← Run.after_after]
      exact retrying_cut_leg hretried (by omega) (Nat.le_of_eq hdone)
        (answered_chronological.after_allAt _) hnow (Nat.lt_of_not_le htime)
        hprogress
  | @again _ retries now done failure _ error _ hretried hdone hopen houtcome
      hrest ih =>
    by_cases htime : done ≤ deadline.time
    · have hleg :
          Within now done (plan.leg retries now failure.assess error ++
            plan.lapse (retries + 1) done) := leg_append_within (by omega) _
      rw [cut_after (hleg.le_of_le htime), ← ih htime
        (by rw [Progress.after_append, after_lapse_retries, after_leg,
          hprogress])]
      subst hdone
      exact retrying_failed hretried (by simpa using htime) houtcome
    · rw [← Run.after_after]
      exact retrying_cut_leg hretried (by omega) (Nat.le_of_eq hdone)
        ((hrest.chronological hopen).after_allAt _) hnow
        (Nat.lt_of_not_le htime) hprogress

/-- A sequence with one more deadline is the one without it, cut off at
that deadline. -/
theorem retrying_earlier?_cut (hlimit : ∀ limit ∈ limit?, now ≤ limit.time)
    (hnow : now ≤ deadline.time) (hprogress : progress.retries = retries) :
    plan.retrying (Deadline.earlier? limit? (some deadline)) legs
        (plan.inAttempt retries) now failure =
      plan.cut deadline progress
        (plan.retrying limit? legs (plan.inAttempt retries) now failure) := by
  have hsequence := plan.retrying_sequence limit? legs retries now failure
  cases limit? with
  | none => exact hsequence.retrying_cut (by simp) hnow hprogress
  | some limit =>
    by_cases hbefore : limit.time ≤ deadline.time
    · have hfinish := hsequence.finish_le rfl (hlimit limit rfl)
      rw [cut_of_finish_le (Nat.le_trans hfinish hbefore)]
      simp [Deadline.earlier?, hbefore]
    · have hearlier :
          Deadline.earlier? (some limit) (some deadline) = some deadline := by
        simp [Deadline.earlier?, hbefore]
      rw [hearlier]
      exact hsequence.retrying_cut (by simpa using hbefore) hnow hprogress

end Retrying

section Follow

variable {sequence? : Nat → Option Deadline} {legs start : Nat}

/-- A call with one more deadline, for its first attempt and for what follows,
is the call without it, cut off at that deadline. -/
theorem follow_cut (hstart : start ≤ deadline.time)
    (hsequence : ∀ time, ∀ limit ∈ sequence? time, time ≤ limit.time) :
    plan.follow (some deadline)
        (fun time => Deadline.earlier? (sequence? time) (some deadline))
        legs start =
      plan.cut deadline {} (plan.follow none sequence? legs start) := by
  by_cases htime : plan.firstDone start ≤ deadline.time
  · have hfirst :
        ∀ limit ∈ some deadline, plan.firstDone start ≤ limit.time := by
      simpa using htime
    have hearly := (plan.prologue_lapse_within start).le_of_le htime
    cases houtcome : (plan.settlement 0).outcome with
    | ok response =>
      rw [follow_answered hfirst houtcome, follow_answered (by simp) houtcome,
        cut_of_finish_le htime]
    | error failure =>
      rw [follow_failed hfirst houtcome, follow_failed (by simp) houtcome,
        cut_after hearly]
      split
      · rw [retrying_earlier?_cut (hsequence _) htime
          (plan.after_prologue_lapse_retries start)]
      · rw [cut_of_finish_le htime]
  · have hlate := Nat.lt_of_not_le htime
    obtain ⟨rest, hrest, heq⟩ :=
      (plan.follow_course none sequence? legs start).exists_rest (hsequence _)
    have hprologue : Within start start (plan.prologue start) :=
      .allAt_self ..
    rw [follow_interrupted rfl hlate, heq,
      cut_after (hprologue.le_of_le hstart), after_prologue,
      cut_of_late hrest hlate, stateAt_waiting, Run.after_after]
    simp

end Follow

end Plan

end Redial
