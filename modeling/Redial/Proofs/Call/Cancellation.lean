import Redial.Proofs.Call.Cut
import Redial.Proofs.Call.Grammar

/-!
What becomes of a call whose caller drops it. All that happened up to then is
what happens when nobody drops it, and then only the timer of an attempt in
flight is stopped. Timers are started and stopped in turn in every call,
whichever way it ends, and each of them is stopped once.
-/

namespace Redial

variable {α β : Type}

/-- Whether the event starts or stops a timer. -/
def Event.isTimer : Event α → Bool
  | .timerStarted _ | .timerStopped _ => true
  | _ => false

namespace Run

/-- The starts and stops of timers during a run, in their order. -/
def timers (run : Run α β) : List (Event α) :=
  (run.events.map TimedEvent.event).filter Event.isTimer

theorem timers_eq_filter_recorded (run : Run α β) :
    run.timers = (recorded run.events).filter Event.isTimer := by
  have hrecorded (event : Event α) :
      (event.isTimer && event.isRecorded) = event.isTimer := by
    cases event <;> rfl
  simp [timers, recorded, List.filter_filter, hrecorded]

theorem calls_eq_countP_recorded (run : Run α β) :
    run.calls = (recorded run.events).countP Event.isCall := by
  have hrecorded (event : Event α) :
      (event.isCall && event.isRecorded) = event.isCall := by
    cases event <;> rfl
  simp [calls, recorded, List.countP_filter, List.countP_map,
    Function.comp_def, hrecorded]

end Run

/-- The stop of the timer with a number, in a call for this request. -/
def CallRequest.stop (request : CallRequest α) (number : Nat) : TimerStop :=
  { (({} : Labels).add "service" request.service).add "method"
      request.method with number }

/-- The start and the stop of one timer. -/
def TimerStop.turn (stop : TimerStop) : List (Event α) :=
  [.timerStarted stop, .timerStopped stop]

namespace Plan

variable {plan : Plan α β} {first retries finish : Nat}
  {errors : List CallError} {ending : Ending β} {closing : List (Event α)}

/-- Between the start of one timer and the last stop, each timer that is
stopped makes room for the next one. -/
theorem filter_isTimer_reopenedAfter
    (hclosing : closing.filter Event.isTimer =
      [.timerStopped (plan.stop (retries + errors.length))]) :
    .timerStarted (plan.stop retries) ::
        (plan.reopenedAfter retries errors ++ closing).filter Event.isTimer =
      (List.range' retries (errors.length + 1)).flatMap fun number =>
        (plan.stop number).turn := by
  -- A block stops one timer and starts the next, so turns are read off with
  -- the start in front.
  induction errors generalizing retries with
  | nil => simpa [reopenedAfter, TimerStop.turn] using hclosing
  | cons error errors ih =>
    rw [List.length_cons, Nat.add_comm errors.length,
      ← Nat.add_assoc] at hclosing
    rw [reopenedAfter_cons, List.append_assoc, List.filter_append,
      List.length_cons, List.range'_succ, List.flatMap_cons, ← ih hclosing]
    rfl

theorem Closing.filter_isTimer
    (hclosing : Closing plan first retries finish ending closing) :
    closing.filter Event.isTimer = [.timerStopped (plan.stop retries)] := by
  cases hclosing <;> rfl

/-- In every run timers are started and stopped in turn, one for each call to
the transport. -/
theorem run_timers (hsound : plan.policy.Sound) (start : Nat)
    (patience? : Option Nat) :
    (plan.run start patience?).timers =
      (List.range (plan.run start patience?).calls).flatMap fun number =>
        (plan.stop number).turn := by
  obtain ⟨errors, closing, hrecorded, hclosing⟩ :=
    plan.run_recorded hsound start patience?
  have hlast : closing.filter Event.isTimer =
      [.timerStopped (plan.stop (0 + errors.length))] := by
    rw [Nat.zero_add]
    exact hclosing.filter_isTimer
  rw [Run.timers_eq_filter_recorded, Run.calls_eq_countP_recorded, hrecorded,
    hclosing.countP_calls, List.range_eq_range',
    ← filter_isTimer_reopenedAfter hlast, List.append_assoc]
  rfl

/-- A call that may be dropped is the one that is not, cut off at the drop. -/
theorem run_cut (plan : Plan α β) (start patience : Nat) :
    plan.run start (some patience) =
      plan.cut ⟨start + patience, .dropped⟩ {} (plan.run start none) := by
  rw [run_none]
  exact follow_cut (Nat.le_add_right ..) fun time limit hlimit =>
    le_of_mem_windowEnd? hlimit

theorem run_chronological (plan : Plan α β) (start : Nat) :
    (plan.run start none).Chronological start := by
  rw [run_none]
  refine (plan.follow_course ..).chronological (by simp) ?_
  intro time _ deadline hwindow
  exact le_of_mem_windowEnd? hwindow

/-- Where a call is cut off by a drop, only the timer of an attempt in flight
is left to stop. -/
theorem cut_dropped {whole : Run α β} {time : Nat} {progress : Progress}
    (hlate : time < whole.finish) :
    let reached := progress.after (upTo time whole.events)
    plan.cut ⟨time, .dropped⟩ progress whole =
      ⟨upTo time whole.events ++ allAt time
          (if reached.waiting then
            [.abandoned, .timerStopped (plan.stop reached.retries)] else []),
        .dropped, time⟩ := by
  intro reached
  have hfinish : ¬ whole.finish ≤ time := Nat.not_le_of_lt hlate
  cases hwaiting : reached.waiting with
  | false =>
    simp [cut, hfinish, reached, hwaiting, interrupted, stateAt,
      CallState.inPause, Run.after, allAt]
  | true =>
    simp [cut, hfinish, reached, hwaiting, interrupted, stateAt, inAttempt,
      stop, Run.after, allAt]

end Plan

namespace Client

theorem plan_stop {client : Client} {span : String}
    {transport : Transport α β} {visit : Visit α} {plan : Plan α β}
    (hplan : client.plan span transport visit.context visit.request
      visit.overrides? = .ok plan)
    (number : Nat) : plan.stop number = visit.request.stop number := by
  obtain ⟨metadata, -, rfl⟩ := plan_eq_ok_iff.mp hplan
  rfl

/-- A caller may drop a call at any time. If the call is done by then,
nothing changes. Otherwise what happens up to then is what happens when
nobody drops the call, followed by the stop of the timer of an attempt that
is in flight and by nothing during a pause. Whether and when the caller drops
it, each attempt starts a timer and stops it once, before the next attempt
starts its own. -/
theorem request_dropped (client : Client) (span : String)
    (transport : Transport α β) (visit : Visit α) (start : Nat) :
    let run (patience? : Option Nat) :=
      client.request span transport { visit with patience? } start
    let whole := run none
    (∀ patience, let drop := start + patience
      (whole.finish ≤ drop → run (some patience) = whole) ∧
      (drop < whole.finish →
        let happened := upTo drop whole.events
        let reached := Progress.after {} happened
        happened <+: whole.events ∧
        run (some patience) =
          ⟨happened ++ allAt drop
              (if reached.waiting then
                [.abandoned, .timerStopped
                  (visit.request.stop reached.retries)]
              else []),
            .dropped, drop⟩)) ∧
    ∀ patience?, (run patience?).timers =
      (List.range (run patience?).calls).flatMap fun number =>
        (visit.request.stop number).turn := by
  intro run whole
  cases hplan : client.plan span transport visit.context visit.request
      visit.overrides? with
  | error error =>
    have hrun (patience? : Option Nat) :
        run patience? = ⟨[], .failed error, start⟩ :=
      request_eq_failed hplan
    constructor
    · intro patience
      have hfinish : whole.finish ≤ start + patience := by
        rw [show whole = _ from hrun none]
        exact Nat.le_add_right ..
      refine ⟨fun _ => (hrun _).trans (hrun none).symm, fun hlate => ?_⟩
      exact absurd hfinish (Nat.not_le_of_lt hlate)
    · intro patience?
      rw [hrun]
      rfl
  | ok plan =>
    have hrun (patience? : Option Nat) :
        run patience? = plan.run start patience? :=
      request_eq_run hplan
    have hstop := plan_stop hplan
    constructor
    · intro patience
      have hcut : run (some patience) =
          plan.cut ⟨start + patience, .dropped⟩ {} whole := by
        rw [hrun, plan.run_cut, ← hrun]
      refine ⟨fun hfinish => hcut.trans (Plan.cut_of_finish_le hfinish),
        fun hlate => ⟨?_, ?_⟩⟩
      · rw [show whole = _ from hrun none]
        exact upTo_prefix (plan.run_chronological start).within.1
      · rw [hcut, Plan.cut_dropped hlate, hstop]
    · intro patience?
      rw [hrun, Plan.run_timers (plan_sound hplan)]
      simp only [hstop]

/-- A call that is dropped during its first attempt stops one timer. -/
theorem request_dropped_in_flight :
    let client : Client := { builder := fun _ _ _ _ => .ok {} }
    let transport : Transport Unit Unit := fun _ _ => .never
    let visit : Visit Unit :=
      { context := default, request := default, patience? := some 100 }
    let run := client.request "" transport visit 0
    (∃ events, run = ⟨events, .dropped, 100⟩) ∧
      run.timers = (visit.request.stop 0).turn := by
  intro client transport visit run
  obtain ⟨hdrop, htimers⟩ := request_dropped client "" transport visit 0
  obtain ⟨-, hlate⟩ := hdrop 100
  obtain ⟨-, hrun⟩ := hlate (by decide +kernel)
  have hcalls : run.calls = 1 := by decide +kernel
  refine ⟨⟨_, hrun⟩, (htimers (some 100)).trans ?_⟩
  change (List.range run.calls).flatMap _ = _
  rw [hcalls]
  rfl

end Client

end Redial
