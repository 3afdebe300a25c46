import Redial.Proofs.Call.Course

/-!
Time in a call never runs backwards: its events are in the order of their
times, none is before its start and none after its end. So the events up to
some time are what happened first, and a limit that is not before the start of
a sequence is never passed.
-/

namespace Redial

variable {α β : Type}

/-- Events in the order of their times, from one time to another. -/
def Within (first last : Nat) (events : List (TimedEvent α)) : Prop :=
  events.Pairwise (fun earlier later => earlier.time ≤ later.time) ∧
    ∀ timed ∈ events, first ≤ timed.time ∧ timed.time ≤ last

theorem Within.append {first middle last : Nat}
    {before behind : List (TimedEvent α)}
    (hbefore : Within first middle before)
    (hbehind : Within middle last behind) (hfirst : first ≤ middle)
    (hlast : middle ≤ last) : Within first last (before ++ behind) := by
  constructor
  · refine List.pairwise_append.mpr ⟨hbefore.1, hbehind.1, ?_⟩
    intro earlier hearlier later hlater
    exact Nat.le_trans (hbefore.2 earlier hearlier).2
      (hbehind.2 later hlater).1
  · intro timed hmem
    rcases List.mem_append.mp hmem with hmem | hmem
    · have htime := hbefore.2 timed hmem
      omega
    · have htime := hbehind.2 timed hmem
      omega

theorem Within.allAt {first time last : Nat} (hfirst : first ≤ time)
    (hlast : time ≤ last) (events : List (Event α)) :
    Within first last (allAt time events) := by
  constructor
  · exact List.pairwise_map.mpr
      (List.pairwise_of_forall fun _ _ => Nat.le_refl _)
  · intro timed hmem
    obtain ⟨event, -, rfl⟩ := List.mem_map.mp hmem
    exact ⟨hfirst, hlast⟩

theorem Within.allAt_self (time : Nat) (events : List (Event α)) :
    Within time time (Redial.allAt time events) :=
  .allAt (Nat.le_refl _) (Nat.le_refl _) events

theorem Within.le_of_le {first last time : Nat} {events : List (TimedEvent α)}
    (hwithin : Within first last events) (hlast : last ≤ time) :
    ∀ timed ∈ events, timed.time ≤ time := by
  intro timed hmem
  exact Nat.le_trans (hwithin.2 timed hmem).2 hlast

/-- A run whose events are in order, and within the time from `first` to its
end. -/
structure Run.Chronological (first : Nat) (run : Run α β) : Prop where
  first_le_finish : first ≤ run.finish
  within : Within first run.finish run.events

theorem Run.Chronological.after {first middle : Nat} {run : Run α β}
    {events : List (TimedEvent α)} (hrun : run.Chronological middle)
    (hevents : Within first middle events) (hfirst : first ≤ middle) :
    (run.after events).Chronological first where
  first_le_finish := Nat.le_trans hfirst hrun.first_le_finish
  within := hevents.append hrun.within hfirst hrun.first_le_finish

theorem Run.Chronological.after_allAt {time : Nat} {run : Run α β}
    (hrun : run.Chronological time) (events : List (Event α)) :
    (run.after (allAt time events)).Chronological time :=
  hrun.after (.allAt_self time events) (Nat.le_refl _)

namespace Plan

variable {plan : Plan α β}

theorem answered_chronological {state : CallState} {time : Nat}
    {response : β} :
    (plan.answered state time response).Chronological time :=
  ⟨Nat.le_refl _, .allAt_self ..⟩

theorem ended_chronological {state : CallState} {time : Nat}
    {assessment : Assessment} :
    (plan.ended state time assessment).Chronological time :=
  ⟨Nat.le_refl _, .allAt_self ..⟩

theorem interrupted_chronological {state : CallState} {deadline : Deadline} :
    (plan.interrupted state deadline).Chronological deadline.time := by
  unfold interrupted
  split
  · exact ended_chronological.after_allAt _
  · exact ⟨Nat.le_refl _, .allAt_self ..⟩

theorem leg_within {retries now : Nat} {assessment : Assessment}
    {error : CallError} :
    Within now (now + plan.policy.retry.pause)
      (plan.leg retries now assessment error) := by
  have hfailing :
      Within now now (allAt now (plan.failing retries assessment error)) :=
    .allAt_self ..
  exact hfailing.append (.allAt (Nat.le_add_right ..) (Nat.le_refl _) _)
    (Nat.le_refl _) (Nat.le_add_right ..)

/-- A leg with events at a later time behind it. -/
theorem leg_append_within {retries now done : Nat} {assessment : Assessment}
    {error : CallError} (hdone : now + plan.policy.retry.pause ≤ done)
    (events : List (Event α)) :
    Within now done
      (plan.leg retries now assessment error ++ allAt done events) :=
  leg_within.append (.allAt hdone (Nat.le_refl _) _)
    (Nat.le_add_right ..) hdone

theorem prologue_append_within {start done : Nat} (hdone : start ≤ done)
    (events : List (Event α)) :
    Within start done (plan.prologue start ++ allAt done events) := by
  have hprologue : Within start start (plan.prologue start) := .allAt_self ..
  exact hprologue.append (.allAt hdone (Nat.le_refl _) _)
    (Nat.le_refl _) hdone

/-- The events of a first attempt that nothing interrupts. -/
theorem prologue_lapse_within (plan : Plan α β) (start : Nat) :
    Within start (plan.firstDone start)
      (plan.prologue start ++ plan.lapse 0 (plan.firstDone start)) :=
  prologue_append_within (Nat.le_add_right ..) _

theorem Sequence.chronological {limit? : Option Deadline}
    {legs retries now : Nat} {failure : Failure} {run : Run α β}
    (hsequence : Sequence plan limit? legs retries now failure run)
    (hnow : ∀ deadline ∈ limit?, now ≤ deadline.time) :
    run.Chronological now := by
  induction hsequence with
  | ended => exact ended_chronological
  | unfinished => exact ⟨Nat.le_refl _, List.Pairwise.nil, by simp⟩
  | inPause _ hlimit =>
    have hfrom := hnow _ hlimit
    exact interrupted_chronological.after
      (.allAt (Nat.le_refl _) hfrom _) hfrom
  | inAttempt _ hlimit hresume =>
    exact interrupted_chronological.after (leg_append_within hresume _)
      (hnow _ hlimit)
  | answered _ hdone =>
    exact answered_chronological.after (leg_append_within (by omega) _)
      (by omega)
  | again _ hdone hopen _ _ ih =>
    exact (ih hopen).after (leg_append_within (by omega) _) (by omega)

/-- A sequence does not go on behind its limit. -/
theorem Sequence.finish_le {limit? : Option Deadline} {legs retries now : Nat}
    {failure : Failure} {run : Run α β} {deadline : Deadline}
    (hsequence : Sequence plan limit? legs retries now failure run)
    (hlimit : limit? = some deadline) (hnow : now ≤ deadline.time) :
    run.finish ≤ deadline.time := by
  induction hsequence with
  | ended | unfinished => exact hnow
  | inPause _ hother | inAttempt _ hother =>
    obtain rfl := Option.some.inj (hother.symm.trans hlimit)
    exact Nat.le_of_eq (interrupted_finish ..)
  | answered _ _ hopen => exact hopen deadline hlimit
  | again _ _ hopen _ _ ih => exact ih (hopen deadline hlimit)

theorem Course.chronological {first? : Option Deadline}
    {sequence? : Nat → Option Deadline} {legs start : Nat} {run : Run α β}
    (hcourse : Course plan first? sequence? legs start run)
    (hfirst : ∀ deadline ∈ first?, start ≤ deadline.time)
    (hsequence : ∀ time, (∀ deadline ∈ first?, time ≤ deadline.time) →
      ∀ deadline ∈ sequence? time, time ≤ deadline.time) :
    run.Chronological start := by
  have hdone : start ≤ plan.firstDone start := Nat.le_add_right ..
  cases hcourse with
  | interrupted hlimit =>
    have hfrom := hfirst _ hlimit
    exact interrupted_chronological.after
      (prologue_append_within hfrom _) hfrom
  | answered =>
    exact answered_chronological.after (prologue_append_within hdone _) hdone
  | ended =>
    exact ended_chronological.after (prologue_append_within hdone _) hdone
  | retried hlimit _ _ hrest =>
    exact (hrest.chronological (hsequence _ hlimit)).after
      (prologue_append_within hdone _) hdone

/-- In a call whose first attempt has no limit, all that is not the prologue
happens once that attempt settles. -/
theorem Course.exists_rest {sequence? : Nat → Option Deadline}
    {legs start : Nat} {run : Run α β}
    (hcourse : Course plan none sequence? legs start run)
    (hsequence : ∀ deadline ∈ sequence? (plan.firstDone start),
      plan.firstDone start ≤ deadline.time) :
    ∃ rest : Run α β, rest.Chronological (plan.firstDone start) ∧
      run = rest.after (plan.prologue start) := by
  have hlapse : Within (plan.firstDone start) (plan.firstDone start)
      (plan.lapse 0 (plan.firstDone start)) := .allAt_self ..
  cases hcourse with
  | interrupted hlimit => cases hlimit
  | answered =>
    exact ⟨_, answered_chronological.after hlapse (Nat.le_refl _),
      (Run.after_after ..).symm⟩
  | ended =>
    exact ⟨_, ended_chronological.after hlapse (Nat.le_refl _),
      (Run.after_after ..).symm⟩
  | retried _ _ _ hrest =>
    exact ⟨_, (hrest.chronological hsequence).after hlapse (Nat.le_refl _),
      (Run.after_after ..).symm⟩

end Plan

end Redial
