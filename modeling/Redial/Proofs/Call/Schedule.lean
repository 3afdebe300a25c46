import Mathlib.Algebra.BigOperators.Group.Finset.Basic
import Redial.Proofs.Call.Course

/-!
A call without a window, worked out from what each of its attempts comes to.
It ends with the first attempt that is answered, whose failure is none to
retry, or whose number is the count of retries. Each attempt begins a pause
after the one before it. A pause is as long as the delay, but for delays of
more than thirty years, which are cut.
-/

namespace Redial

variable {α β : Type}

/-- What an attempt comes to and after how long, if it may take `timeout`.
What comes at the very end of that time is in time. -/
inductive Reply.ComesTo (timeout : Nat) :
    Reply β → (elapsed : Nat) → Except Failure β → Prop where
  | inTime {after : Nat} {outcome : Except Failure β}
      (htime : after ≤ timeout) :
      ComesTo timeout (.settles after outcome) after outcome
  | late {after : Nat} {outcome : Except Failure β}
      (htime : timeout < after) :
      ComesTo timeout (.settles after outcome) timeout
        (.error (.attemptTimeout timeout))
  | never : ComesTo timeout .never timeout (.error (.attemptTimeout timeout))

theorem Reply.ComesTo.settlement_eq {timeout elapsed : Nat} {reply : Reply β}
    {outcome : Except Failure β}
    (hcomes : reply.ComesTo timeout elapsed outcome) :
    (reply.settlement timeout).elapsed = elapsed ∧
      (reply.settlement timeout).outcome = outcome := by
  cases hcomes with
  | inTime htime => simp [settlement, htime]
  | late htime => simp [settlement, Nat.not_le_of_lt htime]
  | never => simp [settlement]

/-- Whether a call without a window ends with an attempt, by the retries
before it and by what it comes to. -/
inductive RetryPolicy.EndsWith (policy : RetryPolicy) (retries : Nat) :
    Except Failure β → Prop where
  | answered (response : β) : EndsWith policy retries (.ok response)
  | nothing {failure : Failure} (herror : failure.assess.error? = none) :
      EndsWith policy retries (.error failure)
  | refused {failure : Failure} {error : CallError}
      (herror : failure.assess.error? = some error)
      (hstatus : ∀ status ∈ error.statusCode?, status ∉ policy.statusCodes) :
      EndsWith policy retries (.error failure)
  | exhausted {outcome : Except Failure β}
      (hretries : retries = policy.maxCount.toNat) :
      EndsWith policy retries outcome

/-- What the caller gets for the outcome of the last attempt. -/
inductive Returns : Except Failure β → Ending β → Prop where
  | answered (response : β) : Returns (.ok response) (.answered response)
  | nothing {status : RemoteStatus} (hcode : status.code = .notFound) :
      Returns (.error (.status status)) .nothing
  | failed {failure : Failure} {error : CallError}
      (herror : failure.assess.error? = some error) :
      Returns (.error failure) (.failed error)

/-- The times of the calls to the transport. -/
def Run.callTimes (run : Run α β) : List Nat :=
  (run.events.filter fun timed => timed.event.isCall).map TimedEvent.time

theorem Run.callTimes_after (run : Run α β) (events : List (TimedEvent α)) :
    (run.after events).callTimes =
      (events.filter fun timed => timed.event.isCall).map TimedEvent.time ++
        run.callTimes := by
  simp [callTimes]

namespace Plan

variable {plan : Plan α β} {retries now legs : Nat} {failure : Failure}
  {run : Run α β}

/-- As long as the count is not passed, what is not retried is what ends a
call. -/
theorem retried?_eq_none_iff (hcount : plan.policy.retry.maxCount ≠ 0)
    (hretries : retries ≤ plan.policy.retry.maxCount.toNat) :
    plan.retried? retries failure.assess = none ↔
      plan.policy.retry.EndsWith retries
        (.error failure : Except Failure β) := by
  have hallows : plan.policy.retry.allowsAnother retries = false ↔
      retries = plan.policy.retry.maxCount.toNat := by
    rw [RetryPolicy.allowsAnother, beq_false_of_ne hcount, Bool.false_or,
      decide_eq_false_iff_not]
    omega
  constructor
  · intro hretried
    cases herror : failure.assess.error? with
    | none => exact .nothing herror
    | some error =>
      have hrefused := Option.filter_eq_none_iff.mp hretried error herror
      rw [Bool.and_eq_true, not_and_or, Bool.not_eq_true, Bool.not_eq_true,
        hallows] at hrefused
      rcases hrefused with hstatus | hretries
      · exact .refused herror (RetryPolicy.admits_eq_false_iff.mp hstatus)
      · exact .exhausted hretries
  · intro hends
    refine Option.filter_eq_none_iff.mpr fun error herror => ?_
    cases hends with
    | nothing hnone => simp [hnone] at herror
    | refused hsome hstatus =>
      obtain rfl := Option.some.inj (hsome.symm.trans herror)
      simp [RetryPolicy.admits_eq_false_iff.mpr hstatus]
    | exhausted hlast => simp [hallows.mpr hlast]

theorem not_endsWith_of_retried {error : CallError}
    (hcount : plan.policy.retry.maxCount ≠ 0)
    (hretries : retries ≤ plan.policy.retry.maxCount.toNat)
    (houtcome : (plan.settlement retries).outcome = .error failure)
    (hretried : plan.retried? retries failure.assess = some error) :
    ¬ plan.policy.retry.EndsWith retries
      (plan.settlement retries).outcome := by
  rw [houtcome, ← retried?_eq_none_iff hcount hretries, hretried]
  nofun

theorem ended_returns (plan : Plan α β) (state : CallState) (now : Nat)
    (failure : Failure) :
    Returns (.error failure)
      (plan.ended state now failure.assess).ending := by
  rcases failure.assess_cases with
      ⟨status, rfl, hcode, hassess⟩ | ⟨error, hassess⟩
  · rw [hassess]
    exact .nothing hcode
  · have herror : failure.assess.error? = some error := by rw [hassess]; rfl
    rw [hassess]
    exact .failed herror

theorem callTimes_ended :
    (plan.ended (plan.inAttempt retries) now failure.assess).callTimes =
      [] := by
  rcases failure.assess_cases with ⟨status, -, -, hassess⟩ | ⟨error, hassess⟩
  · rw [hassess]
    rfl
  · rw [hassess]
    rfl

theorem callTimes_leg {assessment : Assessment} {error : CallError}
    {done : Nat} :
    (run.after
        (plan.leg retries now assessment error ++
          plan.lapse (retries + 1) done)).callTimes =
      (now + plan.policy.retry.pause) :: run.callTimes := by
  rw [Run.callTimes_after, lapse]
  split <;> rfl

theorem callTimes_prologue {start done : Nat} :
    (run.after (plan.prologue start ++ plan.lapse 0 done)).callTimes =
      start :: run.callTimes := by
  rw [Run.callTimes_after, lapse]
  split <;> rfl

/-- The time at which an attempt begins, if nothing interrupts the call
before. -/
def attemptStart (plan : Plan α β) (start index : Nat) : Nat :=
  start + ∑ earlier ∈ Finset.range index,
    ((plan.settlement earlier).elapsed + plan.policy.retry.pause)

theorem attemptStart_succ (plan : Plan α β) (start index : Nat) :
    plan.attemptStart start (index + 1) =
      plan.attemptStart start index + (plan.settlement index).elapsed +
        plan.policy.retry.pause := by
  simp only [attemptStart, Finset.sum_range_succ]
  omega

/-- What a call without a window comes to, when the attempt with the number
`last` is its last. -/
structure Schedule (plan : Plan α β) (start first last : Nat)
    (run : Run α β) : Prop where
  ends : plan.policy.retry.EndsWith last (plan.settlement last).outcome
  earlier : ∀ index, first ≤ index → index < last →
    ¬ plan.policy.retry.EndsWith index (plan.settlement index).outcome
  finish :
    run.finish = plan.attemptStart start last + (plan.settlement last).elapsed
  returns : Returns (plan.settlement last).outcome run.ending

/-- A sequence without a limit goes on up to the first attempt that ends
it. -/
theorem Sequence.schedule {start : Nat}
    (hsequence : Sequence plan none legs retries now failure run)
    (hfinished : run.Finished) (hcount : plan.policy.retry.maxCount ≠ 0)
    (hretries : retries ≤ plan.policy.retry.maxCount.toNat)
    (hnow : now = plan.attemptStart start retries +
      (plan.settlement retries).elapsed)
    (houtcome : (plan.settlement retries).outcome = .error failure) :
    ∃ more, Schedule plan start retries (retries + more) run ∧
      run.callTimes = (List.range' (retries + 1) more).map
        (plan.attemptStart start) := by
  -- A failure comes at the end of its attempt (`hnow`), so the pause after it
  -- ends when the next attempt is due.
  induction hsequence with
  | @ended _ retries now failure hretried =>
    refine ⟨0, ⟨?_, ?_, ?_, ?_⟩, callTimes_ended⟩
    · rw [Nat.add_zero, houtcome]
      exact (retried?_eq_none_iff hcount hretries).mp hretried
    · intro index hle hlt
      omega
    · exact hnow
    · rw [Nat.add_zero, houtcome]
      exact plan.ended_returns ..
  | unfinished => exact absurd rfl hfinished
  | inPause _ hlimit | inAttempt _ hlimit => cases hlimit
  | @answered _ retries now done failure error response hretried hdone _
      hanswered =>
    have hgoes := not_endsWith_of_retried hcount hretries houtcome hretried
    have hstart : now + plan.policy.retry.pause =
        plan.attemptStart start (retries + 1) := by
      rw [attemptStart_succ, hnow]
    refine ⟨1, ⟨?_, ?_, ?_, ?_⟩, ?_⟩
    · rw [hanswered]
      exact .answered response
    · intro index hle hlt
      obtain rfl : index = retries := by omega
      exact hgoes
    · rw [← hstart, ← hdone]
      rfl
    · rw [hanswered]
      exact .answered response
    · rw [callTimes_leg, hstart]
      rfl
  | @again _ retries now done failure next error rest hretried hdone _ hfailed
      _ ih =>
    have hgoes := not_endsWith_of_retried hcount hretries houtcome hretried
    have hstart : now + plan.policy.retry.pause =
        plan.attemptStart start (retries + 1) := by
      rw [attemptStart_succ, hnow]
    have hless : retries ≠ plan.policy.retry.maxCount.toNat :=
      fun hlast => hgoes (.exhausted hlast)
    obtain ⟨more, ⟨hends, hearlier, hfinish, hreturns⟩, htimes⟩ :=
      ih hfinished (by omega) (by rw [hdone, hstart]) hfailed
    rw [Nat.add_right_comm, Nat.add_assoc retries]
      at hends hearlier hfinish hreturns
    refine ⟨more + 1, ⟨hends, ?_, hfinish, hreturns⟩, ?_⟩
    · intro index hle hlt
      rcases Nat.eq_or_lt_of_le hle with rfl | hnext
      · exact hgoes
      · exact hearlier index hnext hlt
    · rw [callTimes_leg, hstart, htimes, List.range'_succ, List.map_cons]

theorem attemptStart_zero (plan : Plan α β) (start : Nat) :
    plan.attemptStart start 0 = start := by
  simp [attemptStart]

/-- A call without a limit, from its first attempt to its last. -/
theorem Course.schedule {start : Nat}
    (hcourse : Course plan none (fun _ => none) legs start run)
    (hfinished : run.Finished)
    (henabled : plan.policy.retry.enabled = true →
      plan.policy.retry.maxCount ≠ 0) :
    ∃ last,
      (plan.policy.retry.enabled = false → last = 0) ∧
      (plan.policy.retry.enabled = true →
        plan.policy.retry.EndsWith last (plan.settlement last).outcome ∧
        ∀ index < last, ¬ plan.policy.retry.EndsWith index
          (plan.settlement index).outcome) ∧
      run.callTimes = (List.range (last + 1)).map (plan.attemptStart start) ∧
      run.finish = plan.attemptStart start last +
        (plan.settlement last).elapsed ∧
      Returns (plan.settlement last).outcome run.ending := by
  have hfirst : [start] = (List.range 1).map (plan.attemptStart start) := by
    simp [attemptStart_zero]
  cases hcourse with
  | interrupted hlimit => cases hlimit
  | @answered response _ houtcome =>
    refine ⟨0, fun _ => rfl, fun _ => ⟨?_, nofun⟩, ?_, ?_, ?_⟩
    · rw [houtcome]
      exact .answered response
    · rw [callTimes_prologue, ← hfirst]
      rfl
    · rw [attemptStart_zero]
      rfl
    · rw [houtcome]
      exact .answered response
  | @ended failure _ houtcome hdisabled =>
    refine ⟨0, fun _ => rfl, fun henabled => ?_, ?_, ?_, ?_⟩
    · simp [hdisabled] at henabled
    · rw [callTimes_prologue, callTimes_ended, ← hfirst]
    · rw [attemptStart_zero]
      rfl
    · rw [houtcome]
      exact plan.ended_returns (plan.inAttempt 0) (plan.firstDone start)
        failure
  | @retried failure rest _ houtcome hretry hrest =>
    obtain ⟨last, ⟨hends, hearlier, hfinish, hreturns⟩, htimes⟩ :=
      hrest.schedule hfinished (henabled hretry) (Nat.zero_le _)
        (by rw [attemptStart_zero]; rfl) houtcome
    rw [Nat.zero_add] at hends hearlier hfinish hreturns
    refine ⟨last, fun hdisabled => ?_,
      fun _ => ⟨hends, ?_⟩, ?_, hfinish, hreturns⟩
    · simp [hdisabled] at hretry
    · intro index hlt
      exact hearlier index (Nat.zero_le _) hlt
    · rw [callTimes_prologue, htimes, List.range_eq_range', List.range'_succ,
        List.map_cons, attemptStart_zero]

end Plan

namespace Client

variable {client : Client} {span : String} {transport : Transport α β}
  {visit : Visit α} {plan : Plan α β}

/-- A call without a window as a function of what its attempts come to. Unless
retries are off, the last attempt is the first one that the policy ends with.
The attempts follow each other at the distance of one pause, and the caller
gets what the last one comes to. -/
theorem request_schedule
    (hplan : client.plan span transport visit.context visit.request
      visit.overrides? = .ok plan)
    (hwindow : plan.policy.retry.window = 0) {elapsed : Nat → Nat}
    {outcome : Nat → Except Failure β}
    (hattempts : ∀ index,
      (plan.reply index).ComesTo plan.policy.attemptTimeout (elapsed index)
        (outcome index))
    (start : Nat) :
    let run :=
      client.request span transport { visit with patience? := none } start
    let retry := plan.policy.retry
    let pause := min retry.delay longestPause
    ∃ last,
      (retry.enabled = false → last = 0) ∧
      (retry.enabled = true →
        retry.EndsWith last (outcome last) ∧
          ∀ index < last, ¬ retry.EndsWith index (outcome index)) ∧
      run.callTimes = (List.range (last + 1)).map (fun index =>
        start + ∑ earlier ∈ Finset.range index, (elapsed earlier + pause)) ∧
      run.finish =
        start + ∑ index ∈ Finset.range (last + 1), elapsed index +
          last * pause ∧
      Returns (outcome last) run.ending := by
  intro run retry pause
  have hsound := plan_sound hplan
  have hrun : run = plan.run start none := request_eq_run hplan
  have hfinished := plan.run_finished hsound start none
  have hfollow : plan.run start none =
      plan.follow none (fun _ => none) plan.policy.retry.maxRetries
        start := by
    rw [Plan.run_none]
    congr 1
    funext time
    simp [Plan.windowEnd?, hwindow]
  have helapsed (index : Nat) :
      (plan.settlement index).elapsed = elapsed index :=
    (hattempts index).settlement_eq.1
  have houtcome (index : Nat) :
      (plan.settlement index).outcome = outcome index :=
    (hattempts index).settlement_eq.2
  rw [hfollow] at hrun hfinished
  obtain ⟨last, hdisabled, henabled, htimes, hfinish, hreturns⟩ :=
    (plan.follow_course ..).schedule hfinished fun henabled =>
      (hsound.bounded henabled).resolve_right (by omega)
  rw [← hrun] at htimes hfinish hreturns
  simp only [houtcome] at henabled hreturns
  refine ⟨last, hdisabled, henabled, ?_, ?_, hreturns⟩
  · refine htimes.trans (List.map_congr_left fun index _ => ?_)
    simp only [Plan.attemptStart, helapsed]
    rfl
  · rw [hfinish, Plan.attemptStart, Finset.sum_range_succ,
      Finset.sum_add_distrib]
    have hpauses : ∑ _index ∈ Finset.range last,
        plan.policy.retry.pause = last * pause :=
      (Finset.sum_const_nat fun _ _ => rfl).trans
        (by rw [Finset.card_range]; rfl)
    simp only [helapsed, hpauses]
    omega

/-- Six attempts that are never answered, with the usual timeout and
the usual delay. -/
theorem request_schedule_of_silence :
    let client : Client :=
      { defaults := { retry := { timeout? := some 0 } },
        builder := fun _ _ _ _ => .ok {} }
    let transport : Transport Unit Unit := fun _ _ => .never
    let run :=
      client.request "" transport { context := default, request := default } 0
    run.finish = 115000 ∧
      Returns (.error (.attemptTimeout 15000)) run.ending := by
  intro client transport run
  let visit : Visit Unit := { context := default, request := default }
  have hplan : client.plan "" transport visit.context visit.request
      visit.overrides? = .ok _ := rfl
  obtain ⟨last, -, -, htimes, hfinish, hreturns⟩ :=
    request_schedule hplan rfl (fun _ => .never) 0
  have hcalls : run.callTimes.length = 6 := by decide +kernel
  have hlast : last = 5 := by
    have hlength := congrArg List.length htimes
    rw [List.length_map, List.length_range] at hlength
    exact Nat.succ.inj (hlength.symm.trans hcalls)
  subst hlast
  exact ⟨hfinish.trans (by decide +kernel), hreturns⟩

/-- With a delay of a million million milliseconds the third attempt is the
last one, but the attempts are thirty years apart and not one delay. -/
theorem request_schedule_long_delay :
    let client : Client :=
      { defaults :=
          { retry :=
              { timeout? := some 0, delay? := some 1000000000000,
                maxCount? := some 2 } }
        builder := fun _ _ _ _ => .ok {} }
    let outcome : Except Failure Unit := .error (.ofStatus .unavailable "")
    let transport : Transport Unit Unit := fun _ _ => .settles 0 outcome
    let run :=
      client.request "" transport { context := default, request := default } 0
    let retry := (client.policy none).retry
    (retry.window = 0 ∧ retry.enabled = true ∧ retry.EndsWith 2 outcome ∧
      ∀ index < 2, ¬ retry.EndsWith index outcome) ∧
      run.callTimes ≠ (List.range 3).map (fun index => index * retry.delay) ∧
      run.finish ≠ 2 * retry.delay := by
  intro client outcome transport run retry
  refine ⟨⟨by decide +kernel, by decide +kernel,
    .exhausted (by decide +kernel), ?_⟩,
    by decide +kernel, by decide +kernel⟩
  intro index hindex hends
  change retry.EndsWith index
    (.error (.ofStatus .unavailable "") : Except Failure Unit) at hends
  cases hends with
  | nothing hnone => cases hnone
  | refused herror hstatus =>
    obtain rfl := Option.some.inj herror
    exact hstatus (.remote .unavailable) rfl (by decide +kernel)
  | exhausted hcount =>
    have hmax : retry.maxCount.toNat = 2 := by decide +kernel
    omega

end Client

end Redial
