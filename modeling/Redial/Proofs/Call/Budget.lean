import Redial.Proofs.Call.Settling

/-!
More room never loses a success. A call that is answered, or that finds
nothing, has come to its end before its bounds did, so it goes the same way
under a policy whose count and window are no tighter. A bound of zero is none,
so room is also made by taking a bound away.
-/

namespace Redial

variable {α β : Type}

/-- Whether a bound leaves room for all that another one does. A bound
of zero is none. -/
def NoTighter (bound other : Nat) : Prop :=
  bound = 0 ∨ 0 < other ∧ other ≤ bound

/-- Whether the caller gets an answer, or learns that there is nothing. -/
def Ending.isSuccess : Ending β → Bool
  | .answered _ | .nothing => true
  | .failed _ | .dropped | .unfinished => false

theorem Deadline.exists_earlier? {first? second? : Option Deadline}
    {deadline : Deadline} (hmem : deadline ∈ first? ∨ deadline ∈ second?) :
    ∃ earliest, earlier? first? second? = some earliest ∧
      earliest.time ≤ deadline.time := by
  cases first? with
  | none =>
    have hsecond : second? = some deadline := by simpa using hmem
    exact ⟨deadline, by simp [earlier?, hsecond], Nat.le_refl _⟩
  | some first =>
    cases second? with
    | none =>
      have hfirst : first = deadline := by simpa using hmem
      exact ⟨deadline, by simp [earlier?, hfirst], Nat.le_refl _⟩
    | some second =>
      refine ⟨_, rfl, ?_⟩
      rcases hmem with hfirst | hsecond
      · obtain rfl := Option.some.inj hfirst
        split <;> omega
      · obtain rfl := Option.some.inj hsecond
        split <;> omega

namespace RetryPolicy

/-- The policy with another count and another window. -/
def withBounds (policy : RetryPolicy) (maxCount : UInt32) (window : Nat) :
    RetryPolicy :=
  { policy with maxCount, window }

theorem allowsAnother_withBounds {policy : RetryPolicy} {maxCount : UInt32}
    {window retries : Nat}
    (hcount : NoTighter maxCount.toNat policy.maxCount.toNat)
    (hallows : policy.allowsAnother retries = true) :
    (policy.withBounds maxCount window).allowsAnother retries = true := by
  rcases hcount with hnone | ⟨hpositive, hle⟩
  · have hzero : maxCount = 0 := UInt32.toNat_inj.mp hnone
    simp [allowsAnother, withBounds, hzero]
  · have hbound : policy.maxCount ≠ 0 := by
      intro hzero
      simp [hzero] at hpositive
    simp only [allowsAnother, beq_false_of_ne hbound, Bool.false_or,
      decide_eq_true_eq] at hallows
    rw [allowsAnother, Bool.or_eq_true]
    exact .inr (decide_eq_true (Nat.lt_of_lt_of_le hallows hle))

end RetryPolicy

namespace Plan

/-- The plan under a policy with another count and another window. -/
def withBounds (plan : Plan α β) (maxCount : UInt32) (window : Nat) :
    Plan α β :=
  { plan with policy.retry := plan.policy.retry.withBounds maxCount window }

variable {plan : Plan α β} {maxCount : UInt32} {window : Nat}

theorem retried?_withBounds {retries : Nat} {assessment : Assessment}
    {error : CallError}
    (hcount : NoTighter maxCount.toNat plan.policy.retry.maxCount.toNat)
    (hretried : plan.retried? retries assessment = some error) :
    (plan.withBounds maxCount window).retried? retries assessment =
      some error := by
  obtain ⟨herror, hpermitted⟩ := Option.filter_eq_some_iff.mp hretried
  rw [Bool.and_eq_true] at hpermitted
  obtain ⟨hadmits, hallows⟩ := hpermitted
  refine Option.filter_eq_some_iff.mpr ⟨herror, ?_⟩
  rw [Bool.and_eq_true]
  exact ⟨hadmits, RetryPolicy.allowsAnother_withBounds hcount hallows⟩

theorem interrupted_isSuccess {state : CallState} {deadline : Deadline} :
    (plan.interrupted state deadline).ending.isSuccess = false := by
  unfold interrupted
  split <;> rfl

/-- A call that ends with a success has not come to an error. -/
theorem error?_eq_none_of_isSuccess {state : CallState} {time : Nat}
    {assessment : Assessment}
    (hsuccess : (plan.ended state time assessment).ending.isSuccess = true) :
    assessment.error? = none := by
  cases herror : assessment.error? with
  | none => rfl
  | some error => simp [ended, herror, Ending.isSuccess] at hsuccess

/-- A sequence that ends with a success goes the same way with more room, as
long as it is not cut off before its end. -/
theorem Sequence.retrying_withBounds {limit? wider? : Option Deadline}
    {legs retries now : Nat} {failure : Failure} {run : Run α β}
    (hsequence : Sequence plan limit? legs retries now failure run)
    (hsuccess : run.ending.isSuccess = true)
    (hcount : NoTighter maxCount.toNat plan.policy.retry.maxCount.toNat)
    (hwider : ∀ deadline ∈ wider?, run.finish ≤ deadline.time) :
    (plan.withBounds maxCount window).retrying wider? legs
      (plan.inAttempt retries) now failure = run := by
  induction hsequence with
  | @ended _ retries _ failure =>
    have herror := error?_eq_none_of_isSuccess hsuccess
    have hretried : (plan.withBounds maxCount window).retried? retries
        failure.assess = none := by
      simp [retried?, herror]
    exact retrying_ended hretried
  | unfinished => cases hsuccess
  | inPause | inAttempt =>
    rw [Run.after_ending, interrupted_isSuccess] at hsuccess
    cases hsuccess
  | answered hretried hdone _ houtcome =>
    subst hdone
    exact retrying_answered (retried?_withBounds hcount hretried) hwider
      houtcome
  | again hretried hdone hlimit houtcome hrest ih =>
    -- The rest of the sequence begins when the attempt is done, so the wider
    -- limit is not before.
    have hdone_le := (hrest.chronological hlimit).first_le_finish
    have hopen : ∀ deadline ∈ wider?, _ ≤ deadline.time :=
      fun deadline hmem => Nat.le_trans hdone_le (hwider deadline hmem)
    rw [← ih hsuccess hwider]
    subst hdone
    exact retrying_failed (retried?_withBounds hcount hretried) hopen houtcome

/-- The limit of a sequence with more room is not before the end of one that
came to its end. -/
theorem finish_le_of_mem_earlier? {time finish : Nat}
    {drop? : Option Deadline} {deadline : Deadline}
    (hwindow : NoTighter window plan.policy.retry.window)
    (hfinish :
      ∀ limit, Deadline.earlier? (plan.windowEnd? time) drop? = some limit →
        finish ≤ limit.time)
    (hmem : deadline ∈
      Deadline.earlier? ((plan.withBounds maxCount window).windowEnd? time)
        drop?) :
    finish ≤ deadline.time := by
  rcases Deadline.earlier?_eq_some hmem with hend | hdrop
  · have hpositive : window ≠ 0 := by
      intro hzero
      simp [windowEnd?, withBounds, RetryPolicy.withBounds, hzero] at hend
    obtain ⟨hbound, hle⟩ := hwindow.resolve_left hpositive
    have htime : time + window = deadline.time := by
      rw [windowEnd?_of_pos (Nat.pos_of_ne_zero hpositive)] at hend
      exact congrArg Deadline.time (Option.some.inj hend)
    obtain ⟨limit, hlimit, hbefore⟩ : ∃ limit,
        Deadline.earlier? (plan.windowEnd? time) drop? = some limit ∧
          limit.time ≤ time + plan.policy.retry.window :=
      Deadline.exists_earlier? (.inl (windowEnd?_of_pos hbound))
    have hlast := hfinish limit hlimit
    omega
  · obtain ⟨limit, hlimit, hbefore⟩ : ∃ limit,
        Deadline.earlier? (plan.windowEnd? time) drop? = some limit ∧
          limit.time ≤ deadline.time :=
      Deadline.exists_earlier? (.inr hdrop)
    exact Nat.le_trans (hfinish limit hlimit) hbefore

/-- Followed for the same number of retries, a call that ends with a success
goes the same way with more room. -/
theorem Course.follow_withBounds {legs start : Nat} {drop? : Option Deadline}
    {run : Run α β}
    (hcourse : Course plan drop?
      (fun time => Deadline.earlier? (plan.windowEnd? time) drop?)
      legs start run)
    (hsuccess : run.ending.isSuccess = true)
    (henabled : plan.policy.retry.enabled = true)
    (hcount : NoTighter maxCount.toNat plan.policy.retry.maxCount.toNat)
    (hwindow : NoTighter window plan.policy.retry.window) :
    (plan.withBounds maxCount window).follow drop?
      (fun time => Deadline.earlier?
        ((plan.withBounds maxCount window).windowEnd? time) drop?) legs
      start = run := by
  cases hcourse with
  | interrupted =>
    rw [Run.after_ending, interrupted_isSuccess] at hsuccess
    cases hsuccess
  | answered hlimit houtcome => exact follow_answered hlimit houtcome
  | ended _ _ hdisabled => simp [henabled] at hdisabled
  | @retried failure rest hlimit houtcome _ hrest =>
    have hfinish : ∀ limit,
        Deadline.earlier? (plan.windowEnd? (plan.firstDone start)) drop? =
          some limit →
        rest.finish ≤ limit.time := by
      intro limit hsome
      refine hrest.finish_le hsome ?_
      rcases Deadline.earlier?_eq_some hsome with hend | hdrop
      · exact le_of_mem_windowEnd? hend
      · exact hlimit limit hdrop
    have hwider :
        (plan.withBounds maxCount window).retrying
            (Deadline.earlier?
              ((plan.withBounds maxCount window).windowEnd?
                (plan.firstDone start))
              drop?)
            legs (plan.inAttempt 0) (plan.firstDone start) failure =
          rest :=
      hrest.retrying_withBounds hsuccess hcount fun deadline hmem =>
        finish_le_of_mem_earlier? hwindow hfinish hmem
    have hopen : ∀ deadline ∈ drop?,
        (plan.withBounds maxCount window).firstDone start ≤
          deadline.time := hlimit
    have hretries : (plan.withBounds maxCount window).policy.retry.enabled =
        true := henabled
    rw [follow_failed hopen houtcome, if_pos hretries]
    exact congrArg (Run.after _) hwider

/-- A call that ends with a success ends in the same way with more room. -/
theorem run_withBounds {start : Nat} {patience? : Option Nat}
    (hsound : (plan.withBounds maxCount window).policy.Sound)
    (henabled : plan.policy.retry.enabled = true)
    (hcount : NoTighter maxCount.toNat plan.policy.retry.maxCount.toNat)
    (hwindow : NoTighter window plan.policy.retry.window)
    (hsuccess : (plan.run start patience?).ending.isSuccess = true) :
    (plan.withBounds maxCount window).run start patience? =
      plan.run start patience? := by
  have hsame := (plan.follow_course
    (patience?.map fun patience => ⟨start + patience, .dropped⟩)
    (fun time => Deadline.earlier? (plan.windowEnd? time)
      (patience?.map fun patience => ⟨start + patience, .dropped⟩))
    plan.policy.retry.maxRetries start).follow_withBounds hsuccess henabled
      hcount hwindow
  have hfinished : (plan.run start patience?).Finished := by
    intro hunfinished
    simp [hunfinished, Ending.isSuccess] at hsuccess
  -- Both policies bound the retries that are followed, and a success needs
  -- no more of them.
  refine (follow_eq_of_finished (run_finished hsound start patience?)
    ?_).trans hsame
  exact hsame ▸ hfinished

end Plan

namespace Client

variable {client wider : Client} {span : String} {transport : Transport α β}
  {visit : Visit α} {overrides? : Option CallOptions} {maxCount : UInt32}
  {window start : Nat}

/-- More room never loses a success. If a call is answered, or finds nothing,
then under options that differ only in a count and a window that are no
tighter it does the same at the same times, and its caller gets the same. -/
theorem request_with_more_room
    (hbuilder : wider.builder = client.builder)
    (hpolicy : wider.policy overrides? =
      { client.policy visit.overrides? with
        retry :=
          (client.policy visit.overrides?).retry.withBounds maxCount window })
    (henabled : (client.policy visit.overrides?).retry.enabled = true)
    (hcount : NoTighter maxCount.toNat
      (client.policy visit.overrides?).retry.maxCount.toNat)
    (hwindow : NoTighter window (client.policy visit.overrides?).retry.window)
    (hsuccess :
      (client.request span transport visit start).ending.isSuccess = true) :
    wider.request span transport { visit with overrides? } start =
      client.request span transport visit start := by
  cases hplan : client.plan span transport visit.context visit.request
      visit.overrides? with
  | error error =>
    rw [request_eq_failed hplan] at hsuccess
    cases hsuccess
  | ok plan =>
    have hwider :
        wider.plan span transport visit.context visit.request overrides? =
          .ok (plan.withBounds maxCount window) := by
      obtain ⟨metadata, hbuilt, rfl⟩ := plan_eq_ok_iff.mp hplan
      refine plan_eq_ok_iff.mpr ⟨metadata, ?_, ?_⟩
      · rw [hbuilder, hpolicy]
        exact hbuilt
      · rw [hpolicy]
        rfl
    have hretry : plan.policy = client.policy visit.overrides? :=
      plan_policy hplan
    rw [← hretry] at henabled hcount hwindow
    rw [request_eq_run hplan] at hsuccess ⊢
    exact (request_eq_run hwider).trans
      (Plan.run_withBounds (plan_sound hwider) henabled hcount hwindow
        hsuccess)

/-- A call that is answered at its third attempt is answered at the same time
without a count and with a longer window. -/
theorem request_with_more_room_of_two_retries :
    let builder : MetadataBuilder := fun _ _ _ _ => .ok {}
    let client : Client :=
      { defaults :=
          { retry := { timeout? := some 10020, maxCount? := some 2 } },
        builder }
    let wider : Client :=
      { defaults :=
          { retry := { timeout? := some 10021, maxCount? := some 0 } },
        builder }
    let failure : Reply Unit :=
      .settles 10 (.error (.ofStatus .unavailable ""))
    let transport : Transport Unit Unit :=
      .ofReplies [failure, failure, .settles 10 (.ok ())]
    let visit : Visit Unit := { context := default, request := default }
    (client.request "" transport visit 0).finish = 10030 ∧
      wider.request "" transport visit 0 =
        client.request "" transport visit 0 := by
  intro builder client wider failure transport visit
  have hsuccess :
      (client.request "" transport visit 0).ending.isSuccess = true := by
    decide +kernel
  have hbuilder : wider.builder = client.builder := rfl
  have hpolicy : wider.policy none =
      { client.policy visit.overrides? with
        retry :=
          (client.policy visit.overrides?).retry.withBounds 0 10021 } := by
    decide +kernel
  have henabled : (client.policy visit.overrides?).retry.enabled = true := by
    decide +kernel
  have hcount : NoTighter (0 : UInt32).toNat
      (client.policy visit.overrides?).retry.maxCount.toNat := .inl rfl
  have hwindow :
      NoTighter 10021 (client.policy visit.overrides?).retry.window :=
    .inr (by decide +kernel)
  refine ⟨by decide +kernel, ?_⟩
  exact request_with_more_room hbuilder hpolicy henabled hcount hwindow
    hsuccess

end Client

end Redial
