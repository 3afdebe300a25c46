import Redial.Proofs.Options.Durations
import Redial.Proofs.Options.Sound

/-!
Policies as options again. A resolved policy has numbers that the options
can hold, no zero where a zero would stand for something built in, and
retries only where there is a bound for them. So each of its fields can be
set in a layer, and the policy of that layer is the same again, over the
defaults of any client.
-/

namespace Redial

/-- A sound policy whose times the options can hold in their milliseconds. -/
structure CallPolicy.Representable (policy : CallPolicy) :
    Prop extends policy.Sound where
  timeout_lt : policy.attemptTimeout < UInt64.size
  delay_lt : policy.retry.delay < UInt64.size
  window_lt : policy.retry.window < UInt64.size / 2

/-- The layer that sets each field of a policy. -/
def CallPolicy.toOptions (policy : CallPolicy) : CallOptions :=
  let milliseconds (amount : Nat) :=
    Duration.ofMilliseconds (UInt64.ofNat amount)
  ({ headers := policy.headers } : CallOptions)
    |>.withAttemptTimeout (milliseconds policy.attemptTimeout)
    |>.withRetry policy.retry.enabled
    |>.withRetryTimeout (milliseconds policy.retry.window)
    |>.withRetryDelay (milliseconds policy.retry.delay)
    |>.withMaxCount policy.retry.maxCount
    |>.withStatusCodes policy.retry.statusCodes

namespace Duration

theorem wholeMilliseconds_ofMilliseconds (milliseconds : UInt64) :
    (ofMilliseconds milliseconds).wholeMilliseconds = milliseconds.toNat := by
  have hseconds : (milliseconds / 1000).toNat = milliseconds.toNat / 1000 :=
    UInt64.toNat_div ..
  simp only [wholeMilliseconds, ofMilliseconds, nanosecondsPerMillisecond]
  omega

/-- Milliseconds within a limit are what they were, if nothing else stands in
place of zero. -/
theorem millisecondsOr_ofMilliseconds {fallback limit amount : Nat}
    (hsize : amount < UInt64.size) (hzero : amount = 0 → fallback = 0)
    (hlimit : amount ≤ limit) :
    (ofMilliseconds (UInt64.ofNat amount)).millisecondsOr fallback limit =
      amount := by
  rw [millisecondsOr, wholeMilliseconds_ofMilliseconds,
    UInt64.toNat_ofNat_of_lt' hsize]
  split <;> omega

end Duration

namespace CallOptions

theorem positiveOr_lt (fallback : UInt64) (milliseconds? : Option UInt64) :
    positiveOr fallback milliseconds? < UInt64.size :=
  UInt64.toNat_lt_size _

theorem budget_lt (amount? : Option Int64) :
    budget amount? < UInt64.size / 2 := by
  have hlt := (amount?.getD 0).toInt_lt
  have hsize : UInt64.size / 2 = 9223372036854775808 := rfl
  rw [budget]
  omega

theorem resolve_representable (options : CallOptions) :
    options.resolve.Representable where
  toSound := options.resolve_sound
  timeout_lt := positiveOr_lt _ _
  delay_lt := positiveOr_lt _ _
  window_lt := budget_lt _

/-- A budget is what a layer sets, or what the layer below does, but not
less than zero. -/
theorem budget_or (upper? : Option Int64) (lower : Int64) :
    (budget (upper?.or (some lower)) : Int) =
      max 0 (upper?.getD lower).toInt := by
  have hbudget :
      budget (upper?.or (some lower)) = (upper?.getD lower).toInt.toNat := by
    cases upper? <;> rfl
  rw [hbudget, Int.ofNat_toNat, Int.max_comm]

theorem resolve_window (options : CallOptions) :
    (options.resolve.retry.window : Int) =
      max 0
        (min (options.retry.timeout?.getD 120000).toInt
          Int64.maxValue.toInt) := by
  rw [Int.min_eq_left (Int64.toInt_le _)]
  exact budget_or _ _

theorem resolve_maxCount (options : CallOptions) :
    (options.resolve.retry.maxCount.toNat : Int) =
      max 0
        (min (options.retry.maxCount?.getD 5).toInt (UInt32.size - 1)) := by
  have hcount : options.resolve.retry.maxCount.toNat =
      min (budget (options.retry.maxCount?.or (some 5))) (UInt32.size - 1) :=
    UInt32.toNat_ofNat_of_lt' (Nat.lt_of_le_of_lt (Nat.min_le_right ..)
      (by decide))
  have hbudget := budget_or options.retry.maxCount? 5
  have hsize : UInt32.size = 4294967296 := rfl
  rw [hcount]
  omega

end CallOptions

namespace CallPolicy

open CallOptions

variable {policy : CallPolicy}

theorem resolve_toOptions_attemptTimeout (hpolicy : policy.Representable) :
    policy.toOptions.resolve.attemptTimeout = policy.attemptTimeout := by
  have hset := positiveOr_unsignedMilliseconds defaultAttemptTimeout
    (.ofMilliseconds (UInt64.ofNat policy.attemptTimeout))
  have hpositive := hpolicy.timeout_pos
  have hlt := hpolicy.timeout_lt
  exact hset.trans
    (Duration.millisecondsOr_ofMilliseconds hlt (by omega) (by omega))

theorem resolve_toOptions_delay (hpolicy : policy.Representable) :
    policy.toOptions.resolve.retry.delay = policy.retry.delay := by
  have hset := positiveOr_unsignedMilliseconds defaultDelay
    (.ofMilliseconds (UInt64.ofNat policy.retry.delay))
  have hpositive := hpolicy.delay_pos
  have hlt := hpolicy.delay_lt
  exact hset.trans
    (Duration.millisecondsOr_ofMilliseconds hlt (by omega) (by omega))

theorem resolve_toOptions_window (hpolicy : policy.Representable) :
    policy.toOptions.resolve.retry.window = policy.retry.window := by
  have hset :=
    budget_signedMilliseconds (.ofMilliseconds
      (UInt64.ofNat policy.retry.window))
  have hlt := hpolicy.window_lt
  exact hset.trans
    (Duration.millisecondsOr_ofMilliseconds (by omega) (fun _ => rfl)
      (by omega))

theorem resolve_toOptions_maxCount (policy : CallPolicy) :
    policy.toOptions.resolve.retry.maxCount = policy.retry.maxCount := by
  have hcount := policy.toOptions.resolve_maxCount
  have hset : policy.toOptions.retry.maxCount?.getD 5 =
      Int64.ofNat policy.retry.maxCount.toNat := rfl
  have hlt := policy.retry.maxCount.toNat_lt_size
  have hsize : UInt32.size = 4294967296 := rfl
  rw [hset, Int64.toInt_ofNat_of_lt (by omega)] at hcount
  apply UInt32.toNat_inj.mp
  omega

theorem resolve_toOptions_retry (hpolicy : policy.Representable) :
    policy.toOptions.resolve.retry = policy.retry := by
  have hwindow := resolve_toOptions_window hpolicy
  have hcount := resolve_toOptions_maxCount policy
  have henabled :
      policy.toOptions.resolve.retry.enabled = policy.retry.enabled := by
    have hset : policy.toOptions.resolve.retry.enabled =
        (!(policy.toOptions.resolve.retry.maxCount == 0 &&
          policy.toOptions.resolve.retry.window == 0) &&
            policy.retry.enabled) := rfl
    rw [hset, hcount, hwindow]
    cases henabled : policy.retry.enabled with
    | false => exact Bool.and_false _
    | true =>
      rcases hpolicy.bounded henabled with hbound | hbound
      · simp [hbound]
      · simp [Nat.ne_of_gt hbound]
  rw [RetryPolicy.mk.injEq]
  exact ⟨henabled, hwindow, resolve_toOptions_delay hpolicy, hcount, rfl⟩

theorem resolve_toOptions (hpolicy : policy.Representable) :
    policy.toOptions.resolve = policy := by
  rw [CallPolicy.mk.injEq]
  exact ⟨policy.toOptions.resolve_headers,
    resolve_toOptions_attemptTimeout hpolicy, resolve_toOptions_retry hpolicy⟩

/-- Over any defaults, a call with a layer that sets each field of a policy
runs by that policy. -/
theorem resolveOver_toOptions (hpolicy : policy.Representable)
    (defaults : CallOptions) :
    (defaults.resolveOver policy.toOptions).attemptTimeout =
      policy.attemptTimeout ∧
      (defaults.resolveOver policy.toOptions).retry = policy.retry :=
  -- Each of these fields is set, so the defaults below do not count.
  ⟨resolve_toOptions_attemptTimeout hpolicy, resolve_toOptions_retry hpolicy⟩

end CallPolicy

/-- What options are resolved to is sound, and nothing in it is read
differently when it is given back as options. Times of an attempt and of a
pause are positive, the count and the window are those of the options within
the numbers that they can be, and without both of them there are no retries.
The layer that sets each field of a policy is resolved to that policy, and to
the same times and retries over the defaults of any client. -/
theorem CallOptions.resolved_options_resolve_to_themselves
    (options : CallOptions) :
    let policy := options.resolve
    let retry := policy.retry
    0 < policy.attemptTimeout ∧ 0 < retry.delay ∧
      (retry.maxCount = 0 → retry.window = 0 → retry.enabled = false) ∧
      (retry.maxCount.toNat : Int) =
        max 0 (min (options.retry.maxCount?.getD 5).toInt (UInt32.size - 1)) ∧
      (retry.window : Int) =
        max 0
          (min (options.retry.timeout?.getD 120000).toInt
            Int64.maxValue.toInt) ∧
      policy.toOptions.resolve = policy ∧
      ∀ defaults : CallOptions,
        (defaults.resolveOver policy.toOptions).attemptTimeout =
          policy.attemptTimeout ∧
          (defaults.resolveOver policy.toOptions).retry = retry := by
  intro policy retry
  have hpolicy : policy.Representable := options.resolve_representable
  exact ⟨hpolicy.timeout_pos, hpolicy.delay_pos, hpolicy.disabled,
    options.resolve_maxCount, options.resolve_window,
    CallPolicy.resolve_toOptions hpolicy,
    CallPolicy.resolveOver_toOptions hpolicy⟩

/-- Bounds below zero leave nothing to retry with, also where retries
are asked for, and the longest timeout of an attempt is the same when it
is given back. -/
theorem CallOptions.negative_bounds_resolve_to_themselves :
    let options : CallOptions :=
      { attempt := { timeout? := some 18446744073709551615 }
        retry :=
          { retry? := some true, timeout? := some (-1),
            maxCount? := some (-3) } }
    let policy := options.resolve
    policy.retry.enabled = false ∧
      policy.attemptTimeout = 18446744073709551615 ∧
      policy.toOptions.resolve = policy := by
  intro options policy
  obtain ⟨-, -, hdisabled, -, -, hsame, -⟩ :=
    resolved_options_resolve_to_themselves options
  exact ⟨hdisabled (by decide +kernel) (by decide +kernel),
    by decide +kernel, hsame⟩

end Redial
