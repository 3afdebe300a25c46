import Redial.Options.Basic
import Redial.Time

/-!
What a call runs with: options resolved over the built-in layer. A zero or
missing attempt timeout or delay falls back to the built-in one, negative
budgets count as zero, and retries need a count or a window to be bounded by.
So every pause is positive and every retry sequence has a bound.
-/

namespace Redial

/-- How failed attempts are retried. Times are in milliseconds. A window of
zero is none, and a count of zero leaves the window as the only bound. -/
structure RetryPolicy where
  enabled : Bool
  window : Nat
  delay : Nat
  maxCount : UInt32
  statusCodes : List StatusCode
  deriving DecidableEq, Repr, Inhabited

structure CallPolicy where
  headers : HeaderOptions
  attemptTimeout : Nat
  retry : RetryPolicy
  deriving DecidableEq, Repr, Inhabited

namespace RetryPolicy

/-- How long the pause in front of a retry lasts. -/
def pause (policy : RetryPolicy) : Nat :=
  pauseLength policy.delay

/-- Whether a failure of this class is one to retry. A failure without a
class never is. -/
def admits (policy : RetryPolicy) (status? : Option StatusCode) : Bool :=
  match status? with
  | some status => policy.statusCodes.contains status
  | none => false

theorem admits_eq_false_iff {policy : RetryPolicy}
    {status? : Option StatusCode} :
    policy.admits status? = false ↔
      ∀ status ∈ status?, status ∉ policy.statusCodes := by
  cases status? <;> simp [admits]

/-- Whether another retry is within the count after some retries. -/
def allowsAnother (policy : RetryPolicy) (retries : Nat) : Bool :=
  policy.maxCount == 0 || retries < policy.maxCount.toNat

end RetryPolicy

namespace CallOptions

def defaultAttemptTimeout : UInt64 := 15000

def defaultDelay : UInt64 := 5000

/-- The layer below all others. -/
def builtin : CallOptions where
  retry.timeout? := some 120000
  retry.delay? := some defaultDelay
  retry.maxCount? := some 5
  retry.statusCodes? :=
    some [.remote .deadlineExceeded, .remote .unavailable, .timeout]

/-- A number of milliseconds, or the fallback where it is unset or zero. -/
def positiveOr (fallback : UInt64) (milliseconds? : Option UInt64) : Nat :=
  ((milliseconds?.filter (0 < ·)).getD fallback).toNat

/-- A budget as a natural number. Unset and negative ones are zero. -/
def budget (amount? : Option Int64) : Nat :=
  (amount?.getD 0).toInt.toNat

/-- The policy of one layer over the built-in one. -/
def resolve (options : CallOptions) : CallPolicy :=
  let layered := builtin.overriddenBy options
  let window := budget layered.retry.timeout?
  let maxCount :=
    UInt32.ofNat (min (budget layered.retry.maxCount?) (UInt32.size - 1))
  { headers := layered.headers
    attemptTimeout :=
      positiveOr defaultAttemptTimeout layered.attempt.timeout?
    retry :=
      { enabled := !(maxCount == 0 && window == 0) &&
          layered.retry.retry?.getD true
        window
        delay := positiveOr defaultDelay layered.retry.delay?
        maxCount
        statusCodes := layered.retry.statusCodes?.getD [] } }

/-- The policy of a call with its own options over the defaults of its
client. -/
def resolveOver (defaults overrides : CallOptions) : CallPolicy :=
  (defaults.overriddenBy overrides).resolve

end CallOptions

end Redial
