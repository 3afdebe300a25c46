import Redial.Status.StatusCode
import Redial.Time

/-!
Options of a call, in layers. Every field of a layer may be unset, and
`overriddenBy` puts one layer over another, field by field. The setters change
one field each; they store a length of time in whole milliseconds, or the
largest number of the field where it is too long.
-/

namespace Redial

structure HeaderOptions where
  useZipkin? : Option Bool := none
  authToken? : Option String := none
  deriving DecidableEq, Repr, Inhabited

/-- Options of a single attempt: the milliseconds that it may take. -/
structure AttemptOptions where
  timeout? : Option UInt64 := none
  deriving DecidableEq, Repr, Inhabited

/-- Options of the retry sequence. Times are in milliseconds. -/
structure RetryOptions where
  retry? : Option Bool := none
  timeout? : Option Int64 := none
  delay? : Option UInt64 := none
  maxCount? : Option Int64 := none
  statusCodes? : Option (List StatusCode) := none
  deriving DecidableEq, Repr, Inhabited

structure CallOptions where
  headers : HeaderOptions := {}
  attempt : AttemptOptions := {}
  retry : RetryOptions := {}
  deriving DecidableEq, Repr, Inhabited

/-- The fields that the upper layer sets, and the others of the lower
layer. -/
def HeaderOptions.overriddenBy (lower upper : HeaderOptions) :
    HeaderOptions where
  useZipkin? := upper.useZipkin?.or lower.useZipkin?
  authToken? := upper.authToken?.or lower.authToken?

def AttemptOptions.overriddenBy (lower upper : AttemptOptions) :
    AttemptOptions where
  timeout? := upper.timeout?.or lower.timeout?

def RetryOptions.overriddenBy (lower upper : RetryOptions) :
    RetryOptions where
  retry? := upper.retry?.or lower.retry?
  timeout? := upper.timeout?.or lower.timeout?
  delay? := upper.delay?.or lower.delay?
  maxCount? := upper.maxCount?.or lower.maxCount?
  statusCodes? := upper.statusCodes?.or lower.statusCodes?

namespace CallOptions

def overriddenBy (lower upper : CallOptions) : CallOptions where
  headers := lower.headers.overriddenBy upper.headers
  attempt := lower.attempt.overriddenBy upper.attempt
  retry := lower.retry.overriddenBy upper.retry

/-- The whole milliseconds of a length of time, or the largest number of 64
bits. -/
def unsignedMilliseconds (duration : Duration) : UInt64 :=
  UInt64.ofNat (min duration.wholeMilliseconds (UInt64.size - 1))

/-- The whole milliseconds of a length of time, or the largest number of 64
bits with a sign. -/
def signedMilliseconds (duration : Duration) : Int64 :=
  Int64.ofNat (min duration.wholeMilliseconds (UInt64.size / 2 - 1))

def withAttemptTimeout (options : CallOptions) (timeout : Duration) :
    CallOptions :=
  { options with attempt.timeout? := some (unsignedMilliseconds timeout) }

def withRetry (options : CallOptions) (retry : Bool) : CallOptions :=
  { options with retry.retry? := some retry }

def withRetryTimeout (options : CallOptions) (timeout : Duration) :
    CallOptions :=
  { options with retry.timeout? := some (signedMilliseconds timeout) }

def withRetryDelay (options : CallOptions) (delay : Duration) : CallOptions :=
  { options with retry.delay? := some (unsignedMilliseconds delay) }

def withMaxCount (options : CallOptions) (count : UInt32) : CallOptions :=
  { options with retry.maxCount? := some (Int64.ofNat count.toNat) }

def withStatusCodes (options : CallOptions) (statusCodes : List StatusCode) :
    CallOptions :=
  { options with retry.statusCodes? := some statusCodes }

def withAuthToken (options : CallOptions) (token : String) : CallOptions :=
  { options with headers.authToken? := some token }

end CallOptions

end Redial
