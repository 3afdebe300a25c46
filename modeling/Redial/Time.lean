/-!
Lengths of time to the nanosecond, and the whole milliseconds in them. A
pause is asked for in milliseconds and lasts just as long, but never more
than thirty years.
-/

namespace Redial

abbrev nanosecondsPerSecond : Nat := 1000000000

abbrev nanosecondsPerMillisecond : Nat := 1000000

/-- A length of time, in seconds of 64 bits and nanoseconds below one
second. -/
structure Duration where
  seconds : UInt64
  nanoseconds : Nat
  nanoseconds_lt : nanoseconds < nanosecondsPerSecond := by decide
  deriving DecidableEq, Repr

namespace Duration

/-- The length of some seconds and any number of nanoseconds, unless 64 bits
cannot hold its seconds. -/
def ofParts? (seconds : UInt64) (nanoseconds : Nat) : Option Duration :=
  let total := seconds.toNat + nanoseconds / nanosecondsPerSecond
  if total < UInt64.size then
    some ⟨UInt64.ofNat total, nanoseconds % nanosecondsPerSecond,
      Nat.mod_lt _ (by decide)⟩
  else none

def ofMilliseconds (milliseconds : UInt64) : Duration where
  seconds := milliseconds / 1000
  nanoseconds := milliseconds.toNat % 1000 * nanosecondsPerMillisecond
  nanoseconds_lt := by
    simp only [nanosecondsPerMillisecond, nanosecondsPerSecond]
    omega

/-- The whole length in nanoseconds. Two lengths compare as these numbers
do. -/
def toNanoseconds (duration : Duration) : Nat :=
  duration.seconds.toNat * nanosecondsPerSecond + duration.nanoseconds

/-- The length in milliseconds, without the part of a millisecond at its
end. -/
def wholeMilliseconds (duration : Duration) : Nat :=
  duration.seconds.toNat * 1000 +
    duration.nanoseconds / nanosecondsPerMillisecond

end Duration

/-- The longest pause in milliseconds: thirty years of 365 days. -/
def longestPause : Nat := 30 * 365 * 24 * 60 * 60 * 1000

/-- How long a pause of some milliseconds lasts. -/
def pauseLength (milliseconds : Nat) : Nat :=
  min milliseconds longestPause

theorem pauseLength_le (milliseconds : Nat) :
    pauseLength milliseconds ≤ milliseconds :=
  Nat.min_le_left ..

theorem pauseLength_pos {milliseconds : Nat} (positive : 0 < milliseconds) :
    0 < pauseLength milliseconds := by
  simp only [pauseLength, longestPause]
  omega

end Redial
