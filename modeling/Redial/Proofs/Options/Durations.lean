import Redial.Options.Policy

/-!
Lengths of time as options. A layer keeps a length in whole milliseconds, up
to the largest number of the field, and a policy takes it as it is kept,
unless it is zero. So a length keeps its meaning from one millisecond on. A
shorter one is kept as zero, which stands for the built-in length of a timeout
or a delay, and for no window at all.
-/

namespace Redial

namespace Duration

/-- Whether some milliseconds are time at all, and no more of it than a
length of time. -/
def IsKeptBy (duration : Duration) (milliseconds : Nat) : Prop :=
  0 < milliseconds ∧
    milliseconds * nanosecondsPerMillisecond ≤ duration.toNanoseconds

instance (duration : Duration) (milliseconds : Nat) :
    Decidable (duration.IsKeptBy milliseconds) :=
  inferInstanceAs (Decidable (_ ∧ _))

/-- The whole milliseconds of a length of time up to a limit, or a fallback
where there are none. -/
def millisecondsOr (fallback limit : Nat) (duration : Duration) : Nat :=
  if duration.wholeMilliseconds = 0 then fallback
  else min duration.wholeMilliseconds limit

variable {duration shorter longer : Duration} {fallback limit : Nat}

theorem wholeMilliseconds_eq (duration : Duration) :
    duration.wholeMilliseconds =
      duration.toNanoseconds / nanosecondsPerMillisecond := by
  simp only [wholeMilliseconds, toNanoseconds, nanosecondsPerSecond,
    nanosecondsPerMillisecond]
  omega

theorem wholeMilliseconds_eq_zero_iff :
    duration.wholeMilliseconds = 0 ↔
      duration.toNanoseconds < nanosecondsPerMillisecond := by
  rw [wholeMilliseconds_eq, Nat.div_eq_zero_iff_lt (by decide)]

theorem millisecondsOr_of_lt
    (hshort : duration.toNanoseconds < nanosecondsPerMillisecond) :
    duration.millisecondsOr fallback limit = fallback :=
  if_pos (wholeMilliseconds_eq_zero_iff.mpr hshort)

theorem millisecondsOr_of_le
    (hlong : nanosecondsPerMillisecond ≤ duration.toNanoseconds) :
    duration.millisecondsOr fallback limit =
      min duration.wholeMilliseconds limit :=
  if_neg fun hzero =>
    Nat.not_lt_of_le hlong (wholeMilliseconds_eq_zero_iff.mp hzero)

/-- A length of time is kept from one millisecond on, whatever stands for
the shorter ones. -/
theorem isKeptBy_millisecondsOr_iff (hlimit : 0 < limit) :
    duration.IsKeptBy (duration.millisecondsOr fallback limit) ↔
      nanosecondsPerMillisecond ≤ duration.toNanoseconds := by
  constructor
  · rintro ⟨hpositive, hwithin⟩
    exact Nat.le_trans (Nat.le_mul_of_pos_left _ hpositive) hwithin
  · intro hlong
    have hwhole : 0 < duration.toNanoseconds / nanosecondsPerMillisecond :=
      Nat.div_pos hlong (by decide)
    rw [millisecondsOr_of_le hlong, wholeMilliseconds_eq]
    refine ⟨Nat.lt_min.mpr ⟨hwhole, hlimit⟩, ?_⟩
    calc
      min (duration.toNanoseconds / nanosecondsPerMillisecond) limit *
            nanosecondsPerMillisecond
        ≤ duration.toNanoseconds / nanosecondsPerMillisecond *
            nanosecondsPerMillisecond :=
          Nat.mul_le_mul_right _ (Nat.min_le_left ..)
      _ ≤ duration.toNanoseconds := Nat.div_mul_le_self ..

theorem millisecondsOr_mono
    (hlong : nanosecondsPerMillisecond ≤ shorter.toNanoseconds)
    (hle : shorter.toNanoseconds ≤ longer.toNanoseconds) :
    shorter.millisecondsOr fallback limit ≤
      longer.millisecondsOr fallback limit := by
  have hwhole : shorter.wholeMilliseconds ≤ longer.wholeMilliseconds := by
    rw [wholeMilliseconds_eq, wholeMilliseconds_eq]
    exact Nat.div_le_div_right hle
  rw [millisecondsOr_of_le hlong,
    millisecondsOr_of_le (Nat.le_trans hlong hle)]
  omega

end Duration

namespace CallOptions

theorem toNat_unsignedMilliseconds (duration : Duration) :
    (unsignedMilliseconds duration).toNat =
      min duration.wholeMilliseconds (UInt64.size - 1) :=
  UInt64.toNat_ofNat_of_lt' (Nat.lt_of_le_of_lt (Nat.min_le_right ..)
    (by decide))

theorem toInt_signedMilliseconds (duration : Duration) :
    (signedMilliseconds duration).toInt =
      (min duration.wholeMilliseconds (UInt64.size / 2 - 1) : Nat) :=
  Int64.toInt_ofNat_of_lt (Nat.lt_of_le_of_lt (Nat.min_le_right ..)
    (by decide))

theorem positiveOr_some (fallback milliseconds : UInt64) :
    positiveOr fallback (some milliseconds) =
      if milliseconds.toNat = 0 then fallback.toNat
      else milliseconds.toNat := by
  by_cases hzero : milliseconds.toNat = 0
  · have hnone : ¬ 0 < milliseconds := by
      rw [UInt64.lt_iff_toNat_lt, hzero]
      exact Nat.lt_irrefl 0
    simp [positiveOr, Option.filter, hzero, hnone]
  · have hpositive : 0 < milliseconds := by
      rw [UInt64.lt_iff_toNat_lt]
      exact Nat.pos_of_ne_zero hzero
    simp [positiveOr, Option.filter, hzero, hpositive]

theorem positiveOr_unsignedMilliseconds (fallback : UInt64)
    (duration : Duration) :
    positiveOr fallback (some (unsignedMilliseconds duration)) =
      duration.millisecondsOr fallback.toNat (UInt64.size - 1) := by
  rw [positiveOr_some, toNat_unsignedMilliseconds, Duration.millisecondsOr]
  have hlimit : 0 < UInt64.size - 1 := by decide
  split <;> split <;> omega

theorem budget_signedMilliseconds (duration : Duration) :
    budget (some (signedMilliseconds duration)) =
      duration.millisecondsOr 0 (UInt64.size / 2 - 1) := by
  have hbudget : budget (some (signedMilliseconds duration)) =
      min duration.wholeMilliseconds (UInt64.size / 2 - 1) :=
    congrArg Int.toNat (toInt_signedMilliseconds duration)
  rw [hbudget, Duration.millisecondsOr]
  split <;> omega

/-- The timeout, the delay and the window that a call sets for itself are
positive and no longer than the length of time they were set to if and only if
that is at least one millisecond, and from there on a longer one is resolved
to no less. Whatever the defaults of its client, a shorter one is resolved to
the built-in timeout or delay, and to no window. -/
theorem lengths_kept_from_one_millisecond (defaults overrides : CallOptions) :
    let timeout (duration : Duration) :=
      (defaults.resolveOver
        (overrides.withAttemptTimeout duration)).attemptTimeout
    let delay (duration : Duration) :=
      (defaults.resolveOver (overrides.withRetryDelay duration)).retry.delay
    let window (duration : Duration) :=
      (defaults.resolveOver
        (overrides.withRetryTimeout duration)).retry.window
    (∀ resolved ∈ [timeout, delay, window],
      (∀ duration : Duration, duration.IsKeptBy (resolved duration) ↔
        nanosecondsPerMillisecond ≤ duration.toNanoseconds) ∧
      ∀ shorter longer : Duration,
        nanosecondsPerMillisecond ≤ shorter.toNanoseconds →
          shorter.toNanoseconds ≤ longer.toNanoseconds →
          resolved shorter ≤ resolved longer) ∧
    ∀ duration : Duration,
      duration.toNanoseconds < nanosecondsPerMillisecond →
        timeout duration = 15000 ∧ delay duration = 5000 ∧
          window duration = 0 := by
  intro timeout delay window
  have htimeout : timeout = Duration.millisecondsOr 15000 (UInt64.size - 1) :=
    funext (positiveOr_unsignedMilliseconds defaultAttemptTimeout)
  have hdelay : delay = Duration.millisecondsOr 5000 (UInt64.size - 1) :=
    funext (positiveOr_unsignedMilliseconds defaultDelay)
  have hwindow : window = Duration.millisecondsOr 0 (UInt64.size / 2 - 1) :=
    funext budget_signedMilliseconds
  rw [htimeout, hdelay, hwindow]
  refine ⟨fun resolved hmem => ?_, fun duration hshort => ?_⟩
  · obtain ⟨fallback, limit, hlimit, rfl⟩ :
        ∃ fallback limit, 0 < limit ∧
          resolved = Duration.millisecondsOr fallback limit := by
      simp only [List.mem_cons, List.not_mem_nil, or_false] at hmem
      rcases hmem with rfl | rfl | rfl
      · exact ⟨_, _, by decide, rfl⟩
      · exact ⟨_, _, by decide, rfl⟩
      · exact ⟨_, _, by decide, rfl⟩
    exact ⟨fun duration => Duration.isKeptBy_millisecondsOr_iff hlimit,
      fun shorter longer => Duration.millisecondsOr_mono⟩
  · exact ⟨Duration.millisecondsOr_of_lt hshort,
      Duration.millisecondsOr_of_lt hshort,
      Duration.millisecondsOr_of_lt hshort⟩

/-- The longest length of time is resolved to a window of all the
milliseconds that the option can hold, and one of a millisecond and a half to
one millisecond. -/
theorem lengths_kept_at_both_ends :
    let window (duration : Duration) :=
      (CallOptions.resolveOver {}
        (({} : CallOptions).withRetryTimeout duration)).retry.window
    let longest : Duration :=
      { seconds := 18446744073709551615, nanoseconds := 999999999 }
    let short : Duration := { seconds := 0, nanoseconds := 1500000 }
    window longest = 9223372036854775807 ∧ longest.IsKeptBy (window longest) ∧
      window short = 1 ∧ short.IsKeptBy (window short) := by
  intro window longest short
  obtain ⟨hresolved, -⟩ := lengths_kept_from_one_millisecond {} {}
  have hkept := (hresolved window (by simp [window])).1
  exact ⟨by decide +kernel, (hkept longest).mpr (by decide +kernel),
    by decide +kernel, (hkept short).mpr (by decide +kernel)⟩

/-- Half a millisecond is some time. But as a timeout or a delay it is
resolved to seconds, more than a whole millisecond is, and as a window to
none. -/
theorem half_a_millisecond_not_kept :
    let half : Duration := { seconds := 0, nanoseconds := 500000 }
    let whole : Duration := { seconds := 0, nanoseconds := 1000000 }
    let timeout (duration : Duration) :=
      (CallOptions.resolveOver {}
        (({} : CallOptions).withAttemptTimeout duration)).attemptTimeout
    let delay (duration : Duration) :=
      (CallOptions.resolveOver {}
        (({} : CallOptions).withRetryDelay duration)).retry.delay
    let window (duration : Duration) :=
      (CallOptions.resolveOver {}
        (({} : CallOptions).withRetryTimeout duration)).retry.window
    0 < half.toNanoseconds ∧ half.toNanoseconds ≤ whole.toNanoseconds ∧
      (¬ half.IsKeptBy (timeout half) ∧ ¬ timeout half ≤ timeout whole) ∧
      (¬ half.IsKeptBy (delay half) ∧ ¬ delay half ≤ delay whole) ∧
      window half = 0 := by
  intro half whole timeout delay window
  refine ⟨by decide, by decide, ⟨by decide +kernel, by decide +kernel⟩,
    ⟨by decide +kernel, by decide +kernel⟩, by decide +kernel⟩

end CallOptions

end Redial
