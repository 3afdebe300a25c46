import Redial.Call.Client

/-!
What every resolved policy promises to the engine. An attempt may take some
time, every pause takes some time, and retries are enabled only with a count
or a window to bound them. A call of a client runs by such a policy, whatever
its options say.
-/

namespace Redial

/-- Times are positive, and retries are bounded. -/
structure CallPolicy.Sound (policy : CallPolicy) : Prop where
  timeout_pos : 0 < policy.attemptTimeout
  delay_pos : 0 < policy.retry.delay
  bounded : policy.retry.enabled = true →
    policy.retry.maxCount ≠ 0 ∨ 0 < policy.retry.window

theorem CallPolicy.Sound.pause_pos {policy : CallPolicy}
    (hsound : policy.Sound) :
    0 < policy.retry.pause :=
  pauseLength_pos hsound.delay_pos

/-- Without a count and without a window there are no retries. -/
theorem CallPolicy.Sound.disabled {policy : CallPolicy}
    (hsound : policy.Sound) (hcount : policy.retry.maxCount = 0)
    (hwindow : policy.retry.window = 0) :
    policy.retry.enabled = false := by
  rw [← Bool.not_eq_true]
  intro henabled
  rcases hsound.bounded henabled with hbound | hbound
  · exact hbound hcount
  · exact Nat.ne_of_gt hbound hwindow

namespace CallOptions

theorem positiveOr_pos {fallback : UInt64} (hfallback : 0 < fallback)
    (milliseconds? : Option UInt64) :
    0 < positiveOr fallback milliseconds? := by
  cases hfilter : milliseconds?.filter (0 < ·) with
  | none =>
    simpa [positiveOr, hfilter] using UInt64.lt_iff_toNat_lt.mp hfallback
  | some milliseconds =>
    have hpositive : 0 < milliseconds := by
      simpa using (Option.filter_eq_some_iff.mp hfilter).2
    simpa [positiveOr, hfilter] using UInt64.lt_iff_toNat_lt.mp hpositive

theorem resolve_sound (options : CallOptions) : options.resolve.Sound where
  timeout_pos := positiveOr_pos (by decide) _
  delay_pos := positiveOr_pos (by decide) _
  bounded henabled := by
    simp only [resolve, Bool.and_eq_true, Bool.not_eq_true',
      Bool.and_eq_false_iff, beq_eq_false_iff_ne] at henabled
    rcases henabled.1 with hcount | hwindow
    · exact .inl hcount
    · exact .inr (Nat.pos_of_ne_zero hwindow)

theorem resolve_disabled {options : CallOptions}
    (hoff : options.retry.retry? = some false) :
    options.resolve.retry.enabled = false := by
  simp [resolve, overriddenBy, RetryOptions.overriddenBy, hoff]

theorem resolve_headers (options : CallOptions) :
    options.resolve.headers = options.headers := by
  simp [resolve, overriddenBy, HeaderOptions.overriddenBy, builtin]

end CallOptions

namespace Client

variable {α β : Type} {client : Client} {span : String}
  {transport : Transport α β} {context : TraceContext}
  {request : CallRequest α} {overrides? : Option CallOptions}
  {plan : Plan α β}

theorem plan_eq_map : client.plan span transport context request overrides? =
    (client.builder span context request.metadata?
      (client.policy overrides?).headers).map
      fun metadata =>
        { policy := client.policy overrides?
          invocation :=
            ⟨request.service, request.method, request.payload, metadata⟩
          reply := fun index =>
            transport index ⟨request.service, request.method, request.payload,
              metadata⟩ } := rfl

/-- A plan that was made keeps the policy of the options and sends what was
asked for, with the metadata that the builder made for it. -/
theorem plan_eq_ok_iff :
    client.plan span transport context request overrides? = .ok plan ↔
      ∃ metadata,
        client.builder span context request.metadata?
          (client.policy overrides?).headers = .ok metadata ∧
          plan =
            { policy := client.policy overrides?
              invocation :=
                ⟨request.service, request.method, request.payload, metadata⟩
              reply := fun index =>
                transport index ⟨request.service, request.method,
                  request.payload, metadata⟩ } := by
  rw [plan_eq_map]
  cases client.builder span context request.metadata?
      (client.policy overrides?).headers with
  | error error => simp [Except.map]
  | ok metadata => simp [Except.map, eq_comm]

theorem plan_sound
    (hplan :
      client.plan span transport context request overrides? = .ok plan) :
    plan.policy.Sound := by
  obtain ⟨metadata, -, rfl⟩ := plan_eq_ok_iff.mp hplan
  exact CallOptions.resolve_sound _

theorem request_eq {visit : Visit α} {start : Nat} :
    client.request span transport visit start =
      match client.plan span transport visit.context visit.request
        visit.overrides? with
      | .ok plan => plan.run start visit.patience?
      | .error error => ⟨[], .failed error, start⟩ := rfl

theorem request_eq_run {visit : Visit α} {start : Nat}
    (hplan : client.plan span transport visit.context visit.request
      visit.overrides? = .ok plan) :
    client.request span transport visit start =
      plan.run start visit.patience? := by
  rw [request_eq, hplan]

theorem request_eq_failed {visit : Visit α} {start : Nat} {error : CallError}
    (hplan : client.plan span transport visit.context visit.request
      visit.overrides? = .error error) :
    client.request span transport visit start =
      ⟨[], .failed error, start⟩ := by
  rw [request_eq, hplan]

end Client

end Redial
