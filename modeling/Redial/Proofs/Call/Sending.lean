import Redial.Proofs.Call.Settling

/-!
What a call sends. Its builder is asked for metadata once, before anything
else happens, and if there are none the call is over with the error of its
builder. Otherwise every attempt sends the same: the method and the
payload of the request, and the metadata that were built. All that a call
records names its own method, so `Plan.Records` lists the few kinds of
events that there are.
-/

namespace Redial

variable {α β : Type}

namespace Log.Fields

theorem service_ofAssessment (fields : Fields) (assessment : Assessment) :
    (fields.ofAssessment assessment).service = fields.service := by
  unfold ofAssessment
  split <;> rfl

theorem method_ofAssessment (fields : Fields) (assessment : Assessment) :
    (fields.ofAssessment assessment).method = fields.method := by
  unfold ofAssessment
  split <;> rfl

end Log.Fields

namespace Plan

/-- What a call can record: its timers, its counters, entries that name its
method, and calls to the transport with what it sends. -/
inductive Records (plan : Plan α β) : Event α → Prop where
  | timerStarted (number : Nat) :
      Records plan (.timerStarted (plan.stop number))
  | timerStopped (number : Nat) :
      Records plan (.timerStopped (plan.stop number))
  | failed (error : CallError) :
      Records plan (.incremented .failures (plan.failureLabels error))
  | retried : Records plan (.incremented .retries plan.labels)
  | logged {entry : Log.Entry}
      (hservice : entry.fields.service = plan.invocation.service)
      (hmethod : entry.fields.method = plan.invocation.method) :
      Records plan (.logged entry)
  | called : Records plan (.called plan.invocation)

variable {plan : Plan α β} {first retries finish : Nat}
  {errors : List CallError} {ending : Ending β} {closing : List (Event α)}

theorem records_failed (plan : Plan α β) (retries : Nat)
    (assessment : Assessment) :
    plan.Records (.logged (.failed assessment (plan.fieldsAfter retries))) :=
  .logged (Log.Fields.service_ofAssessment ..)
    (Log.Fields.method_ofAssessment ..)

theorem records_retrying (plan : Plan α β) (retries : Nat)
    (assessment : Assessment) :
    plan.Records (.logged
      (.retrying assessment (plan.fieldsAfter retries))) :=
  .logged (Log.Fields.service_ofAssessment ..)
    (Log.Fields.method_ofAssessment ..)

theorem records_opened : ∀ event ∈ plan.opened, plan.Records event := by
  simp only [opened, List.forall_mem_cons]
  exact ⟨.timerStarted 0, .logged rfl rfl, .called, by simp⟩

theorem records_reopenedAfter :
    ∀ event ∈ plan.reopenedAfter retries errors, plan.Records event := by
  induction errors generalizing retries with
  | nil => simp [reopenedAfter]
  | cons error errors ih =>
    rw [reopenedAfter_cons, List.forall_mem_append]
    refine ⟨?_, ih⟩
    simp only [reopened, List.forall_mem_cons]
    exact ⟨.failed error, .timerStopped retries,
      plan.records_retrying retries _, .retried, .timerStarted (retries + 1),
      .called, by simp⟩

theorem Closing.records
    (hclosing : Closing plan first retries finish ending closing) :
    ∀ event ∈ closing, plan.Records event := by
  cases hclosing with
  | answered =>
    simp only [List.forall_mem_cons]
    exact ⟨.timerStopped retries, .logged rfl rfl, by simp⟩
  | nothing =>
    simp only [List.forall_mem_cons]
    exact ⟨.timerStopped retries, plan.records_failed retries _, by simp⟩
  | failed error =>
    simp only [List.forall_mem_cons]
    exact ⟨.timerStopped retries, plan.records_failed retries _,
      .failed error, by simp⟩
  | elapsedInPause error =>
    simp only [List.forall_mem_cons]
    exact ⟨.failed error, .timerStopped retries,
      plan.records_retrying retries _, plan.records_failed retries _,
      .failed plan.windowError, by simp⟩
  | droppedInAttempt =>
    simp only [List.forall_mem_cons]
    exact ⟨.timerStopped retries, by simp⟩
  | droppedInPause error =>
    simp only [List.forall_mem_cons]
    exact ⟨.failed error, .timerStopped retries,
      plan.records_retrying retries _, by simp⟩

/-- Every event on the record of a call is one of those that it can record. -/
theorem run_records (hsound : plan.policy.Sound) (start : Nat)
    (patience? : Option Nat) :
    ∀ event ∈ recorded (plan.run start patience?).events,
      plan.Records event := by
  obtain ⟨errors, closing, hrecorded, hclosing⟩ :=
    plan.run_recorded hsound start patience?
  rw [hrecorded, List.forall_mem_append, List.forall_mem_append]
  exact ⟨⟨records_opened, records_reopenedAfter⟩, hclosing.records⟩

/-- Every attempt of a call sends the same. -/
theorem invocation_eq_of_called (hsound : plan.policy.Sound) {start : Nat}
    {patience? : Option Nat} {timed : TimedEvent α}
    {invocation : Invocation α}
    (hmem : timed ∈ (plan.run start patience?).events)
    (hcalled : timed.event = .called invocation) :
    invocation = plan.invocation := by
  have hrecorded :
      .called invocation ∈ recorded (plan.run start patience?).events :=
    List.mem_filter.mpr ⟨List.mem_map.mpr ⟨timed, hmem, hcalled⟩, rfl⟩
  cases plan.run_records hsound start patience? _ hrecorded
  rfl

end Plan

/-- What a builder is asked. -/
structure MetadataQuery where
  span : String
  context : TraceContext
  metadata? : Option Metadata
  headers : HeaderOptions
  deriving DecidableEq, Repr

/-- The builder that answers in the same way and keeps a list of what it was
asked. -/
def MetadataBuilder.recording (builder : MetadataBuilder) :
    EffectfulBuilder (StateM (List MetadataQuery)) :=
  fun span context metadata? headers => do
  modify fun asked => asked ++ [⟨span, context, metadata?, headers⟩]
  return builder span context metadata? headers

namespace Client

theorem policy_headers (client : Client) (overrides? : Option CallOptions) :
    (client.policy overrides?).headers =
      (client.defaults.overriddenBy (overrides?.getD {})).headers :=
  CallOptions.resolve_headers _

/-- A call asks its builder one question. -/
theorem requestIn_recording (client : Client) (span : String)
    (transport : Transport α β) (visit : Visit α) (start : Nat)
    (asked : List MetadataQuery) :
    (client.requestIn client.builder.recording span transport visit start).run
        asked =
      (client.request span transport visit start,
        asked ++ [⟨span, visit.context, visit.request.metadata?,
          (client.policy visit.overrides?).headers⟩]) := by
  rw [request_eq, plan_eq_map]
  simp only [requestIn, planIn, MetadataBuilder.recording]
  cases client.builder span visit.context visit.request.metadata?
      (client.policy visit.overrides?).headers with
  | error error => rfl
  | ok metadata => rfl

/-- A call asks its builder once, for the caller's metadata and with the
merged options, and nothing happens before it answers. If it has no metadata,
the caller gets its error and nothing else happens at all. Otherwise there is
at least one attempt, and every attempt sends the method and the payload of
the request and just the metadata that were built. -/
theorem request_sends_what_was_built (client : Client) (span : String)
    (transport : Transport α β) (visit : Visit α) (start : Nat) :
    let run := client.request span transport visit start
    let headers :=
      (client.defaults.overriddenBy (visit.overrides?.getD {})).headers
    let built :=
      client.builder span visit.context visit.request.metadata? headers
    (∀ asked,
      (client.requestIn client.builder.recording span transport visit
          start).run asked =
        (run, asked ++
          [⟨span, visit.context, visit.request.metadata?, headers⟩])) ∧
      (∀ error, built = .error error → run = ⟨[], .failed error, start⟩) ∧
      ∀ metadata, built = .ok metadata →
        0 < run.calls ∧
        ∀ timed ∈ run.events, ∀ invocation, timed.event = .called invocation →
          invocation =
            ⟨visit.request.service, visit.request.method,
              visit.request.payload, metadata⟩ := by
  intro run headers built
  have hbuilt : built =
      client.builder span visit.context visit.request.metadata?
      (client.policy visit.overrides?).headers := by
    rw [policy_headers]
  refine ⟨fun asked => ?_, fun error herror => ?_,
    fun metadata hmetadata => ?_⟩
  · rw [requestIn_recording, policy_headers]
  · apply request_eq_failed
    rw [plan_eq_map, ← hbuilt, herror]
    rfl
  · obtain ⟨plan, hplan, hinvocation⟩ : ∃ plan : Plan α β,
        client.plan span transport visit.context visit.request
          visit.overrides? = .ok plan ∧
          plan.invocation =
            ⟨visit.request.service, visit.request.method,
              visit.request.payload, metadata⟩ :=
      ⟨_, plan_eq_ok_iff.mpr
        ⟨metadata, hbuilt.symm.trans hmetadata, rfl⟩, rfl⟩
    have hsound := plan_sound hplan
    have hrun : run = plan.run start visit.patience? := request_eq_run hplan
    rw [hrun, ← hinvocation]
    refine ⟨?_, fun timed hmem invocation hcalled => ?_⟩
    · rw [plan.run_calls hsound]
      exact Nat.succ_pos _
    · exact Plan.invocation_eq_of_called hsound hmem hcalled

/-- Three attempts of a call whose payload is null send one span of the
caller's trace. -/
theorem request_sends_one_span :
    let context : TraceContext :=
      { traceId := "0af7651916cd43dd8448eb211c80319c",
        spanId := "b7ad6b7169203331", sampled := true }
    let request : CallRequest Unit :=
      { service := "echo.v1.Echo", method := "Say", payload := .null }
    let transport : Transport Unit Unit := .ofReplies
      [.settles 5 (.error (.ofStatus .unavailable "")), .never,
        .settles 5 (.ok ())]
    let run :=
      ({} : Client).request "00f067aa0ba902b7" transport
        { context, request } 0
    run.calls = 3 ∧
      ∀ timed ∈ run.events, ∀ invocation, timed.event = .called invocation →
        invocation.payload = .null ∧ invocation.metadata.entries =
          [("traceparent",
            "00-0af7651916cd43dd8448eb211c80319c-00f067aa0ba902b7-01")] := by
  intro context request transport run
  have hbuilt : MetadataBuilder.trace "00f067aa0ba902b7" context none {} =
      .ok ⟨[("traceparent",
        "00-0af7651916cd43dd8448eb211c80319c-00f067aa0ba902b7-01")]⟩ := by
    cbv
  obtain ⟨-, -, hsent⟩ :=
    request_sends_what_was_built {} "00f067aa0ba902b7" transport
      { context, request } 0
  obtain ⟨-, hsame⟩ := hsent _ hbuilt
  refine ⟨by decide +kernel, fun timed hmem invocation hcalled => ?_⟩
  rw [hsame timed hmem invocation hcalled]
  exact ⟨rfl, rfl⟩

end Client

end Redial
