import Mathlib.Data.List.Forall2
import Redial.Options.Text
import Redial.Proofs.Call.Sending
import Redial.Proofs.Metadata.Sendable

/-!
Who learns a bearer token. It goes to the remote in one header, and nowhere
else: the texts of options say at most that there is one, and two calls whose
options differ only in their tokens differ only in the value of that header,
as long as the transport does the same for both. So nothing that is logged,
counted or timed, and nothing that the caller gets, depends on a token.
-/

namespace Redial

variable {α β : Type}

namespace Metadata

/-- Metadata with the same keys in the same order, and the same values but for
those of one key. -/
def AlikeBut (key : String) (first second : Metadata) : Prop :=
  List.Forall₂ (fun one other => one.1 = other.1 ∧
      (one.1 ≠ key → one.2 = other.2))
    first.entries second.entries

theorem AlikeBut.refl (key : String) (metadata : Metadata) :
    metadata.AlikeBut key metadata :=
  List.forall₂_same.mpr fun _ _ => ⟨rfl, fun _ => rfl⟩

theorem insert_alikeBut (metadata : Metadata) (key first second : String) :
    (metadata.insert key first).AlikeBut key
      (metadata.insert key second) := by
  have hothers : (metadata.remove key).AlikeBut key (metadata.remove key) :=
    .refl ..
  have hown : List.Forall₂ (fun (one other : String × String) =>
      one.1 = other.1 ∧ (one.1 ≠ key → one.2 = other.2)) [(key, first)]
        [(key, second)] :=
    .cons ⟨rfl, fun hother => absurd rfl hother⟩ .nil
  exact List.rel_append hothers hown

end Metadata

/-- Events that are the same, but for the metadata of a call to the transport
under one key. -/
inductive Event.AlikeBut (key : String) : Event α → Event α → Prop where
  | same (event : Event α) : AlikeBut key event event
  | called (service method : String) (payload : Payload α)
      {first second : Metadata} (hmetadata : first.AlikeBut key second) :
      AlikeBut key (.called ⟨service, method, payload, first⟩)
        (.called ⟨service, method, payload, second⟩)

/-- Events at the same time that are the same but for the metadata that are
sent under one key. -/
def TimedEvent.AlikeBut (key : String) (first second : TimedEvent α) : Prop :=
  first.time = second.time ∧ first.event.AlikeBut key second.event

theorem TimedEvent.forall₂_alikeBut_self (key : String)
    (events : List (TimedEvent α)) :
    List.Forall₂ (TimedEvent.AlikeBut key) events events :=
  List.forall₂_same.mpr fun timed _ => ⟨rfl, .same timed.event⟩

/-- Runs with the same ending at the same time, whose events are the same at
the same times but for the metadata that are sent under one key. -/
structure Run.AlikeBut (key : String) (first second : Run α β) : Prop where
  events : List.Forall₂ (TimedEvent.AlikeBut key) first.events second.events
  ending : first.ending = second.ending
  finish : first.finish = second.finish

theorem Run.AlikeBut.refl (key : String) (run : Run α β) :
    run.AlikeBut key run :=
  ⟨TimedEvent.forall₂_alikeBut_self key run.events, rfl, rfl⟩

theorem Run.AlikeBut.after {key : String} {first second : Run α β}
    {before behind : List (TimedEvent α)} (hruns : first.AlikeBut key second)
    (hevents : List.Forall₂ (TimedEvent.AlikeBut key) before behind) :
    (first.after before).AlikeBut key (second.after behind) :=
  ⟨List.rel_append hevents hruns.events, hruns.ending, hruns.finish⟩

/-- Whether what comes of each call does not depend on the metadata that
are sent with it. -/
def Transport.IgnoresMetadata (transport : Transport α β) : Prop :=
  ∀ (index : Nat) (invocation : Invocation α) (metadata : Metadata),
    transport index { invocation with metadata } = transport index invocation

namespace Plan

/-- The plan of a call that sends other metadata, built with other options. -/
def sending (plan : Plan α β) (headers : HeaderOptions)
    (metadata : Metadata) : Plan α β :=
  { plan with policy.headers := headers, invocation.metadata := metadata }

section Sending

variable {plan : Plan α β} {key : String} {headers : HeaderOptions}
  {metadata : Metadata}

theorem opening_alikeBut
    (hmetadata : plan.invocation.metadata.AlikeBut key metadata)
    (time : Nat) :
    List.Forall₂ (TimedEvent.AlikeBut key) (allAt time plan.opening)
      (allAt time (plan.sending headers metadata).opening) :=
  .cons ⟨rfl, .same _⟩ (.cons ⟨rfl, .called _ _ _ hmetadata⟩ .nil)

theorem leg_alikeBut
    (hmetadata : plan.invocation.metadata.AlikeBut key metadata)
    (retries now : Nat) (assessment : Assessment) (error : CallError) :
    List.Forall₂ (TimedEvent.AlikeBut key)
      (plan.leg retries now assessment error)
        ((plan.sending headers metadata).leg retries now assessment
          error) := by
  have hreopening : List.Forall₂ (TimedEvent.AlikeBut key)
      (allAt (now + plan.policy.retry.pause) (plan.reopening retries))
      (allAt (now + plan.policy.retry.pause)
        ((plan.sending headers metadata).reopening retries)) :=
    .cons ⟨rfl, .same _⟩ (.cons ⟨rfl, .same _⟩ (opening_alikeBut hmetadata _))
  exact List.rel_append (TimedEvent.forall₂_alikeBut_self key _) hreopening

theorem prologue_alikeBut
    (hmetadata : plan.invocation.metadata.AlikeBut key metadata)
    (start : Nat) :
    List.Forall₂ (TimedEvent.AlikeBut key) (plan.prologue start)
      ((plan.sending headers metadata).prologue start) :=
  .cons ⟨rfl, .same _⟩ (.cons ⟨rfl, .same _⟩ (opening_alikeBut hmetadata _))

/-- A retry sequence goes the same way with other metadata. -/
theorem Sequence.alikeBut {limit? : Option Deadline} {legs retries now : Nat}
    {failure : Failure} {run : Run α β}
    (hsequence : Sequence plan limit? legs retries now failure run)
    (hmetadata : plan.invocation.metadata.AlikeBut key metadata) :
    run.AlikeBut key ((plan.sending headers metadata).retrying limit? legs
      ((plan.sending headers metadata).inAttempt retries) now failure) := by
  have hleg {retries now : Nat} {assessment : Assessment} {error : CallError}
      (events : List (TimedEvent α)) :
      List.Forall₂ (TimedEvent.AlikeBut key)
        (plan.leg retries now assessment error ++ events)
        ((plan.sending headers metadata).leg retries now assessment error ++
          events) :=
    List.rel_append (leg_alikeBut hmetadata ..)
      (TimedEvent.forall₂_alikeBut_self key events)
  -- What is retried does not depend on what is sent.
  have hother {retries : Nat} {assessment : Assessment}
      {error? : Option CallError}
      (hretried : plan.retried? retries assessment = error?) :
      (plan.sending headers metadata).retried? retries assessment = error? :=
    hretried
  induction hsequence with
  | ended hretried =>
    rw [retrying_ended (hother hretried)]
    exact .refl key _
  | unfinished hretried =>
    rw [retrying_zero (hother hretried)]
    exact .refl key _
  | inPause hretried hlimit hearly =>
    rw [retrying_inPause (hother hretried) hlimit hearly]
    exact .refl key _
  | inAttempt hretried hlimit hresume hearly =>
    rw [retrying_inAttempt (hother hretried) hlimit hresume hearly]
    exact (Run.AlikeBut.refl key _).after (hleg _)
  | answered hretried hdone hlimit houtcome =>
    subst hdone
    rw [retrying_answered (hother hretried) hlimit houtcome]
    exact (Run.AlikeBut.refl key _).after (hleg _)
  | again hretried hdone hlimit houtcome _ ih =>
    subst hdone
    rw [retrying_failed (hother hretried) hlimit houtcome]
    exact ih.after (hleg _)

/-- A call goes the same way with other metadata. -/
theorem Course.alikeBut {first? : Option Deadline}
    {sequence? : Nat → Option Deadline} {legs start : Nat} {run : Run α β}
    (hcourse : Course plan first? sequence? legs start run)
    (hmetadata : plan.invocation.metadata.AlikeBut key metadata) :
    run.AlikeBut key
      ((plan.sending headers metadata).follow first? sequence? legs
        start) := by
  have hprologue (events : List (TimedEvent α)) :
      List.Forall₂ (TimedEvent.AlikeBut key) (plan.prologue start ++ events)
        ((plan.sending headers metadata).prologue start ++ events) :=
    List.rel_append (prologue_alikeBut hmetadata start)
      (TimedEvent.forall₂_alikeBut_self key events)
  have hopen (hlimit : ∀ deadline ∈ first?,
        plan.firstDone start ≤ deadline.time) :
      ∀ deadline ∈ first?, (plan.sending headers metadata).firstDone start ≤
        deadline.time := hlimit
  cases hcourse with
  | interrupted hlimit hearly =>
    have hlate : _ < (plan.sending headers metadata).firstDone start := hearly
    rw [follow_interrupted hlimit hlate]
    exact (Run.AlikeBut.refl key _).after (hprologue _)
  | answered hlimit houtcome =>
    rw [follow_answered (hopen hlimit) houtcome]
    exact (Run.AlikeBut.refl key _).after (hprologue _)
  | ended hlimit houtcome hdisabled =>
    have hretries :
        ¬ (plan.sending headers metadata).policy.retry.enabled = true :=
      ne_true_of_eq_false hdisabled
    rw [follow_failed (hopen hlimit) houtcome, if_neg hretries]
    exact (Run.AlikeBut.refl key _).after (hprologue _)
  | retried hlimit houtcome henabled hrest =>
    have hretries : (plan.sending headers metadata).policy.retry.enabled =
        true := henabled
    rw [follow_failed (hopen hlimit) houtcome, if_pos hretries]
    exact (hrest.alikeBut hmetadata).after (hprologue _)

theorem run_alikeBut
    (hmetadata : plan.invocation.metadata.AlikeBut key metadata) (start : Nat)
    (patience? : Option Nat) :
    (plan.run start patience?).AlikeBut key
      ((plan.sending headers metadata).run start patience?) :=
  (plan.follow_course ..).alikeBut hmetadata

end Sending

end Plan

namespace MetadataBuilder

/-- With a token that can be sent, the usual builder puts one more header on
top of the others. -/
theorem trace_of_token {token : String}
    (htoken : Metadata.isSendable token = true) (span : String)
    (context : TraceContext) (metadata? : Option Metadata)
    (useZipkin? : Option Bool) :
    trace span context metadata? ⟨useZipkin?, some token⟩ =
      (sendAll (spanHeaders (useZipkin?.getD false) (context.child span))
        (metadata?.getD {})).map
        fun built => built.insert "authorization" ("Bearer " ++ token) := by
  have hsend (built : Metadata) :
      sendAll [tokenHeader token] built =
        .ok (built.insert "authorization" ("Bearer " ++ token)) := by
    simp [sendAll, tokenHeader, send, Metadata.isSendable_bearer, htoken]
  simp only [trace, traceHeaders, Option.map_some, Option.toList_some,
    sendAll, List.foldlM_append] at hsend ⊢
  simp only [hsend]
  rfl

end MetadataBuilder

namespace CallOptions

variable (options : CallOptions) (token : String) {lower upper : CallOptions}

theorem resolve_withAuthToken :
    (options.withAuthToken token).resolve =
      { options.resolve with
        headers := ⟨options.headers.useZipkin?, some token⟩ } := by
  simp [resolve, withAuthToken, overriddenBy, HeaderOptions.overriddenBy,
    builtin]

theorem withAuthToken_overriddenBy
    (hunset : upper.headers.authToken? = none) :
    (lower.withAuthToken token).overriddenBy upper =
      (lower.overriddenBy upper).withAuthToken token := by
  simp [withAuthToken, overriddenBy, HeaderOptions.overriddenBy, hunset]

theorem withAuthToken_overriddenBy_of_some {own : String}
    (hset : upper.headers.authToken? = some own) :
    (lower.withAuthToken token).overriddenBy upper =
      lower.overriddenBy upper := by
  simp [withAuthToken, overriddenBy, HeaderOptions.overriddenBy, hset]

/-- What is written or shown of options does not tell one token from
another. -/
theorem text_withAuthToken (options : CallOptions) (first second : String) :
    (options.withAuthToken first).text = (options.withAuthToken second).text ∧
      (options.withAuthToken first).summary =
        (options.withAuthToken second).summary :=
  ⟨rfl, rfl⟩

end CallOptions

namespace Client

open MetadataBuilder

variable {span : String} {transport : Transport α β} {visit : Visit α}
  {start : Nat} {client other : Client} {overrides? : Option CallOptions}
  {first second : String}

/-- Two calls that are the same, but for a token of its own that each
of them sends. -/
theorem request_alikeBut_of_tokens {policy : CallPolicy}
    {useZipkin? : Option Bool} (hclient : client.builder = .trace)
    (hother : other.builder = .trace)
    (hfirst : client.policy visit.overrides? =
      { policy with headers := ⟨useZipkin?, some first⟩ })
    (hsecond : other.policy overrides? =
      { policy with headers := ⟨useZipkin?, some second⟩ })
    (hsendable : Metadata.isSendable first = true ∧
      Metadata.isSendable second = true)
    (htransport : transport.IgnoresMetadata) :
    (client.request span transport visit start).AlikeBut "authorization"
      (other.request span transport { visit with overrides? } start) := by
  have hone :=
    trace_of_token hsendable.1 span visit.context visit.request.metadata?
      useZipkin?
  have htwo :=
    trace_of_token hsendable.2 span visit.context visit.request.metadata?
      useZipkin?
  cases hbuilt : sendAll
      (spanHeaders (useZipkin?.getD false) (visit.context.child span))
      (visit.request.metadata?.getD {}) with
  | error error =>
    have hfailed : client.plan span transport visit.context visit.request
        visit.overrides? = .error error := by
      rw [plan_eq_map, hclient, hfirst, hone, hbuilt]
      rfl
    have hfails :
        other.plan span transport visit.context visit.request overrides? =
          .error error := by
      rw [plan_eq_map, hother, hsecond, htwo, hbuilt]
      rfl
    have hrun : other.request span transport { visit with overrides? } start =
        ⟨[], .failed error, start⟩ := request_eq_failed hfails
    rw [request_eq_failed hfailed, hrun]
    exact .refl _ _
  | ok built =>
    let invocation (token : String) : Invocation α :=
      ⟨visit.request.service, visit.request.method, visit.request.payload,
        built.insert "authorization" ("Bearer " ++ token)⟩
    let plan : Plan α β :=
      { policy := { policy with headers := ⟨useZipkin?, some first⟩ }
        invocation := invocation first
        reply := fun index => transport index (invocation first) }
    have hplan : client.plan span transport visit.context visit.request
        visit.overrides? = .ok plan := by
      rw [plan_eq_map, hclient, hfirst, hone, hbuilt]
      rfl
    have hsending :
        other.plan span transport visit.context visit.request overrides? =
          .ok (plan.sending ⟨useZipkin?, some second⟩
            (invocation second).metadata) := by
      have hreply :
          (fun index => transport index (invocation second)) = plan.reply :=
        funext fun index =>
          htransport index (invocation first) (invocation second).metadata
      rw [plan_eq_map, hother, hsecond, htwo, hbuilt, Plan.sending, ← hreply]
      rfl
    have hrun : other.request span transport { visit with overrides? } start =
        (plan.sending ⟨useZipkin?, some second⟩
            (invocation second).metadata).run start
          visit.patience? := request_eq_run hsending
    rw [request_eq_run hplan, hrun]
    exact Plan.run_alikeBut (Metadata.insert_alikeBut ..) start
      visit.patience?

theorem request_eq_of_policy_eq
    (hpolicy : client.policy visit.overrides? = other.policy visit.overrides?)
    (hbuilder : client.builder = other.builder) :
    client.request span transport visit start =
      other.request span transport visit start := by
  rw [request_eq, request_eq, plan_eq_map, plan_eq_map, hbuilder, hpolicy]

/-- A bearer token stays between the caller and the remote. Options with one
token have the same texts as options with another. Whether they are those of a
call or the defaults of its client, a call with one token goes as with
another: the same is logged, counted and timed, the caller gets the same, and
what is sent differs only in the value of one header. -/
theorem request_hides_token (options : CallOptions)
    (hfirst : Metadata.isSendable first = true)
    (hsecond : Metadata.isSendable second = true) :
    let one := options.withAuthToken first
    let two := options.withAuthToken second
    one.text = two.text ∧ one.summary = two.summary ∧
      ∀ (span : String) (transport : Transport α β) (visit : Visit α)
        (start : Nat),
        transport.IgnoresMetadata →
        (∀ client : Client, client.builder = .trace →
          (client.request span transport { visit with overrides? := some one }
              start).AlikeBut
            "authorization"
            (client.request span transport
              { visit with overrides? := some two } start)) ∧
        (({ defaults := one } : Client).request span transport visit
            start).AlikeBut "authorization"
          (({ defaults := two } : Client).request span transport visit
            start) := by
  intro one two
  obtain ⟨htext, hsummary⟩ := options.text_withAuthToken first second
  refine ⟨htext, hsummary,
    fun span transport visit start htransport => ⟨?_, ?_⟩⟩
  · intro client hbuilder
    have hpolicy (token : String) :
        client.policy (some (options.withAuthToken token)) =
          { client.policy (some options) with
            headers :=
              ⟨(client.defaults.overriddenBy options).headers.useZipkin?,
                some token⟩ } :=
      (client.defaults.overriddenBy options).resolve_withAuthToken token
    have hone :
        client.policy { visit with overrides? := some one }.overrides? = _ :=
      hpolicy first
    exact request_alikeBut_of_tokens hbuilder hbuilder hone (hpolicy second)
      ⟨hfirst, hsecond⟩ htransport
  · let overrides := visit.overrides?.getD {}
    cases htoken : overrides.headers.authToken? with
    | none =>
      have hpolicy (token : String) :
          ({ defaults := options.withAuthToken token } : Client).policy
              visit.overrides? =
            { (options.overriddenBy overrides).resolve with
              headers :=
                ⟨(options.overriddenBy overrides).headers.useZipkin?,
                  some token⟩ } := by
        rw [← CallOptions.resolve_withAuthToken,
          ← CallOptions.withAuthToken_overriddenBy token htoken]
        rfl
      exact request_alikeBut_of_tokens rfl rfl (hpolicy first)
        (hpolicy second) ⟨hfirst, hsecond⟩ htransport
    | some own =>
      -- The call sends a token of its own, so the ones of the
      -- defaults are not used.
      have hpolicy (token : String) :
          ({ defaults := options.withAuthToken token } : Client).policy
            visit.overrides? = (options.overriddenBy overrides).resolve := by
        rw [← CallOptions.withAuthToken_overriddenBy_of_some token htoken]
        rfl
      have hsame : ({ defaults := one } : Client).policy visit.overrides? =
          ({ defaults := two } : Client).policy visit.overrides? :=
        (hpolicy first).trans (hpolicy second).symm
      rw [request_eq_of_policy_eq hsame rfl]
      exact .refl _ _

/-- Two tokens for a call that is retried once: two attempts each, and the
same log. -/
theorem request_hides_token_of_retried_call :
    let options : CallOptions := { headers := { useZipkin? := some true } }
    let transport : Transport Unit Unit := .ofReplies
      [.settles 5 (.error (.ofStatus .unavailable "")), .settles 5 (.ok ())]
    let visit : Visit Unit := { context := default, request := default }
    let run (token : String) :=
      ({ defaults := options.withAuthToken token } : Client).request
        "b7ad6b7169203331" transport visit 0
    (run "alpha").calls = 2 ∧
      (run "alpha").AlikeBut "authorization" (run "omega") := by
  intro options transport visit run
  have hfirst : Metadata.isSendable "alpha" = true := by decide
  have hsecond : Metadata.isSendable "omega" = true := by decide
  obtain ⟨-, -, hruns⟩ :=
    request_hides_token (α := Unit) (β := Unit) options hfirst hsecond
  obtain ⟨-, halike⟩ :=
    hruns "b7ad6b7169203331" transport visit 0 fun _ _ _ => rfl
  exact ⟨by decide +kernel, halike⟩

end Client

end Redial
