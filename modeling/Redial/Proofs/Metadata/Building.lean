import Redial.Metadata.Builder
import Redial.Proofs.Metadata.Sendable
import Redial.Proofs.Trace.RoundTrip

/-!
What the usual builder sends. Each header of a call replaces all that the
caller has under its key, and every other key is left as it is. There are no
metadata just if a text that has to be sent has a control byte. The span above
the new one is sent only where the headers are several.
-/

namespace Redial

namespace Metadata

/-- Gives each of some keys one value in place of all that it had. -/
def insertAll (metadata : Metadata) (headers : List (String × String)) :
    Metadata :=
  headers.foldl (fun metadata header => metadata.insert header.1 header.2)
    metadata

variable {metadata : Metadata} {headers : List (String × String)}
  {key value : String}

theorem mem_keys_iff : key ∈ metadata.keys ↔ metadata.values key ≠ [] := by
  simp [keys, values, List.mem_eraseDups]

theorem values_insertAll_of_not_mem (hkey : key ∉ headers.map Prod.fst) :
    (metadata.insertAll headers).values key = metadata.values key := by
  induction headers generalizing metadata with
  | nil => rfl
  | cons header headers ih =>
    rw [List.map_cons, List.mem_cons, not_or] at hkey
    rw [insertAll, List.foldl_cons]
    exact (ih hkey.2).trans (metadata.values_insert_of_ne header.2 hkey.1)

theorem values_insertAll_of_mem (hdistinct : (headers.map Prod.fst).Nodup)
    (hmem : (key, value) ∈ headers) :
    (metadata.insertAll headers).values key = [value] := by
  induction headers generalizing metadata with
  | nil => cases hmem
  | cons header headers ih =>
    rw [List.map_cons, List.nodup_cons] at hdistinct
    rw [insertAll, List.foldl_cons]
    rcases List.mem_cons.mp hmem with rfl | hmem
    · exact (values_insertAll_of_not_mem hdistinct.1).trans
        (metadata.values_insert_self key value)
    · exact ih hdistinct.2 hmem

end Metadata

namespace MetadataBuilder

open Metadata Text

theorem sendAll_eq (headers : List (String × String)) (metadata : Metadata) :
    sendAll headers metadata =
      if headers.all (fun header => isSendable header.2) then
        .ok (metadata.insertAll headers)
      else .error invalidValue := by
  induction headers generalizing metadata with
  | nil => rfl
  | cons header headers ih =>
    have hstep : sendAll (header :: headers) metadata =
        (send header.1 header.2 metadata).bind (sendAll headers) := rfl
    rw [hstep, send]
    by_cases hsendable : isSendable header.2 = true
    · rw [if_pos hsendable, List.all_cons, hsendable, Bool.true_and]
      exact ih (metadata.insert header.1 header.2)
    · simp [hsendable, Except.bind]

theorem sendAll_eq_error_iff {headers : List (String × String)}
    {metadata : Metadata} {error : CallError} :
    sendAll headers metadata = .error error ↔
      error = invalidValue ∧
        ∃ header ∈ headers, isSendable header.2 = false := by
  rw [sendAll_eq]
  split
  case isTrue hall =>
    rw [List.all_eq_true] at hall
    have hnone : ¬ ∃ header ∈ headers, isSendable header.2 = false :=
      fun ⟨header, hmem, hvalue⟩ =>
        ne_true_of_eq_false hvalue (hall header hmem)
    simp [hnone]
  case isFalse hsome =>
    have hheader : ∃ header ∈ headers, isSendable header.2 = false := by
      simpa [List.all_eq_true] using hsome
    simp only [hheader, and_true, Except.error.injEq]
    exact eq_comm

theorem eq_insertAll_of_sendAll {headers : List (String × String)}
    {metadata built : Metadata}
    (hbuilt : sendAll headers metadata = .ok built) :
    built = metadata.insertAll headers := by
  rw [sendAll_eq] at hbuilt
  split at hbuilt
  · exact (Except.ok.inj hbuilt).symm
  · cases hbuilt

/-- A header of a call: in the form of one header the place in the trace, in
the form of several the trace, the new span, the one above it and whether it
is sampled, and the token if there is one. -/
inductive Emits (span : String) (context : TraceContext)
    (options : HeaderOptions) :
    String → String → Prop where
  | traceparent (hsingle : options.useZipkin? ≠ some true) :
    Emits span context options "traceparent"
      ("00-" ++ context.traceId ++ "-" ++ span ++ "-" ++
        if context.sampled then "01" else "00")
  | traceId (hseveral : options.useZipkin? = some true) :
    Emits span context options "x-b3-traceid" context.traceId
  | spanId (hseveral : options.useZipkin? = some true) :
    Emits span context options "x-b3-spanid" span
  | parentSpanId (hseveral : options.useZipkin? = some true) :
    Emits span context options "x-b3-parentspanid" context.spanId
  | sampled (hseveral : options.useZipkin? = some true) :
    Emits span context options "x-b3-sampled"
      (if context.sampled then "1" else "0")
  | token {token : String} (htoken : options.authToken? = some token) :
    Emits span context options "authorization" ("Bearer " ++ token)

variable {span : String} {context : TraceContext} {options : HeaderOptions}
  {key value : String}

theorem mem_token_iff (authToken? : Option String) :
    (key, value) ∈ (authToken?.map tokenHeader).toList ↔
      ∃ token, authToken? = some token ∧ key = "authorization" ∧
        value = "Bearer " ++ token := by
  cases authToken? <;> simp [tokenHeader]

theorem traceHeaders_of_several (hseveral : options.useZipkin? = some true) :
    traceHeaders span context options =
      [("x-b3-traceid", context.traceId), ("x-b3-spanid", span),
        ("x-b3-parentspanid", context.spanId),
        ("x-b3-sampled", if context.sampled then "1" else "0")] ++
          (options.authToken?.map tokenHeader).toList := by
  rw [traceHeaders, hseveral]
  rfl

theorem traceHeaders_of_single (hsingle : options.useZipkin? ≠ some true) :
    traceHeaders span context options =
      ("traceparent", (context.child span).traceparent) ::
        (options.authToken?.map tokenHeader).toList := by
  have hform : options.useZipkin?.getD false = false := by
    cases hform : options.useZipkin? with
    | none => rfl
    | some severally =>
      rw [hform, ne_eq, Option.some.injEq] at hsingle
      exact eq_false_of_ne_true hsingle
  rw [traceHeaders, hform]
  rfl

theorem emits_iff_mem :
    Emits span context options key value ↔
      (key, value) ∈ traceHeaders span context options := by
  by_cases hseveral : options.useZipkin? = some true
  · rw [traceHeaders_of_several hseveral, List.mem_append, mem_token_iff]
    simp only [List.mem_cons, List.not_mem_nil, or_false, Prod.mk.injEq]
    constructor
    · intro hemits
      cases hemits with
      | traceparent hsingle => exact absurd hseveral hsingle
      | traceId | spanId | parentSpanId | sampled => simp
      | token htoken => exact .inr ⟨_, htoken, rfl, rfl⟩
    · rintro ((⟨rfl, rfl⟩ | ⟨rfl, rfl⟩ | ⟨rfl, rfl⟩ | ⟨rfl, rfl⟩) |
        ⟨token, htoken, rfl, rfl⟩)
      · exact .traceId hseveral
      · exact .spanId hseveral
      · exact .parentSpanId hseveral
      · exact .sampled hseveral
      · exact .token htoken
  · rw [traceHeaders_of_single hseveral, List.mem_cons, Prod.mk.injEq,
      mem_token_iff]
    constructor
    · intro hemits
      cases hemits with
      | traceparent => exact .inl ⟨rfl, rfl⟩
      | traceId h | spanId h | parentSpanId h | sampled h =>
        exact absurd h hseveral
      | token htoken => exact .inr ⟨_, htoken, rfl, rfl⟩
    · rintro (⟨rfl, rfl⟩ | ⟨token, htoken, rfl, rfl⟩)
      · exact .traceparent hseveral
      · exact .token htoken

theorem nodup_traceHeaders (span : String) (context : TraceContext)
    (options : HeaderOptions) :
    ((traceHeaders span context options).map Prod.fst).Nodup := by
  by_cases hseveral : options.useZipkin? = some true
  · rw [traceHeaders_of_several hseveral]
    cases options.authToken? <;> simp [tokenHeader]
  · rw [traceHeaders_of_single hseveral]
    cases options.authToken? <;> simp [tokenHeader]

theorem isSendable_spanText (word : UInt64) :
    isSendable (TraceContext.spanText word) = true := by
  have hdigit : ∀ char ∈ smallHexAlphabet, isSendableChar char = true :=
    List.all_iff_forall_prop.mp (by decide)
  rw [isSendable, List.all_eq_true]
  exact fun char hmem =>
    hdigit char ((TraceContext.isSmallHex_spanText word).mem char hmem)

theorem isSendable_traceparent (word : UInt64) (context : TraceContext) :
    isSendable (context.child (TraceContext.spanText word)).traceparent =
      isSendable context.traceId := by
  have hflags : isSendable
      (context.child (TraceContext.spanText word)).flags = true := by
    unfold TraceContext.flags
    split <;> decide
  have hversion : isSendable "00-" = true := by decide
  have hdash : isSendable "-" = true := by decide
  have hspan :
      isSendable (context.child (TraceContext.spanText word)).spanId = true :=
    isSendable_spanText word
  simp only [TraceContext.traceparent, isSendable_append, hflags, hversion,
    hdash, hspan, Bool.and_true, Bool.true_and]
  rfl

/-- Some header of a call cannot be sent just if the trace, the token, or the
span above in the form of several headers has a control byte. -/
theorem exists_unsendable_iff (word : UInt64) (context : TraceContext)
    (options : HeaderOptions) :
    (∃ header ∈ traceHeaders (TraceContext.spanText word) context options,
        isSendable header.2 = false) ↔
      HasControl context.traceId ∨
        (options.useZipkin? = some true ∧ HasControl context.spanId) ∨
        ∃ token, options.authToken? = some token ∧ HasControl token := by
  simp only [← isSendable_eq_false_iff]
  have hspan : isSendable (TraceContext.spanText word) ≠ false :=
    ne_false_of_eq_true (isSendable_spanText word)
  have hsampled :
      isSendable (if context.sampled then "1" else "0") ≠ false := by
    split <;> decide
  constructor
  · rintro ⟨⟨key, value⟩, hmem, hvalue⟩
    cases emits_iff_mem.mpr hmem with
    | traceparent =>
      exact .inl ((isSendable_traceparent word context).symm.trans hvalue)
    | traceId => exact .inl hvalue
    | spanId => exact absurd hvalue hspan
    | parentSpanId hseveral => exact .inr (.inl ⟨hseveral, hvalue⟩)
    | sampled => exact absurd hvalue hsampled
    | token htoken =>
      exact .inr (.inr ⟨_, htoken, (isSendable_bearer _).symm.trans hvalue⟩)
  · rintro (htrace | ⟨hseveral, hparent⟩ | ⟨token, htoken, hvalue⟩)
    · by_cases hseveral : options.useZipkin? = some true
      · exact ⟨_, emits_iff_mem.mp (.traceId hseveral), htrace⟩
      · exact ⟨_, emits_iff_mem.mp (.traceparent hseveral),
          (isSendable_traceparent word context).trans htrace⟩
    · exact ⟨_, emits_iff_mem.mp (.parentSpanId hseveral), hparent⟩
    · exact ⟨_, emits_iff_mem.mp (.token htoken),
        (isSendable_bearer token).trans hvalue⟩

/-- The usual builder refuses to make the metadata of a call, as an internal
error with the code of an invalid argument, just if the trace, the token, or
the span above the new one where that is sent, has a control byte. Otherwise
each header of the call has one value, whatever the caller had under its key,
and every other key has the values of the caller in their order. A context
that was read is sent, in the form of one header, as one that is read as the
new span of the same trace. -/
theorem trace_sends_its_headers (word : UInt64) (context : TraceContext)
    (metadata? : Option Metadata) (options : HeaderOptions) :
    let span := TraceContext.spanText word
    let built := trace span context metadata? options
    let caller := metadata?.getD {}
    ((∃ error, built = .error error) ↔
      HasControl context.traceId ∨
        (options.useZipkin? = some true ∧ HasControl context.spanId) ∨
        ∃ token, options.authToken? = some token ∧ HasControl token) ∧
    (∀ error, built = .error error →
      error.kindName = "Internal" ∧
        error.statusCode? = some (.remote .invalidArgument)) ∧
    ∀ metadata, built = .ok metadata →
      (∀ key value, Emits span context options key value →
        metadata.values key = [value]) ∧
      (∀ key, (∀ value, ¬ Emits span context options key value) →
        metadata.values key = caller.values key) ∧
      (∀ key ∈ metadata.keys, key ∈ caller.keys ∨
        ∃ value, Emits span context options key value) ∧
      (options.useZipkin? ≠ some true →
        ∀ value, TraceContext.ofTraceparent? value = some context →
        ∃ sent, metadata.values "traceparent" = [sent] ∧
          TraceContext.ofTraceparent? sent =
            some
              { traceId := context.traceId, spanId := span,
                sampled := context.sampled }) := by
  intro span built caller
  have hbuilt :
      built = sendAll (traceHeaders span context options) caller := rfl
  refine ⟨?_, fun error herror => ?_, fun metadata hmetadata => ?_⟩
  · rw [← exists_unsendable_iff word, hbuilt]
    simp only [sendAll_eq_error_iff, exists_eq_left, span]
  · obtain ⟨rfl, -⟩ := sendAll_eq_error_iff.mp (hbuilt.symm.trans herror)
    exact ⟨rfl, rfl⟩
  · obtain rfl := eq_insertAll_of_sendAll (hbuilt.symm.trans hmetadata)
    have hown (key value : String)
        (hemits : Emits span context options key value) :
        (caller.insertAll (traceHeaders span context options)).values key =
          [value] :=
      values_insertAll_of_mem (nodup_traceHeaders ..)
        (emits_iff_mem.mp hemits)
    have hother (key : String)
        (hemits : ∀ value, ¬ Emits span context options key value) :
        (caller.insertAll (traceHeaders span context options)).values key =
          caller.values key := by
      refine values_insertAll_of_not_mem fun hmem => ?_
      obtain ⟨⟨key, value⟩, hheader, rfl⟩ := List.mem_map.mp hmem
      exact hemits value (emits_iff_mem.mpr hheader)
    refine ⟨hown, hother, fun key hkey => ?_, fun hsingle value hread => ?_⟩
    · by_cases hemits : ∃ value, Emits span context options key value
      · exact .inr hemits
      · rw [mem_keys_iff, hother key (not_exists.mp hemits)] at hkey
        exact .inl (mem_keys_iff.mpr hkey)
    · have hsent : ("traceparent", (context.child span).traceparent) ∈
          traceHeaders span context options := by
        rw [traceHeaders_of_single hsingle]
        exact List.mem_cons_self
      obtain ⟨htrace, -, -⟩ := TraceContext.isSmallHex_of_read hread
      have hagain :
          TraceContext.ofTraceparent? (context.child span).traceparent =
            some { context.child span with parentSpanId? := none } :=
        TraceContext.ofTraceparent?_traceparent htrace
          (TraceContext.isSmallHex_spanText word)
      exact ⟨_, hown _ _ (emits_iff_mem.mpr hsent), hagain⟩

/-- A span with a line break in it is refused where it is sent as the one
above. In the form of one header the metadata are made, and what they say
replaces two values of the caller. -/
theorem trace_sends_its_headers_of_broken_span :
    let context : TraceContext :=
      { traceId := "0af7651916cd43dd8448eb211c80319c", spanId := "a\nb",
        sampled := false }
    let caller : Metadata :=
      ⟨[("traceparent", "1"), ("x-tenant", "acme"), ("traceparent", "2"),
        ("x-tenant", "other")]⟩
    let built (severally : Bool) :=
      trace (TraceContext.spanText 0x2a) context (some caller)
        { useZipkin? := some severally }
    (∃ error, built true = .error error ∧
        error.statusCode? = some (.remote .invalidArgument)) ∧
      ∃ metadata, built false = .ok metadata ∧
        metadata.values "traceparent" =
          ["00-0af7651916cd43dd8448eb211c80319c-000000000000002a-00"] ∧
        metadata.values "x-tenant" = ["acme", "other"] := by
  intro context caller built
  have hbreak : HasControl context.spanId :=
    isSendable_eq_false_iff.mp (by decide)
  obtain ⟨hrefused, hcode, -⟩ :=
    trace_sends_its_headers 0x2a context (some caller)
      { useZipkin? := some true }
  obtain ⟨-, -, hsent⟩ :=
    trace_sends_its_headers 0x2a context (some caller)
      { useZipkin? := some false }
  obtain ⟨error, herror⟩ := hrefused.mpr (.inr (.inl ⟨rfl, hbreak⟩))
  have hmetadata : trace (TraceContext.spanText 0x2a) context (some caller)
      { useZipkin? := some false } =
        .ok ⟨[("x-tenant", "acme"), ("x-tenant", "other"),
        ("traceparent",
          "00-0af7651916cd43dd8448eb211c80319c-000000000000002a-00")]⟩ := by
    cbv
  obtain ⟨hown, hother, -, -⟩ := hsent _ hmetadata
  have htenant (value : String) : ¬ Emits (TraceContext.spanText 0x2a) context
      { useZipkin? := some false } "x-tenant" value := by
    rw [emits_iff_mem, traceHeaders_of_single (by decide)]
    simp
  have hspan : "00-" ++ context.traceId ++ "-" ++
      TraceContext.spanText 0x2a ++ "-" ++ "00" =
      "00-0af7651916cd43dd8448eb211c80319c-000000000000002a-00" := by
    decide +kernel
  exact ⟨⟨error, herror, (hcode error herror).2⟩, _, hmetadata,
    hspan ▸ hown _ _ (.traceparent (by decide)), hother "x-tenant" htenant⟩

end MetadataBuilder

end Redial
