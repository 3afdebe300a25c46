import Redial.Failure.Basic
import Redial.Options.Basic
import Redial.Text.Shown
import Redial.Trace.Context

/-!
What goes with a call: the metadata of its caller, and what a builder puts on
top. The usual builder sends the call as a new span of the caller's trace and
adds the bearer token, if there is one; each header that it sends has one
value. A value that cannot be sent fails the call.
-/

namespace Redial

/-- Makes the metadata of a call from the text of a new span, the
caller's place in its trace, the caller's metadata if there is some,
and the options. -/
abbrev MetadataBuilder :=
  String → TraceContext → Option Metadata → HeaderOptions →
    Except CallError Metadata

/-- A builder whose work may have effects of its own, in a monad. -/
abbrev EffectfulBuilder (m : Type → Type) :=
  String → TraceContext → Option Metadata → HeaderOptions →
    m (Except CallError Metadata)

namespace MetadataBuilder

/-- A builder as one without effects. -/
def effectless (builder : MetadataBuilder) : EffectfulBuilder Id := builder

def invalidValue : CallError :=
  .ofInternal "Invalid metadata value: failed to parse metadata value"
    (.remote .invalidArgument)

/-- Sends one value under a key, in place of what the caller had there. -/
def send (key value : String) (metadata : Metadata) :
    Except CallError Metadata :=
  if Metadata.isSendable value then .ok (metadata.insert key value)
  else .error invalidValue

/-- Sends several headers, up to the first that cannot be sent. -/
def sendAll (headers : List (String × String)) (metadata : Metadata) :
    Except CallError Metadata :=
  headers.foldlM (fun metadata (key, value) => send key value metadata)
    metadata

/-- The headers of a span, in the form of several headers or of one. -/
def spanHeaders (severally : Bool) (span : TraceContext) :
    List (String × String) :=
  if severally then
    [("x-b3-traceid", span.traceId), ("x-b3-spanid", span.spanId)] ++
      (span.parentSpanId?.map fun parent =>
        ("x-b3-parentspanid", parent)).toList ++
      [("x-b3-sampled", if span.sampled then "1" else "0")]
  else [("traceparent", span.traceparent)]

def tokenHeader (token : String) : String × String :=
  ("authorization", "Bearer " ++ token)

def traceHeaders (span : String) (context : TraceContext)
    (options : HeaderOptions) : List (String × String) :=
  spanHeaders (options.useZipkin?.getD false) (context.child span) ++
    (options.authToken?.map tokenHeader).toList

/-- The usual builder. -/
def trace : MetadataBuilder := fun span context metadata? options =>
  sendAll (traceHeaders span context options) (metadata?.getD {})

/-- Tells the remote what the builder was called with, in one header. -/
def echo : MetadataBuilder := fun _ context metadata? options =>
  let value :=
    context.traceparent ++ " caller=" ++ Text.truth metadata?.isSome ++ " " ++
      Text.optional Text.truth options.useZipkin? ++ " token=" ++
      Text.optional Text.quoted options.authToken?
  if Metadata.isSendable value then
    .ok ((metadata?.getD {}).insert "x-echo" value)
  else .error (.ofExternal "echo builder failed" none)

def refuse : MetadataBuilder := fun _ _ _ _ =>
  .error (.ofExternal "builder refused" none)

end MetadataBuilder

end Redial
