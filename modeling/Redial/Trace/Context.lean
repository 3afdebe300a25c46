import Redial.Text.Basic

/-!
The place of a call in a trace. A context is written as four fields of
hexadecimal digits with dashes between them: a version, the trace, the span
and the flags. Reading takes any version and keeps the lowest bit of the
flags; writing gives version `00` and flags `00` or `01`.
-/

namespace Redial

/-- The trace, the span of the operation at hand and the span above it. -/
structure TraceContext where
  traceId : String
  spanId : String
  parentSpanId? : Option String := none
  sampled : Bool
  deriving DecidableEq, Repr, Inhabited

namespace TraceContext

/-- The text of a span, from its 64 bits. -/
def spanText (word : UInt64) : String :=
  String.ofList (Text.hexDigits 16 word.toNat)

/-- The text of a trace, from its 128 bits. -/
def traceText (word : BitVec 128) : String :=
  String.ofList (Text.hexDigits 32 word.toNat)

/-- A new sampled trace. -/
def root (trace : BitVec 128) (span : UInt64) : TraceContext where
  traceId := traceText trace
  spanId := spanText span
  sampled := true

/-- A span below the one at hand, in the same trace. -/
def child (context : TraceContext) (span : String) : TraceContext where
  traceId := context.traceId
  spanId := span
  parentSpanId? := some context.spanId
  sampled := context.sampled

/-- The flags field: `01` for a sampled trace. -/
def flags (context : TraceContext) : String :=
  if context.sampled then "01" else "00"

/-- The context as one header value. -/
def traceparent (context : TraceContext) : String :=
  "00-" ++ context.traceId ++ "-" ++ context.spanId ++ "-" ++ context.flags

def fields : List Char → List (List Char)
  | [] => [[]]
  | char :: rest =>
    if char = '-' then [] :: fields rest
    else
      match fields rest with
      | [] => [[char]]
      | field :: others => (char :: field) :: others

/-- Whether a text is a number of hexadecimal digits of either case. -/
def isHexField (width : Nat) (field : List Char) : Bool :=
  field.length == width && field.all Text.isHexDigit

/-- Whether the lowest bit of a hexadecimal number is set. -/
def isOddHex (field : List Char) : Bool :=
  ((field.getLast?.bind Text.hexValue?).getD 0) % 2 == 1

/-- The context that a header value stands for, with white space
around it allowed. -/
def ofTraceparent? (value : String) : Option TraceContext :=
  match fields (Text.trim value.toList) with
  | [version, trace, span, flags] =>
    if isHexField 2 version && isHexField 32 trace && isHexField 16 span &&
        isHexField 2 flags then
      some
        { traceId := Text.lower (String.ofList trace)
          spanId := Text.lower (String.ofList span)
          sampled := isOddHex flags }
    else none
  | _ => none

end TraceContext

end Redial
