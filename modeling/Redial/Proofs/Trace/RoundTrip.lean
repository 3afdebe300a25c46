import Mathlib.Logic.Relation
import Redial.Proofs.Trace.Header

/-!
Contexts as header values. A context is written with version `00`, in the
digits that it holds, so it is read again as it was just if these are small
digits, enough of them, and if it names no span above its own. What was read
from a header is like that, and its spans below keep the trace.
-/

namespace Redial.TraceContext

/-- The header that stands for the same context and is written by it: version
`00`, small digits, and no flag but the lowest. -/
def Header.canonical (header : Header) : Header where
  version := ['0', '0']
  trace := header.trace.map Char.toLower
  span := header.span.map Char.toLower
  flags :=
    if Text.hexNumber header.flags % 2 = 1 then ['0', '1'] else ['0', '0']
  isHex_version := by decide
  isHex_trace := header.isHex_trace.toSmall.toHex
  isHex_span := header.isHex_span.toSmall.toHex
  isHex_flags := by split <;> decide

/-- Whether a context is a span that was opened under another one. -/
def IsChild (parent context : TraceContext) : Prop :=
  ∃ word : UInt64, context = parent.child (spanText word)

variable {value : String} {context previous : TraceContext}

theorem toList_traceparent (context : TraceContext) :
    context.traceparent.toList =
      ['0', '0'] ++ '-' ::
        (context.traceId.toList ++ '-' ::
          (context.spanId.toList ++ '-' :: context.flags.toList)) := by
  simp [traceparent]

theorem toList_flags (context : TraceContext) :
    context.flags.toList = if context.sampled then ['0', '1']
      else ['0', '0'] := by
  unfold flags
  split <;> rfl

/-- What a header says is written as its canonical form. -/
theorem Header.traceparent_context (header : Header) :
    header.context.traceparent = String.ofList header.canonical.text := by
  have hflags : header.context.flags.toList = header.canonical.flags := by
    rw [toList_flags]
    simp [Header.context, Header.canonical]
  have htext : header.context.traceparent.toList = header.canonical.text := by
    rw [toList_traceparent, Header.text_eq, hflags]
    simp [Header.context, Header.canonical, Text.toList_lower]
  rw [← htext, String.ofList_toList]

theorem isHex_flags (context : TraceContext) :
    Text.IsHex 2 context.flags.toList := by
  rw [toList_flags]
  split <;> decide

/-- A context with identifiers of small digits is read again, but for the span
above its own. -/
theorem ofTraceparent?_traceparent
    (htrace : Text.IsSmallHex 32 context.traceId.toList)
    (hspan : Text.IsSmallHex 16 context.spanId.toList) :
    ofTraceparent? context.traceparent =
      some { context with parentSpanId? := none } := by
  let header : Header :=
    ⟨['0', '0'], context.traceId.toList, context.spanId.toList,
      context.flags.toList, by decide, htrace.toHex, hspan.toHex,
      context.isHex_flags⟩
  have hwritten : header.WrittenIn context.traceparent := by
    refine ⟨[], [], nofun, nofun, ?_⟩
    rw [toList_traceparent, header.text_eq, List.nil_append, List.append_nil]
  have hsampled :
      (Text.hexNumber context.flags.toList % 2 == 1) = context.sampled := by
    rw [toList_flags]
    cases context.sampled <;> rfl
  rw [ofTraceparent?_of_writtenIn hwritten, Header.context, hsampled,
    String.ofList_toList, String.ofList_toList,
    Text.lower_of_isSmallHex htrace, Text.lower_of_isSmallHex hspan]

theorem isSmallHex_of_read (hread : ofTraceparent? value = some context) :
    Text.IsSmallHex 32 context.traceId.toList ∧
      Text.IsSmallHex 16 context.spanId.toList ∧
      context.parentSpanId? = none := by
  obtain ⟨header, -, rfl⟩ := ofTraceparent?_eq_some_iff.mp hread
  refine ⟨?_, ?_, rfl⟩
  · rw [Header.context, Text.toList_lower, String.toList_ofList]
    exact header.isHex_trace.toSmall
  · rw [Header.context, Text.toList_lower, String.toList_ofList]
    exact header.isHex_span.toSmall

/-- A context is read again from what it is written as just if it is in the
form of one that was read. -/
theorem ofTraceparent?_traceparent_iff (context : TraceContext) :
    ofTraceparent? context.traceparent = some context ↔
      Text.IsSmallHex 32 context.traceId.toList ∧
        Text.IsSmallHex 16 context.spanId.toList ∧
        context.parentSpanId? = none := by
  refine ⟨isSmallHex_of_read, fun ⟨htrace, hspan, hparent⟩ => ?_⟩
  rw [ofTraceparent?_traceparent htrace hspan, ← hparent]

theorem isSmallHex_spanText (word : UInt64) :
    Text.IsSmallHex 16 (spanText word).toList := by
  rw [spanText, String.toList_ofList]
  exact Text.isSmallHex_hexDigits (by decide) word.toNat_lt

/-- The spans below a context are in its trace, and sampled just if it is. -/
theorem kept_of_descends
    (hdescends : Relation.ReflTransGen IsChild context previous) :
    previous.traceId = context.traceId ∧
      previous.sampled = context.sampled := by
  induction hdescends with
  | refl => exact ⟨rfl, rfl⟩
  | tail _ hchild ih =>
    obtain ⟨word, rfl⟩ := hchild
    exact ih

/-- A context that was read has identifiers of small digits and no span above
its own, and writing it gives the canonical form of the header, which is read
as the same context. Contexts in general are read again from what they are
written as just if they are like that. However many spans are opened one below
the other under a context that was read, each of them names the one above it,
and is read again as itself, in the same trace and sampled just if that is. -/
theorem traceparent_round_trip :
    (∀ (value : String) (context : TraceContext),
      ofTraceparent? value = some context →
      Text.IsSmallHex 32 context.traceId.toList ∧
        Text.IsSmallHex 16 context.spanId.toList ∧
        context.parentSpanId? = none ∧
        ofTraceparent? context.traceparent = some context ∧
        ∃ header : Header, header.WrittenIn value ∧
          context.traceparent = String.ofList header.canonical.text) ∧
    (∀ context : TraceContext,
      ofTraceparent? context.traceparent = some context ↔
      Text.IsSmallHex 32 context.traceId.toList ∧
        Text.IsSmallHex 16 context.spanId.toList ∧
        context.parentSpanId? = none) ∧
    ∀ (value : String) (context previous current : TraceContext),
      ofTraceparent? value = some context →
      Relation.ReflTransGen IsChild context previous →
      IsChild previous current →
        current.parentSpanId? = some previous.spanId ∧
        current.traceId = context.traceId ∧
        current.sampled = context.sampled ∧
        ofTraceparent? current.traceparent =
          some { current with parentSpanId? := none } := by
  refine ⟨fun value context hread => ?_, ofTraceparent?_traceparent_iff, ?_⟩
  · obtain ⟨htrace, hspan, hparent⟩ := isSmallHex_of_read hread
    obtain ⟨header, hwritten, rfl⟩ := ofTraceparent?_eq_some_iff.mp hread
    exact ⟨htrace, hspan, hparent,
      (ofTraceparent?_traceparent_iff header.context).mpr
        ⟨htrace, hspan, hparent⟩,
      header, hwritten, header.traceparent_context⟩
  · rintro value context previous _ hread hdescends ⟨word, rfl⟩
    obtain ⟨htrace, -, -⟩ := isSmallHex_of_read hread
    obtain ⟨hkept, hsampled⟩ := kept_of_descends hdescends
    refine ⟨rfl, hkept, hsampled,
      ofTraceparent?_traceparent ?_ (isSmallHex_spanText word)⟩
    exact hkept ▸ htrace

/-- A value in capitals, of another version and with all flags, and two
spans below it. -/
theorem traceparent_round_trip_of_capitals :
    let value :=
      "\t CC-0AF7651916CD43DD8448EB211C80319C-B7AD6B7169203331-FF\n"
    let context : TraceContext :=
      { traceId := "0af7651916cd43dd8448eb211c80319c",
        spanId := "b7ad6b7169203331", sampled := true }
    let previous := context.child (spanText 0x00f067aa0ba902b7)
    let current := previous.child (spanText 0x2a)
    ofTraceparent? value = some context ∧
      Relation.ReflTransGen IsChild context previous ∧
      IsChild previous current ∧
      current.parentSpanId? = some "00f067aa0ba902b7" ∧
      ofTraceparent? "00-0af7651916cd43dd8448eb211c80319c-000000000000002a-01" =
        some { current with parentSpanId? := none } := by
  intro value context previous current
  have hread : ofTraceparent? value = some context := by decide +kernel
  have hdescends : Relation.ReflTransGen IsChild context previous :=
    .single ⟨_, rfl⟩
  have hchild : IsChild previous current := ⟨_, rfl⟩
  obtain ⟨-, -, hbelow⟩ := traceparent_round_trip
  obtain ⟨hparent, -, -, hagain⟩ :=
    hbelow value context previous current hread hdescends hchild
  have hspan : previous.spanId = "00f067aa0ba902b7" := by decide +kernel
  have htext : current.traceparent =
      "00-0af7651916cd43dd8448eb211c80319c-000000000000002a-01" := by
    decide +kernel
  exact ⟨hread, hdescends, hchild, hspan ▸ hparent, htext ▸ hagain⟩

end Redial.TraceContext
