import Redial.Failure.Assessment
import Redial.Json.Value

/-!
Failures and errors in JSON, for those who record or show them.
-/

namespace Redial

namespace Failure

def toJson : Failure → Json
  | .timeout signal =>
    .object [("kind", .string "timeout"),
      ("timeout_kind", .string signal.kind.name),
      ("message", .string signal.message), ("text", .string signal.message)]
  | .status answer =>
    .object [("kind", .string "status"), ("code", .ofInt answer.code.toNat),
      ("message", .string answer.message),
      ("metadata", answer.metadata.toJson)]
  | .message text =>
    .object [("kind", .string "message"), ("message", .string text),
      ("text", .string text)]
  | .object value =>
    .object [("kind", .string "object"), ("value", value),
      ("text", .string value.text)]
  | .other text sources =>
    .object [("kind", .string "other"), ("text", .string text),
      ("sources", .array (sources.map Json.string))]

end Failure

namespace CallError

def toJson (error : CallError) : Json :=
  .object [("variant", .string error.kindName),
    ("message", .string error.message), ("text", .string error.message),
    ("status_code", .ofString? (error.statusCode?.map StatusCode.text)),
    ("marker", .string error.marker.name),
    ("details", .ofString? error.details?),
    ("headers", (error.headers?.map Metadata.toJson).getD .null),
    ("is_timeout", .bool error.isTimeout),
    ("timeout_kind", .ofString? (error.timeoutKind?.map TimeoutKind.name)),
    ("is_retry_window", .bool error.isRetryWindow),
    ("cause", (error.cause?.map Failure.toJson).getD .null)]

end CallError

namespace Assessment

def toJson (raw : Failure) (assessment : Assessment) : Json :=
  .object [("raw", raw.toJson),
    ("severity", .string assessment.severity.name),
    ("summary", .string assessment.summary),
    ("client_error", (assessment.error?.map CallError.toJson).getD .null)]

end Assessment

end Redial
