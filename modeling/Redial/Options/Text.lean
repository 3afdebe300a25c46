import Redial.Failure.Basic
import Redial.Json.Record
import Redial.Options.Policy
import Redial.Status.StatusCode
import Redial.Text.Shown

/-!
Options as text. Reading is strict: each level has its declared fields, each
at most once and in any order, and a field may be `null`. Writing gives every
field in the order of the declaration, without the bearer token, which also
stays out of the text shown to people.
-/

namespace Redial

open Json (Reader)

def decimal (number : Int) : String :=
  String.ofList (Numeral.ofInt number)

namespace HeaderOptions

def fields : List (Json.Field HeaderOptions) :=
  [.leaf "use_zipkin" (fun _ => Json.Reader.boolean)
      fun options value? => { options with useZipkin? := value? },
    .leaf "auth_token" (fun _ => Json.Reader.text)
      fun options value? => { options with authToken? := value? }]

def read : (depth : Nat) → Reader HeaderOptions :=
  Json.Record.read "MetadataBuilderOptions" fields {}

/-- The options in JSON, without the token. -/
def toJson (options : HeaderOptions) : Json :=
  .object [("use_zipkin", .ofBool? options.useZipkin?)]

/-- The options as shown to people: of the token only whether there is one. -/
def summary (options : HeaderOptions) : String :=
  "MetadataBuilderOptions \x7b use_zipkin: " ++
    Text.optional Text.truth options.useZipkin? ++ ", auth_token: " ++
    Text.optional (fun _ => Text.quoted "<redacted>") options.authToken? ++
    " \x7d"

end HeaderOptions

namespace AttemptOptions

def fields : List (Json.Field AttemptOptions) :=
  [.leaf "timeout" (fun _ => Json.Reader.unsigned64)
      fun options value? => { options with timeout? := value? }]

def read : (depth : Nat) → Reader AttemptOptions :=
  Json.Record.read "AttemptOptions" fields {}

def toJson (options : AttemptOptions) : Json :=
  .object
    [("timeout", .ofInt? (options.timeout?.map fun value => value.toNat))]

def summary (options : AttemptOptions) : String :=
  Text.record "AttemptOptions"
    [("timeout", Text.optional (fun value => decimal value.toNat)
      options.timeout?)]

end AttemptOptions

namespace RetryOptions

def fields : List (Json.Field RetryOptions) :=
  [.leaf "retry" (fun _ => Json.Reader.boolean)
      fun options value? => { options with retry? := value? },
    .leaf "timeout" (fun _ => Json.Reader.signed64)
      fun options value? => { options with timeout? := value? },
    .leaf "delay" (fun _ => Json.Reader.unsigned64)
      fun options value? => { options with delay? := value? },
    .leaf "retry_max_count" (fun _ => Json.Reader.signed64)
      fun options value? => { options with maxCount? := value? },
    .leaf "status_codes" StatusCode.readList
      fun options value? => { options with statusCodes? := value? }]

def read : (depth : Nat) → Reader RetryOptions :=
  Json.Record.read "RetryOptions" fields {}

def toJson (options : RetryOptions) : Json :=
  .object
    [("retry", .ofBool? options.retry?),
      ("timeout", .ofInt? (options.timeout?.map Int64.toInt)),
      ("delay", .ofInt? (options.delay?.map fun value => value.toNat)),
      ("retry_max_count", .ofInt? (options.maxCount?.map Int64.toInt)),
      ("status_codes",
        (options.statusCodes?.map StatusCode.listToJson).getD .null)]

def summary (options : RetryOptions) : String :=
  Text.record "RetryOptions"
    [("retry", Text.optional Text.truth options.retry?),
      ("timeout", Text.optional (fun value => decimal value.toInt)
        options.timeout?),
      ("delay", Text.optional (fun value => decimal value.toNat)
        options.delay?),
      ("retry_max_count",
        Text.optional (fun value => decimal value.toInt) options.maxCount?),
      ("status_codes",
        Text.optional (Text.list StatusCode.summary) options.statusCodes?)]

end RetryOptions

namespace CallOptions

def fields : List (Json.Field CallOptions) :=
  [.nested "metadata_builder_options" HeaderOptions.read
      fun options value => { options with headers := value },
    .nested "request_options" AttemptOptions.read
      fun options value => { options with attempt := value },
    .nested "retry_options" RetryOptions.read
      fun options value => { options with retry := value }]

def read : (depth : Nat) → Reader CallOptions :=
  Json.Record.read "RequestOptions" fields {}

/-- The layer that a JSON text holds, or the first problem in it. -/
def parse (text : String) : Except Json.Problem CallOptions :=
  Json.Reader.whole (read Json.maxDepth) text

def invalidText (problem : Json.Problem) : CallError :=
  .ofInternal ("Invalid request options: " ++ problem.message)
    (.remote .invalidArgument)

/-- The layer that a JSON text holds, or the error for its author. -/
def ofText (text : String) : Except CallError CallOptions :=
  (parse text).mapError invalidText

/-- The layer in JSON, without the token. -/
def toJson (options : CallOptions) : Json :=
  .object
    [("metadata_builder_options", options.headers.toJson),
      ("request_options", options.attempt.toJson),
      ("retry_options", options.retry.toJson)]

/-- The compact text of the layer, without the token. -/
def text (options : CallOptions) : String :=
  options.toJson.text

/-- The layer as shown to people: of the token only whether there is one. -/
def summary (options : CallOptions) : String :=
  Text.record "RequestOptions"
    [("metadata_builder_options", options.headers.summary),
      ("request_options", options.attempt.summary),
      ("retry_options", options.retry.summary)]

end CallOptions

end Redial
