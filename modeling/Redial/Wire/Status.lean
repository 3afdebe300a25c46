import Redial.Failure.Basic
import Redial.Text.Bytes
import Redial.Wire.Header

/-!
The status of a peer on the wire. It is sent in headers, together with its
metadata: the code as a number, and the message, unless it is empty, with
blanks, controls and some signs percent-encoded. Percent signs are sent as
they are, so what looks encoded in a message is decoded by the receiver. A
receiver takes the headers that arrive for the status that they say, whatever
was meant. Details that are no base64 leave it without an answer at all.
-/

namespace Redial.Wire

def codeKey : String := "grpc-status"

def messageKey : String := "grpc-message"

/-- The key of a status' details, which are not shown among its metadata. -/
def detailsKey : String := "grpc-status-details-bin"

def typeKey : String := "content-type"

def encodingKey : String := "grpc-encoding"

def codeText (code : Code) : String :=
  String.ofList (Numeral.digits code.toNat)

/-- The code with a number. A text that is the number of no code is
unknown. -/
def codeOfText (text : String) : Code :=
  (Code.all.find? fun code => codeText code == text).getD .unknown

/-- The signs of a message that are percent-encoded. -/
def encodedSigns : List Char :=
  ['"', '#', '<', '>', '?', '\x60', '\x7b', '\x7d']

/-- Whether a character of a message is sent as it is: a printable ASCII
character that is no blank and none of the signs. -/
def isSentPlain (char : Char) : Bool :=
  0x20 < char.toNat && char.toNat < 0x7F && !encodedSigns.contains char

/-- The headers in which a status is sent. -/
def statusHeaders (status : RemoteStatus) : Metadata :=
  let headers :=
    ((withoutKeys status.metadata protocolKeys).insert typeKey
        "application/grpc").insert
      codeKey (codeText status.code)
  sentAlong
    (if status.message.isEmpty then headers
    else headers.insert messageKey
      (Text.Percent.encode isSentPlain status.message))

/-- The status of a stream that one side gave up, because it had to refuse the
headers or the body of the other. -/
def brokenStream : RemoteStatus :=
  { code := .internal, message := "h2 protocol error: http2 error" }

/-- The status of a call without a response. -/
def missingResponse : RemoteStatus :=
  { code := .internal, message := "Missing response message." }

/-- The status of a response in an encoding that is not supported. -/
def unsupportedEncoding (encoding : String) : RemoteStatus where
  code := .unimplemented
  message :=
    "Content is compressed with \x60" ++ encoding ++
      "\x60 which isn't supported"
  metadata := ({} : Metadata).insert "grpc-accept-encoding" "identity"

/-- The code and the message that arrive. If the message cannot be decoded,
the code is unknown and the message says why. -/
def readMessage (code : Code) (text : String) : Code × String :=
  match Text.Utf8.decode (Text.Percent.decode text) with
  | .ok message => (code, message)
  | .error problem =>
    (.unknown, "Error deserializing status message header: " ++
      problem.message)

/-- The details of a status that arrives are no base64. A caller has no
failure for this: it cannot go on. -/
structure UnreadableDetails where
  text : String
  deriving DecidableEq, Repr, Inhabited

/-- Reads the details that headers hold. Only the first value counts. -/
def checkDetails (headers : Metadata) : Except UnreadableDetails Unit :=
  match firstValue? headers detailsKey with
  | none => .ok ()
  | some text =>
    if (Text.Base64.decode? text).isSome then .ok () else .error ⟨text⟩

/-- The status that headers say, if they say one. Its details are
read, but not kept. -/
def statusOfHeaders? (headers : Metadata) :
    Except UnreadableDetails (Option RemoteStatus) :=
  match firstValue? headers codeKey with
  | none => .ok none
  | some text =>
    (checkDetails headers).map fun _ =>
      let (code, message) :=
        readMessage (codeOfText text)
          ((firstValue? headers messageKey).getD "")
      some
        { code, message, metadata :=
            headers.removeAll [codeKey, messageKey, detailsKey, typeKey] }

/-- The status of a response that consists of headers only. One that
says success, and one that says nothing, has failed, too, because its
message is missing. -/
def statusOfResponse (headers : Metadata) :
    Except UnreadableDetails RemoteStatus :=
  if !fitsLimit ((":status", "200") :: headers.entries) ||
      !(statedLength headers).allows 0 then
    .ok brokenStream
  else
    match (firstValue? headers encodingKey).filter (· ≠ "identity") with
    | some encoding => .ok (unsupportedEncoding encoding)
    | none =>
      (statusOfHeaders? headers).map fun status? =>
        (status?.filter (·.code ≠ .ok)).getD missingResponse

/-- The status that a caller gets for the status of a peer. -/
def receivedStatus (status : RemoteStatus) :
    Except UnreadableDetails RemoteStatus :=
  statusOfResponse (statusHeaders status)

end Redial.Wire
