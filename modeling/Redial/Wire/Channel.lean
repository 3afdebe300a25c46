import Redial.Call.Transport
import Redial.Wire.Status

/-!
The transport over a channel. A call first needs the channel, then a path that
may be sent, and then the peer: the failures come in this order, and a call
that fails before the last step is not seen by the peer. A payload other than
a message is sent as the empty message. The peer refuses a request without a
look at it if the headers that it reads state no clear length, or else if they
are too long. It refuses the body of a request whose headers state another
length than it has.

The path of a method is scanned once, from the left: some characters are
refused, a question mark begins the query, where other characters are refused,
and a number sign cuts the rest off without looking at it.

A message has one text as its first field, which is left out where it is
empty. A frame is a byte that says that the message is not compressed,
the length of the message in four bytes, the most significant one first,
and the message.
-/

namespace Redial.Wire

/-- Whether a character is refused in a path and in a query: blanks, controls
and angle brackets. -/
def isRefused (char : Char) : Bool :=
  char.toNat ≤ 0x20 || char.toNat = 0x7F || char == '<' || char == '>'

/-- The query of a path, after its question mark. -/
def scanQuery : List Char → Option (List Char)
  | [] => some []
  | char :: rest =>
    if char = '#' then some []
    else if isRefused char || char == '"' then none
    else (scanQuery rest).map (char :: ·)

/-- The path up to a number sign, if no character before it is refused. -/
def scanPath : List Char → Option (List Char)
  | [] => some []
  | char :: rest =>
    if char = '#' then some []
    else if char = '?' then (scanQuery rest).map (char :: ·)
    else if isRefused char || char == '\x60' then none
    else (scanPath rest).map (char :: ·)

/-- The path under which a method is called. -/
def methodPath (service method : String) : String :=
  "/" ++ service ++ "/" ++ method

/-- The path as it is sent, unless a character in it is refused. -/
def sentPath? (path : String) : Option String :=
  (scanPath path.toList).map String.ofList

/-- A number in groups of seven bits, the least significant group first. All
groups but the last have their highest bit set. Ten groups hold 64 bits. -/
def variableLength : (groups : Nat) → Nat → List UInt8
  | 0, _ => []
  | groups + 1, value =>
    if value < 128 then [UInt8.ofNat value]
    else UInt8.ofNat (128 + value % 128) ::
      variableLength groups (value / 128)

/-- The tag of the first field, which has a length and that many bytes. -/
def textTag : UInt8 := 0x0A

def messageBytes (text : String) : List UInt8 :=
  let content := Text.utf8 text
  if content.isEmpty then []
  else textTag :: (variableLength 10 content.length ++ content)

/-- A number in four bytes, the most significant one first. -/
def fourBytes (value : Nat) : List UInt8 :=
  [UInt8.ofNat (value >>> 24), UInt8.ofNat (value >>> 16),
    UInt8.ofNat (value >>> 8), UInt8.ofNat value]

def frame (message : List UInt8) : List UInt8 :=
  0 :: (fourBytes message.length ++ message)

structure Request where
  path : String
  metadata : Metadata
  message : String
  deriving DecidableEq, Repr, Inhabited

/-- A request as its peer sees it. -/
structure SeenRequest where
  path : String
  metadata : Metadata
  body : List UInt8
  deriving DecidableEq, Repr, Inhabited

/-- What a channel leads to: a peer that replies or fails, no connection, or
no worker any more. -/
inductive Channel where
  | replies (message : String)
  | fails (status : RemoteStatus)
  | refuses
  | gone
  deriving Repr, Inhabited

namespace Request

/-- The request of a call, or the status of a path that may not be sent. -/
def ofInvocation (invocation : Invocation String) :
    Except RemoteStatus Request :=
  match sentPath? (methodPath invocation.service invocation.method) with
  | some path =>
    .ok
      { path, metadata := invocation.metadata,
        message := invocation.payload.message?.getD "" }
  | none =>
    .error
      { code := .invalidArgument,
        message := "Invalid method path: invalid uri character" }

/-- The keys of the headers that every request has. They are not shown
among its metadata. -/
def ownKeys : List String :=
  ["te", typeKey, "user-agent"]

/-- The headers of a request, in the order in which they are sent. -/
def headers (request : Request) : Metadata :=
  sentAlong
    ((((withoutKeys request.metadata protocolKeys).insert
      "te" "trailers").insert
      typeKey "application/grpc").insert
      "user-agent" "redial/1.0.0")

/-- What is sent before the headers, and counts like them. -/
def target (request : Request) : List (String × String) :=
  [(":method", "POST"), (":scheme", "http"), (":authority", "localhost"),
    (":path", request.path)]

def body (request : Request) : List UInt8 :=
  frame (messageBytes request.message)

/-- What the peer sees of a request with this body. -/
def seenWith (request : Request) (body : List UInt8) : SeenRequest :=
  { path := request.path,
    metadata := request.headers.removeAll ownKeys, body }

/-- The status of a request whose headers are too long for the peer. -/
def headersTooLong : RemoteStatus where
  code := .unknown
  message := "grpc-status header missing, mapped from HTTP status code 431"

/-- What the peer makes of a request: it takes it, or it refuses it with a
status, and it sees the request or not. -/
def delivery (request : Request) :
    Except RemoteStatus Unit × Option SeenRequest :=
  let sent := request.target ++ request.headers.entries
  let stated := statedLength ⟨readWithin sizeLimit sent⟩
  if stated = .unclear then (.error brokenStream, none)
  else if !fitsLimit sent then (.error headersTooLong, none)
  else if stated.allows request.body.length then
    (.ok (), some (request.seenWith request.body))
  else (.error brokenStream, some (request.seenWith []))

end Request

/-- What a call comes to, and the request that the peer sees, if it sees
one. -/
structure Exchange where
  outcome : Except RemoteStatus String
  seen? : Option SeenRequest

namespace Channel

/-- The exchange of a call, unless the peer's status cannot be read. -/
def exchange (channel : Channel) (invocation : Invocation String) :
    Except UnreadableDetails Exchange :=
  match channel, Request.ofInvocation invocation with
  | .gone, _ =>
    .ok
      { outcome := .error
          { code := .unavailable,
            message := "Service was not ready: transport error" }
        seen? := none }
  | _, .error status => .ok { outcome := .error status, seen? := none }
  | .refuses, .ok _ =>
    .ok
      { outcome := .error
          { code := .unavailable, message := "connection refused" }
        seen? := none }
  | .replies message, .ok request =>
    let (taken, seen?) := request.delivery
    .ok { outcome := taken.map fun _ => message, seen? }
  | .fails status, .ok request =>
    match request.delivery with
    | (.error refusal, seen?) => .ok { outcome := .error refusal, seen? }
    | (.ok _, seen?) =>
      (receivedStatus status).map fun received =>
        { outcome := .error received, seen? }

/-- What a call comes to, unless the peer's status cannot be read. -/
def call (channel : Channel) (invocation : Invocation String) :
    Except UnreadableDetails (Except Failure String) :=
  (channel.exchange invocation).map fun exchange =>
    exchange.outcome.mapError .status

end Channel

end Redial.Wire
