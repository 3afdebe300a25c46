import Redial.Metadata.Basic
import Redial.Text.Basic

/-!
Headers on a connection, as lists of keys and values. Some keys belong to the
protocol and are never taken from metadata. Others concern one connection and
are not sent along, and its own header may name more of those. The values of a
key are sent one after the other. A list of headers must stay below a size,
and what comes after that is not read. The length that headers state must be
that of the body.
-/

namespace Redial.Wire

/-- The keys of the protocol itself, which are never taken from metadata. -/
def protocolKeys : List String :=
  ["te", "user-agent", "content-type", "grpc-message", "grpc-message-type",
    "grpc-status"]

def connectionKey : String := "connection"

/-- The keys that concern one connection and are not sent along. -/
def connectionKeys : List String :=
  ["keep-alive", "proxy-connection", "transfer-encoding", "upgrade",
    connectionKey]

def lengthKey : String := "content-length"

def firstValue? (headers : Metadata) (key : String) : Option String :=
  (headers.values key).head?

/-- The keys that are named in a value, separated by commas and with
blanks around them. -/
def listedKeys (value : String) : List String :=
  (value.splitOn ",").map fun name =>
    Text.lower (String.ofList (Text.trim name.toList))

/-- The keys that the connection's own header names. Only its first value
counts, and only if it is plain text. -/
def namedKeys (headers : Metadata) : List String :=
  (((firstValue? headers connectionKey).filter Metadata.isPlain).map
    listedKeys).getD []

/-- Takes a key out of a list of keys. The last one moves to its place. -/
def takeOut (keys : List String) (key : String) : List String :=
  if keys.contains key then
    keys.dropLast.map fun other =>
      if other = key then keys.getLastD key else other
  else keys

/-- The headers without some keys, which are taken out one by one, and with
all values of a key next to each other. -/
def withoutKeys (headers : Metadata) (keys : List String) : Metadata :=
  ⟨(keys.foldl takeOut headers.keys).flatMap fun key =>
    (headers.values key).map fun value => (key, value)⟩

def sentAlong (headers : Metadata) : Metadata :=
  withoutKeys headers (connectionKeys ++ namedKeys headers)

/-- The size of one header, which counts 32 bytes more than its key
and value have. -/
def headerSize (header : String × String) : Nat :=
  header.1.utf8ByteSize + header.2.utf8ByteSize + 32

/-- The size that no list of headers may reach. -/
def sizeLimit : Nat := 16384

/-- The size of a list of headers. -/
def listSize (headers : List (String × String)) : Nat :=
  headers.foldl (fun size header => size + headerSize header) 0

/-- Whether a list of headers stays below the limit. -/
def fitsLimit (headers : List (String × String)) : Bool :=
  listSize headers < sizeLimit

/-- The headers that are read while their size stays below a limit. One that
reaches it is lost, as are all that come after it. -/
def readWithin :
    (limit : Nat) → List (String × String) → List (String × String)
  | _, [] => []
  | limit, header :: headers =>
    if headerSize header < limit then
      header :: readWithin (limit - headerSize header) headers
    else []

/-- The length that a text of at most 19 digits states. No digits at all are
zero. -/
def lengthOfText? (text : String) : Option Nat :=
  if text.length ≤ 19 ∧ text.toList.all Char.isDigit then
    some (Numeral.value text.toList) else none

/-- What headers say about the length of the body. It is unclear if a value is
no length, or if two values are different ones. -/
inductive StatedLength where
  | missing
  | unclear
  | bytes (count : Nat)
  deriving DecidableEq, Repr, Inhabited

/-- The length that headers state with the values of its key. -/
def statedLength (headers : Metadata) : StatedLength :=
  match headers.values lengthKey with
  | [] => .missing
  | text :: others =>
    match lengthOfText? text with
    | none => .unclear
    | some count =>
      if others.all fun other => lengthOfText? other == some count then
        .bytes count else .unclear

/-- Whether a body of some bytes is the one of which the length is stated. -/
def StatedLength.allows (stated : StatedLength) (length : Nat) : Bool :=
  match stated with
  | .missing => true
  | .unclear => false
  | .bytes count => count == length

end Redial.Wire
