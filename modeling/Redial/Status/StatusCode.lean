import Redial.Json.Reader
import Redial.Status.Code
import Redial.Text.Basic

/-!
The failure class of a call: a code of the remote, or the synthetic `timeout`
of a call that was given up locally. As text a class is its number or the word
`timeout`; names are read in any case.

In JSON a class is the number of its code or the word for a timeout. Reading
also takes every string that names a class.
-/

namespace Redial

/-- The failure class of a call. -/
inductive StatusCode where
  | remote (code : Code)
  | timeout
  deriving DecidableEq, Repr, Inhabited

namespace StatusCode

/-- The word for the synthetic class. -/
def timeoutWord : String := "timeout"

/-- The code of the remote, if the class is one. -/
def code? : StatusCode → Option Code
  | .remote code => some code
  | .timeout => none

/-- The name of the class. -/
def name : StatusCode → String
  | .remote code => code.name
  | .timeout => timeoutWord

/-- The text of the class: the number of the code, or the word for a
timeout. -/
def text : StatusCode → String
  | .remote code => String.ofList (Numeral.digits code.toNat)
  | .timeout => timeoutWord

/-- The class as shown to people. -/
def summary : StatusCode → String
  | .remote code => "Grpc(" ++ code.title ++ ")"
  | .timeout => "Timeout"

def ofInt? (number : Int) : Option StatusCode :=
  (Code.ofInt? number).map .remote

def unknownReason (text : String) : String :=
  "Unknown status code: " ++ text

/-- The class of a number, or why there is none. -/
def ofInt (number : Int) : Except String StatusCode :=
  match ofInt? number with
  | some status => .ok status
  | none => .error (unknownReason (String.ofList (Numeral.ofInt number)))

/-- Whether an integer fits in 32 bits with a sign. -/
def isWord (number : Int) : Bool :=
  -2147483648 ≤ number && number ≤ 2147483647

/-- The class that a text names: the word for a timeout, a number of 32 bits,
or the name of a code. -/
def parse (text : String) : Except String StatusCode :=
  if Text.sameIgnoringCase text timeoutWord then .ok .timeout
  else
    match (Numeral.integer? text.toList).filter isWord with
    | some number => ofInt number
    | none =>
      match Code.all.find? fun code =>
          Text.sameIgnoringCase code.name text with
      | some code => .ok (.remote code)
      | none => .error (unknownReason text)

def toJson : StatusCode → Json
  | .remote code => .ofInt code.toNat
  | .timeout => .string timeoutWord

/-- The reason for refusing a value that is neither a number of 32
bits nor a string. -/
def noVariant : String :=
  "data did not match any variant of untagged enum StatusCodeRepr"

def ofJson : Json → Except String StatusCode
  | .number (.integer number) =>
    if isWord number then ofInt number else .error noVariant
  | .string text => parse text
  | _ => .error noVariant

/-- Reads a value and takes it as a class. -/
def read (depth : Nat) : Json.Reader StatusCode := fun text => do
  let (value, rest) ← Json.Reader.value depth text
  match ofJson value with
  | .ok status => .ok (status, rest)
  | .error reason => .error (.rejected reason)

/-- Reads a list of classes. The list is one level of nesting by itself. -/
def readList (depth : Nat) : Json.Reader (List StatusCode) := fun text =>
  match Json.Reader.skipBlanks text, depth with
  | [], _ => .error (.endOfText .value)
  | '[' :: _, 0 => .error .tooDeep
  | '[' :: rest, depth + 1 => Json.Reader.elements (read depth) rest
  | text, _ => .error (Json.Reader.mismatch "a sequence" text)

/-- The classes listed in a JSON text. -/
def listOfText (text : String) : Except Json.Problem (List StatusCode) :=
  Json.Reader.whole (readList Json.maxDepth) text

def listToJson (statuses : List StatusCode) : Json :=
  .array (statuses.map toJson)

end StatusCode

end Redial
