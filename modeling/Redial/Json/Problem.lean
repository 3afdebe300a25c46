import Redial.Number.Shortest
import Redial.Text.Shown

/-!
What a reader of a JSON text can stumble over, and the message for each cause.
The whole message of a reader ends with the position of the problem,
` at line L column C`. Positions are not modelled: the messages here are the
whole ones up to that end.
-/

namespace Redial.Json

/-- What was being read when a text ended. -/
inductive Place where
  | list
  | object
  | string
  | value
  deriving DecidableEq, Repr

/-- What stands in the text where a value of another type was expected. -/
inductive Found where
  | null
  | bool (value : Bool)
  | integer (value : Int)
  | float (value : Binary64)
  | string (text : String)
  | sequence
  | map
  deriving DecidableEq, Repr

/-- The first problem met in a text. -/
inductive Problem where
  | endOfText (within : Place)
  | expectedColon
  | expectedListEnd
  | expectedObjectEnd
  | expectedWord
  | expectedValue
  | invalidEscape
  | invalidNumber
  | numberOutOfRange
  | controlCharacter
  | keyNotString
  | loneSurrogate
  | unpairedSurrogate
  | trailingComma
  | trailingCharacters
  | tooDeep
  | wrongType (found : Found) (expected : String)
  | outOfRange (value : Int) (expected : String)
  | unknownField (name : String) (declared : List String)
  | duplicateField (name : String)
  | rejected (reason : String)
  deriving DecidableEq, Repr

def Place.name : Place → String
  | .list => "a list"
  | .object => "an object"
  | .string => "a string"
  | .value => "a value"

/-- The declared names as an enumeration: one, one or another, or one of
several. -/
def enumeration (declared : List String) : String :=
  let quoted := declared.map fun name => "`" ++ name ++ "`"
  match quoted with
  | [first, second] => first ++ " or " ++ second
  | [only] => only
  | several => "one of " ++ String.intercalate ", " several

/-- Drops a prefix from a text that has it. -/
def afterPrefix? : List Char → List Char → Option (List Char)
  | [], text => some text
  | _ :: _, [] => none
  | expected :: more, char :: text =>
    if expected = char then afterPrefix? more text else none

/-- A run of digits at the start whose value fits in 64 bits, and the rest. -/
def leadingWord? (text : List Char) : Option (List Char) :=
  let digits := text.takeWhile Char.isDigit
  if digits.isEmpty || UInt64.size ≤ Numeral.value digits.reverse then none
  else some (text.dropWhile Char.isDigit)

/-- A reason without the position, ` at line L column C`, that it may end
with. In the whole message the position of the problem takes its place, and
that is left out here. -/
def withoutPosition (reason : String) : String :=
  let backward := reason.toList.reverse
  let start? := do
    let beforeColumn ← leadingWord? backward
    let beforeWord ← afterPrefix? " column ".toList.reverse beforeColumn
    let beforeLine ← leadingWord? beforeWord
    afterPrefix? " at line ".toList.reverse beforeLine
  match start? with
  | some start => String.ofList start.reverse
  | none => reason

def Found.describe : Found → String
  | .null => "null"
  | .bool value => "boolean `" ++ (if value then "true" else "false") ++ "`"
  | .integer value =>
    "integer `" ++ String.ofList (Numeral.ofInt value) ++ "`"
  | .float value => "floating point `" ++ String.ofList value.text ++ "`"
  | .string text => "string " ++ Text.quoted text
  | .sequence => "sequence"
  | .map => "map"

/-- What is said of a problem. The whole message goes on with the position of
the problem, ` at line L column C`, which is left out here. -/
def Problem.message : Problem → String
  | .endOfText within => "EOF while parsing " ++ within.name
  | .expectedColon => "expected `:`"
  | .expectedListEnd => "expected `,` or `]`"
  | .expectedObjectEnd => "expected `,` or `\x7d`"
  | .expectedWord => "expected ident"
  | .expectedValue => "expected value"
  | .invalidEscape => "invalid escape"
  | .invalidNumber => "invalid number"
  | .numberOutOfRange => "number out of range"
  | .controlCharacter =>
    "control character (\\u0000-\\u001F) found while parsing a string"
  | .keyNotString => "key must be a string"
  | .loneSurrogate => "lone leading surrogate in hex escape"
  | .unpairedSurrogate => "unexpected end of hex escape"
  | .trailingComma => "trailing comma"
  | .trailingCharacters => "trailing characters"
  | .tooDeep => "recursion limit exceeded"
  | .wrongType found expected =>
    "invalid type: " ++ found.describe ++ ", expected " ++ expected
  | .outOfRange value expected =>
    "invalid value: integer `" ++ String.ofList (Numeral.ofInt value) ++
      "`, expected " ++ expected
  | .unknownField name declared =>
    "unknown field `" ++ name ++ "`, expected " ++ enumeration declared
  | .duplicateField name => "duplicate field `" ++ name ++ "`"
  | .rejected reason => withoutPosition reason

end Redial.Json
