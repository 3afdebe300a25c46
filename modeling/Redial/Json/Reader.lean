import Redial.Json.Literal
import Redial.Json.Value

/-!
Strict reading of JSON texts, from the left and without looking back, so that
the first problem met is the one reported. A reader takes the text that is
left and gives the rest; blanks in front of what it reads are its own to skip,
blanks after it are not.
-/

namespace Redial.Json.Reader

/-- Whether a character may stand between the parts of a text. -/
def isBlank (char : Char) : Bool :=
  char == ' ' || char == '\n' || char == '\t' || char == '\r'

def skipBlanks (text : List Char) : List Char :=
  text.dropWhile isBlank

/-- The rest of a word whose first letter has been seen. -/
def word : (letters : List Char) → Reader Unit
  | [], text => .ok ((), text)
  | _ :: _, [] => .error (.endOfText .value)
  | letter :: letters, char :: text =>
    if char = letter then word letters text else .error .expectedWord

namespace Numeric

/-- Appends digits to a number as long as it stays within 64 bits. Gives the
number and how many digits were left over. -/
def gather (number : Nat) : List Char → Nat × Nat
  | [] => (number, 0)
  | digit :: digits =>
    let longer := 10 * number + Numeral.digitValue digit
    if longer < UInt64.size then gather longer digits
    else (number, digits.length + 1)

/-- The floating-point number of gathered digits. -/
def scaled (negative : Bool) (digits : Nat) (exponent : Int) :
    Except Problem Number :=
  match Binary64.ofDecimal? digits exponent with
  | some magnitude =>
    .ok (.float (if negative then magnitude.opposite else magnitude))
  | none => .error .numberOutOfRange

/-- The number of a run of digits alone. It is an integer if 64 bits hold it,
except for a negative zero. -/
def plain (negative : Bool) (digits dropped : Nat) : Except Problem Number :=
  if dropped = 0 ∧ !negative then .ok (.integer digits)
  else if dropped = 0 ∧ 0 < digits ∧ digits ≤ UInt64.size / 2 then
    .ok (.integer (-(digits : Int)))
  else scaled negative digits dropped

/-- The part of a number after `e` or `E`, for the digits and the exponent
read before it. -/
def exponentPart (negative : Bool) (digits : Nat) (exponent : Int) :
    Reader Number := fun text => do
  let (downward, text) :=
    match text with
    | '-' :: text => (true, text)
    | '+' :: text => (false, text)
    | text => (false, text)
  match text.takeWhile Char.isDigit, text with
  | [], [] => .error (.endOfText .value)
  | [], _ => .error .invalidNumber
  | run, _ =>
    let rest := text.dropWhile Char.isDigit
    let shift := Numeral.value run
    if UInt32.size / 2 ≤ shift then
      if digits ≠ 0 ∧ !downward then .error .numberOutOfRange
      else .ok (.float { Binary64.zero with negative }, rest)
    else
      let number ← scaled negative digits
        (if downward then exponent - shift else exponent + shift)
      .ok (number, rest)

/-- The part of a number after its point, for the digits read before it and
the number of further digits in front of the point. -/
def fractionPart (negative : Bool) (digits dropped : Nat) :
    Reader Number := fun text => do
  match text.takeWhile Char.isDigit, text with
  | [], [] => .error (.endOfText .value)
  | [], _ => .error .invalidNumber
  | run, _ =>
    let (digits, unused) := gather digits run
    let exponent : Int := dropped + unused - run.length
    match text.dropWhile Char.isDigit with
    | 'e' :: rest => exponentPart negative digits exponent rest
    | 'E' :: rest => exponentPart negative digits exponent rest
    | rest =>
      let number ← scaled negative digits exponent
      .ok (number, rest)

/-- A number, after its minus sign if it has one. -/
def unsigned (negative : Bool) : Reader Number := fun text => do
  match text.takeWhile Char.isDigit, text with
  | [], [] => .error (.endOfText .value)
  | [], _ => .error .invalidNumber
  | '0' :: _ :: _, _ => .error .invalidNumber
  | run, _ =>
    let (digits, dropped) := gather 0 run
    match text.dropWhile Char.isDigit with
    | '.' :: rest => fractionPart negative digits dropped rest
    | 'e' :: rest => exponentPart negative digits dropped rest
    | 'E' :: rest => exponentPart negative digits dropped rest
    | rest =>
      let number ← plain negative digits dropped
      .ok (number, rest)

end Numeric

def number : Reader Number
  | '-' :: rest => Numeric.unsigned true rest
  | text => Numeric.unsigned false text

/-- What a number counts as where another type was expected. -/
def foundNumber : Number → Found
  | .integer value => .integer value
  | .float value => .float value

/-- What stands at the start of a text that begins without blanks. -/
def found : List Char → Except Problem Found
  | 'n' :: rest => (word ['u', 'l', 'l'] rest).map fun _ => .null
  | 't' :: rest => (word ['r', 'u', 'e'] rest).map fun _ => .bool true
  | 'f' :: rest => (word ['a', 'l', 's', 'e'] rest).map fun _ => .bool false
  | '"' :: rest => (Literal.content rest).map fun (text, _) => .string text
  | '[' :: _ => .ok .sequence
  | '\x7b' :: _ => .ok .map
  | char :: rest =>
    if char == '-' || char.isDigit then
      (number (char :: rest)).map fun (value, _) => foundNumber value
    else .error .expectedValue
  | [] => .error .expectedValue

/-- The problem of a text that does not start with a value of the
expected type. -/
def mismatch (expected : String) (text : List Char) : Problem :=
  match found text with
  | .ok found => .wrongType found expected
  | .error problem => problem

def boolean : Reader Bool := fun text =>
  match skipBlanks text with
  | [] => .error (.endOfText .value)
  | 't' :: rest =>
    (word ['r', 'u', 'e'] rest).map fun (_, rest) => (true, rest)
  | 'f' :: rest =>
    (word ['a', 'l', 's', 'e'] rest).map fun (_, rest) => (false, rest)
  | text => .error (mismatch "a boolean" text)

def text : Reader String := fun text =>
  match skipBlanks text with
  | [] => .error (.endOfText .value)
  | '"' :: rest => Literal.content rest
  | text => .error (mismatch "a string" text)

/-- An integer between two bounds. The name of its type stands in the
messages. -/
def integer (low high : Int) (typeName : String) :
    Reader Int := fun text => do
  match skipBlanks text with
  | [] => .error (.endOfText .value)
  | char :: rest =>
    if char == '-' || char.isDigit then
      match ← number (char :: rest) with
      | (.integer value, rest) =>
        if low ≤ value ∧ value ≤ high then .ok (value, rest)
        else .error (.outOfRange value typeName)
      | (.float value, _) => .error (.wrongType (.float value) typeName)
    else .error (mismatch typeName (char :: rest))

def unsigned64 : Reader UInt64 := fun text =>
  (integer 0 18446744073709551615 "u64" text).map fun (value, rest) =>
    (UInt64.ofNat value.toNat, rest)

def signed64 : Reader Int64 := fun text =>
  (integer (-9223372036854775808) 9223372036854775807 "i64" text).map
      fun (value, rest) =>
    (Int64.ofInt value, rest)

def optional {α : Type} (read : Reader α) : Reader (Option α) := fun text =>
  match skipBlanks text with
  | 'n' :: rest =>
    (word ['u', 'l', 'l'] rest).map fun (_, rest) => (none, rest)
  | text => (read text).map fun (value, rest) => (some value, rest)

/-- Whether another element of a list follows. Stops in front of it, or of the
closing bracket. -/
def anotherElement (isFirst : Bool) : Reader Bool := fun text =>
  match skipBlanks text with
  | [] => .error (.endOfText .list)
  | ']' :: rest => .ok (false, ']' :: rest)
  | char :: rest =>
    if isFirst then .ok (true, char :: rest)
    else if char = ',' then
      match skipBlanks rest with
      | [] => .error (.endOfText .value)
      | ']' :: _ => .error .trailingComma
      | rest => .ok (true, rest)
    else .error .expectedListEnd

/-- The elements of a list up to its closing bracket, at most `steps` of
them. -/
def elementsUpTo {α : Type} (read : Reader α) :
    (steps : Nat) → (isFirst : Bool) → Reader (List α)
  | 0, _, _ => .error (.endOfText .list)
  | steps + 1, isFirst, text => do
    let (more, text) ← anotherElement isFirst text
    if more then
      let (element, text) ← read text
      let (elements, text) ← elementsUpTo read steps false text
      .ok (element :: elements, text)
    else .ok ([], text)

def closeList : Reader Unit := fun text =>
  match skipBlanks text with
  | [] => .error (.endOfText .list)
  | ']' :: rest => .ok ((), rest)
  | ',' :: rest =>
    match skipBlanks rest with
    | ']' :: _ => .error .trailingComma
    | _ => .error .trailingCharacters
  | _ => .error .trailingCharacters

/-- A list, after its opening bracket. An element takes at least one
character, so the length of the text bounds their number. -/
def elements {α : Type} (read : Reader α) : Reader (List α) := fun text => do
  let (elements, text) ← elementsUpTo read (text.length + 1) true text
  let (_, text) ← closeList text
  .ok (elements, text)

/-- Whether another member of an object follows. Stops in front of its name,
or of the closing brace. -/
def anotherMember (isFirst : Bool) : Reader Bool := fun text =>
  match skipBlanks text with
  | [] => .error (.endOfText .object)
  | '\x7d' :: rest => .ok (false, '\x7d' :: rest)
  | char :: rest =>
    if isFirst then
      if char = '"' then .ok (true, char :: rest) else .error .keyNotString
    else if char = ',' then
      match skipBlanks rest with
      | [] => .error (.endOfText .value)
      | '"' :: rest => .ok (true, '"' :: rest)
      | '\x7d' :: _ => .error .trailingComma
      | _ => .error .keyNotString
    else .error .expectedObjectEnd

/-- The name of a member, in front of its opening quote. -/
def memberName : Reader String
  | '"' :: rest => Literal.content rest
  | _ => .error .keyNotString

def colon : Reader Unit := fun text =>
  match skipBlanks text with
  | [] => .error (.endOfText .object)
  | ':' :: rest => .ok ((), rest)
  | _ => .error .expectedColon

def closeObject : Reader Unit := fun text =>
  match skipBlanks text with
  | [] => .error (.endOfText .object)
  | '\x7d' :: rest => .ok ((), rest)
  | ',' :: _ => .error .trailingComma
  | _ => .error .trailingCharacters

/-- The members of an object up to its closing brace, at most `steps` of
them. -/
def membersUpTo (read : Reader Json) :
    (steps : Nat) → (isFirst : Bool) → Reader (List (String × Json))
  | 0, _, _ => .error (.endOfText .object)
  | steps + 1, isFirst, text => do
    let (more, text) ← anotherMember isFirst text
    if more then
      let (name, text) ← memberName text
      let (_, text) ← colon text
      let (value, text) ← read text
      let (members, text) ← membersUpTo read steps false text
      .ok ((name, value) :: members, text)
    else .ok ([], text)

def members (read : Reader Json) :
    Reader (List (String × Json)) := fun text => do
  let (members, text) ← membersUpTo read (text.length + 1) true text
  let (_, text) ← closeObject text
  .ok (members, text)

/-- A value, whose lists and objects hold what `inner?` reads; without it
they are too deep. -/
def valueHolding (inner? : Option (Reader Json)) :
    Reader Json := fun text => do
  match skipBlanks text with
  | [] => .error (.endOfText .value)
  | 'n' :: rest =>
    (word ['u', 'l', 'l'] rest).map fun (_, rest) => (.null, rest)
  | 't' :: rest =>
    (word ['r', 'u', 'e'] rest).map fun (_, rest) => (.bool true, rest)
  | 'f' :: rest =>
    (word ['a', 'l', 's', 'e'] rest).map fun (_, rest) => (.bool false, rest)
  | '"' :: rest =>
    (Literal.content rest).map fun (text, rest) => (.string text, rest)
  | '[' :: rest =>
    match inner? with
    | none => .error .tooDeep
    | some inner =>
      (elements inner rest).map fun (items, rest) => (.array items, rest)
  | '\x7b' :: rest =>
    match inner? with
    | none => .error .tooDeep
    | some inner =>
      (members inner rest).map fun (found, rest) => (ofMembers found, rest)
  | char :: rest =>
    if char == '-' || char.isDigit then
      (number (char :: rest)).map fun (value, rest) => (.number value, rest)
    else .error .expectedValue

/-- A value with lists and objects nested at most `depth` deep. -/
def value : (depth : Nat) → Reader Json
  | 0 => valueHolding none
  | depth + 1 => valueHolding (some (value depth))

/-- A text that holds one thing and blanks around it. -/
def whole {α : Type} (read : Reader α) (text : String) :
    Except Problem α := do
  let (value, rest) ← read text.toList
  match skipBlanks rest with
  | [] => .ok value
  | _ => .error .trailingCharacters

end Redial.Json.Reader

namespace Redial.Json

/-- How deep lists and objects may be nested in a text. -/
def maxDepth : Nat := 127

def parse (text : String) : Except Problem Json :=
  Reader.whole (Reader.value maxDepth) text

end Redial.Json
