import Redial.Json.Problem
import Redial.Text.Basic

/-!
String literals of JSON: reading what stands after the opening quote, and
writing. Reading takes every escape of the format, writing uses the short ones
and `\u00XX` for other control characters.
-/

namespace Redial.Json

/-- What is read, with the text that is left, or the first problem met. -/
abbrev Reader (α : Type) := List Char → Except Problem (α × List Char)

namespace Literal

/-- Four hexadecimal digits. Fewer than four bytes are the end of the text. -/
def fourHex : Reader Nat := fun text =>
  match text.take 4 |>.mapM Text.hexValue? with
  | some [first, second, third, fourth] =>
    .ok (4096 * first + 256 * second + 16 * third + fourth, text.drop 4)
  | _ =>
    if (String.ofList (text.take 4)).utf8ByteSize < 4 then
      .error (.endOfText .string)
    else .error .invalidEscape

/-- Whether a 16-bit unit is the first of a pair of surrogates. -/
def isHighSurrogate (unit : Nat) : Bool :=
  0xD800 ≤ unit && unit ≤ 0xDBFF

/-- Whether a 16-bit unit is the second of a pair of surrogates. -/
def isLowSurrogate (unit : Nat) : Bool :=
  0xDC00 ≤ unit && unit ≤ 0xDFFF

/-- The character of the digits after `\u`, which may be a pair of surrogates
in two escapes. -/
def unicode : Reader Char := fun text => do
  let (first, rest) ← fourHex text
  if isLowSurrogate first then .error .loneSurrogate
  else if !isHighSurrogate first then .ok (Char.ofNat first, rest)
  else
    match rest with
    | [] => .error (.endOfText .string)
    | ['\\'] => .error (.endOfText .string)
    | '\\' :: 'u' :: rest =>
      let (second, rest) ← fourHex rest
      if isLowSurrogate second then
        .ok (Char.ofNat
          (0x10000 + 0x400 * (first - 0xD800) + (second - 0xDC00)), rest)
      else .error .loneSurrogate
    | _ => .error .unpairedSurrogate

def escape : Reader Char
  | [] => .error (.endOfText .string)
  | '"' :: rest => .ok ('"', rest)
  | '\\' :: rest => .ok ('\\', rest)
  | '/' :: rest => .ok ('/', rest)
  | 'b' :: rest => .ok ('\x08', rest)
  | 'f' :: rest => .ok ('\x0c', rest)
  | 'n' :: rest => .ok ('\n', rest)
  | 'r' :: rest => .ok ('\r', rest)
  | 't' :: rest => .ok ('\t', rest)
  | 'u' :: rest => unicode rest
  | _ :: _ => .error .invalidEscape

/-- The next character of a literal, or `none` at its closing quote. -/
def next? : Reader (Option Char)
  | [] => .error (.endOfText .string)
  | '"' :: rest => .ok (none, rest)
  | '\\' :: rest => (escape rest).map fun (char, rest) => (some char, rest)
  | char :: rest =>
    if char.toNat < 0x20 then .error .controlCharacter
    else .ok (some char, rest)

/-- The characters up to the closing quote, at most `steps` of them. -/
def upTo : (steps : Nat) → Reader (List Char)
  | 0, _ => .error (.endOfText .string)
  | steps + 1, text => do
    match ← next? text with
    | (none, rest) => .ok ([], rest)
    | (some char, rest) =>
      let (more, rest) ← upTo steps rest
      .ok (char :: more, rest)

/-- The content of a literal, after its opening quote. Every step takes a
character, so the length of the text bounds the steps. -/
def content : Reader String := fun text =>
  (upTo text.length text).map fun (chars, rest) => (String.ofList chars, rest)

def escaped (char : Char) : List Char :=
  match char with
  | '"' => ['\\', '"']
  | '\\' => ['\\', '\\']
  | '\x08' => ['\\', 'b']
  | '\x0c' => ['\\', 'f']
  | '\n' => ['\\', 'n']
  | '\r' => ['\\', 'r']
  | '\t' => ['\\', 't']
  | _ =>
    if char.toNat < 0x20 then '\\' :: 'u' :: Text.hexDigits 4 char.toNat
    else [char]

def write (text : String) : List Char :=
  '"' :: (text.toList.flatMap escaped ++ ['"'])

end Literal

end Redial.Json
