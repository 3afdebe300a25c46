/-!
What the readers of texts share: characters of ASCII in either case,
hexadecimal digits, blanks, and decimal numerals. Characters outside ASCII
have no case here and are never digits; blanks are the characters of the
Unicode property White_Space.
-/

namespace Redial

namespace Text

/-- The text with the letters `A` to `Z` made small. -/
def lower (text : String) : String :=
  String.ofList (text.toList.map Char.toLower)

/-- Whether two texts differ at most in the case of ASCII letters. -/
def sameIgnoringCase (left right : String) : Bool :=
  left.toList.map Char.toLower == right.toList.map Char.toLower

/-- The value of a hexadecimal digit of either case. -/
def hexValue? (digit : Char) : Option Nat :=
  if '0' ≤ digit ∧ digit ≤ '9' then some (digit.toNat - '0'.toNat)
  else if 'a' ≤ digit ∧ digit ≤ 'f' then some (digit.toNat - 'a'.toNat + 10)
  else if 'A' ≤ digit ∧ digit ≤ 'F' then some (digit.toNat - 'A'.toNat + 10)
  else none

def isHexDigit (digit : Char) : Bool :=
  (hexValue? digit).isSome

/-- The lower-case hexadecimal digits of a number, with zeros in front up to
`width` digits. -/
def hexDigits (width value : Nat) : List Char :=
  let digits := Nat.toDigits 16 value
  List.replicate (width - digits.length) '0' ++ digits

/-- Two hexadecimal digits for each byte. -/
def hexOfBytes (bytes : List UInt8) : String :=
  String.ofList (bytes.flatMap fun byte => hexDigits 2 byte.toNat)

/-- Whether a character has the property White_Space. -/
def isBlank (char : Char) : Bool :=
  let code := char.toNat
  (0x09 ≤ code && code ≤ 0x0D) || code == 0x20 || code == 0x85 ||
    code == 0xA0 || code == 0x1680 ||
    (0x2000 ≤ code && code ≤ 0x200A) || code == 0x2028 || code == 0x2029 ||
    code == 0x202F || code == 0x205F || code == 0x3000

/-- The text without the blanks at its ends. -/
def trim (text : List Char) : List Char :=
  ((text.dropWhile isBlank).reverse.dropWhile isBlank).reverse

end Text

namespace Numeral

/-- The decimal digits of a natural number, without leading zeros. -/
def digits (value : Nat) : List Char :=
  Nat.toDigits 10 value

/-- The decimal text of an integer, with a minus sign in front of a negative
one. -/
def ofInt : Int → List Char
  | .ofNat value => digits value
  | .negSucc value => '-' :: digits (value + 1)

def digitValue (digit : Char) : Nat :=
  digit.toNat - '0'.toNat

/-- The value of a run of decimal digits, the most significant one first. -/
def value (run : List Char) : Nat :=
  run.foldl (fun total digit => 10 * total + digitValue digit) 0

/-- A run of at least one digit and nothing else, as a number. -/
def natural? (text : List Char) : Option Nat :=
  if text.isEmpty || !text.all Char.isDigit then none else some (value text)

/-- An integer written as an optional sign and at least one digit. -/
def integer? : List Char → Option Int
  | '-' :: text => (natural? text).map (fun magnitude => -(magnitude : Int))
  | '+' :: text => (natural? text).map (fun magnitude => (magnitude : Int))
  | text => (natural? text).map (fun magnitude => (magnitude : Int))

end Numeral

end Redial
