import Redial.Json.Reader
import Redial.Json.Value

/-!
The texts of JSON values. One value has many texts: blanks may stand in
front of every token, and a character of a string may be written as itself
or by an escape. `Written value text` says that a text without blanks at its
ends is one of a value. Of numbers only the integers are tied to their
texts. Any numeral may be the text of any other number, as nothing here
depends on what it comes to.
-/

namespace Redial

/-- The letters that follow a backslash, with the characters that they stand
for. -/
def Json.shortEscapes : List (Char × Char) :=
  [('"', '"'), ('\\', '\\'), ('/', '/'), ('b', '\x08'), ('f', '\x0c'),
    ('n', '\n'), ('r', '\r'), ('t', '\t')]

/-- Four hexadecimal digits of either case and the number that they stand
for. -/
inductive Json.FourDigits : List Char → Nat → Prop where
  | intro {first second third fourth : Char} {a b c d : Nat}
      (hfirst : Text.hexValue? first = some a)
      (hsecond : Text.hexValue? second = some b)
      (hthird : Text.hexValue? third = some c)
      (hfourth : Text.hexValue? fourth = some d) :
      FourDigits [first, second, third, fourth]
        (4096 * a + 256 * b + 16 * c + d)

namespace Json.Literal

/-- The texts of one character between quotes. -/
inductive CharWritten : Char → List Char → Prop where
  | itself {char : Char} (hprintable : 0x20 ≤ char.toNat)
      (hquote : char ≠ '"') (hbackslash : char ≠ '\\') :
      CharWritten char [char]
  | short {letter char : Char} (hshort : (letter, char) ∈ shortEscapes) :
      CharWritten char ['\\', letter]
  | unit {char : Char} {digits : List Char}
      (hdigits : FourDigits digits char.toNat) :
      CharWritten char ('\\' :: 'u' :: digits)
  | pair {char : Char} {high low : Nat} {first second : List Char}
      (hfirst : FourDigits first (0xD800 + high))
      (hsecond : FourDigits second (0xDC00 + low)) (hhigh : high < 0x400)
      (hlow : low < 0x400)
      (hchar : char.toNat = 0x10000 + 0x400 * high + low) :
      CharWritten char ('\\' :: 'u' :: (first ++ '\\' :: 'u' :: second))

/-- The texts of some characters behind an opening quote, with the closing
one. -/
inductive Written : List Char → List Char → Prop where
  | close : Written [] ['"']
  | char {char : Char} {chars text rest : List Char}
      (hchar : CharWritten char text) (hrest : Written chars rest) :
      Written (char :: chars) (text ++ rest)

end Json.Literal

namespace Json

/-- At least one digit, and nothing else. -/
def IsDigits (run : List Char) : Prop :=
  run ≠ [] ∧ ∀ digit ∈ run, digit.isDigit = true

inductive IsFraction : List Char → Prop where
  | absent : IsFraction []
  | present {run : List Char} (hrun : IsDigits run) : IsFraction ('.' :: run)

inductive IsExponent : List Char → Prop where
  | absent : IsExponent []
  | present {letter : Char} {sign run : List Char}
      (hletter : letter = 'e' ∨ letter = 'E')
      (hsign : sign = [] ∨ sign = ['+'] ∨ sign = ['-'])
      (hrun : IsDigits run) :
      IsExponent (letter :: (sign ++ run))

/-- A numeral: digits without a zero in front, with or without a sign, a
fraction and an exponent. -/
inductive IsNumeral : List Char → Prop where
  | intro {sign whole fraction exponent : List Char}
      (hsign : sign = [] ∨ sign = ['-']) (hwhole : IsDigits whole)
      (hzero : ∀ run, whole = '0' :: run → run = [])
      (hfraction : IsFraction fraction) (hexponent : IsExponent exponent) :
      IsNumeral (sign ++ (whole ++ (fraction ++ exponent)))

/-- The texts of a number. -/
inductive NumberWritten : Number → List Char → Prop where
  | integer {value : Int} (hlow : -9223372036854775808 ≤ value)
      (hhigh : value ≤ 18446744073709551615) :
      NumberWritten (.integer value) (Numeral.ofInt value)
  | float {value : Binary64} {text : List Char} (hnumeral : IsNumeral text) :
      NumberWritten (.float value) text

/-- Blanks that may stand between tokens, or none. -/
def Blanks (text : List Char) : Prop :=
  ∀ char ∈ text, Reader.isBlank char = true

/-- What stands in front of an item or a member: nothing for the first one,
and a comma for the others. -/
inductive Separator : (isFirst : Bool) → List Char → Prop where
  | first : Separator true []
  | comma {blanks : List Char} (hblanks : Blanks blanks) :
      Separator false (blanks ++ [','])

mutual

/-- The texts of a value. -/
inductive Written : Json → List Char → Prop where
  | nullWord : Written .null ['n', 'u', 'l', 'l']
  | trueWord : Written (.bool true) ['t', 'r', 'u', 'e']
  | falseWord : Written (.bool false) ['f', 'a', 'l', 's', 'e']
  | number {value : Number} {text : List Char}
      (hnumber : NumberWritten value text) :
      Written (.number value) text
  | string {value : String} {text : List Char}
      (hliteral : Literal.Written value.toList text) :
      Written (.string value) ('"' :: text)
  | array {items : List Json} {text : List Char}
      (hitems : ItemsWritten true items text) :
      Written (.array items) ('[' :: text)
  | object {members : List (String × Json)} {text : List Char}
      (hmembers : MembersWritten true members text) :
      Written (.object members) ('\x7b' :: text)

/-- The texts of the items of a list, with the closing bracket. -/
inductive ItemsWritten : (isFirst : Bool) → List Json → List Char → Prop where
  | close {isFirst : Bool} {blanks : List Char} (hblanks : Blanks blanks) :
      ItemsWritten isFirst [] (blanks ++ [']'])
  | item {isFirst : Bool} {value : Json} {items : List Json}
      {separator blanks text rest : List Char}
      (hseparator : Separator isFirst separator) (hblanks : Blanks blanks)
      (hvalue : Written value text) (hrest : ItemsWritten false items rest) :
      ItemsWritten isFirst (value :: items)
        (separator ++ (blanks ++ (text ++ rest)))

/-- The texts of the members of an object, with the closing brace. -/
inductive MembersWritten :
    (isFirst : Bool) → List (String × Json) → List Char → Prop where
  | close {isFirst : Bool} {blanks : List Char} (hblanks : Blanks blanks) :
      MembersWritten isFirst [] (blanks ++ ['\x7d'])
  | member {isFirst : Bool} {name : String} {value : Json}
      {members : List (String × Json)}
      {separator before literal between blanks text rest : List Char}
      (hseparator : Separator isFirst separator) (hbefore : Blanks before)
      (hname : Literal.Written name.toList literal)
      (hbetween : Blanks between) (hblanks : Blanks blanks)
      (hvalue : Written value text)
      (hrest : MembersWritten false members rest) :
      MembersWritten isFirst ((name, value) :: members)
        (separator ++ (before ++ '"' :: (literal ++ (between ++ ':' ::
          (blanks ++ (text ++ rest))))))

end

end Json

end Redial
