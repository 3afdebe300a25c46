import Redial.Text.Basic

/-!
Texts as bytes, and bytes in texts. UTF-8 gives the bytes of a text and the
text of some bytes. Bytes that are no text have a first problem: the character
at an index breaks off after some bytes, because the next one does not
continue it, or the bytes end within it.

Percent-encoding writes a byte as a percent sign and its two hexadecimal
digits. Reading takes digits of either case, and a percent sign without two
digits behind it stands for itself.

In base 64 each symbol stands for six bits, and four symbols for three
bytes. Two or three symbols at the end stand for one or two bytes, and none
of the bits that remain is set. The signs that fill the last four characters
may be left out.
-/

namespace Redial.Text

def utf8 (text : String) : List UInt8 :=
  text.toUTF8.toList

namespace Utf8

/-- Why bytes are no text. -/
inductive Problem where
  | invalid (index length : Nat)
  | incomplete (index : Nat)
  deriving DecidableEq, Repr, Inhabited

def Problem.message : Problem → String
  | .invalid index length =>
    "invalid utf-8 sequence of " ++ String.ofList (Numeral.digits length) ++
      " bytes from index " ++ String.ofList (Numeral.digits index)
  | .incomplete index =>
    "incomplete utf-8 byte sequence from index " ++
      String.ofList (Numeral.digits index)

abbrev Bounds := Nat × Nat

/-- The bounds of a byte that continues a character. -/
def continuing : Bounds := (0x80, 0xBF)

/-- The bits that a first byte gives to its character, and the bounds of
the bytes that continue it. The second byte has narrower bounds where the
character would have a shorter form, be a surrogate or lie beyond the
last code point. -/
def first? (byte : Nat) : Option (Nat × List Bounds) :=
  if byte < 0x80 then some (byte, [])
  else if byte < 0xC2 then none
  else if byte < 0xE0 then some (byte - 0xC0, [continuing])
  else if byte = 0xE0 then some (byte - 0xE0, [(0xA0, 0xBF), continuing])
  else if byte = 0xED then some (byte - 0xE0, [(0x80, 0x9F), continuing])
  else if byte < 0xF0 then some (byte - 0xE0, [continuing, continuing])
  else if byte = 0xF0 then
    some (byte - 0xF0, [(0x90, 0xBF), continuing, continuing])
  else if byte < 0xF4 then
    some (byte - 0xF0, [continuing, continuing, continuing])
  else if byte = 0xF4 then
    some (byte - 0xF0, [(0x80, 0x8F), continuing, continuing])
  else none

/-- A character whose first bytes are read: the index at which it begins, its
bits so far, and the bounds of the next byte and of those after it. -/
structure Unfinished where
  start : Nat
  bits : Nat
  next : Bounds
  further : List Bounds
  deriving DecidableEq, Repr, Inhabited

/-- The characters of bytes from an index on, within a character or between
two. -/
def charsFrom : (index : Nat) → Option Unfinished → List UInt8 →
      Except Problem (List Char)
  | _, none, [] => .ok []
  | _, some unfinished, [] => .error (.incomplete unfinished.start)
  | index, none, byte :: bytes =>
    match first? byte.toNat with
    | none => .error (.invalid index 1)
    | some (bits, []) => do
      let chars ← charsFrom (index + 1) none bytes
      .ok (Char.ofNat bits :: chars)
    | some (bits, next :: further) =>
      charsFrom (index + 1) (some ⟨index, bits, next, further⟩) bytes
  | index, some unfinished, byte :: bytes =>
    if unfinished.next.1 ≤ byte.toNat ∧ byte.toNat ≤ unfinished.next.2 then
      let bits := 64 * unfinished.bits + byte.toNat % 64
      match unfinished.further with
      | [] => do
        let chars ← charsFrom (index + 1) none bytes
        .ok (Char.ofNat bits :: chars)
      | next :: further =>
        charsFrom (index + 1)
          (some ⟨unfinished.start, bits, next, further⟩) bytes
    else .error (.invalid unfinished.start (index - unfinished.start))

/-- The text of some bytes, or the first problem that they have. -/
def decode (bytes : List UInt8) : Except Problem String :=
  (charsFrom 0 none bytes).map String.ofList

end Utf8

namespace Percent

/-- A byte with a percent sign, in capital digits. -/
def encodedByte (byte : UInt8) : List Char :=
  '%' :: (hexDigits 2 byte.toNat).map Char.toUpper

/-- The text in which all characters but the plain ones are written by their
bytes. -/
def encode (isPlain : Char → Bool) (text : String) : String :=
  String.ofList (text.toList.flatMap fun char =>
    if isPlain char then [char]
    else (utf8 (String.singleton char)).flatMap encodedByte)

/-- The bytes that characters stand for. -/
def bytesOf : List Char → List UInt8
  | '%' :: high :: low :: rest =>
    match hexValue? high, hexValue? low with
    | some highValue, some lowValue =>
      UInt8.ofNat (16 * highValue + lowValue) :: bytesOf rest
    | _, _ => utf8 "%" ++ bytesOf (high :: low :: rest)
  | char :: rest => utf8 (String.singleton char) ++ bytesOf rest
  | [] => []

/-- The bytes that a text stands for. -/
def decode (text : String) : List UInt8 :=
  bytesOf text.toList

end Percent

namespace Base64

/-- The bits of a symbol: the letters, capital ones first, the digits,
and two signs. -/
def symbolValue? (symbol : Char) : Option Nat :=
  if 'A' ≤ symbol ∧ symbol ≤ 'Z' then some (symbol.toNat - 'A'.toNat)
  else if 'a' ≤ symbol ∧ symbol ≤ 'z' then
    some (symbol.toNat - 'a'.toNat + 26)
  else if '0' ≤ symbol ∧ symbol ≤ '9' then
    some (symbol.toNat - '0'.toNat + 52)
  else if symbol = '+' then some 62
  else if symbol = '/' then some 63
  else none

/-- The bits of some symbols, those of the first one in front. -/
def bitsOf? (symbols : List Char) : Option Nat :=
  symbols.foldlM (fun bits symbol =>
    (symbolValue? symbol).map (64 * bits + ·)) 0

/-- The one byte of the last two symbols. -/
def oneByte? (first second : Char) : Option (List UInt8) :=
  (bitsOf? [first, second]).bind fun bits =>
    if bits % 16 = 0 then some [UInt8.ofNat (bits / 16)] else none

/-- The two bytes of the last three symbols. -/
def twoBytes? (first second third : Char) : Option (List UInt8) :=
  (bitsOf? [first, second, third]).bind fun bits =>
    if bits % 4 = 0 then
      some [UInt8.ofNat (bits / 1024), UInt8.ofNat (bits / 4)] else none

/-- The bytes that characters stand for. -/
def bytesOf? : List Char → Option (List UInt8)
  | [] => some []
  | [first, second] => oneByte? first second
  | [first, second, '='] => oneByte? first second
  | [first, second, '=', '='] => oneByte? first second
  | [first, second, third] => twoBytes? first second third
  | [first, second, third, '='] => twoBytes? first second third
  | first :: second :: third :: fourth :: rest =>
    (bitsOf? [first, second, third, fourth]).bind fun bits =>
      (bytesOf? rest).map
        ([UInt8.ofNat (bits / 65536), UInt8.ofNat (bits / 256),
          UInt8.ofNat bits] ++ ·)
  | _ => none

def decode? (text : String) : Option (List UInt8) :=
  bytesOf? text.toList

end Base64

end Redial.Text
