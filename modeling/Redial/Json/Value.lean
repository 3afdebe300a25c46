import Redial.Json.Literal
import Redial.Number.Binary64

/-!
JSON values. Numbers are integers of 64 bits or floating-point numbers, and an
object is a list of members, so that it can be written in the order of a
declaration. `Json.ofMembers` gives the object that a text with these members
stands for: sorted by name, the last of equal names.

The compact text of a value has no blanks, and members in the order of the
list that holds them.
-/

namespace Redial

inductive Json.Number where
  | integer (value : Int)
  | float (value : Binary64)
  deriving DecidableEq, Repr

inductive Json where
  | null
  | bool (value : Bool)
  | number (value : Json.Number)
  | string (text : String)
  | array (items : List Json)
  | object (members : List (String × Json))
  deriving Repr, Inhabited

namespace Json

def ofInt (value : Int) : Json :=
  .number (.integer value)

def ofInt? (value? : Option Int) : Json :=
  (value?.map ofInt).getD .null

def ofString? (text? : Option String) : Json :=
  (text?.map Json.string).getD .null

def ofBool? (value? : Option Bool) : Json :=
  (value?.map Json.bool).getD .null

/-- Puts a member into a list that is sorted by name, in place of one of
the same name. -/
def insertMember (name : String) (value : Json) :
    List (String × Json) → List (String × Json)
  | [] => [(name, value)]
  | (other, kept) :: rest =>
    if name < other then (name, value) :: (other, kept) :: rest
    else if name = other then (name, value) :: rest
    else (other, kept) :: insertMember name value rest

/-- The object of a list of members, sorted by name. Of equal names the
last one counts. -/
def ofMembers (members : List (String × Json)) : Json :=
  .object (members.foldl
    (fun sorted (name, value) => insertMember name value sorted) [])

/-- The first member of a name, if the value is an object that has one. -/
def member? (name : String) : Json → Option Json
  | .object members => members.lookup name
  | _ => none

def string? : Json → Option String
  | .string text => some text
  | _ => none

def Number.compact : Number → List Char
  | .integer value => Numeral.ofInt value
  | .float value => value.text

mutual

def compact : Json → List Char
  | .null => ['n', 'u', 'l', 'l']
  | .bool true => ['t', 'r', 'u', 'e']
  | .bool false => ['f', 'a', 'l', 's', 'e']
  | .number value => value.compact
  | .string text => Literal.write text
  | .array items => '[' :: (compactItems items ++ [']'])
  | .object members => '\x7b' :: (compactMembers members ++ ['\x7d'])

/-- The texts of the items of a list, with commas between them. -/
def compactItems : List Json → List Char
  | [] => []
  | [item] => compact item
  | item :: items => compact item ++ ',' :: compactItems items

/-- The names and values of the members of an object, with commas
between members. -/
def compactMembers : List (String × Json) → List Char
  | [] => []
  | [(name, value)] => Literal.write name ++ ':' :: compact value
  | (name, value) :: members =>
    Literal.write name ++ ':' ::
      (compact value ++ ',' :: compactMembers members)

end

def text (value : Json) : String :=
  String.ofList value.compact

end Json

end Redial
