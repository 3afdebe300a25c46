import Redial.Json.Reader

/-!
Reading records with declared fields. A record is an object with some of the
fields in any order, each at most once, or a list with the values of the first
fields in the order of the declaration. A field that is not written keeps the
value it starts with.
-/

namespace Redial.Json

open Reader

/-- A declared field: its name and how a value is read into the record. -/
structure Field (σ : Type) where
  name : String
  read : (depth : Nat) → σ → Reader σ

namespace Field

variable {σ α : Type}

/-- A field of which the value may be `null`, which leaves it unset. -/
def leaf (name : String) (read : Nat → Reader α) (set : σ → Option α → σ) :
    Field σ where
  name
  read depth record text :=
    (optional (read depth) text).map fun (value?, rest) =>
      (set record value?, rest)

/-- A field that is a record itself. -/
def nested (name : String) (read : Nat → Reader α) (set : σ → α → σ) :
    Field σ where
  name
  read depth record text :=
    (read depth text).map fun (value, rest) => (set record value, rest)

end Field

namespace Record

variable {σ : Type}

/-- Fields by name, up to the closing brace. Unknown and repeated names are
refused as soon as they are read. -/
def named (fields : List (Field σ)) (depth : Nat) :
    (steps : Nat) → (isFirst : Bool) → (seen : List String) → σ → Reader σ
  | 0, _, _, _, _ => .error (.endOfText .object)
  | steps + 1, isFirst, seen, record, text => do
    let (more, text) ← anotherMember isFirst text
    if more then
      let (name, text) ← memberName text
      match fields.find? (fun field => field.name == name) with
      | none => .error (.unknownField name (fields.map Field.name))
      | some field =>
        if seen.contains name then .error (.duplicateField name)
        else
          let (_, text) ← colon text
          let (record, text) ← field.read depth record text
          named fields depth steps false (name :: seen) record text
    else .ok (record, text)

/-- Fields by position, up to the last field or the closing bracket. -/
def positional (depth : Nat) :
    (fields : List (Field σ)) → (isFirst : Bool) → σ → Reader σ
  | [], _, record, text => .ok (record, text)
  | field :: fields, isFirst, record, text => do
    let (more, text) ← anotherElement isFirst text
    if more then
      let (record, text) ← field.read depth record text
      positional depth fields false record text
    else .ok (record, text)

/-- A record of the named type, from its initial value. It is one level of
nesting by itself. -/
def read (typeName : String) (fields : List (Field σ)) (initial : σ)
    (depth : Nat) : Reader σ :=
  fun text => do
    match skipBlanks text, depth with
    | [], _ => .error (.endOfText .value)
    | '[' :: _, 0 => .error .tooDeep
    | '\x7b' :: _, 0 => .error .tooDeep
    | '[' :: rest, depth + 1 =>
      let (record, rest) ← positional depth fields true initial rest
      let (_, rest) ← closeList rest
      .ok (record, rest)
    | '\x7b' :: rest, depth + 1 =>
      let (record, rest) ← named fields depth (rest.length + 1) true []
        initial rest
      let (_, rest) ← closeObject rest
      .ok (record, rest)
    | text, _ => .error (mismatch ("struct " ++ typeName) text)

end Record

end Redial.Json
