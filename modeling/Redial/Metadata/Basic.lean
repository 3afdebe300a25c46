import Redial.Json.Value
import Redial.Text.Basic
import Redial.Text.Bytes

/-!
Metadata of a call: values by key, several to a key and in order. Keys are
held in small letters. The view is `values`: appending adds one value at the
end of one key, inserting leaves exactly one value, removing leaves none, and
none of them touches another key.
-/

namespace Redial

/-- Values by key, in the order in which they came. -/
structure Metadata where
  entries : List (String × String) := []
  deriving DecidableEq, Repr, Inhabited

namespace Metadata

/-- Whether a character may stand in a value: no control character
other than the tab. -/
def isSendableChar (char : Char) : Bool :=
  (0x20 ≤ char.toNat && char.toNat ≠ 0x7F) || char == '\t'

def isSendable (value : String) : Bool :=
  value.toList.all isSendableChar

/-- The values of a key, which is given in small letters. -/
def values (metadata : Metadata) (key : String) : List String :=
  metadata.entries.filterMap fun (name, value) =>
    if name = key then some value else none

/-- The keys that have values, each once. -/
def keys (metadata : Metadata) : List String :=
  (metadata.entries.map Prod.fst).eraseDups

def isEmpty (metadata : Metadata) : Bool :=
  metadata.entries.isEmpty

/-- Adds a value behind the others of its key. -/
def append (metadata : Metadata) (key value : String) : Metadata :=
  ⟨metadata.entries ++ [(Text.lower key, value)]⟩

/-- Takes all values of a key away. -/
def remove (metadata : Metadata) (key : String) : Metadata :=
  ⟨metadata.entries.filter fun (name, _) => name ≠ key⟩

def removeAll (metadata : Metadata) (keys : List String) : Metadata :=
  keys.foldl remove metadata

/-- Gives a key one value in place of all that it had. -/
def insert (metadata : Metadata) (key value : String) : Metadata :=
  ⟨(metadata.remove key).entries ++ [(key, value)]⟩

def ofList (pairs : List (String × String)) : Metadata :=
  pairs.foldl (fun metadata (key, value) => metadata.append key value) {}

/-- Whether a value is shown as text: printable ASCII characters and tabs
only. -/
def isPlain (value : String) : Bool :=
  value.toList.all fun char =>
    (0x20 ≤ char.toNat && char.toNat ≤ 0x7E) || char == '\t'

/-- A value in JSON. One that is not shown as text is given by the
digits of its bytes. -/
def valueToJson (value : String) : Json :=
  if isPlain value then .string value
  else .object [("hex", .string (Text.hexOfBytes (Text.utf8 value)))]

def toJson (metadata : Metadata) : Json :=
  .object (metadata.keys.map fun key =>
    (key, .array ((metadata.values key).map valueToJson)))

theorem values_remove_self (metadata : Metadata) (key : String) :
    (metadata.remove key).values key = [] := by
  simp only [values, remove, List.filterMap_eq_nil_iff, List.mem_filter]
  rintro ⟨name, value⟩ ⟨_, differs⟩
  simp_all

theorem values_remove_of_ne (metadata : Metadata) {key other : String}
    (differs : other ≠ key) :
    (metadata.remove key).values other = metadata.values other := by
  obtain ⟨entries⟩ := metadata
  simp only [values, remove]
  induction entries with
  | nil => rfl
  | cons entry entries ih =>
    obtain ⟨name, value⟩ := entry
    by_cases isKey : name = key
    · have differs' : key ≠ other := fun h => differs h.symm
      simp only [isKey, ne_eq, not_true_eq_false, decide_false,
        Bool.false_eq_true, not_false_eq_true, List.filter_cons_of_neg,
        List.filterMap_cons, differs', if_false, ih]
    · simp only [ne_eq, isKey, not_false_eq_true, decide_true,
        List.filter_cons_of_pos, List.filterMap_cons, ih]

theorem values_insert_self (metadata : Metadata) (key value : String) :
    (metadata.insert key value).values key = [value] := by
  have removed := values_remove_self metadata key
  simp only [values, insert, List.filterMap_append] at removed ⊢
  simp [removed]

theorem values_insert_of_ne (metadata : Metadata) {key other : String}
    (value : String) (differs : other ≠ key) :
    (metadata.insert key value).values other = metadata.values other := by
  have removed := values_remove_of_ne metadata differs
  have differs' : key ≠ other := fun h => differs h.symm
  simp only [values, insert, List.filterMap_append] at removed ⊢
  simp [removed, differs']

end Metadata

end Redial
