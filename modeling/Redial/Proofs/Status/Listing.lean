import Mathlib.Data.List.Forall2
import Redial.Proofs.Json.Lists
import Redial.Proofs.Json.Printing
import Redial.Status.StatusCode

/-!
Reading lists of failure classes. Each class is a number or a name, in any
mix, and the list keeps their order and their repeats.
-/

namespace Redial.StatusCode

open Json (Reads Orderly Leaves Ends Written)

/-- What a class may be written as: the number of a code, or any string that
names the class. -/
inductive Means : StatusCode → Json → Prop where
  | number (code : Code) : Means (.remote code) (.ofInt code.toNat)
  | name {status : StatusCode} {name : String}
      (hname : parse name = .ok status) :
      Means status (.string name)

/-- What a list of classes is written as. -/
inductive ListMeans : List StatusCode → Json → Prop where
  | list {statuses : List StatusCode} {items : List Json}
      (hitems : List.Forall₂ Means statuses items) :
      ListMeans statuses (.array items)

theorem Means.ofJson {status : StatusCode} {json : Json}
    (hmeans : Means status json) :
    ofJson json = .ok status := by
  cases hmeans with
  | number code => cases code <;> rfl
  | name hname => exact hname

theorem means_toJson (status : StatusCode) : Means status status.toJson := by
  cases status with
  | remote code => exact .number code
  | timeout => exact .name rfl

theorem listMeans_listToJson (statuses : List StatusCode) :
    ListMeans statuses (listToJson statuses) := by
  refine .list ?_
  rw [List.forall₂_map_right_iff, List.forall₂_same]
  exact fun status _ => means_toJson status

theorem written_toJson (status : StatusCode) :
    Written status.toJson status.toJson.compact := by
  cases status with
  | remote code =>
    cases code <;> exact Json.written_ofInt (by decide) (by decide)
  | timeout => exact Json.written_string _

theorem written_listToJson (statuses : List StatusCode) :
    Written (listToJson statuses) (listToJson statuses).compact := by
  refine Json.written_array fun json hjson => ?_
  obtain ⟨status, -, rfl⟩ := List.mem_map.mp hjson
  exact status.written_toJson

end Redial.StatusCode

namespace Redial.Json.Reader

variable {inner? : Option (Reader Json)} {text rest : List Char}

/-- Whatever the nesting allowed, it only matters to lists and objects. -/
theorem value_eq_valueHolding (depth : Nat) :
    ∃ inner?, value depth = valueHolding inner? := by
  cases depth with
  | zero => exact ⟨_, rfl⟩
  | succ depth => exact ⟨_, rfl⟩

theorem valueHolding_skips {blanks : List Char} (hblanks : Blanks blanks)
    (text : List Char) :
    valueHolding inner? (blanks ++ text) = valueHolding inner? text := by
  rw [valueHolding, valueHolding, hblanks.skip]

theorem valueHolding_string {text : String} {literal : List Char}
    (hliteral : Literal.Written text.toList literal) (rest : List Char) :
    valueHolding inner? ('"' :: (literal ++ rest)) =
      .ok (.string text, rest) := by
  change (Literal.content (literal ++ rest)).map _ = _
  rw [Literal.content_append hliteral]
  rfl

theorem valueHolding_numeral (hnumeral : IsNumeral text) (rest : List Char) :
    valueHolding inner? (text ++ rest) =
      (number (text ++ rest)).map fun (value, left) =>
        (.number value, left) := by
  obtain ⟨first, tail, rfl, hfirst⟩ := hnumeral.exists_cons
  have hstart : (first == '-' || first.isDigit) = true := by
    simpa using hfirst
  have hn := ne_of_startsNumeral hfirst 'n' (by decide)
  have ht := ne_of_startsNumeral hfirst 't' (by decide)
  have hf := ne_of_startsNumeral hfirst 'f' (by decide)
  have hquote := ne_of_startsNumeral hfirst '"' (by decide)
  have hbracket := ne_of_startsNumeral hfirst '[' (by decide)
  have hbrace := ne_of_startsNumeral hfirst '\x7b' (by decide)
  have hskip :
      skipBlanks (first :: (tail ++ rest)) = first :: (tail ++ rest) := by
    simp [skipBlanks, isBlank_of_startsNumeral hfirst]
  rw [List.cons_append, valueHolding, hskip]
  simp [hstart]

end Redial.Json.Reader

namespace Redial.StatusCode

open Json (Reads Orderly Leaves Ends Written)
open Json.Reader (valueHolding)

theorem read_reads {depth : Nat} {status : StatusCode} {json : Json}
    (hmeans : Means status json) :
    Reads (read depth) json status := by
  intro text rest hwritten hrest
  obtain ⟨inner?, hvalue⟩ := Json.Reader.value_eq_valueHolding depth
  have hread : valueHolding inner? (text ++ rest) = .ok (json, rest) := by
    cases hmeans with
    | number code =>
      cases hwritten with
      | number hnumber =>
        rw [Json.Reader.valueHolding_numeral hnumber.isNumeral]
        cases hnumber with
        | integer hlow hhigh =>
          rw [Json.Reader.number_ofInt hlow hhigh hrest]
          rfl
    | name =>
      cases hwritten with
      | string hliteral => exact Json.Reader.valueHolding_string hliteral rest
  simp [read, hvalue, hread, hmeans.ofJson, bind, Except.bind]

theorem leaves_class (json : Json) (rest : List Char) :
    Leaves rest
      (match ofJson json with
      | .ok status => .ok (status, rest)
      | .error reason => .error (.rejected reason)) := by
  split
  · exact Json.leaves_ok _
  · exact Json.leaves_error _

/-- A value that no class is written as is refused, whatever is left behind
it. -/
theorem leaves_of_ofJson {α : Type} {rest : List Char}
    {outcome : Except Json.Problem (α × List Char)} {value : α → Json}
    (hvalue : ∀ found, ofJson (value found) = .error noVariant) :
    Leaves rest (do
      let (json, left) ← outcome.map fun (found, left) => (value found, left)
      match ofJson json with
      | .ok status => .ok (status, left)
      | .error reason => .error (.rejected reason)) := by
  cases outcome with
  | error problem => exact Json.leaves_error problem
  | ok inner => simp [Except.map, bind, Except.bind, hvalue]

theorem read_orderly (depth : Nat) : Orderly (read depth) := by
  obtain ⟨inner?, hvalue⟩ := Json.Reader.value_eq_valueHolding depth
  constructor
  case skips =>
    intro blanks text hblanks
    rw [read, read, hvalue, Json.Reader.valueHolding_skips hblanks]
  case whole =>
    intro value text rest hwritten hrest
    rw [read, hvalue]
    cases hwritten with
    | nullWord => exact Json.leaves_error _
    | trueWord => exact Json.leaves_error _
    | falseWord => exact Json.leaves_error _
    | number hnumber =>
      rw [Json.Reader.valueHolding_numeral hnumber.isNumeral]
      exact ((Json.Reader.number_leaves hnumber.isNumeral hrest).map _).bind
          fun json =>
        leaves_class json rest
    | string hliteral =>
      rw [List.cons_append, Json.Reader.valueHolding_string hliteral]
      exact leaves_class _ rest
    | array =>
      cases inner? with
      | none => exact Json.leaves_error _
      | some inner => exact leaves_of_ofJson fun _ => rfl
    | object =>
      cases inner? with
      | none => exact Json.leaves_error _
      | some inner => exact leaves_of_ofJson fun _ => rfl

/-- A list is read in its order. It is one level of nesting by itself. -/
theorem readList_reads {depth : Nat} {statuses : List StatusCode}
    {json : Json} (hmeans : ListMeans statuses json) :
    Reads (readList (depth + 1)) json statuses := by
  intro text rest hwritten _
  cases hmeans with
  | list hitems =>
    cases hwritten with
    | array hwritten =>
      have hreads :=
        hitems.flip.imp fun json status hmeans =>
          @read_reads depth status json hmeans
      exact Json.Reader.elements_reads hreads hwritten rest

theorem readList_orderly (depth : Nat) : Orderly (readList depth) := by
  constructor
  case skips =>
    intro blanks text hblanks
    unfold readList
    rw [hblanks.skip]
  case whole =>
    intro value text rest hwritten _
    cases hwritten with
    | array hitems =>
      cases depth with
      | zero => exact Json.leaves_error _
      | succ depth =>
        exact Json.Reader.elements_leaves (read_orderly depth) hitems rest
    | number hnumber =>
      obtain ⟨first, tail, rfl, hfirst⟩ := hnumber.isNumeral.exists_cons
      have hbracket := Json.ne_of_startsNumeral hfirst '[' (by decide)
      have hblank := Json.isBlank_of_startsNumeral hfirst
      simp [readList, Json.Reader.skipBlanks, hblank, hbracket]
    | nullWord | trueWord | falseWord | string | object =>
      cases depth <;> exact Json.leaves_error _

end Redial.StatusCode
