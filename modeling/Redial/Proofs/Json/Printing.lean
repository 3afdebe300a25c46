import Redial.Proofs.Json.Tokens

/-!
Compact text is a text of the value that is printed: each character of a
string is written as itself or by the escape for it, and lists and objects are
written as soon as what they hold is. Integers of 64 bits are their own texts.
-/

namespace Redial.Json

namespace Literal

/-- The four digits that a control character is written with. -/
theorem fourDigits_hexDigits {unit : Nat} (hunit : unit < 0x20) :
    FourDigits (Text.hexDigits 4 unit) unit := by
  have hdigits : ∀ unit < 0x20,
      Text.hexDigits 4 unit =
        ['0', '0', Nat.digitChar (unit / 16), Nat.digitChar (unit % 16)] ∧
        Text.hexValue? (Nat.digitChar (unit / 16)) = some (unit / 16) ∧
        Text.hexValue? (Nat.digitChar (unit % 16)) = some (unit % 16) := by
    decide
  obtain ⟨htext, hhigh, hlow⟩ := hdigits unit hunit
  have hzero : Text.hexValue? '0' = some 0 := rfl
  have hfour := FourDigits.intro hzero hzero hhigh hlow
  have hvalue :
      4096 * 0 + 256 * 0 + 16 * (unit / 16) + unit % 16 = unit := by omega
  rwa [hvalue, ← htext] at hfour

theorem charWritten_escaped (char : Char) :
    CharWritten char (escaped char) := by
  unfold escaped
  split
  case h_8 _ hquote hbackslash _ _ _ _ _ =>
    split
    case isTrue hcontrol => exact .unit (fourDigits_hexDigits hcontrol)
    case isFalse hprintable => exact .itself (by omega) hquote hbackslash
  all_goals exact .short (by decide)

theorem written_flatMap (chars : List Char) :
    Written chars (chars.flatMap escaped ++ ['"']) := by
  induction chars with
  | nil => exact .close
  | cons char chars ih =>
    rw [List.flatMap_cons, List.append_assoc]
    exact .char (charWritten_escaped char) ih

end Literal

section Compact

variable {items : List Json} {members : List (String × Json)}

theorem written_ofInt {value : Int} (hlow : -9223372036854775808 ≤ value)
    (hhigh : value ≤ 18446744073709551615) :
    Written (.ofInt value) (compact (.ofInt value)) :=
  .number (.integer hlow hhigh)

theorem written_bool (value : Bool) :
    Written (.bool value) (compact (.bool value)) := by
  cases value with
  | true => exact .trueWord
  | false => exact .falseWord

theorem written_string (text : String) :
    Written (.string text) (compact (.string text)) :=
  .string (Literal.written_flatMap text.toList)

theorem itemsWritten_compactItems
    (hitems : ∀ item ∈ items, Written item item.compact) {isFirst : Bool}
    {separator : List Char} (hseparator : Separator isFirst separator)
    (hne : items ≠ []) :
    ItemsWritten isFirst items
      (separator ++ (compactItems items ++ [']'])) := by
  induction items generalizing isFirst separator with
  | nil => exact absurd rfl hne
  | cons item items ih =>
    obtain ⟨hitem, hitems⟩ := List.forall_mem_cons.mp hitems
    cases items with
    | nil => exact .item hseparator .nil hitem (.close .nil)
    | cons next items =>
      have hrest := ih hitems (.comma .nil) (by simp)
      have hwritten := ItemsWritten.item hseparator .nil hitem hrest
      simpa [compactItems] using hwritten

theorem written_array (hitems : ∀ item ∈ items, Written item item.compact) :
    Written (.array items) (compact (.array items)) := by
  refine .array ?_
  cases items with
  | nil => exact .close .nil
  | cons item items => exact itemsWritten_compactItems hitems .first (by simp)

theorem membersWritten_compactMembers
    (hmembers : ∀ member ∈ members, Written member.2 member.2.compact)
    {isFirst : Bool} {separator : List Char}
    (hseparator : Separator isFirst separator) (hne : members ≠ []) :
    MembersWritten isFirst members
      (separator ++ (compactMembers members ++ ['\x7d'])) := by
  induction members generalizing isFirst separator with
  | nil => exact absurd rfl hne
  | cons member members ih =>
    obtain ⟨hmember, hmembers⟩ := List.forall_mem_cons.mp hmembers
    have hname := Literal.written_flatMap member.1.toList
    cases members with
    | nil =>
      have hwritten :=
        MembersWritten.member hseparator .nil hname .nil .nil hmember
          (.close .nil)
      simpa [compactMembers, Literal.write] using hwritten
    | cons next members =>
      have hrest := ih hmembers (.comma .nil) (by simp)
      have hwritten :=
        MembersWritten.member hseparator .nil hname .nil .nil hmember hrest
      simpa [compactMembers, Literal.write] using hwritten

theorem written_object
    (hmembers : ∀ member ∈ members, Written member.2 member.2.compact) :
    Written (.object members) (compact (.object members)) := by
  refine .object ?_
  cases members with
  | nil => exact .close .nil
  | cons member members =>
    exact membersWritten_compactMembers hmembers .first (by simp)

end Compact

end Redial.Json
