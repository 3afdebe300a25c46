import Mathlib.Algebra.Group.Nat.Defs
import Mathlib.Data.Bool.AllAny
import Redial.Text.Basic

/-!
Hexadecimal digits. A field is a text of a fixed length over an alphabet, so a
field of hexadecimal digits of either case becomes one of small digits when it
is made small, and the digits of a number with zeros in front are one as well.
The lowest bit of a number is that of its last digit.
-/

namespace Redial.Text

/-- The hexadecimal digits without capitals. -/
def smallHexAlphabet : List Char :=
  ['0', '1', '2', '3', '4', '5', '6', '7', '8', '9', 'a', 'b', 'c', 'd',
    'e', 'f']

/-- The hexadecimal digits of either case. -/
def hexAlphabet : List Char :=
  smallHexAlphabet ++ ['A', 'B', 'C', 'D', 'E', 'F']

/-- A text of some length with all its characters in an alphabet. -/
structure IsField (alphabet : List Char) (width : Nat) (text : List Char) :
    Prop where
  length : text.length = width
  mem : ∀ char ∈ text, char ∈ alphabet

/-- A field of hexadecimal digits of either case. -/
abbrev IsHex := IsField hexAlphabet

/-- A field of hexadecimal digits without capitals. -/
abbrev IsSmallHex := IsField smallHexAlphabet

/-- The number that hexadecimal digits stand for, the most significant one
first. -/
def hexNumber (digits : List Char) : Nat :=
  digits.foldl (fun total digit => 16 * total + (hexValue? digit).getD 0) 0

variable {char : Char} {text : List Char} {width : Nat}

instance (alphabet : List Char) (width : Nat) (text : List Char) :
    Decidable (IsField alphabet width text) :=
  decidable_of_iff (text.length = width ∧ text.all (· ∈ alphabet))
    ⟨fun h => ⟨h.1, List.all_iff_forall_prop.mp h.2⟩,
      fun h => ⟨h.length, List.all_iff_forall_prop.mpr h.mem⟩⟩

theorem toNat_lt_of_isHexDigit (hdigit : isHexDigit char = true) :
    char.toNat < 128 := by
  have hle : char ≤ 'f' := by
    unfold isHexDigit hexValue? at hdigit
    split at hdigit
    case isTrue h => exact Char.le_trans h.2 (by decide)
    split at hdigit
    case isTrue h => exact h.2
    split at hdigit
    case isTrue h => exact Char.le_trans h.2 (by decide)
    cases hdigit
  have hcode : char.toNat ≤ 102 := hle
  omega

theorem isHexDigit_iff : isHexDigit char = true ↔ char ∈ hexAlphabet := by
  have hcodes : ∀ code < 128, isHexDigit (Char.ofNat code) = true →
      Char.ofNat code ∈ hexAlphabet := by
    decide
  -- a walk along the alphabet: a quantifier over all characters could
  -- not be decided
  have halphabet : ∀ char ∈ hexAlphabet, isHexDigit char = true :=
    List.all_iff_forall_prop.mp (by decide)
  refine ⟨fun hdigit => ?_, halphabet char⟩
  have hmem := hcodes char.toNat (toNat_lt_of_isHexDigit hdigit)
  rw [Char.ofNat_toNat] at hmem
  exact hmem hdigit

theorem toList_lower (text : String) :
    (lower text).toList = text.toList.map Char.toLower :=
  String.toList_ofList

theorem IsHex.toSmall (hhex : IsHex width text) :
    IsSmallHex width (text.map Char.toLower) := by
  have hsmall : ∀ char ∈ hexAlphabet, char.toLower ∈ smallHexAlphabet :=
    List.all_iff_forall_prop.mp (by decide)
  refine ⟨by rw [List.length_map, hhex.length], ?_⟩
  simp only [List.mem_map, forall_exists_index, and_imp,
    forall_apply_eq_imp_iff₂]
  exact fun char hmem => hsmall char (hhex.mem char hmem)

theorem IsSmallHex.map_toLower (hsmall : IsSmallHex width text) :
    text.map Char.toLower = text := by
  have hkept : ∀ char ∈ smallHexAlphabet, char.toLower = char :=
    List.all_iff_forall_prop.mp (by decide)
  calc text.map Char.toLower
      = text.map id :=
        List.map_congr_left fun char hmem => hkept char (hsmall.mem char hmem)
    _ = text := List.map_id text

theorem lower_of_isSmallHex {text : String}
    (hsmall : IsSmallHex width text.toList) :
    lower text = text := by
  rw [lower, hsmall.map_toLower, String.ofList_toList]

theorem IsSmallHex.toHex (hsmall : IsSmallHex width text) :
    IsHex width text :=
  ⟨hsmall.length, fun char hmem =>
    List.mem_append_left _ (hsmall.mem char hmem)⟩

theorem mem_toDigits (value : Nat) (hmem : char ∈ Nat.toDigits 16 value) :
    char ∈ smallHexAlphabet := by
  induction value using Nat.strongRecOn with
  | ind value ih =>
    have hdigit :
        ∀ digit < 16, Nat.digitChar digit ∈ smallHexAlphabet := by decide
    rw [Nat.toDigits_eq_if (by decide)] at hmem
    split at hmem
    case isTrue hlt =>
      rw [List.mem_singleton.mp hmem]
      exact hdigit value hlt
    case isFalse hle =>
      rcases List.mem_append.mp hmem with hbefore | hlast
      · exact ih (value / 16) (by omega) hbefore
      · rw [List.mem_singleton.mp hlast]
        exact hdigit (value % 16) (Nat.mod_lt _ (by decide))

/-- A number that is small enough is written in just as many digits as it
is given room. -/
theorem isSmallHex_hexDigits {value : Nat} (hwidth : 0 < width)
    (hlt : value < 16 ^ width) :
    IsSmallHex width (hexDigits width value) := by
  have hlength : (Nat.toDigits 16 value).length ≤ width :=
    (Nat.length_toDigits_le_iff (by decide) hwidth).mpr hlt
  refine ⟨?_, fun char hmem => ?_⟩
  · rw [hexDigits, List.length_append, List.length_replicate]
    omega
  · rcases List.mem_append.mp hmem with hzero | hdigit
    · rw [List.eq_of_mem_replicate hzero]
      decide
    · exact mem_toDigits value hdigit

/-- The lowest bit of a number is that of its last digit. -/
theorem hexNumber_mod_two (digits : List Char) :
    hexNumber digits % 2 = ((digits.getLast?.bind hexValue?).getD 0) % 2 := by
  rcases List.eq_nil_or_concat digits with rfl | ⟨before, last, rfl⟩
  · rfl
  · have hnumber : hexNumber (before ++ [last]) =
        16 * hexNumber before + (hexValue? last).getD 0 := by
      rw [hexNumber, List.foldl_append]
      rfl
    rw [List.concat_eq_append, hnumber, List.getLast?_concat,
      Option.bind_some]
    omega

end Redial.Text
