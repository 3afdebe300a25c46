import Mathlib.Data.List.Induction
import Redial.Proofs.Json.Tokens

/-!
Decimal numerals with a sign. The numerals of an integer are its digits behind
any number of zeros, with or without a sign in front, and they are the texts
that are read as this integer: no text is one of two integers, and every other
text is refused.
-/

namespace Redial.Numeral

open Json (IsDigits)

/-- The digits of a number behind some zeros. -/
def padded (zeros value : Nat) : List Char :=
  List.replicate zeros '0' ++ digits value

/-- The integer that a numeral stands for. Zero may have either sign. -/
inductive Denotes : List Char → Int → Prop where
  | unsigned (zeros value : Nat) : Denotes (padded zeros value) value
  | positive (zeros value : Nat) : Denotes ('+' :: padded zeros value) value
  | negative (zeros value : Nat) :
      Denotes ('-' :: padded zeros value) (-value)

variable {digit : Char} {run text : List Char} {number : Int}

theorem digitValue_lt (hdigit : digit.isDigit = true) :
    digitValue digit < 10 := by
  have hhigh : digit.toNat ≤ 57 := (Char.isDigit_iff_toNat.mp hdigit).2
  change digit.toNat - 48 < 10
  omega

theorem digitChar_digitValue (hdigit : digit.isDigit = true) :
    Nat.digitChar (digitValue digit) = digit := by
  have hlow : 48 ≤ digit.toNat := (Char.isDigit_iff_toNat.mp hdigit).1
  apply Char.toNat_inj.mp
  rw [Nat.toNat_digitChar_of_lt_ten (digitValue_lt hdigit)]
  change 48 + (digit.toNat - 48) = digit.toNat
  omega

theorem value_concat (run : List Char) (digit : Char) :
    value (run ++ [digit]) = 10 * value run + digitValue digit := by
  rw [value, List.foldl_append]
  rfl

theorem digits_of_isDigit (hdigit : digit.isDigit = true) :
    digits (digitValue digit) = [digit] := by
  rw [digits, Nat.toDigits_of_lt_base (digitValue_lt hdigit),
    digitChar_digitValue hdigit]

/-- A digit behind those of a positive number makes it ten times as large. -/
theorem digits_concat {number : Nat} (hpos : 0 < number)
    (hdigit : digit.isDigit = true) :
    digits number ++ [digit] = digits (10 * number + digitValue digit) := by
  rw [← digits_of_isDigit hdigit]
  exact Nat.toDigits_append_toDigits (by decide) hpos (digitValue_lt hdigit)

/-- Every run of digits is what its value is written as, behind some zeros. -/
theorem exists_eq_padded (hrun : IsDigits run) :
    ∃ zeros, run = padded zeros (value run) := by
  obtain ⟨hne, hdigits⟩ := hrun
  induction run using List.reverseRecOn with
  | nil => exact absurd rfl hne
  | append_singleton before last ih =>
    have hlast : last.isDigit = true := hdigits last (by simp)
    rw [value_concat]
    by_cases hbefore : before = []
    · subst hbefore
      have hvalue : 10 * value [] + digitValue last = digitValue last := by
        simp [value]
      exact ⟨0, by rw [hvalue, padded, digits_of_isDigit hlast]; rfl⟩
    · obtain ⟨zeros, hpadded⟩ :=
        ih hbefore fun digit hmem => hdigits digit (by simp [hmem])
      rcases Nat.eq_zero_or_pos (value before) with hzero | hpos
      · -- only zeros so far, so that the one of the value itself is one more
        -- in front
        have hzeros : before = List.replicate (zeros + 1) '0' := by
          rw [hpadded, hzero, List.replicate_succ']
          rfl
        refine ⟨zeros + 1, ?_⟩
        rw [hzero, padded, Nat.mul_zero, Nat.zero_add,
          digits_of_isDigit hlast, ← hzeros]
      · refine ⟨zeros, ?_⟩
        rw [padded, ← digits_concat hpos hlast, ← List.append_assoc, ← padded,
          ← hpadded]

theorem isDigits_padded (zeros value : Nat) :
    IsDigits (padded zeros value) := by
  obtain ⟨hne, hdigits⟩ := isDigits_digits value
  refine ⟨List.append_ne_nil_of_right_ne_nil _ hne, fun digit hmem => ?_⟩
  rcases List.mem_append.mp hmem with hzero | hdigit
  · rw [List.eq_of_mem_replicate hzero]
    rfl
  · exact hdigits digit hdigit

theorem value_padded (zeros number : Nat) :
    value (padded zeros number) = number := by
  have hzeros : (List.replicate zeros '0').foldl
      (fun total digit => 10 * total + digitValue digit) 0 = 0 :=
    Nat.ofDigitChars_replicate_zero
  rw [value, padded, List.foldl_append, hzeros, ← value, value_digits]

theorem natural?_eq_some_iff {number : Nat} :
    natural? text = some number ↔ ∃ zeros, text = padded zeros number := by
  have hread : natural? text = some number ↔
      IsDigits text ∧ value text = number := by
    simp [natural?, IsDigits, and_assoc]
  rw [hread]
  constructor
  · rintro ⟨hdigits, rfl⟩
    exact exists_eq_padded hdigits
  · rintro ⟨zeros, rfl⟩
    exact ⟨isDigits_padded zeros number, value_padded zeros number⟩

/-- No numeral without a sign begins with one. -/
theorem head_padded_ne {sign : Char} (hsign : sign.isDigit = false)
    (zeros value : Nat) (rest : List Char) :
    padded zeros value ≠ sign :: rest := by
  intro hpadded
  have hdigit : sign.isDigit = true :=
    (isDigits_padded zeros value).2 sign (by simp [hpadded])
  rw [hsign] at hdigit
  cases hdigit

theorem signed_eq_some_iff {sign : Int → Int} :
    ((natural? text : Option Int).map sign) = some number ↔
      ∃ zeros value : Nat, text = padded zeros value ∧
        sign value = number := by
  have hmap : ((natural? text : Option Int).map sign) =
      (natural? text).map fun value : Nat => sign value := by
    cases natural? text <;> rfl
  rw [hmap, Option.map_eq_some_iff]
  simp only [natural?_eq_some_iff]
  constructor
  · rintro ⟨value, ⟨zeros, htext⟩, hnumber⟩
    exact ⟨zeros, value, htext, hnumber⟩
  · rintro ⟨zeros, value, htext, hnumber⟩
    exact ⟨value, ⟨zeros, htext⟩, hnumber⟩

/-- A text is read as an integer if and only if it is one of its numerals. -/
theorem integer?_eq_some_iff :
    integer? text = some number ↔ Denotes text number := by
  constructor
  · intro hread
    unfold integer? at hread
    split at hread
    · obtain ⟨zeros, magnitude, rfl, rfl⟩ := signed_eq_some_iff.mp hread
      exact .negative zeros magnitude
    · obtain ⟨zeros, magnitude, rfl, rfl⟩ := signed_eq_some_iff.mp hread
      exact .positive zeros magnitude
    · obtain ⟨zeros, magnitude, rfl, rfl⟩ := signed_eq_some_iff.mp hread
      exact .unsigned zeros magnitude
  · intro hdenotes
    cases hdenotes with
    | unsigned zeros value =>
      unfold integer?
      split
      · rename_i hminus
        exact absurd hminus (head_padded_ne rfl zeros value _)
      · rename_i hplus
        exact absurd hplus (head_padded_ne rfl zeros value _)
      · exact signed_eq_some_iff.mpr ⟨zeros, value, rfl, rfl⟩
    | positive zeros value =>
      exact signed_eq_some_iff.mpr ⟨zeros, value, rfl, rfl⟩
    | negative zeros value =>
      exact signed_eq_some_iff.mpr ⟨zeros, value, rfl, rfl⟩

theorem Denotes.unique {other : Int} (hnumber : Denotes text number)
    (hother : Denotes text other) :
    number = other :=
  Option.some.inj ((integer?_eq_some_iff.mpr hnumber).symm.trans
    (integer?_eq_some_iff.mpr hother))

/-- The decimal text of an integer is one of its numerals. -/
theorem denotes_ofInt (number : Int) : Denotes (ofInt number) number := by
  cases number with
  | ofNat value => exact .unsigned 0 value
  | negSucc value => exact .negative 0 (value + 1)

/-- Whether a text begins like a numeral, with a sign or a digit. -/
def begins (text : List Char) : Bool :=
  text.head?.any fun first => first == '+' || first == '-' || first.isDigit

theorem Denotes.begins (hdenotes : Denotes text number) :
    begins text = true := by
  cases hdenotes with
  | unsigned zeros value =>
    obtain ⟨hne, hdigits⟩ := isDigits_padded zeros value
    obtain ⟨first, rest, hcons⟩ := List.exists_cons_of_ne_nil hne
    have hfirst : first.isDigit = true := hdigits first (by simp [hcons])
    simp [Numeral.begins, hcons, hfirst]
  | positive => rfl
  | negative => rfl

theorem toLower_of_isDigit (hdigit : digit.isDigit = true) :
    digit.toLower = digit := by
  have hhigh : digit.toNat ≤ 57 := (Char.isDigit_iff_toNat.mp hdigit).2
  refine dif_neg fun hcapital => ?_
  have hlow : 65 ≤ digit.toNat := hcapital.1
  omega

/-- Case is of no account to signs and digits. -/
theorem begins_map_toLower (hbegins : begins text = true) :
    begins (text.map Char.toLower) = true := by
  cases text with
  | nil => cases hbegins
  | cons first rest =>
    simp only [begins, List.head?_cons, Option.any_some, Bool.or_eq_true,
      beq_iff_eq] at hbegins
    rcases hbegins with (rfl | rfl) | hdigit
    · rfl
    · rfl
    · simp [begins, toLower_of_isDigit hdigit, hdigit]

end Redial.Numeral
