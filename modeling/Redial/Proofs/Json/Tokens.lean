import Mathlib.Data.List.Basic
import Redial.Proofs.Json.Grammar

/-!
Reading the tokens of a text. Whatever follows a word or a string is left as
it is. A number is read up to its end if what follows cannot make it longer,
and an integer of 64 bits is read as what it is.
-/

namespace Redial.Json

/-- Whether a text can follow a number without making it longer. -/
def Ends (text : List Char) : Prop :=
  ∀ char ∈ text.head?, char.isDigit = false ∧ char ≠ '.' ∧ char ≠ 'e' ∧
    char ≠ 'E'

/-- Whether reading leaves just this text, if it finds what it looks for. -/
def Leaves {α : Type} (rest : List Char)
    (outcome : Except Problem (α × List Char)) : Prop :=
  ∀ result left, outcome = .ok (result, left) → left = rest

section Leaves

variable {α β : Type} {rest : List Char}

@[simp] theorem leaves_error (problem : Problem) :
    Leaves rest (.error problem : Except Problem (α × List Char)) := nofun

@[simp] theorem leaves_ok (result : α) :
    Leaves rest (.ok (result, rest)) := by
  rintro _ _ ⟨⟩
  rfl

@[simp] theorem leaves_bind (outcome : Except Problem α) (final : α → β) :
    Leaves rest (do let inner ← outcome; .ok (final inner, rest)) := by
  cases outcome with
  | error problem => exact leaves_error problem
  | ok inner => exact leaves_ok (final inner)

theorem Leaves.ite {condition : Prop} [Decidable condition]
    {outcome other : Except Problem (α × List Char)}
    (houtcome : Leaves rest outcome) (hother : Leaves rest other) :
    Leaves rest (if condition then outcome else other) := by
  split
  · exact houtcome
  · exact hother

theorem Leaves.map {outcome : Except Problem (α × List Char)}
    (hleaves : Leaves rest outcome) (final : α → β) :
    Leaves rest (outcome.map fun (inner, left) => (final inner, left)) := by
  rintro result left hread
  cases outcome with
  | error problem => cases hread
  | ok inner =>
    obtain ⟨-, rfl⟩ := Prod.mk.inj (Except.ok.inj hread)
    exact hleaves inner.1 inner.2 rfl

/-- What is read in two steps is left by the first one where the
second one starts. -/
theorem Leaves.of_bind {middle : List Char}
    {outcome : Except Problem (α × List Char)}
    {next : α × List Char → Except Problem (β × List Char)}
    {final : β × List Char} (houtcome : Leaves middle outcome)
    (hread : outcome >>= next = .ok final) :
    ∃ result, outcome = .ok (result, middle) ∧
      next (result, middle) = .ok final := by
  cases outcome with
  | error problem => cases hread
  | ok inner =>
    obtain ⟨result, left⟩ := inner
    obtain rfl := houtcome result left rfl
    exact ⟨result, rfl, hread⟩

theorem Leaves.bind {middle : List Char}
    {outcome : Except Problem (α × List Char)}
    {next : α × List Char → Except Problem (β × List Char)}
    (houtcome : Leaves middle outcome)
    (hnext : ∀ result, Leaves rest (next (result, middle))) :
    Leaves rest (outcome >>= next) := by
  intro final left hread
  obtain ⟨result, -, hread⟩ := houtcome.of_bind hread
  exact hnext result final left hread

end Leaves

section Blanks

variable {blanks text : List Char} {char : Char}

theorem Blanks.nil : Blanks [] := nofun

theorem eq_of_isBlank (hblank : Reader.isBlank char = true) :
    char = ' ' ∨ char = '\n' ∨ char = '\t' ∨ char = '\r' := by
  simpa [Reader.isBlank, or_assoc] using hblank

theorem Blanks.skip (hblanks : Blanks blanks) (text : List Char) :
    Reader.skipBlanks (blanks ++ text) = Reader.skipBlanks text :=
  List.dropWhile_append_of_pos hblanks

theorem Blanks.skip_cons (hblanks : Blanks blanks)
    (hchar : Reader.isBlank char = false) (text : List Char) :
    Reader.skipBlanks (blanks ++ char :: text) = char :: text := by
  rw [hblanks.skip, Reader.skipBlanks,
    List.dropWhile_cons_of_neg (by simp [hchar])]

theorem ends_nil : Ends [] := nofun

theorem ends_cons
    (hchar : char.isDigit = false ∧ char ≠ '.' ∧ char ≠ 'e' ∧ char ≠ 'E') :
    Ends (char :: text) := by
  rintro _ ⟨⟩
  exact hchar

theorem Blanks.ends (hblanks : Blanks blanks) (htext : Ends text) :
    Ends (blanks ++ text) := by
  cases blanks with
  | nil => exact htext
  | cons first rest =>
    apply ends_cons
    rcases eq_of_isBlank (hblanks first List.mem_cons_self) with
        rfl | rfl | rfl | rfl <;> decide

end Blanks

namespace Literal

variable {char : Char} {chars text rest : List Char}

theorem fourHex_append {digits : List Char} {unit : Nat}
    (hdigits : FourDigits digits unit) (rest : List Char) :
    fourHex (digits ++ rest) = .ok (unit, rest) := by
  obtain ⟨hfirst, hsecond, hthird, hfourth⟩ := hdigits
  simp [fourHex, hfirst, hsecond, hthird, hfourth]

theorem unicode_append {digits : List Char}
    (hdigits : FourDigits digits char.toNat) (rest : List Char) :
    unicode (digits ++ rest) = .ok (char, rest) := by
  have hvalid : char.toNat < 0xD800 ∨
      0xDFFF < char.toNat ∧ char.toNat < 0x110000 := char.valid
  have hlow : isLowSurrogate char.toNat = false := by
    simp [isLowSurrogate]
    omega
  have hhigh : isHighSurrogate char.toNat = false := by
    simp [isHighSurrogate]
    omega
  simp [unicode, fourHex_append hdigits, hlow, hhigh, bind, Except.bind]

theorem unicode_pair_append {high low : Nat} {first second : List Char}
    (hfirst : FourDigits first (0xD800 + high))
    (hsecond : FourDigits second (0xDC00 + low)) (hhigh : high < 0x400)
    (hlow : low < 0x400) (hchar : char.toNat = 0x10000 + 0x400 * high + low)
    (rest : List Char) :
    unicode (first ++ '\\' :: 'u' :: (second ++ rest)) =
      .ok (char, rest) := by
  have hnotLow : isLowSurrogate (0xD800 + high) = false := by
    simp [isLowSurrogate]
    omega
  have hisHigh : isHighSurrogate (0xD800 + high) = true := by
    simp [isHighSurrogate]
    omega
  have hisLow : isLowSurrogate (0xDC00 + low) = true := by
    simp [isLowSurrogate]
    omega
  have hvalue : Char.ofNat (0x10000 + 0x400 * high + low) = char := by
    rw [← hchar, Char.ofNat_toNat]
  simp [unicode, fourHex_append hfirst, fourHex_append hsecond, hnotLow,
    hisHigh, hisLow, hvalue, bind, Except.bind]

theorem next?_append (hchar : CharWritten char text) (rest : List Char) :
    next? (text ++ rest) = .ok (some char, rest) := by
  cases hchar with
  | itself hprintable hquote hbackslash =>
    simp [next?, Nat.not_lt.mpr hprintable]
  | short hshort =>
    simp only [shortEscapes, List.mem_cons, Prod.mk.injEq, List.not_mem_nil,
      or_false] at hshort
    rcases hshort with
        ⟨rfl, rfl⟩ | ⟨rfl, rfl⟩ | ⟨rfl, rfl⟩ | ⟨rfl, rfl⟩ |
          ⟨rfl, rfl⟩ | ⟨rfl, rfl⟩ | ⟨rfl, rfl⟩ | ⟨rfl, rfl⟩ <;> rfl
  | unit hdigits =>
    simp [next?, escape, unicode_append hdigits, Except.map]
  | pair hfirst hsecond hhigh hlow hvalue =>
    simp [next?, escape, unicode_pair_append hfirst hsecond hhigh hlow hvalue,
      Except.map]

theorem CharWritten.length_pos (hchar : CharWritten char text) :
    0 < text.length := by
  cases hchar <;> simp

/-- The characters of a literal are read up to its closing quote. -/
theorem upTo_append {steps : Nat} (hwritten : Literal.Written chars text)
    (hsteps : text.length ≤ steps) (rest : List Char) :
    upTo steps (text ++ rest) = .ok (chars, rest) := by
  induction hwritten generalizing steps with
  | close =>
    obtain ⟨steps, rfl⟩ :=
      Nat.exists_eq_add_one.mpr (Nat.lt_of_lt_of_le (by simp) hsteps)
    rfl
  | @char first others firstText othersText hchar _ ih =>
    have hpos := hchar.length_pos
    rw [List.length_append] at hsteps
    obtain ⟨steps, rfl⟩ := Nat.exists_eq_add_one.mpr (by omega : 0 < steps)
    have hrest := @ih steps (by omega)
    simp [upTo, next?_append hchar, hrest, bind, Except.bind]

theorem content_append {value : String}
    (hwritten : Literal.Written value.toList text) (rest : List Char) :
    content (text ++ rest) = .ok (value, rest) := by
  have hsteps : text.length ≤ (text ++ rest).length := by simp
  rw [content, upTo_append hwritten hsteps]
  simp [Except.map]

end Literal

namespace Reader

variable {run text rest : List Char}

theorem takeWhile_run (hrun : ∀ digit ∈ run, digit.isDigit = true)
    (htext : ∀ char ∈ text.head?, char.isDigit = false) :
    (run ++ text).takeWhile Char.isDigit = run ∧
      (run ++ text).dropWhile Char.isDigit = text := by
  rw [List.takeWhile_append_of_pos hrun, List.dropWhile_append_of_pos hrun]
  cases text with
  | nil => simp
  | cons char text => simp [htext char rfl]

namespace Numeric

variable {negative : Bool} {digits dropped : Nat} {exponent : Int}
  {value : Number} {left : List Char}

/-- What follows the digits of an exponent is left, whichever sign they
have. -/
theorem exponentPart_leaves {sign : List Char}
    (hsign : sign = [] ∨ sign = ['+'] ∨ sign = ['-']) (hrun : IsDigits run)
    (hrest : Ends rest) :
    Leaves rest
      (exponentPart negative digits exponent (sign ++ (run ++ rest))) := by
  obtain ⟨hne, hdigits⟩ := hrun
  obtain ⟨htake, hdrop⟩ :=
    takeWhile_run hdigits fun char hchar => (hrest char hchar).1
  obtain ⟨first, run, rfl⟩ := List.exists_cons_of_ne_nil hne
  have hfirst : first.isDigit = true := hdigits first List.mem_cons_self
  have hplus : first ≠ '+' := by
    rintro rfl
    cases hfirst
  have hminus : first ≠ '-' := by
    rintro rfl
    cases hfirst
  rw [List.cons_append] at htake hdrop
  rcases hsign with rfl | rfl | rfl <;>
    simp only [exponentPart, List.nil_append, List.cons_append,
      List.cons.injEq, hplus, hminus, htake, hdrop, false_and, imp_self,
      implies_true]
  all_goals exact .ite (.ite (leaves_error _) (leaves_ok _)) (leaves_bind _ _)

/-- What stands behind the digits in front of an exponent. -/
theorem head_exponent {text : List Char} (hexponent : IsExponent text)
    (hrest : Ends rest) :
    ∀ char ∈ (text ++ rest).head?, char.isDigit = false ∧ char ≠ '.' := by
  cases hexponent with
  | absent =>
    exact fun char hchar => ⟨(hrest char hchar).1, (hrest char hchar).2.1⟩
  | present hletter =>
    rintro _ ⟨⟩
    rcases hletter with rfl | rfl <;> decide

theorem fractionPart_leaves {text : List Char} (hrun : IsDigits run)
    (hexponent : IsExponent text) (hrest : Ends rest) :
    Leaves rest
      (fractionPart negative digits dropped (run ++ (text ++ rest))) := by
  obtain ⟨hne, hdigits⟩ := hrun
  obtain ⟨htake, hdrop⟩ := takeWhile_run hdigits fun char hchar =>
    (head_exponent hexponent hrest char hchar).1
  obtain ⟨first, run, rfl⟩ := List.exists_cons_of_ne_nil hne
  rw [List.cons_append] at htake hdrop
  simp only [fractionPart, List.cons_append, htake, hdrop]
  cases hexponent with
  | absent =>
    cases rest with
    | nil => exact leaves_bind _ _
    | cons char rest =>
      obtain ⟨-, -, hlower, hupper⟩ := hrest char rfl
      simp [hlower, hupper]
  | present hletter hsign hrun =>
    rcases hletter with rfl | rfl <;>
      simpa using exponentPart_leaves hsign hrun hrest

theorem unsigned_leaves {fraction text : List Char} (hrun : IsDigits run)
    (hfraction : IsFraction fraction) (hexponent : IsExponent text)
    (hrest : Ends rest) :
    Leaves rest
      (unsigned negative (run ++ (fraction ++ (text ++ rest)))) := by
  obtain ⟨hne, hdigits⟩ := hrun
  have hhead :
      ∀ char ∈ (fraction ++ (text ++ rest)).head?, char.isDigit = false := by
    cases hfraction with
    | absent =>
      exact fun char hchar => (head_exponent hexponent hrest char hchar).1
    | present =>
      rintro _ ⟨⟩
      rfl
  obtain ⟨htake, hdrop⟩ := takeWhile_run hdigits hhead
  simp only [unsigned, htake, hdrop]
  split
  · exact leaves_error _
  · exact leaves_error _
  · exact leaves_error _
  · cases hfraction with
    | present hmore => simpa using fractionPart_leaves hmore hexponent hrest
    | absent =>
      cases hexponent with
      | absent =>
        cases rest with
        | nil => exact leaves_bind _ _
        | cons char rest =>
          obtain ⟨-, hpoint, hlower, hupper⟩ := hrest char rfl
          simp [hpoint, hlower, hupper]
      | present hletter hsign hmore =>
        rcases hletter with rfl | rfl <;>
          simpa using exponentPart_leaves hsign hmore hrest

end Numeric

/-- A text without a minus sign in front is read as a number without one. -/
theorem number_digits {run : List Char} (hrun : IsDigits run)
    (rest : List Char) :
    number (run ++ rest) = Numeric.unsigned false (run ++ rest) := by
  obtain ⟨hne, hdigits⟩ := hrun
  obtain ⟨first, run, rfl⟩ := List.exists_cons_of_ne_nil hne
  have hminus : first ≠ '-' := by
    rintro rfl
    cases hdigits '-' List.mem_cons_self
  simp [number, hminus]

/-- A numeral is read up to its end, or not at all. -/
theorem number_leaves (hnumeral : IsNumeral text) (hrest : Ends rest) :
    Leaves rest (number (text ++ rest)) := by
  obtain ⟨hsign, hwhole, -, hfraction, hexponent⟩ := hnumeral
  have hunsigned (negative : Bool) :
      Leaves rest (Numeric.unsigned negative _) :=
    Numeric.unsigned_leaves hwhole hfraction hexponent hrest
  simp only [List.append_assoc]
  rcases hsign with rfl | rfl
  · rw [List.nil_append, number_digits hwhole]
    exact hunsigned false
  · exact hunsigned true

end Reader

end Redial.Json

namespace Redial.Numeral

theorem isDigits_digits (value : Nat) : Json.IsDigits (digits value) :=
  ⟨Nat.toDigits_ne_nil, fun _ hdigit =>
    Nat.isDigit_of_mem_toDigits (by decide) (by decide) hdigit⟩

theorem value_digits (number : Nat) : value (digits number) = number :=
  Nat.ofDigitChars_ten_toDigits

/-- No number has a zero in front of its other digits. -/
theorem eq_nil_of_digits_eq {number : Nat} {run : List Char}
    (hdigits : digits number = '0' :: run) :
    run = [] := by
  induction number using Nat.strongRecOn generalizing run with
  | ind number ih =>
    rcases Nat.lt_or_ge number 10 with hsmall | hlarge
    · rw [digits, Nat.toDigits_of_lt_base hsmall] at hdigits
      exact (List.cons.inj hdigits).2.symm
    · rw [digits, Nat.toDigits_of_base_le (by decide) hlarge] at hdigits
      obtain ⟨first, more, hfirst⟩ :=
        List.exists_cons_of_ne_nil (isDigits_digits (number / 10)).1
      change digits (number / 10) ++ _ = _ at hdigits
      rw [hfirst, List.cons_append] at hdigits
      obtain ⟨rfl, -⟩ := List.cons.inj hdigits
      obtain rfl := ih (number / 10) (by omega) hfirst
      have hzero : number / 10 = 0 := by
        rw [← value_digits (number / 10), hfirst]
        rfl
      omega

theorem le_foldl (number : Nat) (run : List Char) :
    number ≤ run.foldl (fun total digit => 10 * total + digitValue digit)
      number := by
  induction run generalizing number with
  | nil => exact Nat.le_refl _
  | cons digit run ih =>
    exact Nat.le_trans (by omega) (ih (10 * number + digitValue digit))

end Redial.Numeral

namespace Redial.Json.Reader

variable {rest : List Char}

namespace Numeric

theorem gather_of_lt {number total : Nat} {run : List Char}
    (htotal :
      run.foldl (fun total digit => 10 * total + Numeral.digitValue digit)
        number = total)
    (hlt : total < UInt64.size) : gather number run = (total, 0) := by
  induction run generalizing number with
  | nil => exact Prod.ext htotal rfl
  | cons digit run ih =>
    have hlonger : 10 * number + Numeral.digitValue digit < UInt64.size :=
      Nat.lt_of_le_of_lt (htotal ▸ Numeral.le_foldl _ run) hlt
    rw [gather, if_pos hlonger, ih htotal]

/-- Digits are only dropped from numbers that 64 bits do not hold. -/
theorem gather_dropped_ne_zero {number : Nat} {run : List Char}
    (hnumber : number < UInt64.size) (hlarge : UInt64.size ≤
      run.foldl (fun total digit => 10 * total + Numeral.digitValue digit)
        number) :
    (gather number run).2 ≠ 0 := by
  induction run generalizing number with
  | nil => exact absurd hlarge (Nat.not_le_of_lt hnumber)
  | cons digit run ih =>
    rw [gather]
    split
    · rename_i hlonger
      exact ih hlonger hlarge
    · exact Nat.succ_ne_zero run.length

theorem unsigned_run {number : Nat} (negative : Bool) (hrest : Ends rest) :
    unsigned negative (Numeral.digits number ++ rest) =
      (plain negative (gather 0 (Numeral.digits number)).1
        (gather 0 (Numeral.digits number)).2).map
        fun value => (value, rest) := by
  obtain ⟨hne, hdigits⟩ := Numeral.isDigits_digits number
  obtain ⟨htake, hdrop⟩ :=
    takeWhile_run hdigits fun char hchar => (hrest char hchar).1
  simp only [unsigned, htake, hdrop]
  split
  · rename_i hnil _
    exact absurd hnil hne
  · rename_i hnil _
    exact absurd hnil hne
  · rename_i hzero
    cases Numeral.eq_nil_of_digits_eq hzero
  · have hbind (digits dropped : Nat) :
        (do let value ← plain negative digits dropped; .ok (value, rest)) =
          (plain negative digits dropped).map fun value => (value, rest) := by
      cases plain negative digits dropped <;> rfl
    cases rest with
    | nil => exact hbind _ _
    | cons char rest =>
      obtain ⟨-, hpoint, hlower, hupper⟩ := hrest char rfl
      simpa [hpoint, hlower, hupper] using hbind _ _

theorem unsigned_digits {number : Nat} (negative : Bool)
    (hlt : number < UInt64.size) (hrest : Ends rest) :
    unsigned negative (Numeral.digits number ++ rest) =
      (plain negative number 0).map fun value => (value, rest) := by
  have hgather : gather 0 (Numeral.digits number) = (number, 0) :=
    gather_of_lt (Numeral.value_digits number) hlt
  rw [unsigned_run negative hrest, hgather]

/-- What is scaled is a floating-point number, if it is a number at all. -/
theorem scaled_ne_integer {negative : Bool} {digits : Nat}
    {exponent value : Int} :
    scaled negative digits exponent ≠ .ok (.integer value) := by
  unfold scaled
  split <;> simp

theorem unsigned_ne_integer {number : Nat} {negative : Bool} {value : Int}
    {left : List Char}
    (hlarge : UInt64.size ≤ number ∨
      negative = true ∧ UInt64.size / 2 < number) (hrest : Ends rest) :
    unsigned negative (Numeral.digits number ++ rest) ≠
      .ok (.integer value, left) := by
  have hplain : ∀ digits dropped, dropped ≠ 0 ∨
      negative = true ∧ UInt64.size / 2 < digits →
      plain negative digits dropped ≠ .ok (.integer value) := by
    intro digits dropped hscaled
    rw [plain, if_neg, if_neg]
    · exact scaled_ne_integer
    · rintro ⟨hzero, -, hle⟩
      rcases hscaled with hdropped | ⟨-, hlt⟩
      · exact hdropped hzero
      · omega
    · rintro ⟨hzero, hpositive⟩
      rcases hscaled with hdropped | ⟨hnegative, -⟩
      · exact hdropped hzero
      · simp [hnegative] at hpositive
  have hscaled : (gather 0 (Numeral.digits number)).2 ≠ 0 ∨
      negative = true ∧
        UInt64.size / 2 < (gather 0 (Numeral.digits number)).1 := by
    rcases Nat.lt_or_ge number UInt64.size with hlt | hge
    · rw [gather_of_lt (Numeral.value_digits number) hlt]
      exact .inr (hlarge.resolve_left (Nat.not_le_of_lt hlt))
    · refine .inl (gather_dropped_ne_zero (by decide) ?_)
      have hvalue := Numeral.value_digits number
      rw [Numeral.value] at hvalue
      rwa [hvalue]
  intro hread
  rw [unsigned_run negative hrest] at hread
  cases hresult : plain negative (gather 0 (Numeral.digits number)).1
      (gather 0 (Numeral.digits number)).2 with
  | error problem =>
    rw [hresult] at hread
    cases hread
  | ok result =>
    rw [hresult] at hread
    obtain ⟨rfl, -⟩ := Prod.mk.inj (Except.ok.inj hread)
    exact hplain _ _ hscaled hresult

end Numeric

/-- An integer of 64 bits is read as it is. -/
theorem number_ofInt {value : Int} (hlow : -9223372036854775808 ≤ value)
    (hhigh : value ≤ 18446744073709551615) (hrest : Ends rest) :
    number (Numeral.ofInt value ++ rest) = .ok (.integer value, rest) := by
  cases value with
  | ofNat value =>
    have hlt : value < UInt64.size := by
      rw [UInt64.size]
      exact Nat.lt_succ_of_le (Int.ofNat_le.mp hhigh)
    have hplain : Numeric.plain false value 0 = .ok (.integer value) := rfl
    rw [Numeral.ofInt, number_digits (Numeral.isDigits_digits value),
      Numeric.unsigned_digits false hlt hrest, hplain]
    rfl
  | negSucc value =>
    have hle : value + 1 ≤ UInt64.size / 2 := by
      rw [UInt64.size]
      omega
    have hplain : Numeric.plain true (value + 1) 0 =
        .ok (.integer (.negSucc value)) := by
      have hneg : ¬ (0 = 0 ∧ (!true) = true) := by simp
      rw [Numeric.plain, if_neg hneg, if_pos ⟨rfl, Nat.succ_pos value, hle⟩]
      rfl
    rw [Numeral.ofInt, List.cons_append, number,
      Numeric.unsigned_digits true (Nat.lt_of_le_of_lt hle (by decide)) hrest,
      hplain]
    rfl

/-- An integer beyond 64 bits is not read as one. -/
theorem number_ofInt_ne_integer {number value : Int} {left : List Char}
    (hlarge : number < -9223372036854775808 ∨ 18446744073709551615 < number)
    (hrest : Ends rest) :
    Reader.number (Numeral.ofInt number ++ rest) ≠
      .ok (.integer value, left) := by
  cases number with
  | ofNat number =>
    have hsize : UInt64.size ≤ number := by
      rw [UInt64.size]
      have hlt : (18446744073709551615 : Int) < number :=
        hlarge.resolve_left (by simp)
      omega
    rw [Numeral.ofInt, number_digits (Numeral.isDigits_digits number)]
    exact Numeric.unsigned_ne_integer (.inl hsize) hrest
  | negSucc number =>
    have hsize : UInt64.size / 2 < number + 1 := by
      rw [UInt64.size]
      omega
    rw [Numeral.ofInt, List.cons_append, Reader.number]
    exact Numeric.unsigned_ne_integer (.inr ⟨rfl, hsize⟩) hrest

end Redial.Json.Reader
