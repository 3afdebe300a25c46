import Redial.Proofs.Json.Tokens

/-!
Reading single values. `Reads read value result` says that a reader takes
every text of a value for the same result, whatever follows. An orderly reader
does not mind blanks in front, and never stops within a value: it takes all of
its text or reports a problem. Readers of one type read the values of their
type, and are orderly for all values.
-/

namespace Redial.Json

variable {α β : Type}

/-- Whether a reader takes every text of a value for this result. -/
def Reads (read : Reader α) (value : Json) (result : α) : Prop :=
  ∀ text rest, Written value text → Ends rest →
    read (text ++ rest) = .ok (result, rest)

/-- Whether a reader refuses every text of a value. -/
def Refuses (read : Reader α) (value : Json) : Prop :=
  ∀ text rest, Written value text → Ends rest →
    ∃ problem, read (text ++ rest) = .error problem

/-- Whether a reader skips blanks in front of a value, and takes the whole
value or nothing. -/
structure Orderly (read : Reader α) : Prop where
  skips : ∀ blanks text, Blanks blanks → read (blanks ++ text) = read text
  whole : ∀ value text rest, Written value text → Ends rest →
    Leaves rest (read (text ++ rest))

section Heads

variable {first : Char} {text : List Char}

/-- A character that numerals start with differs from all that they do not. -/
theorem ne_of_startsNumeral (hfirst : first = '-' ∨ first.isDigit = true)
    (other : Char) (hother : other ≠ '-' ∧ other.isDigit = false) :
    first ≠ other := by
  rintro rfl
  rcases hfirst with hminus | hdigit
  · exact hother.1 hminus
  · simp [hother.2] at hdigit

theorem isBlank_of_startsNumeral
    (hfirst : first = '-' ∨ first.isDigit = true) :
    Reader.isBlank first = false := by
  by_contra hblank
  rcases eq_of_isBlank (Bool.not_eq_false _ ▸ hblank) with
      rfl | rfl | rfl | rfl <;>
    simp [Char.isDigit] at hfirst

theorem IsNumeral.exists_cons (hnumeral : IsNumeral text) :
    ∃ first tail, text = first :: tail ∧
      (first = '-' ∨ first.isDigit = true) := by
  obtain ⟨hsign, ⟨hne, hdigits⟩, -, -, -⟩ := hnumeral
  rcases hsign with rfl | rfl
  · obtain ⟨first, run, rfl⟩ := List.exists_cons_of_ne_nil hne
    exact ⟨first, _, rfl, .inr (hdigits first List.mem_cons_self)⟩
  · exact ⟨'-', _, rfl, .inl rfl⟩

theorem isNumeral_ofInt (value : Int) : IsNumeral (Numeral.ofInt value) := by
  have hdigits (number : Nat) (sign : List Char)
      (hsign : sign = [] ∨ sign = ['-']) :
      IsNumeral (sign ++ Numeral.digits number) := by
    simpa using IsNumeral.intro hsign (Numeral.isDigits_digits number)
      (fun _ => Numeral.eq_nil_of_digits_eq) .absent .absent
  cases value with
  | ofNat number => exact hdigits number [] (.inl rfl)
  | negSucc number => exact hdigits (number + 1) ['-'] (.inr rfl)

theorem NumberWritten.isNumeral {value : Number}
    (hnumber : NumberWritten value text) :
    IsNumeral text := by
  cases hnumber with
  | integer => exact isNumeral_ofInt _
  | float hnumeral => exact hnumeral

/-- No value starts with a blank or with what closes a list, and only one with
the letter of `null`. -/
theorem Written.exists_cons {value : Json} (hwritten : Written value text) :
    ∃ first tail, text = first :: tail ∧ Reader.isBlank first = false ∧
      first ≠ ']' ∧ (value ≠ .null → first ≠ 'n') := by
  cases hwritten with
  | nullWord => exact ⟨_, _, rfl, rfl, by decide, absurd rfl⟩
  | number hnumber =>
    obtain ⟨first, tail, htext, hfirst⟩ := hnumber.isNumeral.exists_cons
    exact ⟨first, tail, htext, isBlank_of_startsNumeral hfirst,
      ne_of_startsNumeral hfirst ']' (by decide),
      fun _ => ne_of_startsNumeral hfirst 'n' (by decide)⟩
  | trueWord | falseWord | string | array | object =>
    exact ⟨_, _, rfl, rfl, by decide, fun _ => by decide⟩

end Heads

namespace Reader

theorem boolean_reads (value : Bool) : Reads boolean (.bool value) value := by
  intro text rest hwritten _
  cases hwritten with
  | trueWord => rfl
  | falseWord => rfl

theorem boolean_orderly : Orderly boolean := by
  constructor
  case skips =>
    intro blanks text hblanks
    rw [boolean, boolean, hblanks.skip]
  case whole =>
    intro value text rest hwritten _
    cases hwritten with
    | trueWord => exact leaves_ok true
    | falseWord => exact leaves_ok false
    | number hnumber =>
      obtain ⟨first, tail, rfl, hfirst⟩ := hnumber.isNumeral.exists_cons
      have ht := ne_of_startsNumeral hfirst 't' (by decide)
      have hf := ne_of_startsNumeral hfirst 'f' (by decide)
      simp [boolean, skipBlanks, isBlank_of_startsNumeral hfirst, ht, hf]
    | nullWord | string | array | object => exact leaves_error _

theorem text_reads (value : String) :
    Reads Reader.text (.string value) value := by
  intro text rest hwritten _
  cases hwritten with
  | string hliteral => exact Literal.content_append hliteral rest

theorem text_orderly : Orderly Reader.text := by
  constructor
  case skips =>
    intro blanks text hblanks
    rw [Reader.text, Reader.text, hblanks.skip]
  case whole =>
    intro value text rest hwritten hrest
    cases hwritten with
    | string hliteral =>
      rw [text_reads _ _ _ (.string hliteral) hrest]
      exact leaves_ok _
    | number hnumber =>
      obtain ⟨first, tail, rfl, hfirst⟩ := hnumber.isNumeral.exists_cons
      have hquote := ne_of_startsNumeral hfirst '"' (by decide)
      simp [Reader.text, skipBlanks, isBlank_of_startsNumeral hfirst, hquote]
    | nullWord | trueWord | falseWord | array | object => exact leaves_error _

section Integers

variable {low high : Int} {typeName : String}

/-- What a number comes to where an integer between two bounds is expected. -/
def bounded (low high : Int) (typeName : String) :
    Number × List Char → Except Problem (Int × List Char)
  | (.integer value, left) =>
    if low ≤ value ∧ value ≤ high then .ok (value, left)
    else .error (.outOfRange value typeName)
  | (.float value, _) => .error (.wrongType (.float value) typeName)

theorem integer_numeral {text : List Char} (hnumeral : IsNumeral text)
    (rest : List Char) :
    integer low high typeName (text ++ rest) =
      number (text ++ rest) >>= bounded low high typeName := by
  obtain ⟨first, tail, rfl, hfirst⟩ := hnumeral.exists_cons
  have hstart : (first == '-' || first.isDigit) = true := by
    simpa using hfirst
  simp only [List.cons_append, integer, skipBlanks, List.dropWhile_cons,
    isBlank_of_startsNumeral hfirst, Bool.false_eq_true, if_false, hstart,
    if_true]
  rfl

theorem integer_reads {value : Int} (hvalue : low ≤ value ∧ value ≤ high) :
    Reads (integer low high typeName) (.ofInt value) value := by
  intro text rest hwritten hrest
  cases hwritten with
  | number hnumber =>
    rw [integer_numeral hnumber.isNumeral]
    cases hnumber with
    | integer hlow hhigh =>
      rw [number_ofInt hlow hhigh hrest]
      exact if_pos hvalue

theorem integer_orderly : Orderly (integer low high typeName) := by
  constructor
  case skips =>
    intro blanks text hblanks
    rw [integer, integer, hblanks.skip]
  case whole =>
    intro value text rest hwritten hrest
    cases hwritten with
    | number hnumber =>
      rw [integer_numeral hnumber.isNumeral]
      refine (number_leaves hnumber.isNumeral hrest).bind fun value => ?_
      cases value with
      | integer value => exact .ite (leaves_ok value) (leaves_error _)
      | float value => exact leaves_error _
    | nullWord | trueWord | falseWord | string | array | object =>
      exact leaves_error _

end Integers

theorem unsigned64_reads (value : UInt64) :
    Reads unsigned64 (.ofInt value.toNat) value := by
  have hbounds : (0 : Int) ≤ value.toNat ∧
      (value.toNat : Int) ≤ 18446744073709551615 := by
    have hlt := value.toNat_lt
    omega
  intro text rest hwritten hrest
  rw [unsigned64, integer_reads hbounds text rest hwritten hrest]
  simp [Except.map]

theorem signed64_reads (value : Int64) :
    Reads signed64 (.ofInt value.toInt) value := by
  have hbounds : -9223372036854775808 ≤ value.toInt ∧
      value.toInt ≤ 9223372036854775807 := by
    have hle := value.le_toInt
    have hlt := value.toInt_lt
    omega
  intro text rest hwritten hrest
  rw [signed64, integer_reads hbounds text rest hwritten hrest]
  simp [Except.map]

end Reader

section Mapped

variable {read : Reader α} {value : Json}

theorem Reads.map {result : α} (hread : Reads read value result)
    (final : α → β) :
    Reads (fun text =>
        (read text).map fun (value, left) => (final value, left)) value
      (final result) := by
  intro text rest hwritten hrest
  simp [hread text rest hwritten hrest, Except.map]

theorem Refuses.map (hrefuses : Refuses read value) (final : α → β) :
    Refuses (fun text =>
      (read text).map fun (value, left) => (final value, left)) value := by
  intro text rest hwritten hrest
  obtain ⟨problem, hproblem⟩ := hrefuses text rest hwritten hrest
  exact ⟨problem, by simp [hproblem, Except.map]⟩

theorem Orderly.map (hread : Orderly read) (final : α → β) :
    Orderly fun text =>
      (read text).map fun (value, left) => (final value, left) where
  skips blanks text hblanks := by rw [hread.skips blanks text hblanks]
  whole value text rest hwritten hrest :=
    (hread.whole value text rest hwritten hrest).map final

end Mapped

namespace Reader

theorem unsigned64_orderly : Orderly unsigned64 :=
  integer_orderly.map fun value => UInt64.ofNat value.toNat

theorem signed64_orderly : Orderly signed64 :=
  integer_orderly.map Int64.ofInt

section Optional

variable {read : Reader α} {value : Json} {text : List Char}

theorem optional_null_reads (read : Reader α) :
    Reads (optional read) .null none := by
  intro text rest hwritten _
  cases hwritten
  rfl

/-- What is not `null` is read as without the option of it. -/
theorem optional_append (hwritten : Written value text)
    (hvalue : value ≠ .null) (rest : List Char) :
    optional read (text ++ rest) =
      (read (text ++ rest)).map fun (value, left) => (some value, left) := by
  obtain ⟨first, tail, rfl, hblank, -, hnull⟩ := hwritten.exists_cons
  have hfirst := hnull hvalue
  simp [optional, skipBlanks, hblank, hfirst]

theorem optional_reads {result : α} (hread : Reads read value result)
    (hvalue : value ≠ .null) :
    Reads (optional read) value (some result) := by
  intro text rest hwritten hrest
  rw [optional_append hwritten hvalue, hread text rest hwritten hrest]
  rfl

theorem optional_orderly (hread : Orderly read) :
    Orderly (optional read) := by
  constructor
  case skips =>
    intro blanks text hblanks
    rw [optional, optional, hblanks.skip]
  case whole =>
    intro value text rest hwritten hrest
    by_cases hvalue : value = .null
    · subst hvalue
      rw [optional_null_reads read text rest hwritten hrest]
      exact leaves_ok none
    · rw [optional_append hwritten hvalue]
      exact (hread.whole value text rest hwritten hrest).map some

end Optional

section Whole

variable {read : Reader α} {value : Json} {before text after : List Char}

theorem whole_append (hread : Orderly read) (hbefore : Blanks before)
    (rest : List Char) :
    whole read (String.ofList (before ++ rest)) =
      whole read (String.ofList rest) := by
  rw [whole, whole, String.toList_ofList, String.toList_ofList,
    hread.skips before rest hbefore]

/-- A text that holds a value and blanks around it is read as the value is. -/
theorem whole_reads {result : α} (hread : Orderly read)
    (hreads : Reads read value result) (hwritten : Written value text)
    (hbefore : Blanks before) (hafter : Blanks after) :
    whole read (String.ofList (before ++ (text ++ after))) = .ok result := by
  have hskip : skipBlanks after = [] := by
    simpa [skipBlanks] using hafter.skip []
  have hends : Ends after := by simpa using hafter.ends ends_nil
  rw [whole_append hread hbefore, whole, String.toList_ofList,
    hreads text after hwritten hends]
  simp [bind, Except.bind, hskip]

theorem whole_refuses (hread : Orderly read) (hrefuses : Refuses read value)
    (hwritten : Written value text) (hbefore : Blanks before)
    (hafter : Blanks after) :
    ∃ problem, whole read (String.ofList (before ++ (text ++ after))) =
      .error problem := by
  have hends : Ends after := by simpa using hafter.ends ends_nil
  obtain ⟨problem, hproblem⟩ := hrefuses text after hwritten hends
  refine ⟨problem, ?_⟩
  rw [whole_append hread hbefore, whole, String.toList_ofList, hproblem]
  rfl

end Whole

end Reader

end Redial.Json
