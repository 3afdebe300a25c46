import Redial.Proofs.Status.Listing
import Redial.Proofs.Status.Spelling

/-!
What failure classes mean in texts and in JSON. Strings of JSON are read as
texts are, integers as their decimal text is, however large they are, and no
other value is a class. Lists of classes survive being written and read again.
-/

namespace Redial.StatusCode

open Json (Blanks Ends)
open Json.Reader (valueHolding value skipBlanks)

/-- The class that is alone in a JSON text. -/
def ofText (text : String) : Except Json.Problem StatusCode :=
  Json.Reader.whole (read Json.maxDepth) text

/-- What a text means as a class, and why a text is refused that means
none. -/
structure TextMeaning (text : String) : Prop where
  timeout : parse text = .ok .timeout ↔ Text.lower text = "timeout"
  remote : ∀ code : Code, parse text = .ok (.remote code) ↔
    Numeral.Denotes text.toList code.toNat ∨
      Text.lower text = Text.lower code.name
  unknownNumber : ∀ number, Numeral.Denotes text.toList number →
    -2147483648 ≤ number → number ≤ 2147483647 →
    (∀ code : Code, number ≠ code.toNat) →
      parse text = .error
        ("Unknown status code: " ++ String.ofList (Numeral.ofInt number))
  unknownText : (∀ number, Numeral.Denotes text.toList number →
      number < -2147483648 ∨ 2147483647 < number) →
    (∀ status, parse text ≠ .ok status) →
    parse text = .error ("Unknown status code: " ++ text)
  oneForm : ∀ form other : Form, form.Fits text → other.Fits text →
    form = other
  anyOrder : ∀ order : List Form, (∀ form, form ∈ order) →
    parseInOrder order text = parse text

/-- What JSON texts mean as classes, with any blanks around the value. -/
structure JsonMeaning : Prop where
  string :
    ∀ text literal before after, Json.Literal.Written text.toList literal →
      Blanks before → Blanks after →
        ofText (String.ofList (before ++ ('"' :: (literal ++ after)))) =
          (parse text).mapError .rejected
  integer : ∀ number before after, Blanks before → Blanks after → ∀ status,
    ofText (String.ofList (before ++ (Numeral.ofInt number ++ after))) =
      .ok status ↔
      parse (String.ofList (Numeral.ofInt number)) = .ok status
  other : ∀ text, (∀ string, Json.parse text ≠ .ok (.string string)) →
    (∀ number, Json.parse text ≠ .ok (.ofInt number)) →
    ∃ problem, ofText text = .error problem
  list : ∀ statuses, listOfText (listToJson statuses).text = .ok statuses

section Values

variable {text : String} {status : StatusCode} {json : Json}
  {before after piece : List Char}

theorem parse_append (hbefore : Blanks before) (hafter : Blanks after)
    (hvalue : ∀ inner?, valueHolding inner? (piece ++ after) =
      .ok (json, after)) :
    Json.parse (String.ofList (before ++ (piece ++ after))) = .ok json := by
  obtain ⟨inner?, hholding⟩ := Json.Reader.value_eq_valueHolding Json.maxDepth
  have hskip : skipBlanks after = [] := by
    simpa [skipBlanks] using hafter.skip []
  rw [Json.parse, Json.Reader.whole, String.toList_ofList, hholding,
    Json.Reader.valueHolding_skips hbefore, hvalue]
  simp [bind, Except.bind, hskip]

/-- A text that is read as a value is taken as a class for what it is, and
no other is one. -/
theorem ofText_cases (text : String) :
    (∃ json, Json.parse text = .ok json ∧
        ofText text = (ofJson json).mapError .rejected) ∨
      (∀ json, Json.parse text ≠ .ok json) ∧
        ∃ problem, ofText text = .error problem := by
  rw [Json.parse, ofText, Json.Reader.whole, Json.Reader.whole, read]
  cases value Json.maxDepth text.toList with
  | error problem =>
    refine .inr ⟨?_, problem, rfl⟩
    rintro _ ⟨⟩
  | ok inner =>
    obtain ⟨json, rest⟩ := inner
    simp only [bind, Except.bind]
    cases hskip : skipBlanks rest with
    | nil =>
      refine .inl ⟨json, rfl, ?_⟩
      cases ofJson json <;> simp [hskip, Except.mapError]
    | cons char more =>
      refine .inr ⟨?_, ?_⟩
      · rintro _ ⟨⟩
      · cases ofJson json <;> simp [hskip]

theorem ofText_of_parse (hparse : Json.parse text = .ok json) :
    ofText text = (ofJson json).mapError .rejected := by
  rcases ofText_cases text with ⟨found, hfound, hread⟩ | ⟨hnone, -⟩
  · obtain rfl := Except.ok.inj (hfound.symm.trans hparse)
    exact hread
  · exact absurd hparse (hnone json)

theorem mapError_eq_ok_iff {outcome : Except String StatusCode} :
    outcome.mapError Json.Problem.rejected = .ok status ↔
      outcome = .ok status := by
  cases outcome <;> simp [Except.mapError]

/-- Only strings and integers are classes. -/
theorem ofText_of_other
    (hstring : ∀ string, Json.parse text ≠ .ok (.string string))
    (hnumber : ∀ number, Json.parse text ≠ .ok (.ofInt number)) :
    ∃ problem, ofText text = .error problem := by
  rcases ofText_cases text with ⟨json, hparse, hread⟩ | ⟨-, hrefused⟩
  · rw [hread]
    cases json with
    | string string => exact absurd hparse (hstring string)
    | number number =>
      cases number with
      | integer number => exact absurd hparse (hnumber number)
      | float => exact ⟨_, rfl⟩
    | null | bool | array | object => exact ⟨_, rfl⟩
  · exact hrefused

end Values

section Integers

variable {number : Int} {status : StatusCode} {before after : List Char}

theorem ofJson_ofInt_eq_ok_iff :
    ofJson (.ofInt number) = .ok status ↔
      ∃ code : Code, number = code.toNat ∧ .remote code = status := by
  have hjson : ofJson (.ofInt number) =
      if isWord number then ofInt number else .error noVariant := rfl
  rw [hjson, ← ofInt_eq_ok_iff]
  split
  · rfl
  · rename_i hword
    have hnone : ¬ ofInt number = .ok status := by
      rw [ofInt_eq_ok_iff]
      rintro ⟨code, rfl, -⟩
      exact hword (isWord_toNat code)
    simp [hnone]

/-- An integer of 64 bits is the value that its decimal text is read as. -/
theorem parse_ofInt (hlow : -9223372036854775808 ≤ number)
    (hhigh : number ≤ 18446744073709551615) (hbefore : Blanks before)
    (hafter : Blanks after) :
    Json.parse (String.ofList (before ++ (Numeral.ofInt number ++ after))) =
      .ok (.ofInt number) := by
  have hends : Ends after := by simpa using hafter.ends Json.ends_nil
  refine parse_append hbefore hafter fun inner? => ?_
  rw [Json.Reader.valueHolding_numeral (Json.isNumeral_ofInt number),
    Json.Reader.number_ofInt hlow hhigh hends]
  rfl

/-- A larger one is read as some other number, or not at all. -/
theorem parse_large_ne
    (hlarge : number < -9223372036854775808 ∨ 18446744073709551615 < number)
    (hbefore : Blanks before) (hafter : Blanks after) {json : Json}
    (hparse :
      Json.parse (String.ofList (before ++ (Numeral.ofInt number ++ after))) =
        .ok json) :
    (∀ string, json ≠ .string string) ∧ ∀ value, json ≠ .ofInt value := by
  have hends : Ends after := by simpa using hafter.ends Json.ends_nil
  obtain ⟨inner?, hholding⟩ := Json.Reader.value_eq_valueHolding Json.maxDepth
  rw [Json.parse, Json.Reader.whole, String.toList_ofList, hholding,
    Json.Reader.valueHolding_skips hbefore,
    Json.Reader.valueHolding_numeral (Json.isNumeral_ofInt number)] at hparse
  cases hnumber : Json.Reader.number (Numeral.ofInt number ++ after) with
  | error problem =>
    rw [hnumber] at hparse
    cases hparse
  | ok inner =>
    obtain ⟨found, left⟩ := inner
    rw [hnumber] at hparse
    simp only [Except.map, bind, Except.bind] at hparse
    split at hparse
    · cases hparse
      constructor
      · rintro _ ⟨⟩
      · intro value hvalue
        obtain rfl := Json.number.inj hvalue
        exact Json.Reader.number_ofInt_ne_integer hlarge hends hnumber
    · cases hparse

/-- Whatever its size, an integer in a JSON text is the class that its
decimal text names. -/
theorem ofText_ofInt (hbefore : Blanks before) (hafter : Blanks after) :
    ofText (String.ofList (before ++ (Numeral.ofInt number ++ after))) =
      .ok status ↔
      parse (String.ofList (Numeral.ofInt number)) = .ok status := by
  have hdenotes : Numeral.Denotes
      (String.ofList (Numeral.ofInt number)).toList number := by
    rw [String.toList_ofList]
    exact Numeral.denotes_ofInt number
  rw [parse_eq_ok_iff_of_denotes hdenotes]
  by_cases hfits : -9223372036854775808 ≤ number ∧
    number ≤ 18446744073709551615
  · rw [ofText_of_parse (parse_ofInt hfits.1 hfits.2 hbefore hafter),
      mapError_eq_ok_iff, ofJson_ofInt_eq_ok_iff]
  · have hlarge : number < -9223372036854775808 ∨
        18446744073709551615 < number := by omega
    obtain ⟨problem, hproblem⟩ := ofText_of_other
      (fun string hparse =>
        (parse_large_ne hlarge hbefore hafter hparse).1 string rfl)
      (fun value hparse =>
        (parse_large_ne hlarge hbefore hafter hparse).2 value rfl)
    rw [hproblem]
    constructor
    · intro hread
      cases hread
    · rintro ⟨code, rfl, -⟩
      have hword := isWord_toNat code
      simp only [isWord, Bool.and_eq_true, decide_eq_true_eq] at hword
      omega

end Integers

theorem textMeaning (text : String) : TextMeaning text where
  timeout := parse_eq_timeout_iff
  remote _ := parse_eq_remote_iff
  unknownNumber number hdenotes hlow hhigh hunknown :=
    parse_of_unknown_number hdenotes (by simp [isWord, hlow, hhigh]) hunknown
  unknownText hnumber hunknown := by
    refine parse_of_unknown_text (fun number hdenotes => ?_) hunknown
    have hlarge := hnumber number hdenotes
    simp only [isWord, Bool.and_eq_false_iff, decide_eq_false_iff_not]
    omega
  oneForm _ _ hform hother := hform.unique hother
  anyOrder _ hall := parseInOrder_eq_parse hall text

theorem jsonMeaning : JsonMeaning where
  string text literal before after hliteral hbefore hafter := by
    have hvalue : ∀ inner?, valueHolding inner? ('"' :: literal ++ after) =
        .ok (.string text, after) :=
      fun _ => Json.Reader.valueHolding_string hliteral after
    exact ofText_of_parse (parse_append hbefore hafter hvalue)
  integer number before after hbefore hafter status :=
    ofText_ofInt hbefore hafter
  other text hstring hnumber := ofText_of_other hstring hnumber
  list statuses := by
    have hread := Json.Reader.whole_reads (readList_orderly Json.maxDepth)
      (readList_reads (listMeans_listToJson statuses))
      (written_listToJson statuses) .nil .nil
    rwa [List.nil_append, List.append_nil] at hread

/-- A text and a JSON value have one meaning as a class. -/
theorem one_meaning_in_text_and_json :
    (∀ text, TextMeaning text) ∧ JsonMeaning :=
  ⟨textMeaning, jsonMeaning⟩

/-- A number with a sign and zeros in front, which is no code, and a word with
an escape in it. -/
theorem one_meaning_of_odd_spellings :
    parse "-0017" = .error "Unknown status code: -17" ∧
      ofText " \"\\u0054imeout\"\n" = .ok .timeout := by
  obtain ⟨htext, hjson⟩ := one_meaning_in_text_and_json
  have hdenotes : Numeral.Denotes "-0017".toList (-17) := .negative 2 17
  have hcodes : ∀ code : Code, (-17 : Int) ≠ code.toNat :=
    fun code => by omega
  have hdigits : Json.FourDigits ['0', '0', '5', '4'] 'T'.toNat :=
    .intro (a := 0) (b := 0) (c := 5) (d := 4) rfl rfl rfl rfl
  have hliteral :
      Json.Literal.Written "Timeout".toList "\\u0054imeout\"".toList :=
    .char (.unit hdigits)
      (Json.Literal.written_flatMap ['i', 'm', 'e', 'o', 'u', 't'])
  have hbefore : Json.Blanks [' '] := by
    simp [Json.Blanks, Json.Reader.isBlank]
  have hafter : Json.Blanks ['\n'] := by
    simp [Json.Blanks, Json.Reader.isBlank]
  have hword : parse "Timeout" = .ok .timeout :=
    (htext "Timeout").timeout.mpr (by decide)
  have hstring := hjson.string "Timeout" _ _ _ hliteral hbefore hafter
  rw [hword] at hstring
  exact ⟨(htext "-0017").unknownNumber (-17) hdenotes (by decide) (by decide)
    hcodes, hstring⟩

end Redial.StatusCode
