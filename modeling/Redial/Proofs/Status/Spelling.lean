import Mathlib.Data.List.Nodup
import Redial.Proofs.Text.Decimal
import Redial.Status.StatusCode

/-!
The texts of failure classes. A class is spelled by the word for a timeout, by
a numeral or by the name of a code, and no text has two of these forms:
numerals begin with a sign or a digit and the others with a letter, and the
words differ from each other in more than case. So a text is read in the same
way whichever form is tried first, and what is read is just what it spells. A
numeral of 32 bits that is no code is refused by its number, and every other
text that spells nothing is refused as it is.
-/

namespace Redial

theorem Text.sameIgnoringCase_iff {left right : String} :
    sameIgnoringCase left right = true ↔ lower left = lower right := by
  simp [sameIgnoringCase, lower, String.ofList_inj]

namespace Code

theorem ofInt?_eq_some_iff {number : Int} {code : Code} :
    ofInt? number = some code ↔ number = code.toNat := by
  constructor
  · intro hfound
    have hnumber := List.find?_some hfound
    exact (beq_iff_eq.mp hnumber).symm
  · rintro rfl
    exact code.ofInt?_toNat

theorem lower_name_ne_timeoutWord (code : Code) :
    Text.lower code.name ≠ StatusCode.timeoutWord := by
  have hnames : ∀ code ∈ all, Text.lower code.name ≠
      StatusCode.timeoutWord := by decide +kernel
  exact hnames code code.mem_all

theorem lower_name_injective {left right : Code}
    (hname : Text.lower left.name = Text.lower right.name) :
    left = right := by
  have hnodup : (all.map fun code => Text.lower code.name).Nodup := by
    decide +kernel
  exact List.inj_on_of_nodup_map hnodup left.mem_all right.mem_all hname

theorem begins_lower_name (code : Code) :
    Numeral.begins (Text.lower code.name).toList = false := by
  have hnames :
      ∀ code ∈ all, Numeral.begins (Text.lower code.name).toList = false := by
    decide +kernel
  exact hnames code code.mem_all

end Code

namespace StatusCode

variable {text : String} {number : Int} {status : StatusCode} {code : Code}

/-- The forms of a text that may name a class. -/
inductive Form where
  | word
  | numeral
  | name
  deriving DecidableEq

namespace Form

/-- Whether a text has a form, which leaves open if it names a class. -/
def Fits (text : String) : Form → Prop
  | .word => Text.lower text = timeoutWord
  | .numeral => ∃ number, Numeral.Denotes text.toList number
  | .name => ∃ code : Code, Text.lower text = Text.lower code.name

/-- What is read from a text of a form. Texts of other forms and numerals
beyond 32 bits are left to the other forms. -/
def read? (text : String) : Form → Option (Except String StatusCode)
  | .word =>
    if Text.sameIgnoringCase text timeoutWord then some (.ok .timeout)
    else none
  | .numeral => ((Numeral.integer? text.toList).filter isWord).map ofInt
  | .name =>
    (Code.all.find? fun code => Text.sameIgnoringCase code.name text).map
      fun code => .ok (.remote code)

end Form

/-- A numeral begins as no word does, in any case of the letters. -/
theorem lower_ne_of_denotes {word : String}
    (hdenotes : Numeral.Denotes text.toList number)
    (hword : Numeral.begins (Text.lower word).toList = false) :
    Text.lower text ≠ Text.lower word := by
  intro hlower
  have hbegins := Numeral.begins_map_toLower hdenotes.begins
  rw [← hlower, Text.lower, String.toList_ofList, hbegins] at hword
  cases hword

namespace Form

variable {form other : Form} {outcome : Except String StatusCode}

theorem not_numeral_of_word (hword : Fits text word) : ¬ Fits text numeral :=
  fun ⟨_, hdenotes⟩ =>
    have hbegins :
        Numeral.begins (Text.lower timeoutWord).toList = false := rfl
    lower_ne_of_denotes hdenotes hbegins hword

theorem not_numeral_of_name (hname : Fits text name) : ¬ Fits text numeral :=
  fun ⟨_, hdenotes⟩ =>
    have ⟨code, hlower⟩ := hname
    lower_ne_of_denotes hdenotes code.begins_lower_name hlower

theorem not_name_of_word (hword : Fits text word) : ¬ Fits text name :=
  fun ⟨code, hlower⟩ =>
    code.lower_name_ne_timeoutWord (hlower.symm.trans hword)

/-- No text has two forms. -/
theorem Fits.unique (hform : form.Fits text) (hother : other.Fits text) :
    form = other := by
  cases form with
  | word =>
    cases other with
    | word => rfl
    | numeral => exact absurd hother (not_numeral_of_word hform)
    | name => exact absurd hother (not_name_of_word hform)
  | numeral =>
    cases other with
    | word => exact absurd hform (not_numeral_of_word hother)
    | numeral => rfl
    | name => exact absurd hform (not_numeral_of_name hother)
  | name =>
    cases other with
    | word => exact absurd hform (not_name_of_word hother)
    | numeral => exact absurd hother (not_numeral_of_name hform)
    | name => rfl

theorem read?_word_eq_some_iff :
    read? text word = some outcome ↔
      Text.lower text = timeoutWord ∧ .ok .timeout = outcome := by
  have hlower : Text.lower timeoutWord = timeoutWord := by decide
  rw [read?, Option.ite_none_right_eq_some, Text.sameIgnoringCase_iff, hlower,
    Option.some_inj]

theorem read?_numeral_eq_some_iff :
    read? text numeral = some outcome ↔
      ∃ number, Numeral.Denotes text.toList number ∧ isWord number = true ∧
        ofInt number = outcome := by
  simp only [read?, Option.map_eq_some_iff, Option.filter_eq_some_iff,
    Numeral.integer?_eq_some_iff, and_assoc]

theorem read?_name_eq_some_iff :
    read? text name = some outcome ↔
      ∃ code : Code, Text.lower text = Text.lower code.name ∧
        .ok (.remote code) = outcome := by
  rw [read?, Option.map_eq_some_iff]
  constructor
  · rintro ⟨code, hfound, rfl⟩
    have hsame := List.find?_some hfound
    exact ⟨code, (Text.sameIgnoringCase_iff.mp hsame).symm, rfl⟩
  · rintro ⟨code, hlower, rfl⟩
    have hsome :
        (Code.all.find? fun code =>
          Text.sameIgnoringCase code.name text).isSome :=
      List.find?_isSome.mpr ⟨code, code.mem_all,
        Text.sameIgnoringCase_iff.mpr hlower.symm⟩
    obtain ⟨found, hfound⟩ := Option.isSome_iff_exists.mp hsome
    have hsame := Text.sameIgnoringCase_iff.mp (List.find?_some hfound :)
    obtain rfl := Code.lower_name_injective (hsame.trans hlower)
    exact ⟨found, hfound, rfl⟩

/-- Only texts of a form are read in it. -/
theorem fits_of_read?_eq_some (hread : form.read? text = some outcome) :
    form.Fits text := by
  cases form with
  | word => exact (read?_word_eq_some_iff.mp hread).1
  | numeral =>
    obtain ⟨number, hdenotes, -, -⟩ := read?_numeral_eq_some_iff.mp hread
    exact ⟨number, hdenotes⟩
  | name =>
    obtain ⟨code, hlower, -⟩ := read?_name_eq_some_iff.mp hread
    exact ⟨code, hlower⟩

end Form

/-- Reads a text by trying forms one after the other. -/
def parseInOrder (order : List Form) (text : String) :
    Except String StatusCode :=
  (order.findSome? fun form => form.read? text).getD
    (.error (unknownReason text))

theorem parse_eq_parseInOrder (text : String) :
    parse text = parseInOrder [.word, .numeral, .name] text := by
  unfold parse parseInOrder
  simp only [List.findSome?_cons, List.findSome?_nil, Form.read?]
  by_cases hword : Text.sameIgnoringCase text timeoutWord = true
  · simp [hword]
  · cases (Numeral.integer? text.toList).filter isWord with
    | some number => simp [hword]
    | none =>
      cases Code.all.find? fun code =>
          Text.sameIgnoringCase code.name text with
      | some code => simp [hword]
      | none => simp [hword]

section Orders

variable {order : List Form} {form : Form}
  {outcome : Except String StatusCode}

/-- Of the forms that are tried, the one that the text has is the one that
counts. -/
theorem parseInOrder_of_read? (hmem : form ∈ order)
    (hread : form.read? text = some outcome) :
    parseInOrder order text = outcome := by
  have hsome : (order.findSome? fun form => form.read? text).isSome :=
    List.findSome?_isSome_iff.mpr ⟨form, hmem, by rw [hread]; rfl⟩
  obtain ⟨found, hfound⟩ := Option.isSome_iff_exists.mp hsome
  obtain ⟨other, -, hother⟩ := List.exists_of_findSome?_eq_some hfound
  obtain rfl :=
    (Form.fits_of_read?_eq_some hother).unique
      (Form.fits_of_read?_eq_some hread)
  rw [parseInOrder, hfound, ← hother, hread, Option.getD_some]

theorem parseInOrder_of_unread
    (hunread : ∀ form : Form, form.read? text = none) (order : List Form) :
    parseInOrder order text = .error (unknownReason text) := by
  rw [parseInOrder, List.findSome?_eq_none_iff.mpr fun form _ => hunread form,
    Option.getD_none]

end Orders

theorem parse_of_read? {form : Form} {outcome : Except String StatusCode}
    (hread : form.read? text = some outcome) : parse text = outcome := by
  rw [parse_eq_parseInOrder]
  exact parseInOrder_of_read? (by cases form <;> decide) hread

/-- Either one form is read, or the text is refused as it is. -/
theorem parse_cases (text : String) :
    (∃ form : Form, form.read? text = some (parse text)) ∨
      (∀ form : Form, form.read? text = none) ∧
        parse text = .error (unknownReason text) := by
  by_cases hread : ∃ form outcome, Form.read? text form = some outcome
  · obtain ⟨form, outcome, hread⟩ := hread
    exact .inl ⟨form, by rw [parse_of_read? hread, hread]⟩
  · have hunread (form : Form) : form.read? text = none :=
      Option.eq_none_iff_forall_ne_some.mpr fun outcome hsome =>
        hread ⟨form, outcome, hsome⟩
    refine .inr ⟨hunread, ?_⟩
    rw [parse_eq_parseInOrder, parseInOrder_of_unread hunread]

/-- A text is read in the same way in whichever order the forms are tried. -/
theorem parseInOrder_eq_parse {order : List Form}
    (hall : ∀ form, form ∈ order) (text : String) :
    parseInOrder order text = parse text := by
  rcases parse_cases text with ⟨form, hread⟩ | ⟨hunread, hrefused⟩
  · exact parseInOrder_of_read? (hall form) hread
  · rw [parseInOrder_of_unread hunread, hrefused]

theorem parse_eq_ok_iff :
    parse text = .ok status ↔
      ∃ form : Form, form.read? text = some (.ok status) := by
  constructor
  · intro hparse
    rcases parse_cases text with ⟨form, hread⟩ | ⟨-, hunknown⟩
    · exact ⟨form, hparse ▸ hread⟩
    · rw [hparse] at hunknown
      cases hunknown
  · rintro ⟨form, hread⟩
    exact parse_of_read? hread

theorem ofInt_eq_ok_iff :
    ofInt number = .ok status ↔ ∃ code : Code, number = code.toNat ∧
      .remote code = status := by
  unfold ofInt ofInt?
  cases hcode : Code.ofInt? number with
  | none =>
    have hnone (code : Code) : number ≠ code.toNat := fun hnumber => by
      rw [Code.ofInt?_eq_some_iff.mpr hnumber] at hcode
      cases hcode
    simp [hnone]
  | some code =>
    obtain rfl := Code.ofInt?_eq_some_iff.mp hcode
    constructor
    · intro hstatus
      exact ⟨code, rfl, Except.ok.inj hstatus⟩
    · rintro ⟨other, hnumber, rfl⟩
      rw [Code.ofInt?_eq_some_iff.mpr hnumber] at hcode
      obtain rfl := Option.some.inj hcode
      rfl

theorem isWord_toNat (code : Code) : isWord code.toNat = true := by
  cases code <;> rfl

theorem parse_eq_timeout_iff :
    parse text = .ok .timeout ↔ Text.lower text = timeoutWord := by
  rw [parse_eq_ok_iff]
  constructor
  · rintro ⟨form, hread⟩
    cases form with
    | word => exact (Form.read?_word_eq_some_iff.mp hread).1
    | numeral =>
      obtain ⟨number, -, -, hnumber⟩ :=
        Form.read?_numeral_eq_some_iff.mp hread
      obtain ⟨code, -, hstatus⟩ := ofInt_eq_ok_iff.mp hnumber
      cases hstatus
    | name =>
      obtain ⟨code, -, hstatus⟩ := Form.read?_name_eq_some_iff.mp hread
      cases hstatus
  · intro hword
    exact ⟨.word, Form.read?_word_eq_some_iff.mpr ⟨hword, rfl⟩⟩

theorem parse_eq_remote_iff :
    parse text = .ok (.remote code) ↔
      Numeral.Denotes text.toList code.toNat ∨
        Text.lower text = Text.lower code.name := by
  rw [parse_eq_ok_iff]
  constructor
  · rintro ⟨form, hread⟩
    cases form with
    | word => cases (Form.read?_word_eq_some_iff.mp hread).2
    | numeral =>
      obtain ⟨number, hdenotes, -, hnumber⟩ :=
        Form.read?_numeral_eq_some_iff.mp hread
      obtain ⟨other, rfl, hother⟩ := ofInt_eq_ok_iff.mp hnumber
      cases hother
      exact .inl hdenotes
    | name =>
      obtain ⟨other, hlower, hother⟩ := Form.read?_name_eq_some_iff.mp hread
      cases hother
      exact .inr hlower
  · rintro (hdenotes | hlower)
    · refine ⟨.numeral, Form.read?_numeral_eq_some_iff.mpr
        ⟨_, hdenotes, isWord_toNat code, ?_⟩⟩
      exact ofInt_eq_ok_iff.mpr ⟨code, rfl, rfl⟩
    · exact ⟨.name, Form.read?_name_eq_some_iff.mpr ⟨code, hlower, rfl⟩⟩

example : parse "-000" = .ok (.remote .ok) := by decide

/-- A numeral names the code that has its number, and nothing else. -/
theorem parse_eq_ok_iff_of_denotes
    (hdenotes : Numeral.Denotes text.toList number) :
    parse text = .ok status ↔ ∃ code : Code, number = code.toNat ∧
      .remote code = status := by
  cases status with
  | timeout =>
    rw [parse_eq_timeout_iff]
    constructor
    · intro hword
      exact absurd ⟨number, hdenotes⟩ (Form.not_numeral_of_word hword)
    · rintro ⟨code, -, hstatus⟩
      cases hstatus
  | remote code =>
    rw [parse_eq_remote_iff]
    constructor
    · rintro (hcode | hlower)
      · exact ⟨code, hdenotes.unique hcode, rfl⟩
      · exact absurd ⟨number, hdenotes⟩
          (Form.not_numeral_of_name ⟨code, hlower⟩)
    · rintro ⟨other, rfl, hstatus⟩
      cases hstatus
      exact .inl hdenotes

/-- A numeral of 32 bits that is no code is refused by its number, in
its usual form. -/
theorem parse_of_unknown_number
    (hdenotes : Numeral.Denotes text.toList number)
    (hword : isWord number = true)
    (hunknown : ∀ code : Code, number ≠ code.toNat) :
    parse text =
      .error (unknownReason (String.ofList (Numeral.ofInt number))) := by
  rw [parse_of_read?
    (Form.read?_numeral_eq_some_iff.mpr ⟨number, hdenotes, hword, rfl⟩)]
  have hnone : Code.ofInt? number = none :=
    Option.eq_none_iff_forall_ne_some.mpr fun code hcode =>
      hunknown code (Code.ofInt?_eq_some_iff.mp hcode)
  rw [ofInt, ofInt?, hnone]
  rfl

/-- Any other text that names no class is refused as it is. -/
theorem parse_of_unknown_text
    (hnumber : ∀ number, Numeral.Denotes text.toList number →
      isWord number = false)
    (hunknown : ∀ status, parse text ≠ .ok status) :
    parse text = .error (unknownReason text) := by
  rcases parse_cases text with ⟨form, hread⟩ | ⟨-, hrefused⟩
  · exfalso
    cases form with
    | word => exact hunknown _ (Form.read?_word_eq_some_iff.mp hread).2.symm
    | numeral =>
      obtain ⟨number, hdenotes, hword, -⟩ :=
        Form.read?_numeral_eq_some_iff.mp hread
      rw [hnumber number hdenotes] at hword
      cases hword
    | name =>
      obtain ⟨code, -, hstatus⟩ := Form.read?_name_eq_some_iff.mp hread
      exact hunknown _ hstatus.symm
  · exact hrefused

end StatusCode

end Redial
