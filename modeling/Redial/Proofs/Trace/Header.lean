import Mathlib.Data.List.TakeWhile
import Redial.Proofs.Text.Hexadecimal
import Redial.Trace.Context

/-!
Header values of a trace. A value is read just if it is four fields of
hexadecimal digits, of two, 32, 16 and two digits, with dashes between them
and white space around them at most. The first field is the version. Values of
every version are read, although `00` is the only one that is written.
-/

namespace Redial

namespace Text

/-- White space and nothing else. -/
def AllBlank (text : List Char) : Prop :=
  ∀ char ∈ text, isBlank char = true

variable {before solid after : List Char}

theorem exists_trim (text : List Char) :
    ∃ before after, AllBlank before ∧ AllBlank after ∧
      text = before ++ trim text ++ after := by
  let rest := text.dropWhile isBlank
  have hrest :
      rest = trim text ++ (rest.reverse.takeWhile isBlank).reverse := by
    rw [← List.reverse_inj, List.reverse_append, List.reverse_reverse, trim,
      List.reverse_reverse]
    exact List.takeWhile_append_dropWhile.symm
  refine ⟨text.takeWhile isBlank, (rest.reverse.takeWhile isBlank).reverse,
    ?_, ?_, ?_⟩
  · exact fun char hmem => List.mem_takeWhile_imp hmem
  · exact fun char hmem => List.mem_takeWhile_imp (List.mem_reverse.mp hmem)
  · rw [List.append_assoc, ← hrest]
    exact List.takeWhile_append_dropWhile.symm

theorem AllBlank.dropWhile_append (hbefore : AllBlank before)
    (hsolid : ∀ char ∈ solid, isBlank char = false) (hne : solid ≠ [])
    (rest : List Char) :
    (before ++ (solid ++ rest)).dropWhile isBlank = solid ++ rest := by
  obtain ⟨first, others, rfl⟩ := List.exists_cons_of_ne_nil hne
  have hfirst := hsolid first List.mem_cons_self
  rw [List.dropWhile_append_of_pos hbefore, List.cons_append,
    List.dropWhile_cons_of_neg (ne_true_of_eq_false hfirst)]

theorem trim_append (hbefore : AllBlank before) (hafter : AllBlank after)
    (hsolid : ∀ char ∈ solid, isBlank char = false) (hne : solid ≠ []) :
    trim (before ++ solid ++ after) = solid := by
  have hback : AllBlank after.reverse :=
    fun char hmem => hafter char (List.mem_reverse.mp hmem)
  have hturned : ∀ char ∈ solid.reverse, isBlank char = false :=
    fun char hmem => hsolid char (List.mem_reverse.mp hmem)
  have hdrop :=
    hback.dropWhile_append hturned (List.reverse_ne_nil_iff.mpr hne) []
  rw [List.append_nil] at hdrop
  rw [trim, List.append_assoc, hbefore.dropWhile_append hsolid hne,
    List.reverse_append, hdrop, List.reverse_reverse]

end Text

namespace TraceContext

theorem fields_eq_splitOn (text : List Char) :
    fields text = text.splitOn '-' := by
  induction text with
  | nil => rfl
  | cons char rest ih =>
    rw [fields, List.splitOn_cons_eq_if_modifyHead, ← ih]
    by_cases hdash : char = '-'
    · simp [hdash]
    · rw [if_neg hdash, if_neg (by simpa using hdash)]
      cases hfields : fields rest with
      | nil =>
        exact absurd (ih.symm.trans hfields) (List.splitOn_ne_nil '-' rest)
      | cons field others => rfl

/-- A header value in its four fields. -/
structure Header where
  version : List Char
  trace : List Char
  span : List Char
  flags : List Char
  isHex_version : Text.IsHex 2 version
  isHex_trace : Text.IsHex 32 trace
  isHex_span : Text.IsHex 16 span
  isHex_flags : Text.IsHex 2 flags

namespace Header

variable {header other : Header} {value : String}

def fields (header : Header) : List (List Char) :=
  [header.version, header.trace, header.span, header.flags]

/-- The fields with dashes between them. -/
def text (header : Header) : List Char :=
  ['-'].intercalate header.fields

/-- Whether a value is the header with white space around it. -/
def WrittenIn (header : Header) (value : String) : Prop :=
  ∃ before after, Text.AllBlank before ∧ Text.AllBlank after ∧
    value.toList = before ++ header.text ++ after

/-- What a header says: the trace, the span, and whether the number of
its flags is odd. -/
def context (header : Header) : TraceContext where
  traceId := Text.lower (String.ofList header.trace)
  spanId := Text.lower (String.ofList header.span)
  sampled := Text.hexNumber header.flags % 2 == 1

theorem mem_hexAlphabet (header : Header) {field : List Char}
    (hfield : field ∈ header.fields) {char : Char} (hchar : char ∈ field) :
    char ∈ Text.hexAlphabet := by
  simp only [fields, List.mem_cons, List.not_mem_nil, or_false] at hfield
  rcases hfield with rfl | rfl | rfl | rfl
  · exact header.isHex_version.mem char hchar
  · exact header.isHex_trace.mem char hchar
  · exact header.isHex_span.mem char hchar
  · exact header.isHex_flags.mem char hchar

theorem fields_text (header : Header) :
    TraceContext.fields header.text = header.fields := by
  have hdash : ∀ char ∈ Text.hexAlphabet, char ≠ '-' :=
    List.all_iff_forall_prop.mp (by decide)
  rw [fields_eq_splitOn, text]
  refine List.splitOn_intercalate '-' (fun field hfield hmem => ?_)
    (by simp [Header.fields])
  exact hdash '-' (header.mem_hexAlphabet hfield hmem) rfl

theorem text_eq (header : Header) : header.text =
    header.version ++ '-' ::
      (header.trace ++ '-' :: (header.span ++ '-' :: header.flags)) := by
  simp [text, fields]

theorem mem_text {char : Char} (hmem : char ∈ header.text) :
    char = '-' ∨ char ∈ Text.hexAlphabet := by
  have hfield : char = '-' ∨ ∃ field ∈ header.fields, char ∈ field := by
    simp only [text_eq, fields, List.mem_append, List.mem_cons,
      List.not_mem_nil, or_false, exists_eq_or_imp, exists_eq_left] at hmem ⊢
    grind
  exact hfield.imp_right fun ⟨_, hfield, hchar⟩ =>
    header.mem_hexAlphabet hfield hchar

theorem trim_of_writtenIn (hwritten : header.WrittenIn value) :
    Text.trim value.toList = header.text := by
  obtain ⟨before, after, hbefore, hafter, hvalue⟩ := hwritten
  have hdigit : ∀ char ∈ Text.hexAlphabet, Text.isBlank char = false :=
    List.all_iff_forall_prop.mp (by decide)
  rw [hvalue]
  refine Text.trim_append hbefore hafter (fun char hmem => ?_)
    (by simp [text_eq])
  rcases mem_text hmem with rfl | hhex
  · rfl
  · exact hdigit char hhex

theorem fields_of_writtenIn (hwritten : header.WrittenIn value) :
    TraceContext.fields (Text.trim value.toList) = header.fields := by
  rw [trim_of_writtenIn hwritten, fields_text]

/-- A value is written in at most one way. -/
theorem WrittenIn.unique (hwritten : header.WrittenIn value)
    (hother : other.WrittenIn value) :
    header = other := by
  have hfields : header.fields = other.fields :=
    (fields_of_writtenIn hwritten).symm.trans (fields_of_writtenIn hother)
  cases header
  cases other
  simpa [fields] using hfields

end Header

variable {value : String} {context : TraceContext}

theorem isHexField_iff {width : Nat} {field : List Char} :
    isHexField width field = true ↔ Text.IsHex width field := by
  simp only [isHexField, Bool.and_eq_true, beq_iff_eq, List.all_eq_true,
    Text.isHexDigit_iff]
  exact ⟨fun h => ⟨h.1, h.2⟩, fun h => ⟨h.length, h.mem⟩⟩

theorem isOddHex_eq (flags : List Char) :
    isOddHex flags = (Text.hexNumber flags % 2 == 1) := by
  rw [Text.hexNumber_mod_two, isOddHex]

theorem ofTraceparent?_of_writtenIn {header : Header}
    (hwritten : header.WrittenIn value) :
    ofTraceparent? value = some header.context := by
  have hversion := isHexField_iff.mpr header.isHex_version
  have htrace := isHexField_iff.mpr header.isHex_trace
  have hspan := isHexField_iff.mpr header.isHex_span
  have hflags := isHexField_iff.mpr header.isHex_flags
  rw [ofTraceparent?, Header.fields_of_writtenIn hwritten]
  simp [Header.fields, Header.context, hversion, htrace, hspan, hflags,
    isOddHex_eq]

/-- A value is read as a context just if it is a header that stands for it. -/
theorem ofTraceparent?_eq_some_iff :
    ofTraceparent? value = some context ↔
      ∃ header : Header, header.WrittenIn value ∧
        header.context = context := by
  refine ⟨fun hread => ?_, fun ⟨header, hwritten, hcontext⟩ =>
    hcontext ▸ ofTraceparent?_of_writtenIn hwritten⟩
  unfold ofTraceparent? at hread
  split at hread
  case h_1 version trace span flags hfields =>
    split at hread
    case isTrue hhex =>
      simp only [Bool.and_eq_true, isHexField_iff] at hhex
      obtain ⟨⟨⟨hversion, htrace⟩, hspan⟩, hflags⟩ := hhex
      let header : Header :=
        ⟨version, trace, span, flags, hversion, htrace, hspan, hflags⟩
      have htext : header.text = Text.trim value.toList := by
        rw [fields_eq_splitOn] at hfields
        rw [Header.text, Header.fields, ← hfields, List.intercalate_splitOn]
      obtain ⟨before, after, hbefore, hafter, hvalue⟩ :=
        Text.exists_trim value.toList
      refine ⟨header, ⟨before, after, hbefore, hafter, htext ▸ hvalue⟩, ?_⟩
      rw [isOddHex_eq] at hread
      exact Option.some.inj hread
    case isFalse => cases hread
  case h_2 => cases hread

/-- A value is read just if it is a header, of whichever version. So the form
with version `00` alone decides whether a value is read just where the value
is not a header of another version. -/
theorem traceparent_read_in_every_version (value : String) :
    ((ofTraceparent? value).isSome ↔
        ∃ header : Header, header.WrittenIn value) ∧
      (((ofTraceparent? value).isSome ↔
          ∃ header : Header, header.version = ['0', '0'] ∧
            header.WrittenIn value) ↔
        ∀ header : Header, header.WrittenIn value →
          header.version = ['0', '0']) := by
  have hread : (ofTraceparent? value).isSome ↔
      ∃ header : Header, header.WrittenIn value := by
    simp only [Option.isSome_iff_exists, ofTraceparent?_eq_some_iff]
    exact ⟨fun ⟨_, header, hwritten, _⟩ => ⟨header, hwritten⟩,
      fun ⟨header, hwritten⟩ => ⟨header.context, header, hwritten, rfl⟩⟩
  refine ⟨hread, ?_⟩
  rw [hread]
  constructor
  · intro hform header hwritten
    obtain ⟨other, hversion, hother⟩ := hform.mp ⟨header, hwritten⟩
    rw [hwritten.unique hother, hversion]
  · intro hversion
    exact ⟨fun ⟨header, hwritten⟩ =>
      ⟨header, hversion header hwritten, hwritten⟩,
      fun ⟨header, _, hwritten⟩ => ⟨header, hwritten⟩⟩

/-- A value of version `01` is read, and is not in the form with version
`00`. -/
theorem traceparent_read_in_next_version :
    let value := "01-0af7651916cd43dd8448eb211c80319c-b7ad6b7169203331-01"
    (ofTraceparent? value).isSome ∧
      ¬ ∃ header : Header,
        header.version = ['0', '0'] ∧ header.WrittenIn value := by
  intro value
  refine ⟨by decide +kernel, fun ⟨header, hversion, hwritten⟩ => ?_⟩
  have hfirst : (fields (Text.trim value.toList)).head? =
      some ['0', '1'] := by decide +kernel
  rw [Header.fields_of_writtenIn hwritten, Header.fields, List.head?_cons,
    hversion] at hfirst
  cases hfirst

end TraceContext

end Redial
