import Redial.Failure.Assessment

/-!
What is made of a failure, for each kind of failure. A status that stands for
nothing is the one failure without an error. What a remote said comes with the
error of its status, but for its credentials, and every error but that of a
bare message keeps the failure it was made from.
-/

namespace Redial

namespace Metadata

/-- What is left of some metadata without one key, if anything is. -/
structure LeftWithout (key : String) (metadata : Metadata)
    (left? : Option Metadata) : Prop where
  own : (left?.getD {}).values key = []
  others : ∀ other, other ≠ key →
    (left?.getD {}).values other = metadata.values other
  absent : left? = none ↔ ∀ other, other ≠ key → metadata.values other = []

theorem isEmpty_iff (metadata : Metadata) :
    metadata.isEmpty = true ↔ ∀ key, metadata.values key = [] := by
  constructor
  · intro hempty key
    rw [isEmpty, List.isEmpty_iff] at hempty
    rw [values, hempty]
    rfl
  · intro hvalues
    rw [isEmpty, List.isEmpty_iff, List.eq_nil_iff_forall_not_mem]
    rintro ⟨name, value⟩ hmem
    have hvalue : value ∈ metadata.values name :=
      List.mem_filterMap.mpr ⟨(name, value), hmem, if_pos rfl⟩
    rw [hvalues name] at hvalue
    cases hvalue

theorem leftWithout_remove (metadata : Metadata) (key : String) :
    metadata.LeftWithout key
      (if (metadata.remove key).isEmpty then none
        else some (metadata.remove key)) := by
  have hown := metadata.values_remove_self key
  have hothers : ∀ other, other ≠ key →
      (metadata.remove key).values other = metadata.values other :=
    fun other hother => metadata.values_remove_of_ne hother
  have hempty : (metadata.remove key).isEmpty = true ↔
      ∀ other, other ≠ key → metadata.values other = [] := by
    rw [isEmpty_iff]
    constructor
    · intro hall other hother
      rw [← hothers other hother, hall other]
    · intro hnone other
      by_cases hkey : other = key
      · rw [hkey, hown]
      · rw [hothers other hkey, hnone other hkey]
  split
  case isTrue hgone =>
    have hnone := hempty.mp hgone
    exact ⟨rfl, fun other hother => (hnone other hother).symm,
      by simpa using hnone⟩
  case isFalse hleft =>
    exact ⟨hown, hothers, by simpa using mt hempty.mpr hleft⟩

end Metadata

/-- Whether a value is an object with a string under a name, not counting what
it holds further down. -/
def Json.HasString (name text : String) (value : Json) : Prop :=
  ∃ members, value = .object members ∧
    members.lookup name = some (.string text)

theorem Json.hasString_iff {name text : String} {value : Json} :
    value.HasString name text ↔
      (value.member? name).bind Json.string? = some text := by
  rw [Option.bind_eq_some_iff]
  constructor
  · rintro ⟨members, rfl, hmember⟩
    exact ⟨.string text, hmember, rfl⟩
  · rintro ⟨member, hmember, htext⟩
    match value, member with
    | .object members, .string _ =>
      obtain rfl := Option.some.inj htext
      exact ⟨members, rfl, hmember⟩

namespace RemoteStatus

/-- The codes of the failures that are laid to the caller. -/
def callerCodes : List Code :=
  [.invalidArgument, .deadlineExceeded, .permissionDenied, .unauthenticated]

/-- A status in one line. -/
def line (status : RemoteStatus) : String :=
  toString status.code.toNat ++ " " ++ status.code.name ++ ": " ++
    status.message

/-- What a remote said besides the code and the metadata, if it said
anything. -/
def Said (status : RemoteStatus) (details? : Option String) : Prop :=
  ∀ text, details? = some text ↔ text = status.message ∧ text ≠ ""

theorem summary_eq_line (status : RemoteStatus) :
    status.summary = status.line := by
  rw [line, Nat.toString_eq_ofList_toDigits]
  rfl

theorem summary_assess (status : RemoteStatus) :
    status.assess.summary = status.line := by
  rw [← summary_eq_line, assess]
  split
  · rfl
  · unfold toError
    split <;> rfl

theorem said_details? (status : RemoteStatus) :
    status.Said status.details? := by
  intro text
  unfold details?
  split
  case isTrue hempty => simp_all
  case isFalse hmessage => grind

theorem isInternal_iff (code : Code) :
    Assessment.isInternal code = true ↔ code ∈ callerCodes := by
  cases code <;> decide

end RemoteStatus

namespace Failure

/-- Whether a failure is the status that stands for nothing. -/
def IsNotFound (failure : Failure) : Prop :=
  ∃ status : RemoteStatus, failure = .status status ∧ status.code = .notFound

/-- The error that a failure becomes. A deadline becomes a timeout, a status
an internal or an external error by its code, and the rest an external error,
whose message is that of a bare message, the string that an object has for its
message, or the same for all others. -/
inductive Becomes : Failure → CallError → Prop where
  | timeout (signal : TimeoutSignal) :
    Becomes (.timeout signal)
      (.timeout signal.kind signal.message (some (.timeout signal)))
  | internal {status : RemoteStatus} {details? : Option String}
      {headers? : Option Metadata}
      (hcode : status.code ∈ RemoteStatus.callerCodes)
      (hdetails : status.Said details?)
      (hheaders : status.metadata.LeftWithout "authorization" headers?) :
    Becomes (.status status)
      (.internal status.line (.remote status.code) details? headers?
        (some (.status status)))
  | external {status : RemoteStatus} {details? : Option String}
      {headers? : Option Metadata}
      (hcode : status.code ∉ .notFound :: RemoteStatus.callerCodes)
      (hdetails : status.Said details?)
      (hheaders : status.metadata.LeftWithout "authorization" headers?) :
    Becomes (.status status)
      (.external status.line (some (.remote status.code)) details? headers?
        (some (.status status)))
  | message (text : String) :
      Becomes (.message text) (.external text none none none none)
  | object {value : Json} {text : String}
      (htext : value.HasString "message" text) :
    Becomes (.object value)
      (.external text none none none (some (.object value)))
  | otherObject {value : Json}
      (hnone : ∀ text, ¬ value.HasString "message" text) :
    Becomes (.object value)
      (.external "External service error" none none none
        (some (.object value)))
  | other (text : String) (sources : List String) :
    Becomes (.other text sources)
      (.external "External service error" none none none
        (some (.other text sources)))

theorem Becomes.cause?_eq {failure : Failure} {error : CallError}
    (hbecomes : Becomes failure error)
    (hbare : ∀ text, failure ≠ .message text) :
    error.cause? = some failure := by
  cases hbecomes with
  | message text => exact absurd rfl (hbare text)
  | timeout | internal | external | object | otherObject | other => rfl

theorem assess_of_isNotFound {failure : Failure}
    (hnotFound : failure.IsNotFound) :
    failure.assess.error? = none ∧ failure.assess.severity = .warn := by
  obtain ⟨status, rfl, hcode⟩ := hnotFound
  simp [assess, RemoteStatus.assess, hcode]

theorem becomes_toError {status : RemoteStatus}
    (hcode : status.code ≠ .notFound) :
    Becomes (.status status) status.toError := by
  have hdetails := status.said_details?
  have hheaders :
      status.metadata.LeftWithout "authorization" status.headers? :=
    status.metadata.leftWithout_remove "authorization"
  rw [RemoteStatus.toError, status.summary_eq_line]
  split
  case isTrue hinternal =>
    exact .internal ((RemoteStatus.isInternal_iff _).mp hinternal) hdetails
      hheaders
  case isFalse hexternal =>
    have hothers : status.code ∉ RemoteStatus.callerCodes :=
      mt (RemoteStatus.isInternal_iff _).mpr hexternal
    exact .external (List.not_mem_cons_of_ne_of_not_mem hcode hothers)
      hdetails hheaders

/-- Every other failure becomes an error. -/
theorem assess_of_not_isNotFound {failure : Failure}
    (hfound : ¬ failure.IsNotFound) :
    ∃ error, failure.assess = .ofError error ∧ Becomes failure error := by
  cases failure with
  | timeout signal => exact ⟨_, rfl, .timeout signal⟩
  | message text => exact ⟨_, rfl, .message text⟩
  | other text sources => exact ⟨_, rfl, .other text sources⟩
  | status status =>
    have hcode : status.code ≠ .notFound :=
      fun hcode => hfound ⟨status, rfl, hcode⟩
    exact ⟨status.toError, if_neg hcode, becomes_toError hcode⟩
  | object value =>
    refine ⟨_, rfl, ?_⟩
    cases htext : (value.member? "message").bind Json.string? with
    | some text => exact .object (Json.hasString_iff.mpr htext)
    | none =>
      refine .otherObject fun text hstring => ?_
      rw [Json.hasString_iff, htext] at hstring
      cases hstring

/-- The status that stands for nothing is no error, and logged as a warning.
Every other failure is logged as an error, and is the error that it becomes,
with the message of that for its summary and, unless it is a bare message,
itself for the cause. The summary of a status is always its line. -/
theorem assess_of_every_failure (failure : Failure) :
    (failure.IsNotFound → failure.assess.error? = none ∧
      failure.assess.severity = .warn) ∧
    (¬ failure.IsNotFound → failure.assess.severity = .error ∧
      ∃ error, failure.assess.error? = some error ∧
        failure.assess.summary = error.message ∧
        Becomes failure error ∧
        ((∀ text, failure ≠ .message text) → error.cause? = some failure)) ∧
    ∀ status, failure = .status status →
      failure.assess.summary = status.line := by
  refine ⟨assess_of_isNotFound, fun hfound => ?_, ?_⟩
  · obtain ⟨error, hassess, hbecomes⟩ := assess_of_not_isNotFound hfound
    rw [hassess]
    exact ⟨rfl, error, rfl, rfl, hbecomes, hbecomes.cause?_eq⟩
  · rintro status rfl
    exact status.summary_assess

/-- A call without permission, with credentials between the other metadata
of its status. -/
theorem assess_of_missing_permission :
    let status : RemoteStatus :=
      { code := .permissionDenied
        message := "no"
        metadata :=
          ⟨[("x-id", "1"), ("authorization", "a"), ("x-id", "2"),
            ("authorization", "b")]⟩ }
    (Failure.status status).assess.summary = "7 PERMISSION_DENIED: no" ∧
      ∃ error, (Failure.status status).assess.error? = some error ∧
        Becomes (.status status) error ∧
        error.kindName = "Internal" ∧ error.details? = some "no" ∧
        error.headers? = some ⟨[("x-id", "1"), ("x-id", "2")]⟩ := by
  intro status
  obtain ⟨-, hfound, hsummary⟩ := assess_of_every_failure (.status status)
  have hcode : ¬ (Failure.status status).IsNotFound := by
    rintro ⟨other, hother, hcode⟩
    obtain rfl := Failure.status.inj hother
    cases hcode
  obtain ⟨-, error, herror, -, hbecomes, -⟩ := hfound hcode
  have hline : status.line = "7 PERMISSION_DENIED: no" := by decide +kernel
  refine ⟨(hsummary status rfl).trans hline, error, herror, hbecomes, ?_⟩
  obtain rfl : status.toError = error := Option.some.inj herror
  exact ⟨by decide +kernel, by decide +kernel, by decide +kernel⟩

end Failure

end Redial
