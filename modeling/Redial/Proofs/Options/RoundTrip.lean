import Redial.Proofs.Options.Documents

/-!
Options survive being written and read again, except for the bearer token.
What is written sets each field to what it is, or to `null` where it is unset,
and leaves out the token.
-/

namespace Redial

open Json (Says Is Written)

section Optional

variable {α : Type} {write : α → Json} {number : α → Int}

theorem is_write (write : α → Json) (value : α) :
    Is write value (write value) := rfl

theorem says_getD {means : α → Json → Prop}
    (hmeans : ∀ value, means value (write value)) (value? : Option α) :
    Says means value? (some ((value?.map write).getD .null)) := by
  cases value? with
  | none => exact .null
  | some value => exact .value (hmeans value)

theorem written_getD
    (hwrite : ∀ value, Written (write value) (write value).compact)
    (value? : Option α) :
    Written ((value?.map write).getD .null)
      ((value?.map write).getD .null).compact := by
  cases value? with
  | none => exact .nullWord
  | some value => exact hwrite value

theorem says_ofInt? (value? : Option α) :
    Says (Is fun value => .ofInt (number value)) value?
      (some (.ofInt? (value?.map number))) := by
  rw [Json.ofInt?, Option.map_map]
  exact says_getD (is_write _) value?

theorem written_ofInt?
    (hwrite : ∀ value, Written (.ofInt (number value))
      (Json.ofInt (number value)).compact)
    (value? : Option α) :
    Written (.ofInt? (value?.map number))
      (Json.ofInt? (value?.map number)).compact := by
  rw [Json.ofInt?, Option.map_map]
  exact written_getD hwrite value?

end Optional

theorem written_unsigned64 (value : UInt64) :
    Written (.ofInt value.toNat) (Json.ofInt value.toNat).compact := by
  have hlt := value.toNat_lt
  exact Json.written_ofInt (by omega) (by omega)

theorem written_signed64 (value : Int64) :
    Written (.ofInt value.toInt) (Json.ofInt value.toInt).compact := by
  have hle := value.le_toInt
  have hlt := value.toInt_lt
  exact Json.written_ofInt (by omega) (by omega)

/-- What is written of header options is how they are without the token. -/
theorem HeaderOptions.writtenAs_toJson (options : HeaderOptions) :
    WrittenAs { options with authToken? := none }
      [("use_zipkin", .ofBool? options.useZipkin?)] where
  once := by simp
  declared := by simp [fields, Json.Field.leaf]
  useZipkin := says_getD (is_write _) options.useZipkin?
  authToken := .absent

theorem HeaderOptions.written_toJson (options : HeaderOptions) :
    Written options.toJson options.toJson.compact :=
  Json.written_object
    (List.forall_mem_cons.mpr
      ⟨written_getD Json.written_bool options.useZipkin?, nofun⟩)

theorem AttemptOptions.writtenAs_toJson (options : AttemptOptions) :
    WrittenAs options
      [("timeout", .ofInt?
        (options.timeout?.map fun value => value.toNat))] where
  once := by simp
  declared := by simp [fields, Json.Field.leaf]
  timeout := says_ofInt? options.timeout?

theorem AttemptOptions.written_toJson (options : AttemptOptions) :
    Written options.toJson options.toJson.compact :=
  Json.written_object
    (List.forall_mem_cons.mpr
      ⟨written_ofInt? written_unsigned64 options.timeout?, nofun⟩)

theorem RetryOptions.writtenAs_toJson (options : RetryOptions) :
    WrittenAs options
      [("retry", .ofBool? options.retry?),
        ("timeout", .ofInt? (options.timeout?.map Int64.toInt)),
        ("delay", .ofInt? (options.delay?.map fun value => value.toNat)),
        ("retry_max_count", .ofInt? (options.maxCount?.map Int64.toInt)),
        ("status_codes",
          (options.statusCodes?.map StatusCode.listToJson).getD .null)] where
  once := by simp
  declared := by simp [fields, Json.Field.leaf]
  retry := says_getD (is_write _) options.retry?
  timeout := says_ofInt? options.timeout?
  delay := says_ofInt? options.delay?
  maxCount := says_ofInt? options.maxCount?
  statusCodes :=
    says_getD StatusCode.listMeans_listToJson options.statusCodes?

theorem RetryOptions.written_toJson (options : RetryOptions) :
    Written options.toJson options.toJson.compact := by
  refine Json.written_object ?_
  simp only [List.forall_mem_cons]
  exact ⟨written_getD Json.written_bool options.retry?,
    written_ofInt? written_signed64 options.timeout?,
    written_ofInt? written_unsigned64 options.delay?,
    written_ofInt? written_signed64 options.maxCount?,
    written_getD StatusCode.written_listToJson options.statusCodes?, nofun⟩

namespace CallOptions

theorem writtenAs_toJson (options : CallOptions) :
    WrittenAs { options with headers.authToken? := none }
      [("metadata_builder_options", options.headers.toJson),
        ("request_options", options.attempt.toJson),
        ("retry_options", options.retry.toJson)] where
  once := by simp
  declared := by simp [fields, Json.Field.nested]
  headers := .object options.headers.writtenAs_toJson
  attempt := .object options.attempt.writtenAs_toJson
  retry := .object options.retry.writtenAs_toJson

theorem written_toJson (options : CallOptions) :
    Written options.toJson options.toJson.compact := by
  refine Json.written_object ?_
  simp only [List.forall_mem_cons]
  exact ⟨options.headers.written_toJson, options.attempt.written_toJson,
    options.retry.written_toJson, nofun⟩

/-- The text of any options is read as these options without their token. -/
theorem ofText_text (options : CallOptions) :
    ofText options.text =
      .ok { options with headers.authToken? := none } := by
  have hread :=
    ofText_writtenAs options.writtenAs_toJson options.written_toJson .nil .nil
  rwa [List.nil_append, List.append_nil] at hread

end CallOptions

end Redial
