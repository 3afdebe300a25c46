import Redial.Options.Text
import Redial.Proofs.Json.Printing
import Redial.Proofs.Json.Records
import Redial.Proofs.Status.Listing

/-!
The texts that options are read from. `WrittenAs options members` says what
the members of an object are that sets just these options: the names are
declared ones, each there once and in any order, and a field that is unset is
left out or `null`. Every text of such an object is read as the options, and
none is of an object with one member more.
-/

namespace Redial

open Json
  (Says SaysRecord Is Keyed Reads Orderly OrderlyFields Written Blanks)

/-- Whether the members of an object set just these options. -/
structure HeaderOptions.WrittenAs (options : HeaderOptions)
    (members : List (String × Json)) :
    Prop extends Keyed (fields.map Json.Field.name) members where
  useZipkin :
    Says (Is Json.bool) options.useZipkin? (members.lookup "use_zipkin")
  authToken :
    Says (Is Json.string) options.authToken? (members.lookup "auth_token")

structure AttemptOptions.WrittenAs (options : AttemptOptions)
    (members : List (String × Json)) :
    Prop extends Keyed (fields.map Json.Field.name) members where
  timeout : Says (Is fun value => .ofInt value.toNat) options.timeout?
    (members.lookup "timeout")

structure RetryOptions.WrittenAs (options : RetryOptions)
    (members : List (String × Json)) :
    Prop extends Keyed (fields.map Json.Field.name) members where
  retry : Says (Is Json.bool) options.retry? (members.lookup "retry")
  timeout : Says (Is fun value => .ofInt value.toInt) options.timeout?
    (members.lookup "timeout")
  delay : Says (Is fun value => .ofInt value.toNat) options.delay?
    (members.lookup "delay")
  maxCount : Says (Is fun value => .ofInt value.toInt) options.maxCount?
    (members.lookup "retry_max_count")
  statusCodes : Says StatusCode.ListMeans options.statusCodes?
    (members.lookup "status_codes")

structure CallOptions.WrittenAs (options : CallOptions)
    (members : List (String × Json)) :
    Prop extends Keyed (fields.map Json.Field.name) members where
  headers : SaysRecord HeaderOptions.WrittenAs {} options.headers
    (members.lookup "metadata_builder_options")
  attempt : SaysRecord AttemptOptions.WrittenAs {} options.attempt
    (members.lookup "request_options")
  retry : SaysRecord RetryOptions.WrittenAs {} options.retry
    (members.lookup "retry_options")

/-- The names of the records within the options, with the names that each of
them declares. -/
def CallOptions.levels : List (String × List String) :=
  [("metadata_builder_options", HeaderOptions.fields.map Json.Field.name),
    ("request_options", AttemptOptions.fields.map Json.Field.name),
    ("retry_options", RetryOptions.fields.map Json.Field.name)]

/-- One member more than an object has, among its own members or within one of
its records. The new member has a name that its level does not declare, or one
that it has already. -/
inductive CallOptions.GainsMember :
    List (String × Json) → List (String × Json) → Prop where
  | outside {members more : List (String × Json)}
      (hgains : Json.GainsMember (fields.map Json.Field.name) members more) :
      GainsMember members more
  | inside {before after inner more : List (String × Json)} {name : String}
      {declared : List String} (hlevel : (name, declared) ∈ levels)
      (hgains : Json.GainsMember declared inner more) :
      GainsMember (before ++ (name, .object inner) :: after)
        (before ++ (name, .object more) :: after)

section Values

variable {depth : Nat} {json : Json}

theorem boolean_of_is {value : Bool} (his : Is Json.bool value json) :
    Reads Json.Reader.boolean json value ∧ json ≠ .null :=
  his ▸ ⟨Json.Reader.boolean_reads value, nofun⟩

theorem text_of_is {value : String} (his : Is Json.string value json) :
    Reads Json.Reader.text json value ∧ json ≠ .null :=
  his ▸ ⟨Json.Reader.text_reads value, nofun⟩

theorem unsigned64_of_is {value : UInt64}
    (his : Is (fun value => .ofInt value.toNat) value json) :
    Reads Json.Reader.unsigned64 json value ∧ json ≠ .null :=
  his ▸ ⟨Json.Reader.unsigned64_reads value, nofun⟩

theorem signed64_of_is {value : Int64}
    (his : Is (fun value => .ofInt value.toInt) value json) :
    Reads Json.Reader.signed64 json value ∧ json ≠ .null :=
  his ▸ ⟨Json.Reader.signed64_reads value, nofun⟩

theorem readList_of_means {statuses : List StatusCode}
    (hmeans : StatusCode.ListMeans statuses json) :
    Reads (StatusCode.readList (depth + 1)) json statuses ∧ json ≠ .null := by
  refine ⟨StatusCode.readList_reads hmeans, ?_⟩
  cases hmeans
  nofun

end Values

namespace HeaderOptions

/-- The options with one field of other ones. -/
def withField (source options : HeaderOptions) : String → HeaderOptions
  | "use_zipkin" => { options with useZipkin? := source.useZipkin? }
  | "auth_token" => { options with authToken? := source.authToken? }
  | _ => options

theorem withField_comm (source options : HeaderOptions)
    (name other : String) :
    source.withField (source.withField options name) other =
      source.withField (source.withField options other) name := by
  unfold withField
  split <;> split <;> rfl

theorem fields_orderly : OrderlyFields fields := by
  simp only [OrderlyFields, fields, List.forall_mem_cons]
  exact ⟨fun _ => Json.Field.leaf_orderly Json.Reader.boolean_orderly,
    fun _ => Json.Field.leaf_orderly Json.Reader.text_orderly, nofun⟩

/-- An object is read as the options that it is written for. -/
theorem read_writtenAs {depth : Nat} (options : HeaderOptions)
    (members : List (String × Json))
    (hwrittenAs : options.WrittenAs members) :
    Reads (read (depth + 1)) (.object members) options := by
  refine Json.Record.read_members options.withField fields_orderly (by decide)
    options.withField_comm hwrittenAs.toKeyed ?_
  simp only [fields, List.map, List.forall_mem_cons]
  exact ⟨Json.Field.leaf_takes rfl (fun _ => rfl) rfl
      (fun _ _ => boolean_of_is) hwrittenAs.useZipkin,
    Json.Field.leaf_takes rfl (fun _ => rfl) rfl (fun _ _ => text_of_is)
      hwrittenAs.authToken,
    nofun⟩

end HeaderOptions

namespace AttemptOptions

def withField (source options : AttemptOptions) : String → AttemptOptions
  | "timeout" => { options with timeout? := source.timeout? }
  | _ => options

theorem withField_comm (source options : AttemptOptions)
    (name other : String) :
    source.withField (source.withField options name) other =
      source.withField (source.withField options other) name := by
  unfold withField
  split <;> split <;> rfl

theorem fields_orderly : OrderlyFields fields := by
  simp only [OrderlyFields, fields, List.forall_mem_cons]
  exact ⟨fun _ =>
    Json.Field.leaf_orderly Json.Reader.unsigned64_orderly, nofun⟩

theorem read_writtenAs {depth : Nat} (options : AttemptOptions)
    (members : List (String × Json))
    (hwrittenAs : options.WrittenAs members) :
    Reads (read (depth + 1)) (.object members) options := by
  refine Json.Record.read_members options.withField fields_orderly (by decide)
    options.withField_comm hwrittenAs.toKeyed ?_
  simp only [fields, List.map, List.forall_mem_cons]
  exact ⟨Json.Field.leaf_takes rfl (fun _ => rfl) rfl
    (fun _ _ => unsigned64_of_is) hwrittenAs.timeout, nofun⟩

end AttemptOptions

namespace RetryOptions

def withField (source options : RetryOptions) : String → RetryOptions
  | "retry" => { options with retry? := source.retry? }
  | "timeout" => { options with timeout? := source.timeout? }
  | "delay" => { options with delay? := source.delay? }
  | "retry_max_count" => { options with maxCount? := source.maxCount? }
  | "status_codes" => { options with statusCodes? := source.statusCodes? }
  | _ => options

theorem withField_comm (source options : RetryOptions) (name other : String) :
    source.withField (source.withField options name) other =
      source.withField (source.withField options other) name := by
  unfold withField
  split <;> split <;> rfl

theorem fields_orderly : OrderlyFields fields := by
  simp only [OrderlyFields, fields, List.forall_mem_cons]
  exact ⟨fun _ => Json.Field.leaf_orderly Json.Reader.boolean_orderly,
    fun _ => Json.Field.leaf_orderly Json.Reader.signed64_orderly,
    fun _ => Json.Field.leaf_orderly Json.Reader.unsigned64_orderly,
    fun _ => Json.Field.leaf_orderly Json.Reader.signed64_orderly,
    fun depth =>
      Json.Field.leaf_orderly (StatusCode.readList_orderly depth), nofun⟩

theorem read_writtenAs {depth : Nat} (options : RetryOptions)
    (members : List (String × Json))
    (hwrittenAs : options.WrittenAs members) :
    Reads (read (depth + 2)) (.object members) options := by
  refine Json.Record.read_members options.withField fields_orderly (by decide)
    options.withField_comm hwrittenAs.toKeyed ?_
  simp only [fields, List.map, List.forall_mem_cons]
  exact ⟨Json.Field.leaf_takes rfl (fun _ => rfl) rfl
      (fun _ _ => boolean_of_is) hwrittenAs.retry,
    Json.Field.leaf_takes rfl (fun _ => rfl) rfl (fun _ _ => signed64_of_is)
      hwrittenAs.timeout,
    Json.Field.leaf_takes rfl (fun _ => rfl) rfl (fun _ _ => unsigned64_of_is)
      hwrittenAs.delay,
    Json.Field.leaf_takes rfl (fun _ => rfl) rfl (fun _ _ => signed64_of_is)
      hwrittenAs.maxCount,
    Json.Field.leaf_takes rfl (fun _ => rfl) rfl
      (fun _ _ => readList_of_means) hwrittenAs.statusCodes, nofun⟩

end RetryOptions

namespace CallOptions

def withField (source options : CallOptions) : String → CallOptions
  | "metadata_builder_options" => { options with headers := source.headers }
  | "request_options" => { options with attempt := source.attempt }
  | "retry_options" => { options with retry := source.retry }
  | _ => options

theorem withField_comm (source options : CallOptions) (name other : String) :
    source.withField (source.withField options name) other =
      source.withField (source.withField options other) name := by
  unfold withField
  split <;> split <;> rfl

theorem fields_orderly : OrderlyFields fields := by
  simp only [OrderlyFields, fields, List.forall_mem_cons]
  exact ⟨fun _ => Json.Field.nested_orderly
    (Json.Record.read_orderly HeaderOptions.fields_orderly),
    fun _ => Json.Field.nested_orderly
      (Json.Record.read_orderly AttemptOptions.fields_orderly),
    fun _ => Json.Field.nested_orderly
      (Json.Record.read_orderly RetryOptions.fields_orderly),
    nofun⟩

theorem read_writtenAs {depth : Nat} (options : CallOptions)
    (members : List (String × Json))
    (hwrittenAs : options.WrittenAs members) :
    Reads (read (depth + 3)) (.object members) options := by
  refine Json.Record.read_members options.withField fields_orderly (by decide)
    options.withField_comm hwrittenAs.toKeyed ?_
  simp only [fields, List.map, List.forall_mem_cons]
  exact ⟨Json.Field.nested_takes rfl (fun _ => rfl) rfl
      HeaderOptions.read_writtenAs hwrittenAs.headers,
    Json.Field.nested_takes rfl (fun _ => rfl) rfl
      AttemptOptions.read_writtenAs hwrittenAs.attempt,
    Json.Field.nested_takes rfl (fun _ => rfl) rfl
      RetryOptions.read_writtenAs hwrittenAs.retry,
    nofun⟩

/-- A record with one member more is refused by the field that it is written
for. -/
theorem levels_refuse {depth : Nat} {name : String} {declared : List String}
    {inner more : List (String × Json)} (hlevel : (name, declared) ∈ levels)
    (hgains : Json.GainsMember declared inner more) :
    ∃ field, fields.find? (fun field => field.name == name) = some field ∧
      ∀ record, Json.Refuses (field.read (depth + 1) record)
        (.object more) := by
  simp only [levels, List.mem_cons, Prod.mk.injEq, List.not_mem_nil,
    or_false] at hlevel
  rcases hlevel with ⟨rfl, rfl⟩ | ⟨rfl, rfl⟩ | ⟨rfl, rfl⟩
  · exact ⟨_, rfl,
      Json.Field.nested_refuses_gains HeaderOptions.fields_orderly hgains⟩
  · exact ⟨_, rfl,
      Json.Field.nested_refuses_gains AttemptOptions.fields_orderly hgains⟩
  · exact ⟨_, rfl,
      Json.Field.nested_refuses_gains RetryOptions.fields_orderly hgains⟩

/-- Options with one member more are refused, at whichever level it stands. -/
theorem read_gainsMember {depth : Nat} {members more : List (String × Json)}
    (hgains : GainsMember members more) :
    Json.Refuses (read (depth + 2)) (.object more) := by
  refine Json.Record.read_refuses fields_orderly ?_
  cases hgains with
  | outside hgains => exact hgains.misfits _
  | inside hlevel hgains =>
    obtain ⟨field, hfind, hrefuses⟩ := levels_refuse hlevel hgains
    exact .refused (List.mem_append_right _ List.mem_cons_self) hfind hrefuses

section Texts

variable {options : CallOptions} {members more : List (String × Json)}
  {before text after : List Char}

theorem read_orderly (depth : Nat) : Orderly (read depth) :=
  Json.Record.read_orderly fields_orderly

/-- A text of an object that sets some options is read as these. -/
theorem ofText_writtenAs (hwrittenAs : options.WrittenAs members)
    (hwritten : Written (.object members) text) (hbefore : Blanks before)
    (hafter : Blanks after) :
    ofText (String.ofList (before ++ (text ++ after))) = .ok options := by
  have hread :
      parse (String.ofList (before ++ (text ++ after))) = .ok options :=
    Json.Reader.whole_reads (read_orderly _)
      (read_writtenAs options members hwrittenAs) hwritten hbefore hafter
  rw [ofText, hread]
  rfl

theorem ofText_gainsMember (hgains : GainsMember members more)
    (hwritten : Written (.object more) text) (hbefore : Blanks before)
    (hafter : Blanks after) :
    ∃ reason, ofText (String.ofList (before ++ (text ++ after))) =
      .error (.ofInternal ("Invalid request options: " ++ reason)
        (.remote .invalidArgument)) := by
  obtain ⟨problem, hread⟩ :
      ∃ problem, parse (String.ofList (before ++ (text ++ after))) =
        .error problem :=
    Json.Reader.whole_refuses (read_orderly _) (read_gainsMember hgains)
      hwritten hbefore hafter
  refine ⟨problem.message, ?_⟩
  rw [ofText, hread]
  rfl

/-- The options that an object sets do not depend on the order of its
members, at any level, nor on how it is written, and no object with one
member more is accepted. -/
theorem ofText_documents (hwrittenAs : options.WrittenAs members)
    (hbefore : Blanks before) (hafter : Blanks after) :
    (∀ text, Written (.object members) text →
      ofText (String.ofList (before ++ (text ++ after))) = .ok options) ∧
    ∀ more text, GainsMember members more → Written (.object more) text →
      ∃ reason, ofText (String.ofList (before ++ (text ++ after))) =
        .error (.ofInternal ("Invalid request options: " ++ reason)
          (.remote .invalidArgument)) :=
  ⟨fun _ hwritten => ofText_writtenAs hwrittenAs hwritten hbefore hafter,
    fun _ _ hgains hwritten =>
      ofText_gainsMember hgains hwritten hbefore hafter⟩

/-- A delay that is unset is there once, and then once more. -/
theorem ofText_documents_of_repeated_delay :
    ofText " \x7b\"retry_options\":\x7b\"retry\":true,\"delay\":null\x7d\x7d" =
        .ok { retry.retry? := some true } ∧
      ∃ reason, ofText
          " \x7b\"retry_options\":\x7b\"retry\":true,\"delay\":null,\"delay\":null\x7d\x7d" =
        .error (.ofInternal ("Invalid request options: " ++ reason)
          (.remote .invalidArgument)) := by
  let once : List (String × Json) := [("retry", .bool true), ("delay", .null)]
  let twice : List (String × Json) :=
    [("retry", .bool true), ("delay", .null), ("delay", .null)]
  let document (members : List (String × Json)) : Json :=
    .object [("retry_options", .object members)]
  have hretry : RetryOptions.WrittenAs { retry? := some true } once :=
    { once := by decide, declared := by decide, retry := .value rfl,
      timeout := .absent, delay := .null, maxCount := .absent,
      statusCodes := .absent }
  have hoptions : WrittenAs { retry.retry? := some true }
      [("retry_options", .object once)] :=
    { once := by decide, declared := by decide, headers := .absent,
      attempt := .absent, retry := .object hretry }
  have hblank : Blanks [' '] := by
    simp [Blanks, Json.Reader.isBlank]
  obtain ⟨hread, hrefuse⟩ := ofText_documents hoptions hblank .nil
  have hwritten : ∀ members ∈ [once, twice],
      Written (document members) (document members).compact := by
    have hdelay : Written .null (Json.compact .null) := .nullWord
    simp [document, once, twice, Json.written_object, Json.written_bool,
      hdelay]
  have htwice : Json.GainsMember (RetryOptions.fields.map Json.Field.name)
      (once ++ []) twice :=
    .intro (.inr (by decide))
  have hgains : GainsMember ([] ++ [("retry_options", .object once)])
      ([] ++ [("retry_options", .object twice)]) := .inside (by decide) htwice
  have hread := hread _ (hwritten once (by simp))
  have hrefuse := hrefuse _ _ hgains (hwritten twice (by simp))
  have honceText : String.ofList ([' '] ++ ((document once).compact ++ [])) =
      " \x7b\"retry_options\":\x7b\"retry\":true,\"delay\":null\x7d\x7d" := by
    decide +kernel
  have htwiceText :
      String.ofList ([' '] ++ ((document twice).compact ++ [])) =
        " \x7b\"retry_options\":\x7b\"retry\":true,\"delay\":null,\"delay\":null\x7d\x7d" := by
    decide +kernel
  rw [← honceText, ← htwiceText]
  exact ⟨hread, hrefuse⟩

end Texts

end CallOptions

end Redial
