import Redial.Proofs.Call.Accounts
import Redial.Proofs.Call.Sending
import Redial.Proofs.Metrics.Reading

/-!
What one call writes to its registry for a method. If the call is to that
method, then it writes one observation for each call to the transport, as
many retries but for the first attempt, and one failure for each error in its
log, also where it is dropped. If it is to another method then it writes
nothing for this one.
-/

namespace Redial

open Metrics

variable {α β : Type}

def StatusCode.all : List StatusCode := .timeout :: Code.all.map .remote

theorem StatusCode.mem_all (status : StatusCode) : status ∈ all := by
  cases status with
  | timeout => exact List.mem_cons_self
  | remote code =>
    exact List.mem_cons_of_mem _ (List.mem_map.mpr ⟨code, code.mem_all, rfl⟩)

/-- The classes and sides by which the failures of a method are told apart. -/
def failureKinds : List (String × String) :=
  ("unknown" :: StatusCode.all.map StatusCode.text).flatMap fun status =>
    [Marker.internal, .external].map fun marker => (status, marker.name)

theorem nodup_failureKinds : failureKinds.Nodup := by
  decide +kernel

/-- The class and the side of an error. -/
def CallError.failureKind (error : CallError) : String × String :=
  ((error.statusCode?.map StatusCode.text).getD "unknown", error.marker.name)

theorem CallError.failureKind_mem (error : CallError) :
    error.failureKind ∈ failureKinds := by
  have hstatus : (error.statusCode?.map StatusCode.text).getD "unknown" ∈
      "unknown" :: StatusCode.all.map StatusCode.text := by
    cases error.statusCode? with
    | none => exact List.mem_cons_self
    | some status =>
      exact List.mem_cons_of_mem _
        (List.mem_map.mpr ⟨status, status.mem_all, rfl⟩)
  refine List.mem_flatMap.mpr
    ⟨_, hstatus, List.mem_map.mpr ⟨error.marker, ?_, rfl⟩⟩
  cases error.marker <;> decide

/-- A method of a service. -/
structure Target where
  service : String
  method : String
  deriving DecidableEq, Repr

namespace Target

/-- The labels of what is counted for each attempt. -/
def labels (target : Target) : Labels :=
  (({} : Labels).add "service" target.service).add "method" target.method

def failureLabels (target : Target) (kind : String × String) : Labels :=
  (target.labels.add "status_code" kind.1).add "type" kind.2

/-- The values of the labels, in the order in which they are shown. -/
def values (target : Target) : List String := [target.method, target.service]

def failureValues (target : Target) (kind : String × String) : List String :=
  [target.method, target.service, kind.1, kind.2]

theorem values_injective {target other : Target}
    (hvalues : target.values = other.values) :
    target = other := by
  obtain ⟨service, method⟩ := target
  simp_all [values]

theorem failureValues_injective {target other : Target}
    {kind otherKind : String × String}
    (hvalues : target.failureValues kind = other.failureValues otherKind) :
    target = other ∧ kind = otherKind := by
  obtain ⟨service, method⟩ := target
  obtain ⟨status, marker⟩ := kind
  simp_all [failureValues]

theorem mem_values_iff {target other : Target} :
    other.values ∈ [target.values] ↔ other = target := by
  rw [List.mem_singleton]
  exact ⟨values_injective, congrArg values⟩

theorem mem_failureValues_iff {target other : Target} {kind : String × String}
    (hkind : kind ∈ failureKinds) :
    other.failureValues kind ∈ failureKinds.map target.failureValues ↔
      other = target := by
  rw [List.mem_map]
  constructor
  · rintro ⟨_, -, hvalues⟩
    exact (failureValues_injective hvalues).1.symm
  · rintro rfl
    exact ⟨kind, hkind, rfl⟩

end Target

def Invocation.target (invocation : Invocation α) : Target :=
  ⟨invocation.service, invocation.method⟩

def CallRequest.target (request : CallRequest α) : Target :=
  ⟨request.service, request.method⟩

def Log.Fields.target (fields : Log.Fields) : Target :=
  ⟨fields.service, fields.method⟩

namespace Event

def isError : Event α → Bool
  | .logged entry => entry.level == .error
  | _ => false

def isCallTo (target : Target) : Event α → Bool
  | .called invocation => invocation.target == target
  | _ => false

def isErrorOf (target : Target) : Event α → Bool
  | .logged entry => entry.level == .error && entry.fields.target == target
  | _ => false

end Event

/-- How many events of a kind there are. -/
def countOf (counted : Event α → Bool) (events : List (TimedEvent α)) : Nat :=
  events.countP fun timed => counted timed.event

/-- What some events write for a method, and what they say of it. -/
structure Balanced (target : Target) (built : Nat)
    (events : List (TimedEvent α)) : Prop where
  attempts : total .duration [target.values] (writes events) =
    countOf (Event.isCallTo target) events
  retries : total .retries [target.values] (writes events) + built =
    countOf (Event.isCallTo target) events
  failures :
    total .failures (failureKinds.map target.failureValues) (writes events) =
      countOf (Event.isErrorOf target) events

section Records

variable {family : Family} {shown : List (List String)}
  {counted : Event α → Bool} {record : List (Event α)}

theorem writes_eq_recorded (events : List (TimedEvent α)) :
    writes events = (recorded events).filterMap Event.write? := by
  rw [writes, recorded, List.filterMap_filter, List.filterMap_map]
  refine List.filterMap_congr fun timed _ => ?_
  cases hevent : timed.event <;> simp [hevent, Event.write?, Event.isRecorded]

theorem countOf_eq_countP_recorded
    (hcounted : ∀ event, counted event = true → event.isRecorded = true)
    (events : List (TimedEvent α)) :
    countOf counted events = (recorded events).countP counted := by
  rw [countOf, recorded, List.countP_filter, List.countP_map]
  refine List.countP_congr fun timed _ => ?_
  simpa using hcounted timed.event

/-- If each event writes one for being counted, then all of them write their
number. -/
theorem total_filterMap_write?
    (hcounted : ∀ event ∈ record,
      total family shown event.write?.toList = (counted event).toNat) :
    total family shown (record.filterMap Event.write?) =
      record.countP counted := by
  induction record with
  | nil => rfl
  | cons event rest ih =>
    obtain ⟨hevent, hrest⟩ := List.forall_mem_cons.mp hcounted
    have hcons : (event :: rest).filterMap Event.write? =
        event.write?.toList ++ rest.filterMap Event.write? := by
      cases hwrite : event.write? <;> simp [hwrite]
    have hcount : (event :: rest).countP counted =
        (counted event).toNat + rest.countP counted := by
      cases hevent : counted event <;> simp [hevent, Nat.add_comm]
    rw [hcons, total_append, hevent, ih hrest, hcount]

end Records

namespace Target

variable {target other : Target}

theorem total_labels {family : Family} (hfamily : family ≠ .failures) :
    total family [target.values] [.ofLabels family other.labels 1] =
      (other == target).toNat := by
  have hvalues :
      (Series.ofLabels family other.labels 1).values = other.values := by
    cases family with
    | duration | retries => rfl
    | failures => exact absurd rfl hfamily
  rw [total_singleton, hvalues]
  simp only [mem_values_iff]
  by_cases hother : other = target
  · simp [hother, Series.ofLabels]
  · simp [hother, beq_eq_false_iff_ne.mpr hother]

theorem total_failureLabels {kind : String × String}
    (hkind : kind ∈ failureKinds) :
    total .failures (failureKinds.map target.failureValues)
        [.ofLabels .failures (other.failureLabels kind) 1] =
          (other == target).toNat := by
  have hvalues :
      (Series.ofLabels .failures (other.failureLabels kind) 1).values =
        other.failureValues kind := rfl
  rw [total_singleton, hvalues]
  simp only [mem_failureValues_iff hkind]
  by_cases hother : other = target
  · simp [hother, Series.ofLabels]
  · simp [hother, beq_eq_false_iff_ne.mpr hother]

end Target

namespace Plan

variable {plan : Plan α β} {own target : Target} {event : Event α}
  {record : List (Event α)}

/-- What an event of a call to a method writes for another method, and what
it says of it. -/
structure Weighs (own target : Target) (event : Event α)
    (written : List Series) : Prop where
  duration : total .duration [target.values] written =
    (event.isTimerStop && own == target).toNat
  retries : total .retries [target.values] written =
    (event.increments .retries && own == target).toNat
  failures : total .failures (failureKinds.map target.failureValues) written =
    (event.increments .failures && own == target).toNat
  called : event.isCallTo target = (event.isCall && own == target)
  error : event.isErrorOf target = (event.isError && own == target)

theorem Records.weighs (hrecords : plan.Records event) (target : Target) :
    Weighs plan.invocation.target target event event.write?.toList := by
  have hother {written other : Family} {labels : Labels} {count : Nat}
      {shown : List (List String)} (hother : written ≠ other) :
      total other shown [.ofLabels written labels count] = 0 :=
    total_ofLabels_eq_zero labels (.inl hother)
  cases hrecords with
  | timerStarted number =>
    change Weighs _ target _
      [.ofLabels .duration plan.invocation.target.labels 0]
    exact ⟨total_ofLabels_eq_zero _ (.inr rfl), hother nofun, hother nofun,
      rfl, rfl⟩
  | timerStopped number =>
    change Weighs _ target _
      [.ofLabels .duration plan.invocation.target.labels 1]
    exact ⟨Target.total_labels nofun, hother nofun, hother nofun, rfl, rfl⟩
  | failed error =>
    change Weighs _ target _
      [.ofLabels .failures
        (plan.invocation.target.failureLabels error.failureKind) 1]
    exact ⟨hother nofun, hother nofun,
      Target.total_failureLabels error.failureKind_mem, rfl, rfl⟩
  | retried =>
    change Weighs _ target _
      [.ofLabels .retries plan.invocation.target.labels 1]
    exact ⟨hother nofun, Target.total_labels nofun, hother nofun, rfl, rfl⟩
  | @logged entry hservice hmethod =>
    have htarget : entry.fields.target = plan.invocation.target := by
      rw [Log.Fields.target, hservice, hmethod]
      rfl
    have herror : (Event.logged entry : Event α).isErrorOf target =
        (entry.level == .error && plan.invocation.target == target) := by
      rw [Event.isErrorOf, htarget]
    exact ⟨rfl, rfl, rfl, rfl, herror⟩
  | called => exact ⟨rfl, rfl, rfl, rfl, rfl⟩

/-- What a record of a call to a method writes for another, and what
it says of it. -/
theorem balanced_record
    (hweighs : ∀ event ∈ record, Weighs own target event event.write?.toList)
    (hstops : record.countP Event.isTimerStop = record.countP Event.isCall)
    (hretries : record.countP (Event.increments .retries) + 1 =
      record.countP Event.isCall)
    (herrors : record.countP Event.isError =
      record.countP (Event.increments .failures)) :
    total .duration [target.values] (record.filterMap Event.write?) =
        record.countP (Event.isCallTo target) ∧
      total .retries [target.values] (record.filterMap Event.write?) +
        (own == target).toNat = record.countP (Event.isCallTo target) ∧
      total .failures (failureKinds.map target.failureValues)
          (record.filterMap Event.write?) =
        record.countP (Event.isErrorOf target) := by
  have hcalled : record.countP (Event.isCallTo target) =
      record.countP fun event => event.isCall && own == target :=
    List.countP_congr fun event hmem => by rw [(hweighs event hmem).called]
  have herror : record.countP (Event.isErrorOf target) =
      record.countP fun event => event.isError && own == target :=
    List.countP_congr fun event hmem => by rw [(hweighs event hmem).error]
  rw [total_filterMap_write? fun event hmem => (hweighs event hmem).duration,
    total_filterMap_write? fun event hmem => (hweighs event hmem).retries,
    total_filterMap_write? fun event hmem => (hweighs event hmem).failures,
    hcalled, herror]
  cases own == target with
  | false => simp
  | true => simpa using ⟨hstops, hretries, herrors.symm⟩

/-- The failures that are counted and the errors that are logged are equally
many. -/
theorem Closing.countP_errors {first finish : Nat} {errors : List CallError}
    {ending : Ending β} {closing : List (Event α)}
    (hclosing : Closing plan first errors.length finish ending closing) :
    (plan.opened ++ plan.reopenedAfter 0 errors ++ closing).countP
        Event.isError =
      (plan.opened ++ plan.reopenedAfter 0 errors ++ closing).countP
        (Event.increments .failures) := by
  rw [countP_record 1 fun _ _ => rfl, countP_record 1 fun _ _ => rfl]
  cases hclosing with
  | nothing _ hseverity =>
    simp [opened, Event.isError, Event.increments, Log.Entry.started,
      Log.Entry.failed, hseverity]
  | answered | failed | elapsedInPause | droppedInAttempt | droppedInPause =>
    rfl

theorem run_balanced (hsound : plan.policy.Sound) (target : Target)
    (start : Nat) (patience? : Option Nat) :
    Balanced target (plan.invocation.target == target).toNat
      (plan.run start patience?).events := by
  obtain ⟨errors, closing, hrecorded, hclosing⟩ :=
    plan.run_recorded hsound start patience?
  have hcalls := hclosing.countP_calls
  have hstops := hclosing.countP_stops
  have hretries := hclosing.countP_retries
  have herrors := hclosing.countP_errors
  rw [← hrecorded] at hcalls hstops hretries herrors
  obtain ⟨hduration, hretried, hfailures⟩ := balanced_record
    (fun event hmem =>
      (plan.run_records hsound start patience? event hmem).weighs target)
    (hstops.trans hcalls.symm) (by rw [hretries, hcalls]) herrors
  have hcalled :
      countOf (Event.isCallTo target) (plan.run start patience?).events =
        (recorded (plan.run start patience?).events).countP
          (Event.isCallTo target) := by
    refine countOf_eq_countP_recorded (fun event hevent => ?_) _
    cases event with
    | called => rfl
    | timerStarted | timerStopped | incremented | logged | traced
    | abandoned => cases hevent
  have herror :
      countOf (Event.isErrorOf target) (plan.run start patience?).events =
        (recorded (plan.run start patience?).events).countP
          (Event.isErrorOf target) := by
    refine countOf_eq_countP_recorded (fun event hevent => ?_) _
    cases event with
    | logged => rfl
    | timerStarted | timerStopped | incremented | traced | called
    | abandoned => cases hevent
  constructor
  case attempts => rw [writes_eq_recorded, hduration, hcalled]
  case retries => rw [writes_eq_recorded, hretried, hcalled]
  case failures => rw [writes_eq_recorded, hfailures, herror]

end Plan

section Balance

variable {target : Target} {built more : Nat}
  {events rest : List (TimedEvent α)}

theorem Balanced.nil (target : Target) :
    Balanced target 0 ([] : List (TimedEvent α)) :=
  ⟨rfl, rfl, rfl⟩

theorem Balanced.append (hevents : Balanced target built events)
    (hrest : Balanced target more rest) :
    Balanced target (built + more) (events ++ rest) := by
  have hcount (counted : Event α → Bool) :
      countOf counted (events ++ rest) =
        countOf counted events + countOf counted rest :=
    List.countP_append
  have hretries := hevents.retries
  have hretries' := hrest.retries
  constructor
  case attempts =>
    rw [writes_append, total_append, hcount, hevents.attempts, hrest.attempts]
  case retries =>
    rw [writes_append, total_append, hcount]
    omega
  case failures =>
    rw [writes_append, total_append, hcount, hevents.failures, hrest.failures]

end Balance

/-- What the calls to a method write. -/
inductive WrittenFor (target : Target) : Series → Prop where
  | attempt (count : Nat) :
      WrittenFor target (.ofLabels .duration target.labels count)
  | retry : WrittenFor target (.ofLabels .retries target.labels 1)
  | failure (error : CallError) :
      WrittenFor target
        (.ofLabels .failures (target.failureLabels error.failureKind) 1)

section Writing

variable {target : Target} {write : Series}

theorem Plan.Records.writtenFor {plan : Plan α β} {event : Event α}
    (hrecords : plan.Records event) (hwrite : event.write? = some write) :
    WrittenFor plan.invocation.target write := by
  cases hrecords with
  | timerStarted number => exact Option.some.inj hwrite ▸ .attempt 0
  | timerStopped number => exact Option.some.inj hwrite ▸ .attempt 1
  | failed error => exact Option.some.inj hwrite ▸ .failure error
  | retried => exact Option.some.inj hwrite ▸ .retry
  | logged | called => cases hwrite

theorem WrittenFor.of_ne_failures (hwritten : WrittenFor target write)
    (hfamily : write.family ≠ .failures) :
    write.values = target.values ∧
      write.key = fingerprint [target.service, target.method] := by
  cases hwritten with
  | attempt | retry => exact ⟨rfl, rfl⟩
  | failure => exact absurd rfl hfamily

theorem WrittenFor.of_eq_failures (hwritten : WrittenFor target write)
    (hfamily : write.family = .failures) :
    ∃ kind ∈ failureKinds, write.values = target.failureValues kind ∧
      write.key =
        fingerprint [target.service, target.method, kind.1, kind.2] := by
  cases hwritten with
  | attempt | retry => cases hfamily
  | failure error =>
    exact ⟨error.failureKind, error.failureKind_mem, rfl, rfl⟩

end Writing

end Redial
