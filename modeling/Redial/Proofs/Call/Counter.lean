import Redial.Proofs.Call.Accounts
import Redial.Proofs.Call.Settling

/-!
The counter of retries has 32 bits, and log entries report what it says. It is
exact as long as a call makes fewer than 2 to the 32nd retries. That is so of
all calls under a policy if its capacity is smaller, or if it retries nothing
at all; under any other policy some transport leads the counter past its end,
and then it begins again at zero.
-/

namespace Redial

variable {α β : Type}

/-- Whether log entries report the retries that were made before them. Before
the first call to the transport they report no number. -/
def ReportsRetries : (made? : Option Nat) → List (Event α) → Prop
  | _, [] => True
  | made?, .logged entry :: rest =>
    entry.fields.retryCount?.map UInt32.toNat = made? ∧
      ReportsRetries made? rest
  | made?, .called _ :: rest => ReportsRetries (some (made?.getD 0)) rest
  | made?, .incremented .retries _ :: rest =>
    ReportsRetries (made?.map (· + 1)) rest
  | made?, _ :: rest => ReportsRetries made? rest

/-- Only a window leaves room for as many retries as the counter cannot
hold. -/
theorem RetryPolicy.of_size_le_capacity (policy : RetryPolicy)
    (hsize : UInt32.size ≤ policy.capacity) :
    policy.enabled = true ∧ policy.maxCount = 0 ∧
      policy.capacity = policy.window / policy.pause := by
  unfold capacity at hsize ⊢
  split at hsize
  next henabled =>
    split at hsize
    next hcount => simp [henabled, hcount]
    next =>
      exact absurd policy.maxCount.toNat_lt_size (Nat.not_lt_of_le hsize)
  next => exact absurd hsize (by decide)

namespace Failure

/-- What is not found is no error, so it is the class of none. -/
theorem statusCode?_ne_notFound {failure : Failure} {error : CallError}
    (herror : failure.assess.error? = some error) :
    error.statusCode? ≠ some (.remote .notFound) := by
  cases failure with
  | timeout | message | object | other =>
    obtain rfl := Option.some.inj herror
    nofun
  | status answer =>
    have hcode : answer.code ≠ .notFound := by
      intro hcode
      simp [assess, RemoteStatus.assess, hcode] at herror
    simp only [assess, RemoteStatus.assess, if_neg hcode] at herror
    obtain rfl := Option.some.inj herror
    unfold RemoteStatus.toError
    split <;> simpa [CallError.statusCode?] using hcode

/-- Every other class is that of some error. -/
theorem exists_statusCode?_eq {status : StatusCode}
    (hstatus : status ≠ .remote .notFound) :
    ∃ (failure : Failure) (error : CallError),
      failure.assess.error? = some error ∧
        error.statusCode? = some status := by
  cases status with
  | timeout => exact ⟨.elapsed, _, rfl, rfl⟩
  | remote code =>
    have hcode : code ≠ .notFound := by simpa using hstatus
    let answer : RemoteStatus := { code, message := "" }
    refine ⟨.status answer, answer.toError, ?_, ?_⟩
    · simp [assess, RemoteStatus.assess, answer, hcode, Assessment.ofError]
    · unfold RemoteStatus.toError
      split <;> rfl

end Failure

namespace Plan

variable {plan : Plan α β} {first retries finish : Nat}
  {errors : List CallError} {ending : Ending β}
  {closing rest : List (Event α)}

/-- The entries of attempts that were retried report the retries
before each of them. -/
theorem reportsRetries_reopenedAfter
    (hretries : retries + errors.length < UInt32.size)
    (hrest : ReportsRetries (some (retries + errors.length)) rest) :
    ReportsRetries (some retries)
      (plan.reopenedAfter retries errors ++ rest) := by
  induction errors generalizing retries with
  | nil => exact hrest
  | cons error errors ih =>
    rw [List.length_cons, Nat.add_comm errors.length,
      ← Nat.add_assoc] at hretries hrest
    have hless : retries < UInt32.size := by omega
    have hcount := plan.retryCount?_fieldsAfter hless
    rw [reopenedAfter_cons, List.append_assoc]
    exact ⟨hcount, ih hretries hrest⟩

/-- What is logged at the end of a call reports all its retries. -/
theorem Closing.reportsRetries
    (hclosing : Closing plan first retries finish ending closing)
    (hretries : retries < UInt32.size) :
    ReportsRetries (some retries) closing := by
  have hcount := plan.retryCount?_fieldsAfter hretries
  cases hclosing with
  | answered | failed | droppedInPause => exact ⟨hcount, trivial⟩
  | @nothing assessment herror =>
    refine ⟨?_, trivial⟩
    rw [Log.Entry.failed, retryCount?_ofAssessment]
    exact hcount
  | elapsedInPause => exact ⟨hcount, hcount, trivial⟩
  | droppedInAttempt => trivial

/-- A call with fewer than 2 to the 32nd retries reports them all. -/
theorem run_reportsRetries (hsound : plan.policy.Sound) (start : Nat)
    (patience? : Option Nat)
    (hretries : retriesIn (plan.run start patience?).events < UInt32.size) :
    ReportsRetries none (recorded (plan.run start patience?).events) := by
  obtain ⟨errors, closing, hrecorded, hclosing⟩ :=
    plan.run_recorded hsound start patience?
  have hlength : errors.length < UInt32.size := by
    rwa [retriesIn, hrecorded, hclosing.countP_retries] at hretries
  have hreports := hclosing.reportsRetries hlength
  rw [← Nat.zero_add errors.length] at hlength hreports
  rw [hrecorded, List.append_assoc]
  exact ⟨rfl, reportsRetries_reopenedAfter hlength hreports⟩

theorem Sequence.retries_eq_zero {limit? : Option Deadline} {legs now : Nat}
    {failure : Failure} {run : Run α β}
    (hsequence : Sequence plan limit? legs retries now failure run)
    (hretried : plan.retried? retries failure.assess = none) :
    retriesIn run.events = 0 := by
  cases hsequence with
  | ended | unfinished => simp
  | inPause hsome | inAttempt hsome | answered hsome | again hsome =>
    simp [hretried] at hsome

/-- A call none of whose failures is retried makes no retries. -/
theorem run_retries_eq_zero
    (hnever : ∀ (retries : Nat) (failure : Failure),
      plan.retried? retries failure.assess = none)
    (start : Nat) (patience? : Option Nat) :
    retriesIn (plan.run start patience?).events = 0 := by
  have hcourse : Course plan _ _ plan.policy.retry.maxRetries start
      (plan.run start patience?) :=
    plan.follow_course ..
  obtain hnone | ⟨-, failure, rest, -, hrest, hretries⟩ :=
    hcourse.retries_cases
  · exact hnone
  · rw [hretries]
    exact hrest.retries_eq_zero (hnever 0 failure)

theorem retried?_eq_none_of_notFound
    (hcodes : ∀ status ∈ plan.policy.retry.statusCodes,
      status = .remote .notFound)
    (retries : Nat) (failure : Failure) :
    plan.retried? retries failure.assess = none := by
  refine Option.filter_eq_none_iff.mpr fun error herror => ?_
  have hrefused : plan.policy.retry.admits error.statusCode? = false := by
    cases hstatus : error.statusCode? with
    | none => rfl
    | some status =>
      rw [RetryPolicy.admits, ← Bool.not_eq_true, List.contains_iff_mem]
      intro hmem
      rw [hcodes status hmem] at hstatus
      exact Failure.statusCode?_ne_notFound herror hstatus
  simp [hrefused]

/-- With no count but the window, a transport that fails at once with an
admitted error fails every attempt so. -/
theorem failsAtOnce_of_admits {failure : Failure} {error : CallError}
    (hcount : plan.policy.retry.maxCount = 0)
    (hreply : ∀ index, plan.reply index = .settles 0 (.error failure))
    (herror : failure.assess.error? = some error)
    (hadmits : plan.policy.retry.admits error.statusCode? = true) :
    plan.FailsAtOnce failure := by
  intro index
  have hsettlement : plan.settlement index = ⟨0, .error failure, false⟩ := by
    simp [settlement, hreply, Reply.settlement]
  refine ⟨by rw [hsettlement], by rw [hsettlement], ?_⟩
  simp [retried?, herror, hadmits, RetryPolicy.allowsAnother, hcount]

end Plan

namespace Client

variable {client : Client} {span : String} {visit : Visit α}
  {metadata : Metadata}

/-- With metadata there is a plan for every transport. -/
theorem exists_plan
    (hbuilt : client.builder span visit.context visit.request.metadata?
      (client.policy visit.overrides?).headers = .ok metadata)
    (transport : Transport α β) :
    ∃ plan : Plan α β,
      client.plan span transport visit.context visit.request
        visit.overrides? = .ok plan ∧
      plan.policy = client.policy visit.overrides? ∧
      ∀ index, plan.reply index = transport index plan.invocation :=
  ⟨_, plan_eq_ok_iff.mpr ⟨metadata, hbuilt, rfl⟩, rfl, fun _ => rfl⟩

/-- The counter holds the retries of all calls with some options, and what is
logged of them is true, exactly if the options leave room for fewer than 2 to
the 32nd retries or admit no class that an error can have. -/
theorem request_reports_retries_iff
    (hbuilt : client.builder span visit.context visit.request.metadata?
      (client.policy visit.overrides?).headers = .ok metadata) :
    let retry := (client.policy visit.overrides?).retry
    (∀ (transport : Transport α β) (patience? : Option Nat) (start : Nat),
        let run :=
          client.request span transport { visit with patience? } start
        retriesIn run.events < UInt32.size ∧
          ReportsRetries none (recorded run.events)) ↔
      retry.capacity < UInt32.size ∨
        ∀ status ∈ retry.statusCodes, status = .remote .notFound := by
  intro retry
  constructor
  · intro hcounted
    by_cases hsmall : retry.capacity < UInt32.size
    · exact .inl hsmall
    · -- The capacity is that of the window, and one admitted class is enough
      -- to use it up.
      obtain ⟨henabled, hcount, hcapacity⟩ :=
        retry.of_size_le_capacity (Nat.le_of_not_lt hsmall)
      refine .inr fun status hmem =>
        Decidable.byContradiction fun hstatus => ?_
      obtain ⟨failure, error, herror, hclass⟩ :=
        Failure.exists_statusCode?_eq hstatus
      let transport : Transport α β := fun _ _ => .settles 0 (.error failure)
      obtain ⟨plan, hplan, hpolicy, hreply⟩ := exists_plan hbuilt transport
      have hretry : plan.policy.retry = retry :=
        congrArg CallPolicy.retry hpolicy
      rw [← hretry] at hsmall henabled hcount hcapacity hmem
      have hadmits : plan.policy.retry.admits error.statusCode? = true := by
        simpa [RetryPolicy.admits, hclass] using hmem
      have hretries :=
        plan.run_retries_of_failsAtOnce (plan_sound hplan) henabled hcount
          (Plan.failsAtOnce_of_admits hcount hreply herror hadmits) 0
      have hrun :
          client.request span transport { visit with patience? := none } 0 =
            plan.run 0 none := request_eq_run hplan
      have hless := (hcounted transport none 0).1
      rw [hrun, hretries, ← hcapacity] at hless
      exact hsmall hless
  · intro hroom transport patience? start run
    obtain ⟨plan, hplan, hpolicy, -⟩ := exists_plan hbuilt transport
    have hretry : plan.policy.retry = retry :=
      congrArg CallPolicy.retry hpolicy
    have hrun : run = plan.run start patience? := request_eq_run hplan
    have hsound := plan_sound hplan
    have hretries :
        retriesIn (plan.run start patience?).events < UInt32.size := by
      rw [← hretry] at hroom
      rcases hroom with hsmall | hcodes
      · exact Nat.lt_of_le_of_lt
          (plan.run_retries_le hsound start patience?) hsmall
      · rw [plan.run_retries_eq_zero
          (Plan.retried?_eq_none_of_notFound hcodes)]
        decide
    rw [hrun]
    exact ⟨hretries, plan.run_reportsRetries hsound start patience? hretries⟩

/-- With the usual options every log entry reports the retries before it. -/
theorem request_reports_retries_by_default :
    let client : Client := { builder := fun _ _ _ _ => .ok {} }
    let visit : Visit Unit := { context := default, request := default }
    ∀ (transport : Transport Unit Unit) (start : Nat),
      ReportsRetries none
        (recorded (client.request "" transport visit start).events) := by
  intro client visit transport start
  have hcapacity :
      (client.policy visit.overrides?).retry.capacity < UInt32.size := by
    decide +kernel
  have hbuilt : client.builder "" visit.context visit.request.metadata?
      (client.policy visit.overrides?).headers = .ok {} := rfl
  exact ((request_reports_retries_iff hbuilt).mpr (.inl hcapacity) transport
    none start).2

/-- A window of 2 to the 32nd milliseconds with a pause of one between
attempts that fail at once. After 2 to the 32nd retries the last entry of the
log reports none. -/
theorem request_reports_no_retries :
    let client : Client :=
      { defaults :=
          { retry :=
              { timeout? := some 4294967296, delay? := some 1,
                maxCount? := some 0 } }
        builder := fun _ _ _ _ => .ok {} }
    let transport : Transport Unit Unit :=
      fun _ _ => .settles 0 (.error (.ofStatus .unavailable ""))
    let run :=
      client.request "" transport { context := default, request := default } 0
    retriesIn run.events = UInt32.size ∧
      ∃ entry : Log.Entry, .logged entry ∈ recorded run.events ∧
        entry.message ∈ Log.finalMessages ∧
        entry.fields.retryCount? = some 0 := by
  intro client transport run
  let visit : Visit Unit := { context := default, request := default }
  have hbuilt : client.builder "" visit.context visit.request.metadata?
      (client.policy visit.overrides?).headers = .ok {} := rfl
  obtain ⟨plan, hplan, hpolicy, hreply⟩ := exists_plan hbuilt transport
  have hrun : run = plan.run 0 none := request_eq_run hplan
  have hsound := plan_sound hplan
  have hpauses :
      plan.policy.retry.window / plan.policy.retry.pause = UInt32.size := by
    rw [hpolicy]
    decide +kernel
  have henabled : plan.policy.retry.enabled = true := by
    rw [hpolicy]; decide +kernel
  have hcount : plan.policy.retry.maxCount = 0 := by
    rw [hpolicy]; decide +kernel
  have hadmits :
      plan.policy.retry.admits (some (.remote .unavailable)) = true := by
    rw [hpolicy]
    decide +kernel
  have hfails := Plan.failsAtOnce_of_admits hcount hreply rfl hadmits
  have hretries :=
    plan.run_retries_of_failsAtOnce hsound henabled hcount hfails 0
  rw [hpauses] at hretries
  obtain ⟨errors, closing, hrecorded, hclosing⟩ :=
    plan.run_recorded hsound 0 none
  have hlength : errors.length = UInt32.size := by
    rwa [retriesIn, hrecorded, hclosing.countP_retries] at hretries
  have hended : (plan.run 0 none).ending ≠ .dropped := by
    intro hdropped
    have hsettled := plan.run_settled hsound 0
    simp [hdropped, Ending.isSettled] at hsettled
  obtain ⟨entry, hfinal, hreported⟩ := hclosing.final hended
  obtain ⟨hmem, hmessage⟩ :=
    List.mem_filter.mp (hfinal ▸ List.mem_singleton_self _)
  rw [hrun]
  refine ⟨hretries, entry, ?_, ?_, ?_⟩
  · rw [hrecorded]
    exact List.mem_append_right _ hmem
  · simpa [Event.isLogged] using hmessage
  · rw [hreported, hlength]
    rfl

end Client

end Redial
