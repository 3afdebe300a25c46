import Mathlib.Data.List.Nodup
import Redial.Proofs.Metrics.Balance

/-!
What the metrics of calls add up to. The registry of some calls that were made
one after another has, for each method, one observation for each call to the
transport, as many retries but for one less for each request whose metadata
were built, and one failure for each error in the log. It does not matter how
the calls end, nor whether they were dropped. But no other method that was
called may have a fingerprint of this one: methods with one fingerprint share
a series, which shows the labels of the first.
-/

namespace Redial

open Metrics

variable {α β : Type}

/-- One of several calls, with all that it is made with. -/
structure Turn (α β : Type) where
  client : Client
  span : String
  transport : Transport α β
  visit : Visit α
  start : Nat

namespace Turn

def run (turn : Turn α β) : Run α β :=
  turn.client.request turn.span turn.transport turn.visit turn.start

def target (turn : Turn α β) : Target := turn.visit.request.target

/-- Whether there are metadata for the call. -/
def isBuilt (turn : Turn α β) : Bool :=
  (turn.client.builder turn.span turn.visit.context
    turn.visit.request.metadata? (turn.client.policy
      turn.visit.overrides?).headers).isOk

end Turn

/-- All that happens in some calls. -/
def history (turns : List (Turn α β)) : List (TimedEvent α) :=
  turns.flatMap fun turn => turn.run.events

/-- The calls of a session, each with what it is made with. -/
def Client.turns (client : Client) (span : String) (transport : Transport α β)
    (start used : Nat) : List (Visit α) → List (Turn α β)
  | [] => []
  | visit :: visits =>
    let turn : Turn α β :=
      { client, span, transport := fun index => transport (used + index),
        visit, start }
    turn ::
      turns client span transport (turn.run.finish + pauseLength visit.idle)
        (used + turn.run.calls) visits

theorem Client.history_turns (client : Client) (span : String)
    (transport : Transport α β) (start used : Nat) (visits : List (Visit α)) :
    history (client.turns span transport start used visits) =
      (client.session span transport start used visits).flatMap fun call =>
        call.2.events := by
  induction visits generalizing start used with
  | nil => rfl
  | cons visit visits ih =>
    rw [turns, history, List.flatMap_cons, session, List.flatMap_cons, ← ih]
    rfl

/-- Whether no other method that is called has a fingerprint of one of these,
neither by itself nor with the class and the side of a failure. -/
structure KeptApart (turns : List (Turn α β)) (targets : List Target) :
    Prop where
  calls : ∀ turn ∈ turns, turn.target ∉ targets → ∀ target ∈ targets,
    fingerprint [turn.target.service, turn.target.method] ≠
      fingerprint [target.service, target.method]
  failures : ∀ turn ∈ turns, turn.target ∉ targets → ∀ target ∈ targets,
    ∀ kind ∈ failureKinds, ∀ other ∈ failureKinds,
      fingerprint [turn.target.service, turn.target.method, other.1,
          other.2] ≠
        fingerprint [target.service, target.method, kind.1, kind.2]

/-- Whether a registry says of a method what some calls to it did. Its
failures are added up over all classes and sides that a failure can have, and
there are none under any other. -/
structure Conserved (turns : List (Turn α β)) (registry : Registry)
    (target : Target) : Prop where
  attempts : registry.observations Family.duration.name target.labels =
    countOf (Event.isCallTo target) (history turns)
  retries : registry.counter Family.retries.name target.labels +
      (turns.countP fun turn => turn.target == target && turn.isBuilt) =
    countOf (Event.isCallTo target) (history turns)
  failures :
    (failureKinds.map fun kind =>
        registry.counter Family.failures.name
          (target.failureLabels kind)).sum =
      countOf (Event.isErrorOf target) (history turns)
  noOtherFailures : ∀ kind ∉ failureKinds,
    registry.counter Family.failures.name (target.failureLabels kind) = 0

namespace Turn

variable {turn : Turn α β} {target : Target}

/-- A call without metadata does nothing, and every other one is a run of a
plan for its method. -/
theorem run_cases (turn : Turn α β) :
    (turn.isBuilt = false ∧ turn.run.events = []) ∨
      ∃ plan : Plan α β, turn.isBuilt = true ∧ plan.policy.Sound ∧
        plan.invocation.target = turn.target ∧
        turn.run = plan.run turn.start turn.visit.patience? := by
  cases hbuilder : turn.client.builder turn.span turn.visit.context
      turn.visit.request.metadata? (turn.client.policy
        turn.visit.overrides?).headers with
  | error error =>
    have hplan : turn.client.plan turn.span turn.transport turn.visit.context
        turn.visit.request turn.visit.overrides? = .error error := by
      rw [Client.plan_eq_map, hbuilder]
      rfl
    have hrun : turn.run = ⟨[], .failed error, turn.start⟩ :=
      Client.request_eq_failed hplan
    refine .inl ⟨?_, by rw [hrun]⟩
    rw [isBuilt, hbuilder]
    rfl
  | ok metadata =>
    have hplan : turn.client.plan turn.span turn.transport turn.visit.context
        turn.visit.request turn.visit.overrides? = .ok _ :=
      Client.plan_eq_ok_iff.mpr ⟨metadata, hbuilder, rfl⟩
    refine .inr ⟨_, ?_, Client.plan_sound hplan, rfl,
      Client.request_eq_run hplan⟩
    rw [isBuilt, hbuilder]
    rfl

theorem balanced (turn : Turn α β) (target : Target) :
    Balanced target (turn.target == target && turn.isBuilt).toNat
      turn.run.events := by
  rcases turn.run_cases with ⟨hbuilt, hevents⟩ |
      ⟨plan, hbuilt, hsound, htarget, hrun⟩
  · rw [hbuilt, hevents, Bool.and_false]
    exact .nil target
  · rw [hbuilt, hrun, Bool.and_true, ← htarget]
    exact plan.run_balanced hsound target turn.start turn.visit.patience?

end Turn

theorem balanced_history (turns : List (Turn α β)) (target : Target) :
    Balanced target
      (turns.countP fun turn => turn.target == target && turn.isBuilt)
      (history turns) := by
  induction turns with
  | nil => exact .nil target
  | cons turn turns ih =>
    have hbuilt : (turn :: turns).countP
          (fun turn => turn.target == target && turn.isBuilt) =
        (turn.target == target && turn.isBuilt).toNat +
          turns.countP fun turn => turn.target == target && turn.isBuilt := by
      cases hturn : turn.target == target && turn.isBuilt <;>
        simp [hturn, Nat.add_comm]
    rw [hbuilt, history, List.flatMap_cons]
    exact (turn.balanced target).append ih

/-- The failures of some methods, by class and side. -/
def failuresOf (targets : List Target) : List (Target × String × String) :=
  targets.flatMap fun target => failureKinds.map fun kind => (target, kind)

section Separation

variable {turns : List (Turn α β)} {targets : List Target} {target : Target}
  {write : Series}

theorem mem_failuresOf {kind : String × String} :
    (target, kind) ∈ failuresOf targets ↔
      target ∈ targets ∧ kind ∈ failureKinds := by
  simp [failuresOf]

theorem nodup_failuresOf (hnodup : targets.Nodup) :
    (failuresOf targets).Nodup := by
  refine List.nodup_flatMap.mpr ⟨fun target _ => ?_, hnodup.imp fun hne => ?_⟩
  · exact nodup_failureKinds.map fun _ _ hpair => (Prod.mk.inj hpair).2
  · intro pair hleft hright
    obtain ⟨_, -, rfl⟩ := List.mem_map.mp hleft
    obtain ⟨_, -, hpair⟩ := List.mem_map.mp hright
    exact hne (Prod.mk.inj hpair).1.symm

theorem mem_map_values_iff {other : Target} :
    other.values ∈ targets.map Target.values ↔ other ∈ targets :=
  List.mem_map_of_injective fun _ _ => Target.values_injective

theorem mem_map_failureValues_iff {other : Target} {kind : String × String}
    (hkind : kind ∈ failureKinds) :
    other.failureValues kind ∈
        (failuresOf targets).map
          (fun failure => failure.1.failureValues failure.2) ↔
      other ∈ targets := by
  rw [List.mem_map]
  constructor
  · rintro ⟨⟨target, _⟩, hfailure, hvalues⟩
    exact (Target.failureValues_injective hvalues).1 ▸
      (mem_failuresOf.mp hfailure).1
  · intro hother
    exact ⟨(other, kind), mem_failuresOf.mpr ⟨hother, hkind⟩, rfl⟩

theorem of_mem_writes_history (hmem : write ∈ writes (history turns)) :
    ∃ turn ∈ turns, WrittenFor turn.target write := by
  obtain ⟨timed, htimed, hwrite⟩ := List.mem_filterMap.mp hmem
  obtain ⟨turn, hturn, hevent⟩ := List.mem_flatMap.mp htimed
  have hwrites : write ∈ writes turn.run.events :=
    List.mem_filterMap.mpr ⟨timed, hevent, hwrite⟩
  rcases turn.run_cases with ⟨-, hevents⟩ | ⟨plan, -, hsound, htarget, hrun⟩
  · simp [hevents] at hevent
  · rw [hrun, writes_eq_recorded] at hwrites
    obtain ⟨event, hmem, hwrite⟩ := List.mem_filterMap.mp hwrites
    have hrecords :=
      plan.run_records hsound turn.start turn.visit.patience? event hmem
    exact ⟨turn, hturn, htarget ▸ hrecords.writtenFor hwrite⟩

theorem KeptApart.separated_calls (hapart : KeptApart turns targets)
    {family : Family} (hfamily : family ≠ .failures) :
    Separated family (targets.map Target.values)
      (writes (history turns)) := by
  refine .of_imp fun write hwrite other hother hwriteFamily hmeets
    hvalues => ?_
  obtain ⟨turn, -, hwritten⟩ := of_mem_writes_history hwrite
  obtain ⟨otherTurn, hmem, hotherWritten⟩ := of_mem_writes_history hother
  have hotherFamily : other.family = family :=
    hmeets.1.symm.trans hwriteFamily
  obtain ⟨hwriteValues, hkey⟩ :=
    hwritten.of_ne_failures (hwriteFamily ▸ hfamily)
  obtain ⟨hotherValues, hotherKey⟩ :=
    hotherWritten.of_ne_failures (hotherFamily ▸ hfamily)
  rw [hwriteValues, mem_map_values_iff] at hvalues
  rw [hotherValues, mem_map_values_iff]
  by_contra htarget
  apply hapart.calls otherTurn hmem htarget turn.target hvalues
  rw [← hotherKey, ← hmeets.2, hkey]

theorem KeptApart.separated_failures (hapart : KeptApart turns targets) :
    Separated .failures
      ((failuresOf targets).map fun failure =>
        failure.1.failureValues failure.2)
      (writes (history turns)) := by
  refine .of_imp fun write hwrite other hother hwriteFamily hmeets
    hvalues => ?_
  obtain ⟨turn, -, hwritten⟩ := of_mem_writes_history hwrite
  obtain ⟨otherTurn, hmem, hotherWritten⟩ := of_mem_writes_history hother
  have hotherFamily : other.family = .failures :=
    hmeets.1.symm.trans hwriteFamily
  obtain ⟨kind, hkind, hwriteValues, hkey⟩ :=
    hwritten.of_eq_failures hwriteFamily
  obtain ⟨otherKind, hotherKind, hotherValues, hotherKey⟩ :=
    hotherWritten.of_eq_failures hotherFamily
  rw [hwriteValues, mem_map_failureValues_iff hkind] at hvalues
  rw [hotherValues, mem_map_failureValues_iff hotherKind]
  by_contra htarget
  apply hapart.failures otherTurn hmem htarget turn.target hvalues kind hkind
    otherKind hotherKind
  rw [← hotherKey, ← hmeets.2, hkey]

theorem KeptApart.sum_total_calls (hapart : KeptApart turns targets)
    (hnodup : targets.Nodup) (family : Family)
    (hfamily : family ≠ .failures) :
    (targets.map fun target =>
        total family [target.values] (keep (writes (history turns)))).sum =
      (targets.map fun target =>
        total family [target.values] (writes (history turns))).sum := by
  have hvalues : (targets.map Target.values).Nodup :=
    hnodup.map fun _ _ => Target.values_injective
  exact sum_total_keep hvalues (hapart.separated_calls hfamily)

theorem sum_failuresOf (targets : List Target)
    (count : Target × String × String → Nat) :
    ((failuresOf targets).map count).sum =
      (targets.map fun target =>
        (failureKinds.map fun kind => count (target, kind)).sum).sum := by
  induction targets with
  | nil => rfl
  | cons target targets ih =>
    have hcons : failuresOf (target :: targets) =
        (failureKinds.map fun kind => (target, kind)) ++
          failuresOf targets := rfl
    rw [hcons, List.map_append, List.sum_append, ih, List.map_map,
      List.map_cons, List.sum_cons]
    rfl

theorem KeptApart.sum_total_failures (hapart : KeptApart turns targets)
    (hnodup : targets.Nodup) :
    ((failuresOf targets).map fun failure =>
        total .failures [failure.1.failureValues failure.2]
          (keep (writes (history turns)))).sum =
      (targets.map fun target =>
        total .failures (failureKinds.map target.failureValues)
          (writes (history turns))).sum := by
  have hvalues : ((failuresOf targets).map fun failure =>
      failure.1.failureValues failure.2).Nodup := by
    refine (nodup_failuresOf hnodup).map fun _ _ hvalues => ?_
    obtain ⟨htarget, hkind⟩ := Target.failureValues_injective hvalues
    exact Prod.ext htarget hkind
  rw [sum_total_keep hvalues hapart.separated_failures, sum_failuresOf]
  refine congrArg List.sum (List.map_congr_left fun target _ => ?_)
  have hkinds : (failureKinds.map target.failureValues).Nodup :=
    nodup_failureKinds.map fun _ _ hvalues =>
      (Target.failureValues_injective hvalues).2
  rw [total_eq_sum _ hkinds, List.map_map]
  rfl

end Separation

section Reading

variable {turns : List (Turn α β)} {targets : List Target}

theorem observations_follow (turns : List (Turn α β)) (target : Target) :
    ((Registry.ofSeries []).follow (history turns)).observations
        Family.duration.name target.labels =
      total .duration [target.values] (keep (writes (history turns))) := by
  rw [follow_ofSeries]
  exact Registry.read_ofSeries (kept_writes _)
    Family.duration.declaredNames_perm_labelNames

theorem retries_follow (turns : List (Turn α β)) (target : Target) :
    ((Registry.ofSeries []).follow (history turns)).counter
        Family.retries.name target.labels =
      total .retries [target.values] (keep (writes (history turns))) := by
  rw [follow_ofSeries]
  exact Registry.read_ofSeries (kept_writes _)
    Family.retries.declaredNames_perm_labelNames

theorem failures_follow (turns : List (Turn α β)) (target : Target)
    (kind : String × String) :
    ((Registry.ofSeries []).follow (history turns)).counter
        Family.failures.name (target.failureLabels kind) =
      total .failures [target.failureValues kind]
        (keep (writes (history turns))) := by
  rw [follow_ofSeries]
  exact Registry.read_ofSeries (kept_writes _)
    Family.failures.declaredNames_perm_labelNames

/-- The metrics of some methods add up to what the calls to them did, if no
other method that was called has a fingerprint of one of them. So the metrics
of all methods that were called always do. -/
theorem metrics_conserved_together (hnodup : targets.Nodup)
    (hapart : KeptApart turns targets) :
    let registry := (Registry.ofSeries []).follow (history turns)
    (targets.map fun target =>
        registry.observations Family.duration.name target.labels).sum =
        (targets.map fun target =>
          countOf (Event.isCallTo target) (history turns)).sum ∧
      (targets.map fun target =>
        registry.counter Family.retries.name target.labels +
          turns.countP fun turn =>
            turn.target == target && turn.isBuilt).sum =
        (targets.map fun target =>
          countOf (Event.isCallTo target) (history turns)).sum ∧
      ((failuresOf targets).map fun failure =>
          registry.counter Family.failures.name
            (failure.1.failureLabels failure.2)).sum =
        (targets.map fun target =>
          countOf (Event.isErrorOf target) (history turns)).sum := by
  intro registry
  have hbalanced := balanced_history turns
  simp only [registry, observations_follow, retries_follow, failures_follow]
  refine ⟨?_, ?_, ?_⟩
  · rw [hapart.sum_total_calls hnodup .duration nofun]
    simp only [(hbalanced _).attempts]
  · rw [List.sum_map_add, hapart.sum_total_calls hnodup .retries nofun,
      ← List.sum_map_add]
    simp only [(hbalanced _).retries]
  · rw [hapart.sum_total_failures hnodup]
    simp only [(hbalanced _).failures]

end Reading

/-- After any calls that were made one after another, whatever became of them,
a plain registry says of a method what the calls to it did, if no other method
that was called has a fingerprint of it. There is one observation for each
call to the transport, one retry for each of them but the first of each
request, and one failure for each error in the log. -/
theorem metrics_conserved {turns : List (Turn α β)} {target : Target}
    {registry : Registry} (hregistry : Registry.forCalls {} = .ok registry)
    (hapart : KeptApart turns [target]) :
    Conserved turns (registry.follow (history turns)) target := by
  obtain rfl : Registry.ofSeries [] = registry :=
    Except.ok.inj (Registry.forCalls_plain.symm.trans hregistry)
  obtain ⟨hattempts, hretries, hfailures⟩ :=
    metrics_conserved_together (List.nodup_singleton target) hapart
  constructor
  case attempts => simpa using hattempts
  case retries => simpa using hretries
  case failures => simpa [failuresOf, Function.comp_def] using hfailures
  case noOtherFailures =>
    intro kind hkind
    rw [failures_follow]
    refine total_keep_eq_zero fun write hwrite hfamily hvalues => ?_
    obtain ⟨turn, -, hwritten⟩ := of_mem_writes_history hwrite
    obtain ⟨other, hother, hwriteValues, -⟩ := hwritten.of_eq_failures hfamily
    rw [List.mem_singleton, hwriteValues] at hvalues
    exact hkind ((Target.failureValues_injective hvalues).2 ▸ hother)

/-- A session of a call that is retried once, a call to another method that is
dropped, and a call without metadata. The metrics of the first method say that
there were two attempts, one retry and one failure. -/
theorem metrics_conserved_of_dropped_call :
    let refusing : MetadataBuilder := fun _ _ metadata? _ =>
      if metadata?.isSome then .error (.ofExternal "" none) else .ok {}
    let client : Client := { builder := refusing }
    let transport : Transport Unit Unit :=
      .ofReplies [.settles 5 (.error (.ofStatus .unavailable "")),
        .settles 5 (.ok ()), .never]
    let say : CallRequest Unit :=
      { service := "echo.v1.Echo", method := "Say" }
    let stop : CallRequest Unit :=
      { service := "echo.v1.Echo", method := "Stop" }
    let visits : List (Visit Unit) :=
      [{ context := default, request := say },
        { context := default, request := stop, patience? := some 10 },
        { context := default, request := say.withMetadata {} }]
    let events :=
      (client.session "" transport 0 0 visits).flatMap fun call =>
        call.2.events
    let registry := (Registry.ofSeries []).follow events
    registry.observations Family.duration.name say.target.labels = 2 ∧
      registry.counter Family.retries.name say.target.labels = 1 ∧
      (failureKinds.map fun kind =>
        registry.counter Family.failures.name
          (say.target.failureLabels kind)).sum = 1 := by
  intro refusing client transport say stop visits events registry
  let turns := client.turns "" transport 0 0 visits
  have hregistry : (Registry.ofSeries []).follow (history turns) = registry :=
    congrArg _ (client.history_turns "" transport 0 0 visits)
  have hapart : KeptApart turns [say.target] :=
    ⟨by decide +kernel, by decide +kernel⟩
  have hconserved := metrics_conserved Registry.forCalls_plain hapart
  rw [hregistry] at hconserved
  have hcalls : countOf (Event.isCallTo say.target) (history turns) = 2 := by
    decide +kernel
  have hbuilt :
      (turns.countP fun turn => turn.target == say.target && turn.isBuilt) =
        1 := by
    decide +kernel
  have herrors : countOf (Event.isErrorOf say.target) (history turns) =
      1 := by decide +kernel
  have hretries := hconserved.retries
  rw [hbuilt, hcalls] at hretries
  exact ⟨hconserved.attempts.trans hcalls, Nat.succ.inj hretries,
    hconserved.failures.trans herrors⟩

/-- Two methods whose names join to one text share a series. It shows the
method that was called first, and counts both calls for it. -/
theorem metrics_of_joined_names :
    let client : Client := { builder := fun _ _ _ _ => .ok {} }
    let transport : Transport Unit Unit := fun _ _ => .settles 0 (.ok ())
    let first : CallRequest Unit :=
      { service := "shop.v1.Cart", method := "ItemsList" }
    let second : CallRequest Unit :=
      { service := "shop.v1.CartItems", method := "List" }
    let turns := client.turns "" transport 0 0
      [{ context := default, request := first },
        { context := default, request := second }]
    let registry := (Registry.ofSeries []).follow (history turns)
    registry.observations Family.duration.name first.target.labels = 2 ∧
      countOf (Event.isCallTo first.target) (history turns) = 1 ∧
      registry.observations Family.duration.name second.target.labels = 0 ∧
      countOf (Event.isCallTo second.target) (history turns) = 1 ∧
      ¬ Conserved turns registry second.target := by
  intro client transport first second turns registry
  have hshown : registry.observations Family.duration.name
      second.target.labels = 0 := by
    decide +kernel
  have hcalls : countOf (Event.isCallTo second.target) (history turns) =
      1 := by decide +kernel
  refine ⟨by decide +kernel, by decide +kernel, hshown, hcalls,
    fun hconserved => ?_⟩
  have hattempts := hconserved.attempts
  rw [hshown, hcalls] at hattempts
  cases hattempts

end Redial
