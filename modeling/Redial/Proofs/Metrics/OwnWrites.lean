import Redial.Proofs.Metrics.Recorded

/-!
Whether a write can be read by its own labels. What is recorded of them
counts the write, as long as no other values came first with their
fingerprint. The labels themselves read that count if they are all recorded,
and otherwise nothing, before the write and after it. A counter is written
once; a timer is written when it starts and when it stops, and two writes of
the same labels are like one.
-/

namespace Redial.Metrics

namespace Registry

/-- What a registry answers for a family: the value of a counter, or the
number of observations. -/
def answer (registry : Registry) (family : Family) (query : Labels) : Nat :=
  registry.read family.kind family.name query

/-- Whether no series of a family with the fingerprint of some labels shows
other values than theirs. -/
def Admits (registry : Registry) (family : Family) (labels : Labels) : Prop :=
  ∀ one ∈ registry.series, one.family = family →
    one.key = fingerprint (labels.valuesOf family.declaredNames) →
      one.values = labels.valuesOf family.labelNames

instance (registry : Registry) (family : Family) (labels : Labels) :
    Decidable (registry.Admits family labels) :=
  inferInstanceAs (Decidable (∀ one ∈ registry.series, _ → _ → _))

end Registry

/-- What the own labels of a write read before it and after it. -/
structure OwnWrite (family : Family) (labels : Labels) (amount : Nat)
    (before after : Registry) : Prop where
  declared : (labels.pairs.map Prod.fst).Perm family.declaredNames →
    before.Admits family labels →
    after.answer family labels = before.answer family labels + amount
  recorded : before.Admits family labels →
    after.answer family (labels.recorded family.declaredNames) =
      before.answer family (labels.recorded family.declaredNames) + amount
  repeated : labels.AreRecorded family.declaredNames →
    before.Admits family labels →
    after.answer family labels =
      after.answer family (labels.recorded family.declaredNames)
  unrecorded : ¬ labels.AreRecorded family.declaredNames →
    before.answer family labels = 0 ∧ after.answer family labels = 0
  joined : (labels.pairs.map Prod.fst).Perm family.declaredNames →
    ¬ before.Admits family labels →
    before.answer family labels = 0 ∧ after.answer family labels = 0
  admits : after.Admits family labels ↔ before.Admits family labels

section Step

variable {family : Family} {labels : Labels} {amount more : Nat}
  {kept : List Series} {before middle after : Registry}

/-- Two writes of the same labels are like one. -/
theorem OwnWrite.trans (first : OwnWrite family labels amount before middle)
    (second : OwnWrite family labels more middle after) :
    OwnWrite family labels (amount + more) before after where
  declared hperm hadmits := by
    rw [second.declared hperm (first.admits.mpr hadmits),
      first.declared hperm hadmits, Nat.add_assoc]
  recorded hadmits := by
    rw [second.recorded (first.admits.mpr hadmits), first.recorded hadmits,
      Nat.add_assoc]
  repeated hrecorded hadmits :=
    second.repeated hrecorded (first.admits.mpr hadmits)
  unrecorded hnot := ⟨(first.unrecorded hnot).1, (second.unrecorded hnot).2⟩
  joined hperm hjoined :=
    ⟨(first.joined hperm hjoined).1,
      (second.joined hperm (hjoined ∘ first.admits.mp)).2⟩
  admits := second.admits.trans first.admits

theorem answer_eq_total (hkept : Kept kept)
    (hlabels : (labels.pairs.map Prod.fst).Perm family.declaredNames) :
    (Registry.ofSeries kept).answer family labels =
      total family [labels.valuesOf family.labelNames] kept :=
  Registry.read_ofSeries hkept
    (hlabels.trans family.declaredNames_perm_labelNames)

theorem answer_recorded_eq_total (hkept : Kept kept) (family : Family)
    (labels : Labels) :
    (Registry.ofSeries kept).answer family
        (labels.recorded family.declaredNames) =
      total family [labels.valuesOf family.labelNames] kept := by
  have hperm := family.declaredNames_perm_labelNames
  rw [answer_eq_total hkept (.of_eq (labels.names_recorded _)),
    Labels.valuesOf_recorded (hperm.symm.nodup family.nodup_labelNames)
      hperm.symm.subset]

/-- A write of some labels leaves their series to them, or to the values
that came first. -/
theorem admits_raise_iff :
    (Registry.ofSeries (raise (.ofLabels family labels amount) kept)).Admits
      family labels ↔
      (Registry.ofSeries kept).Admits family labels := by
  constructor
  · intro hadmits one hmem
    obtain ⟨count, hcount⟩ :=
      exists_mem_raise_of_mem (.ofLabels family labels amount) hmem
    exact hadmits { one with count } hcount
  · intro hadmits one hmem hfamily hkey
    rcases of_mem_raise hmem with rfl | ⟨earlier, hearlier, _, rfl⟩
    · rfl
    · exact hadmits earlier hearlier hfamily hkey

theorem total_raise_of_admits
    (hadmits : (Registry.ofSeries kept).Admits family labels) :
    total family [labels.valuesOf family.labelNames]
        (raise (.ofLabels family labels amount) kept) =
      total family [labels.valuesOf family.labelNames] kept + amount := by
  have hadded : total family [labels.valuesOf family.labelNames]
      [.ofLabels family labels amount] = amount := by
    rw [total_singleton]
    exact if_pos ⟨rfl, List.mem_singleton_self _⟩
  rw [total_raise, hadded]
  intro one hmem hmeets hfamily
  rw [hadmits one hmem hfamily hmeets.2]
  rfl

/-- Values whose series shows others are not counted. -/
theorem total_eq_zero_of_not_admits (hkept : Kept kept)
    (hnot : ¬ (Registry.ofSeries kept).Admits family labels) :
    total family [labels.valuesOf family.labelNames] kept = 0 := by
  unfold Registry.Admits at hnot
  push Not at hnot
  obtain ⟨one, hone, rfl, hkey, hvalues⟩ := hnot
  refine total_eq_zero fun other hother hfamily hshown => ?_
  rw [List.mem_singleton, ← hfamily] at hshown
  have hsame : other = one := by
    refine hkept.eq_of_meets hother hone ⟨hfamily, ?_⟩
    rw [hkept.key_eq hother hshown, hkey, hfamily]
  exact hvalues (hsame ▸ hshown)

/-- What one write adds to the reads of its labels. -/
theorem ownWrite_raise (hkept : Kept kept) (family : Family) (labels : Labels)
    (amount : Nat) :
    OwnWrite family labels amount (.ofSeries kept)
      (.ofSeries (raise (.ofLabels family labels amount) kept)) := by
  have hafter : Kept (raise (.ofLabels family labels amount) kept) :=
    hkept.raise family labels amount
  constructor
  case declared =>
    intro hperm hadmits
    rw [answer_eq_total hafter hperm, answer_eq_total hkept hperm,
      total_raise_of_admits hadmits]
  case recorded =>
    intro hadmits
    rw [answer_recorded_eq_total hafter, answer_recorded_eq_total hkept,
      total_raise_of_admits hadmits]
  case repeated =>
    intro hrecorded hadmits
    obtain ⟨one, hmem, hfamily, hkey⟩ :=
      exists_meets_raise (.ofLabels family labels amount) kept
    have hvalues := admits_raise_iff.mpr hadmits one hmem hfamily hkey
    have hperm := family.declaredNames_perm_labelNames
    have hnodup := hperm.symm.nodup family.nodup_labelNames
    have hown : (labels.recorded family.declaredNames).AreRecorded
        family.declaredNames :=
      Labels.areRecorded_of_perm hnodup (.of_eq (labels.names_recorded _))
    have hsame : one.values =
        (labels.recorded family.declaredNames).valuesOf
          family.labelNames := by
      rw [hvalues, Labels.valuesOf_recorded hnodup hperm.symm.subset]
    exact (read_of_areRecorded hafter hrecorded hmem hfamily hvalues).trans
      (read_of_areRecorded hafter hown hmem hfamily hsame).symm
  case unrecorded =>
    exact fun hnot =>
      ⟨read_of_not_areRecorded hkept hnot,
        read_of_not_areRecorded hafter hnot⟩
  case joined =>
    intro hperm hnot
    rw [answer_eq_total hafter hperm, answer_eq_total hkept hperm]
    exact ⟨total_eq_zero_of_not_admits hkept hnot,
      total_eq_zero_of_not_admits hafter (hnot ∘ admits_raise_iff.mp)⟩
  case admits => exact admits_raise_iff

end Step

section Uses

variable {usage : Usage} {kept : List Series}

theorem ownWrite_increment (hregistry : usage.registry = .ofSeries kept)
    (hkept : Kept kept) {family : Family} (hkind : family.kind = .counter)
    (labels : Labels) :
    OwnWrite family labels 1 usage.registry
      (usage.after (.increment family.name labels)).registry := by
  have hwrite : usage.write? (.increment family.name labels) =
      some (.ofLabels family labels 1) := by
    rw [Usage.write?, ← hkind, family.ofName?_name, Option.map_some]
  rw [Usage.after_registry hregistry, hwrite, hregistry]
  exact ownWrite_raise hkept family labels 1

/-- The start of a timer writes nothing but its series, and the stop
one observation. -/
theorem ownWrite_timer (hregistry : usage.registry = .ofSeries kept)
    (hkept : Kept kept) (labels : Labels) :
    OwnWrite .duration labels 1 usage.registry
      (usage.run
        [.start Family.duration.name labels,
          .stop Family.duration.name labels]).registry := by
  let started : Usage := usage.after (.start Family.duration.name labels)
  have hname :
      Family.ofName? .histogram Family.duration.name = some .duration :=
    Family.ofName?_name .duration
  have hstarted : started.registry =
      .ofSeries (raise (.ofLabels .duration labels 0) kept) := by
    rw [Usage.after_registry hregistry, Usage.write?, hname]
    rfl
  have hstopped :
      (started.after (.stop Family.duration.name labels)).registry =
        .ofSeries
          (raise (.ofLabels .duration labels 1)
            (raise (.ofLabels .duration labels 0) kept)) := by
    have hruns : (Family.duration.name, labels) ∈ started.running :=
      List.mem_cons_self
    rw [Usage.after_registry hstarted, Usage.write?, Usage.finishes,
      if_pos hruns, hname]
    rfl
  change OwnWrite .duration labels 1 usage.registry
    (started.after (.stop Family.duration.name labels)).registry
  rw [hregistry, hstopped]
  exact (ownWrite_raise hkept .duration labels 0).trans
    (ownWrite_raise (hkept.raise .duration labels 0) .duration labels 1)

end Uses

/-- What was written to a plain registry by some labels is read by the same
labels if they are just the declared ones, and else by what is recorded of
them. Labels that repeat none and are not just the declared ones read nothing,
before the write and after it. -/
theorem own_writes_read {registry : Registry}
    (hplain : Registry.forCalls {} = .ok registry) (history : List Use)
    (labels : Labels) :
    (∀ family : Family, family.kind = .counter →
      OwnWrite family labels 1 (Usage.run { registry } history).registry
        ((Usage.run { registry } history).after
          (.increment family.name labels)).registry) ∧
    OwnWrite .duration labels 1 (Usage.run { registry } history).registry
      ((Usage.run { registry } history).run
        [.start Family.duration.name labels,
          .stop Family.duration.name labels]).registry ∧
    ∀ family : Family, labels.pairs.Nodup →
      (labels.AreRecorded family.declaredNames ↔
        (labels.pairs.map Prod.fst).Perm family.declaredNames) := by
  obtain rfl : Registry.ofSeries [] = registry :=
    Except.ok.inj (Registry.forCalls_plain.symm.trans hplain)
  let start : Usage := { registry := .ofSeries [] }
  have hregistry : (start.run history).registry =
      .ofSeries (keep ([] ++ start.writes history)) :=
    start.run_registry rfl history
  have hkept : Kept (keep ([] ++ start.writes history)) :=
    start.kept_writes history
  refine ⟨fun family hkind => ?_, ?_, fun family => ?_⟩
  · exact ownWrite_increment hregistry hkept hkind labels
  · exact ownWrite_timer hregistry hkept labels
  · have hnodup :=
      family.declaredNames_perm_labelNames.symm.nodup family.nodup_labelNames
    exact Labels.areRecorded_iff_perm hnodup

/-- A retry of a call that was counted before, with its labels in another
order, and one with a label for a zone, which is counted with it but
cannot be read. -/
theorem own_writes_read_of_zone :
    let retries := "grpc_client_request_retries_total"
    let call : Labels := ⟨[("service", "svc"), ("method", "Call")]⟩
    let other : Labels := ⟨[("method", "Call"), ("service", "svc")]⟩
    let zoned : Labels :=
      ⟨[("service", "svc"), ("method", "Call"), ("zone", "a")]⟩
    let usage : Usage :=
      Usage.run { registry := .ofSeries [] } [.increment retries call]
    (usage.after (.increment retries other)).registry.counter retries
      other = 2 ∧
      (usage.after (.increment retries zoned)).registry.counter retries
        call = 2 ∧
      (usage.after (.increment retries zoned)).registry.counter retries
        zoned = 0 := by
  intro retries call other zoned usage
  have hother :=
    (own_writes_read Registry.forCalls_plain [.increment retries call]
      other).1 .retries rfl
  have hzoned :=
    (own_writes_read Registry.forCalls_plain [.increment retries call]
      zoned).1 .retries rfl
  have hadmits : usage.registry.Admits .retries other := by decide +kernel
  have hadmits' : usage.registry.Admits .retries zoned := by decide +kernel
  have hone : usage.registry.counter retries other = 1 := by decide +kernel
  refine ⟨(hother.declared (by decide) hadmits).trans ?_,
    (hzoned.recorded hadmits').trans ?_, (hzoned.unrecorded (by decide)).2⟩
  · exact congrArg (· + 1) hone
  · decide +kernel

/-- A retry without the name of its service is counted, and its own
labels read nothing. -/
theorem missing_label_reads_nothing :
    let retries := "grpc_client_request_retries_total"
    let call : Labels := ⟨[("method", "Call")]⟩
    ∃ registry, Registry.forCalls {} = .ok registry ∧
      registry.counter retries call = 0 ∧
      (registry.increment retries call).counter retries call = 0 ∧
      (registry.increment retries call).counter retries
        ⟨[("service", ""), ("method", "Call")]⟩ = 1 := by
  refine ⟨_, rfl, ?_, ?_, ?_⟩
  · decide +kernel
  · decide +kernel
  · decide +kernel

end Redial.Metrics
