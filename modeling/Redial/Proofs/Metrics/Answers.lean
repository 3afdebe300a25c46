import Redial.Proofs.Metrics.Usage

/-!
What is read from a sink in use. A query that has just the names which its
family declares gets the number of increments, or of ended timers, whose
labels have its values, and there is nothing to read under names that no
family of the kind has.
-/

namespace Redial.Metrics

/-- Whether something is written to a family with the values that a
query asks for. -/
def Family.isAsked (family : Family) (query : Labels) (metric : String)
    (labels : Labels) : Bool :=
  metric == family.name &&
    labels.valuesOf family.declaredNames ==
      query.valuesOf family.declaredNames

/-- Whether a use increments a counter with the values that a query asks
for. -/
def Use.isIncrementOf (family : Family) (query : Labels) : Use → Bool
  | .increment metric labels => family.isAsked query metric labels
  | _ => false

/-- How many of the timers that were stopped or dropped have the values that a
query asks for. -/
def Usage.endedFor (usage : Usage) (query : Labels) : Nat :=
  usage.ended.countP fun (metric, labels) =>
    Family.duration.isAsked query metric labels

theorem Family.isAsked_iff {family : Family} {query labels : Labels}
    {metric : String} :
    family.isAsked query metric labels = true ↔
      metric = family.name ∧
        labels.valuesOf family.labelNames =
          query.valuesOf family.labelNames := by
  have hperm := family.declaredNames_perm_labelNames
  simp only [isAsked, Bool.and_eq_true, beq_iff_eq, and_congr_right_iff]
  exact fun _ =>
    ⟨Labels.valuesOf_congr hperm.symm, Labels.valuesOf_congr hperm⟩

namespace Usage

variable {usage : Usage} {family : Family} {query : Labels}

/-- Written once, labels count for a query of their family that has their
values. -/
theorem total_write {kind : Kind} (hkind : family.kind = kind)
    (metric : String) (labels : Labels) :
    total family [query.valuesOf family.labelNames]
        ((Family.ofName? kind metric).map fun other =>
          Series.ofLabels other labels 1).toList =
      if family.isAsked query metric labels then 1 else 0 := by
  cases hname : Family.ofName? kind metric with
  | none =>
    have hnever : ¬ family.isAsked query metric labels = true := by
      intro hasked
      obtain ⟨rfl, -⟩ := Family.isAsked_iff.mp hasked
      rw [← hkind, family.ofName?_name] at hname
      cases hname
    rw [if_neg hnever]
    rfl
  | some other =>
    obtain ⟨hkind', rfl⟩ := Family.ofName?_eq_some hname
    have hasked : (Series.ofLabels other labels 1).family = family ∧
        (Series.ofLabels other labels 1).values ∈
          [query.valuesOf family.labelNames] ↔
          family.isAsked query other.name labels = true := by
      rw [Family.isAsked_iff, List.mem_singleton]
      constructor
      · rintro ⟨rfl, hvalues⟩
        exact ⟨rfl, hvalues⟩
      · rintro ⟨hsame, hvalues⟩
        obtain rfl := Family.name_injective hsame
        exact ⟨rfl, hvalues⟩
    rw [Option.map_some, Option.toList_some, total_singleton]
    exact if_congr hasked rfl rfl

/-- A write to families of another kind, or one that adds nothing,
does not count. -/
theorem total_write_eq_zero {kind : Kind} {count : Nat}
    {shown : List (List String)} (hzero : family.kind ≠ kind ∨ count = 0)
    (metric : String) (labels : Labels) :
    total family shown
        ((Family.ofName? kind metric).map fun other =>
          Series.ofLabels other labels count).toList =
      0 := by
  cases hname : Family.ofName? kind metric with
  | none => rfl
  | some other =>
    obtain ⟨hkind, -⟩ := Family.ofName?_eq_some hname
    refine total_ofLabels_eq_zero labels
      (hzero.imp_left fun hother hsame => ?_)
    exact hother (hsame ▸ hkind)

theorem total_finishes (shown : List (List String)) (metric : String)
    (labels : Labels) :
    total family shown (usage.finishes metric labels).toList =
      if (metric, labels) ∈ usage.running then
        total family shown
          ((Family.ofName? .histogram metric).map fun other =>
            .ofLabels other labels 1).toList
      else 0 := by
  unfold finishes
  split
  · rfl
  · rfl

/-- What one use writes to a counter is its increment, if it is one. -/
theorem total_counter_write? (hkind : family.kind = .counter) (use : Use) :
    total family [query.valuesOf family.labelNames]
        (usage.write? use).toList =
      if use.isIncrementOf family query then 1 else 0 := by
  have hother : family.kind ≠ .histogram := by
    rw [hkind]
    decide
  cases use with
  | increment metric labels => exact total_write hkind metric labels
  | start metric labels =>
    exact total_write_eq_zero (.inl hother) metric labels
  | stop metric labels | drop metric labels =>
    change total family _ (usage.finishes metric labels).toList = 0
    rw [total_finishes, total_write_eq_zero (.inl hother) metric labels,
      ite_self]
  | readCounter | readObservations => rfl

/-- What one use writes to the durations is the end of a timer, if it ends
one. -/
theorem endedFor_after (use : Use) :
    (usage.after use).endedFor query =
      total .duration [query.valuesOf Family.duration.labelNames]
          (usage.write? use).toList +
        usage.endedFor query := by
  have hfinish (metric : String) (labels : Labels) :
      (usage.finish metric labels).endedFor query =
        total .duration [query.valuesOf Family.duration.labelNames]
          (usage.finishes metric labels).toList + usage.endedFor query := by
    rw [total_finishes, @total_write .duration query .histogram rfl, finish]
    split
    · rw [endedFor, List.countP_cons, Nat.add_comm]
      rfl
    · rw [Nat.zero_add]
  cases use with
  | increment metric labels =>
    rw [write?, total_write_eq_zero (.inl (by decide)), Nat.zero_add]
    rfl
  | start metric labels =>
    rw [write?, total_write_eq_zero (.inr rfl), Nat.zero_add]
    rfl
  | stop metric labels | drop metric labels => exact hfinish metric labels
  | readCounter | readObservations => exact (Nat.zero_add _).symm

theorem total_counter_writes (hkind : family.kind = .counter)
    (uses : List Use) :
    total family [query.valuesOf family.labelNames] (usage.writes uses) =
      uses.countP (Use.isIncrementOf family query) := by
  induction uses generalizing usage with
  | nil => rfl
  | cons use uses ih =>
    rw [writes, total_append, total_counter_write? hkind, ih,
      List.countP_cons, Nat.add_comm]

theorem endedFor_run (uses : List Use) :
    (usage.run uses).endedFor query =
      total .duration [query.valuesOf Family.duration.labelNames]
          (usage.writes uses) +
        usage.endedFor query := by
  induction uses generalizing usage with
  | nil => exact (Nat.zero_add _).symm
  | cons use uses ih =>
    have hrest : ((usage.after use).run uses).endedFor query = _ := ih
    rw [endedFor_after] at hrest
    rw [writes, total_append, run, List.foldl_cons, ← run, hrest]
    omega

end Usage

namespace Registry

variable {registry : Registry} {metric : String} {query : Labels}
  {kind : Kind} {sample : Sample}

/-- What is found is a sample of a family that is shown under the name, and
has the labels. -/
theorem find?_eq_some
    (hfound : registry.find? metric query = some (kind, sample)) :
    ∃ family, registry.shownName family = metric ∧ family.kind = kind ∧
      sample ∈ registry.samples family ∧ sample.hasLabels query = true := by
  rw [find?, Option.bind_eq_bind, Option.bind_eq_some_iff] at hfound
  obtain ⟨shown, hshown, hfound⟩ := hfound
  rw [Option.bind_eq_bind, Option.bind_eq_some_iff] at hfound
  obtain ⟨found, hsample, hfound⟩ := hfound
  obtain ⟨rfl, rfl⟩ := Prod.mk.inj (Option.some.inj hfound)
  obtain ⟨family, -, hfamily⟩ :=
    List.mem_filterMap.mp (List.mem_of_find?_eq_some hshown)
  have hname : shown.name = metric := by simpa using List.find?_some hshown
  have hmem := List.mem_of_find?_eq_some hsample
  have hlabels := List.find?_some hsample
  dsimp only at hfamily
  split at hfamily
  · cases hfamily
  · obtain rfl := Option.some.inj hfamily
    exact ⟨family, hname, rfl, hmem, hlabels⟩

theorem read_eq_zero
    (hnone : ∀ family sample, registry.shownName family = metric →
      family.kind = kind →
      sample ∈ registry.samples family → sample.hasLabels query = false) :
    registry.read kind metric query = 0 := by
  unfold read
  split
  · rename_i found sample hfound
    obtain ⟨family, hname, hkind, hmem, hlabels⟩ := find?_eq_some hfound
    refine if_neg fun hsame => ?_
    rw [hnone family sample hname (hkind.trans hsame) hmem] at hlabels
    cases hlabels
  · rfl

end Registry

/-- What the registry of some usage answers once it was used. A query that has
just the names which a family declares gets what was incremented, or ended,
with its values. There is nothing to read under a name that no family of the
kind has, and a use that writes nothing leaves no trace. -/
structure CountsWrites (usage : Usage) (uses : List Use) : Prop where
  counter : ∀ family : Family, family.kind = .counter → ∀ query : Labels,
    (query.pairs.map Prod.fst).Perm family.declaredNames →
      (usage.run uses).registry.counter family.name query =
        uses.countP (Use.isIncrementOf family query)
  observations : ∀ query : Labels,
    (query.pairs.map Prod.fst).Perm Family.duration.declaredNames →
      (usage.run uses).registry.observations Family.duration.name query =
        (usage.run uses).endedFor query
  noCounter : ∀ metric query, Family.ofName? .counter metric = none →
    (usage.run uses).registry.counter metric query = 0
  noObservations : ∀ metric query, Family.ofName? .histogram metric = none →
    (usage.run uses).registry.observations metric query = 0
  traceless : ∀ before use behind, uses = before ++ use :: behind →
    use.target? = none →
    (usage.run (before ++ behind)).registry = (usage.run uses).registry

theorem read_ofSeries_eq_zero {kind : Kind} {metric : String}
    (hname : Family.ofName? kind metric = none) (series : List Series)
    (query : Labels) :
    (Registry.ofSeries series).read kind metric query = 0 := by
  refine Registry.read_eq_zero fun family sample hshown hkind => ?_
  have hsame : Family.ofName? family.kind family.name = none := by
    have hmetric : family.name = metric := hshown
    rwa [hkind, hmetric]
  rw [family.ofName?_name] at hsame
  cases hsame

/-- A plain registry counts what is written to it, as long as it keeps one
series for each tuple of values that is. -/
theorem counts_writes {registry : Registry} {uses : List Use}
    (hplain : Registry.forCalls {} = .ok registry)
    (htuples : OneSeriesPerTuple uses) :
    CountsWrites { registry } uses := by
  obtain rfl : Registry.ofSeries [] = registry :=
    Except.ok.inj (Registry.forCalls_plain.symm.trans hplain)
  let usage : Usage := { registry := .ofSeries [] }
  have hregistry : (usage.run uses).registry =
      .ofSeries (keep ([] ++ usage.writes uses)) :=
    usage.run_registry rfl uses
  rw [List.nil_append] at hregistry
  have hread (family : Family) (query : Labels)
      (hquery : (query.pairs.map Prod.fst).Perm family.declaredNames) :
      (usage.run uses).registry.read family.kind family.name query =
        total family [query.valuesOf family.labelNames]
          (usage.writes uses) := by
    have hnames := hquery.trans family.declaredNames_perm_labelNames
    rw [hregistry, Registry.read_ofSeries (usage.kept_writes uses) hnames,
      total_keep (usage.separated_writes htuples family _)]
  constructor
  case counter =>
    intro family hkind query hquery
    rw [Registry.counter, ← hkind, hread family query hquery,
      Usage.total_counter_writes hkind]
  case observations =>
    intro query hquery
    rw [Usage.endedFor_run]
    exact hread .duration query hquery
  case noCounter =>
    intro metric query hname
    change (usage.run uses).registry.read .counter metric query = 0
    rw [hregistry, read_ofSeries_eq_zero hname]
  case noObservations =>
    intro metric query hname
    change (usage.run uses).registry.read .histogram metric query = 0
    rw [hregistry, read_ofSeries_eq_zero hname]
  case traceless =>
    rintro before use behind rfl htarget
    exact (Usage.run_without htarget usage before behind).symm

/-- One timer is stopped between the start and the drop of another, and one
was started under a name that no histogram has. -/
theorem counts_writes_of_interleaved_timers :
    let duration := "grpc_client_request_duration_seconds"
    let retries := "grpc_client_request_retries_total"
    let call : Labels :=
      ⟨[("service", "svc"), ("method", "Call"), ("zone", "a")]⟩
    let other : Labels := ⟨[("method", "Other"), ("service", "svc")]⟩
    let uses : List Use :=
      [.start duration call, .start duration other, .start retries call,
        .increment retries call, .stop duration other,
        .readCounter retries other, .stop retries call, .drop duration call]
    let registry := ((Usage.mk (.ofSeries []) [] []).run uses).registry
    registry.observations duration
      ⟨[("method", "Call"), ("service", "svc")]⟩ = 1 ∧
      registry.counter retries
        ⟨[("method", "Call"), ("service", "svc")]⟩ = 1 ∧
      registry.counter retries other = 0 ∧
      registry.observations retries other = 0 := by
  intro duration retries call other uses registry
  have htuples : OneSeriesPerTuple uses := by decide +kernel
  have hcounts : CountsWrites { registry := .ofSeries [] } uses :=
    counts_writes Registry.forCalls_plain htuples
  have hended :=
    hcounts.observations ⟨[("method", "Call"), ("service", "svc")]⟩
      (by decide)
  have hcall :=
    hcounts.counter .retries rfl ⟨[("method", "Call"), ("service", "svc")]⟩
      (by decide)
  have hother := hcounts.counter .retries rfl other (by decide)
  refine ⟨hended.trans ?_, hcall.trans ?_, hother.trans ?_, ?_⟩
  · decide
  · decide
  · decide
  · exact hcounts.noObservations retries other (by decide)

end Redial.Metrics
