import Redial.Proofs.Metrics.Answers

/-!
Registries that show their series by other names. What a registry keeps does
not depend on how it shows it, and nor do the uses of its sink. A read sees
what is shown, so the name of a family and its own labels find nothing as soon
as the registry has a scope or common labels; the shown name and all labels
find what a plain registry has.
-/

namespace Redial.Metrics

/-- The name that a family's name is shown as. -/
def Naming.shownName (naming : Naming) (name : String) : String :=
  match naming.scope? with
  | some scope => scope ++ "_" ++ name
  | none => name

/-- A sample with the common labels behind its own. -/
def Naming.shownSample (naming : Naming) (sample : Sample) : Sample :=
  { sample with labels := sample.labels ++ naming.common }

/-- A registry of the same series that shows them in its own way. -/
def Registry.under (registry : Registry) (naming : Naming) : Registry :=
  { registry with naming }

def Usage.under (usage : Usage) (naming : Naming) : Usage :=
  { usage with registry := usage.registry.under naming }

section Uses

variable {naming : Naming}

theorem Registry.eq_under {registry : Registry}
    (haccepted : forCalls naming = .ok registry) :
    registry = (ofSeries []).under naming := by
  rw [forCalls, new] at haccepted
  split at haccepted
  · cases haccepted
  · exact (Except.ok.inj haccepted).symm

theorem Registry.increment_under (registry : Registry) (metric : String)
    (labels : Labels) :
    (registry.under naming).increment metric labels =
      (registry.increment metric labels).under naming := by
  unfold increment
  cases Family.ofName? .counter metric <;> rfl

theorem Registry.startTimer_under (registry : Registry) (metric : String)
    (labels : Labels) :
    (registry.under naming).startTimer metric labels =
      (registry.startTimer metric labels).under naming := by
  unfold startTimer
  cases Family.ofName? .histogram metric <;> rfl

theorem Registry.stopTimer_under (registry : Registry) (metric : String)
    (labels : Labels) :
    (registry.under naming).stopTimer metric labels =
      (registry.stopTimer metric labels).under naming := by
  unfold stopTimer
  cases Family.ofName? .histogram metric <;> rfl

theorem Usage.finish_under (usage : Usage) (metric : String)
    (labels : Labels) :
    (usage.under naming).finish metric labels =
      (usage.finish metric labels).under naming := by
  by_cases hrunning : (metric, labels) ∈ usage.running
  · have hboth : (metric, labels) ∈ (usage.under naming).running := hrunning
    rw [finish, finish, if_pos hrunning, if_pos hboth]
    simp only [under, Registry.stopTimer_under]
  · have hneither : (metric, labels) ∉ (usage.under naming).running :=
      hrunning
    rw [finish, finish, if_neg hrunning, if_neg hneither]

theorem Usage.after_under (usage : Usage) (use : Use) :
    (usage.under naming).after use = (usage.after use).under naming := by
  cases use with
  | increment metric labels =>
    simp only [after, under, Registry.increment_under]
  | start metric labels => simp only [after, under, Registry.startTimer_under]
  | stop metric labels | drop metric labels =>
    exact usage.finish_under metric labels
  | readCounter | readObservations => rfl

theorem Usage.run_under (usage : Usage) (uses : List Use) :
    (usage.under naming).run uses = (usage.run uses).under naming := by
  induction uses generalizing usage with
  | nil => rfl
  | cons use uses ih =>
    have hrest := ih (usage.after use)
    rwa [← usage.after_under use] at hrest

end Uses

namespace Registry

variable {naming : Naming} {series : List Series} {family : Family}
  {query : Labels}

theorem samples_under (family : Family) :
    ((ofSeries series).under naming).samples family =
      ((ofSeries series).samples family).map naming.shownSample := by
  have hplain :
      (fun sample : Sample => { sample with labels := sample.labels ++ [] }) =
        id := by
    funext sample
    simp
  simp only [samples, under, ofSeries, hplain, List.map_id]
  rfl

/-- What is shown is what a plain registry shows, with other names and more
labels. -/
theorem gather_under (series : List Series) (naming : Naming) :
    ((ofSeries series).under naming).gather =
      (ofSeries series).gather.map fun shown =>
        { shown with
          name := naming.shownName shown.name
          samples := shown.samples.map naming.shownSample } := by
  unfold gather
  rw [List.map_filterMap]
  refine List.filterMap_congr fun family _ => ?_
  simp only [samples_under, List.isEmpty_map]
  split <;> rfl

end Registry

/-- No name of a family is a scope in front of the name of one. -/
theorem Family.scoped_name_ne (family other : Family) (scope : String) :
    scope ++ "_" ++ other.name ≠ family.name := by
  have hsuffix : ∀ family other : Family,
      ¬ ('_' :: other.name.toList) <:+ family.name.toList := by
    intro family other
    cases family <;> cases other <;> decide
  intro hname
  refine hsuffix family other ⟨scope.toList, ?_⟩
  rw [← hname]
  simp

theorem Naming.shownName_injective (naming : Naming) {left right : String}
    (hscoped : naming.shownName left = naming.shownName right) :
    left = right := by
  unfold shownName at hscoped
  split at hscoped
  · simpa using hscoped
  · exact hscoped

/-- Common labels do not matter if the query asks for them too, and for no
labels of their names. -/
theorem Naming.hasLabels_shownSample (naming : Naming) {query : Labels}
    (hcommon : ∀ label ∈ naming.common, label.1 ∉ query.pairs.map Prod.fst)
    (sample : Sample) :
    (naming.shownSample sample).hasLabels ⟨query.pairs ++ naming.common⟩ =
      sample.hasLabels query := by
  have hquery : query.pairs.all (sample.labels ++ naming.common).contains =
      query.pairs.all sample.labels.contains := by
    rw [Bool.eq_iff_iff, List.all_eq_true, List.all_eq_true]
    refine forall_congr' fun pair => imp_congr_right fun hpair => ?_
    have hother : pair ∉ naming.common := fun hmem =>
      hcommon pair hmem (List.mem_map_of_mem hpair)
    simp [hother]
  have hall :
      naming.common.all (sample.labels ++ naming.common).contains = true := by
    simp +contextual
  have hlength : (sample.labels.length + naming.common.length ==
      query.pairs.length + naming.common.length) =
        (sample.labels.length == query.pairs.length) := by
    rw [Bool.eq_iff_iff]
    simp
  simp only [shownSample, Sample.hasLabels, List.length_append,
    List.all_append, hlength, hquery, hall, Bool.and_true]

namespace Registry

variable {naming : Naming} {series : List Series} {family : Family}
  {query : Labels}

theorem length_labels {sample : Sample} (hkept : Kept series)
    (hmem : sample ∈ (ofSeries series).samples family) :
    sample.labels.length = family.labelNames.length := by
  obtain ⟨labels, count, -, rfl⟩ := exists_of_mem_samples hkept hmem
  simp [Series.sample, Series.ofLabels, Labels.valuesOf]

/-- The own names of the families find nothing in a registry that shows
anything else. -/
theorem read_under_eq_zero (hkept : Kept series)
    (hnaming : ¬ (naming.scope? = none ∧ naming.common = []))
    (hquery : (query.pairs.map Prod.fst).Perm family.labelNames) :
    ((ofSeries series).under naming).read family.kind family.name query =
      0 := by
  refine read_eq_zero fun other sample hshown _ hmem => ?_
  change naming.shownName other.name = family.name at hshown
  cases hscope : naming.scope? with
  | some scope =>
    rw [Naming.shownName, hscope] at hshown
    exact absurd hshown (family.scoped_name_ne other scope)
  | none =>
    rw [Naming.shownName, hscope] at hshown
    obtain rfl := Family.name_injective hshown
    have hcommon : naming.common ≠ [] := fun hnone => hnaming ⟨hscope, hnone⟩
    rw [samples_under] at hmem
    obtain ⟨plain, hplain, rfl⟩ := List.mem_map.mp hmem
    have hlength := length_labels hkept hplain
    have hpairs : query.pairs.length = other.labelNames.length := by
      rw [← hquery.length_eq, List.length_map]
    have hmore := List.length_pos_iff.mpr hcommon
    have hne :
        ¬ (naming.shownSample plain).labels.length = query.pairs.length := by
      rw [Naming.shownSample, List.length_append]
      omega
    simp [Sample.hasLabels, hne]

/-- What is shown finds in any registry what the own names find in a plain
one. -/
theorem read_under_shown (series : List Series) (family : Family)
    (hcommon : ∀ label ∈ naming.common, label.1 ∉ query.pairs.map Prod.fst) :
    ((ofSeries series).under naming).read family.kind
        (naming.shownName family.name) ⟨query.pairs ++ naming.common⟩ =
      (ofSeries series).read family.kind family.name query := by
  have hname (shown : String) :
      (naming.shownName shown == naming.shownName family.name) =
        (shown == family.name) := by
    rw [Bool.eq_iff_iff, beq_iff_eq, beq_iff_eq]
    exact ⟨naming.shownName_injective, congrArg naming.shownName⟩
  have hfind : ((ofSeries series).under naming).find?
      (naming.shownName family.name) ⟨query.pairs ++ naming.common⟩ =
        ((ofSeries series).find? family.name query).map fun (kind, sample) =>
          (kind, naming.shownSample sample) := by
    rw [find?, find?, gather_under, List.find?_map]
    simp only [Function.comp_def, hname, Option.bind_eq_bind]
    cases (ofSeries series).gather.find?
        (fun shown => shown.name == family.name) with
    | none => rfl
    | some shown =>
      simp only [Option.map_some, Option.bind_some, List.find?_map,
        Function.comp_def, naming.hasLabels_shownSample hcommon]
      cases shown.samples.find? (fun sample => sample.hasLabels query) <;> rfl
  rw [read, read, hfind]
  cases (ofSeries series).find? family.name query <;> rfl

end Registry

/-- Reads of a sink by a family's own name and labels give what a plain
registry gives if the registry has neither a scope nor common labels, and
nothing otherwise. What the plain registry gives is then found under the name
that is shown, with the common labels, as long as no family declares these. -/
theorem read_of_named_registry {naming : Naming} {plain registry : Registry}
    {query : Labels} (hplain : Registry.forCalls {} = .ok plain)
    (haccepted : Registry.forCalls naming = .ok registry) (uses : List Use)
    (family : Family)
    (hquery : (query.pairs.map Prod.fst).Perm family.declaredNames) :
    (Usage.run { registry } uses).registry.read family.kind family.name
          query =
        (if naming.scope? = none ∧ naming.common = [] then
          (Usage.run { registry := plain } uses).registry.read family.kind
            family.name query
        else 0) ∧
      ((∀ label ∈ naming.common, label.1 ∉ family.declaredNames) →
        (Usage.run { registry } uses).registry.read family.kind
            (naming.shownName family.name) ⟨query.pairs ++ naming.common⟩ =
          (Usage.run { registry := plain } uses).registry.read family.kind
            family.name query) := by
  obtain rfl : Registry.ofSeries [] = plain :=
    Except.ok.inj (Registry.forCalls_plain.symm.trans hplain)
  let usage : Usage := { registry := .ofSeries [] }
  obtain rfl := Registry.eq_under haccepted
  have hnamed :
      (usage.under naming).run uses = (usage.run uses).under naming :=
    usage.run_under uses
  have hregistry : (usage.run uses).registry =
      .ofSeries (keep ([] ++ usage.writes uses)) :=
    usage.run_registry rfl uses
  change ((usage.under naming).run uses).registry.read _ _ _ =
    (if _ then _ else 0) ∧
    (_ → ((usage.under naming).run uses).registry.read _ _ _ = _)
  rw [hnamed, Usage.under, hregistry]
  constructor
  · split
    · rename_i hnone
      obtain ⟨hscope, hcommon⟩ := hnone
      obtain rfl : naming = {} := by
        rw [← hscope, ← hcommon]
      rfl
    · rename_i hshown
      exact Registry.read_under_eq_zero (usage.kept_writes uses) hshown
        (hquery.trans family.declaredNames_perm_labelNames)
  · intro hcommon
    exact Registry.read_under_shown _ family fun label hmem hname =>
      hcommon label hmem (hquery.mem_iff.mp hname)

/-- A retry that is counted in a registry with a scope and a common label. -/
theorem read_of_named_registry_with_scope :
    let naming : Naming :=
      { scope? := some "app", common := [("env", "prod")] }
    let retries := "grpc_client_request_retries_total"
    let call : Labels := ⟨[("service", "svc"), ("method", "Call")]⟩
    ∃ registry, Registry.forCalls naming = .ok registry ∧
      (Usage.run { registry } [.increment retries call]).registry.counter
        retries call = 0 ∧
      (Usage.run { registry } [.increment retries call]).registry.counter
        "app_grpc_client_request_retries_total"
        ⟨[("service", "svc"), ("method", "Call"), ("env", "prod")]⟩ = 1 := by
  intro naming retries call
  have haccepted : Registry.forCalls naming =
      .ok ((Registry.ofSeries []).under naming) := rfl
  have hquery :
      (call.pairs.map Prod.fst).Perm Family.retries.declaredNames := by decide
  obtain ⟨hown, hshown⟩ :=
    read_of_named_registry Registry.forCalls_plain haccepted
      [.increment retries call] .retries hquery
  refine ⟨_, haccepted, hown, (hshown (by decide)).trans ?_⟩
  decide +kernel

/-- A plain registry counts a retry that a registry with a scope does not
find. -/
theorem scoped_registry_reads_nothing :
    let retries := "grpc_client_request_retries_total"
    let call : Labels := ⟨[("service", "svc"), ("method", "Call")]⟩
    ∃ plain registry, Registry.forCalls {} = .ok plain ∧
      Registry.forCalls { scope? := some "app" } = .ok registry ∧
      (Usage.run { registry := plain }
        [.increment retries call]).registry.counter retries call = 1 ∧
      (Usage.run { registry } [.increment retries call]).registry.counter
        retries call = 0 := by
  refine ⟨_, _, rfl, rfl, ?_, ?_⟩
  · decide +kernel
  · decide +kernel

end Redial.Metrics
