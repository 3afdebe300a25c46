import Redial.Proofs.Metrics.Reading

/-!
A sink in use. Counters are incremented, timers are started, and each
timer that runs is ended once, by its stop being called or dropped; in
between anyone may read. A plain registry keeps what is written by such
uses, and a use that writes nothing cannot be told from the registry,
neither at once nor later.
-/

namespace Redial.Metrics

/-- One use of a sink. The stop of a timer is known by the metric and the
labels that the timer was started with, as it keeps nothing else. -/
inductive Use where
  | increment (metric : String) (labels : Labels)
  | start (metric : String) (labels : Labels)
  | stop (metric : String) (labels : Labels)
  | drop (metric : String) (labels : Labels)
  | readCounter (metric : String) (query : Labels)
  | readObservations (metric : String) (query : Labels)

/-- A sink's registry, with the timers that run and those that were
stopped or dropped. -/
structure Usage where
  registry : Registry
  running : List (String × Labels) := []
  ended : List (String × Labels) := []

namespace Usage

/-- Calls or drops the stop of a timer, if the timer runs. -/
def finish (usage : Usage) (metric : String) (labels : Labels) : Usage :=
  if (metric, labels) ∈ usage.running then
    { registry := usage.registry.stopTimer metric labels
      running := usage.running.erase (metric, labels)
      ended := (metric, labels) :: usage.ended }
  else usage

def after (usage : Usage) : Use → Usage
  | .increment metric labels =>
    { usage with registry := usage.registry.increment metric labels }
  | .start metric labels =>
    { usage with
      registry := usage.registry.startTimer metric labels
      running := (metric, labels) :: usage.running }
  | .stop metric labels => usage.finish metric labels
  | .drop metric labels => usage.finish metric labels
  | .readCounter _ _ => usage
  | .readObservations _ _ => usage

def run (usage : Usage) (uses : List Use) : Usage :=
  uses.foldl after usage

end Usage

namespace Use

/-- The family that a use writes to, with the labels that it writes.
Reads write nothing, and neither do writes under a name that no family of
their kind has. -/
def target? : Use → Option (Family × Labels)
  | .increment metric labels =>
    (Family.ofName? .counter metric).map fun family => (family, labels)
  | .start metric labels =>
    (Family.ofName? .histogram metric).map fun family => (family, labels)
  | .stop metric labels =>
    (Family.ofName? .histogram metric).map fun family => (family, labels)
  | .drop metric labels =>
    (Family.ofName? .histogram metric).map fun family => (family, labels)
  | .readCounter _ _ => none
  | .readObservations _ _ => none

end Use

/-- Whether the labels that some uses write to a family have the same values
wherever they have the same fingerprint. -/
def OneSeriesPerTuple (uses : List Use) : Prop :=
  ∀ target ∈ uses.filterMap Use.target?, ∀ other ∈ uses.filterMap Use.target?,
    target.1 = other.1 →
      fingerprint (target.2.valuesOf target.1.declaredNames) =
        fingerprint (other.2.valuesOf target.1.declaredNames) →
      target.2.valuesOf target.1.declaredNames =
        other.2.valuesOf target.1.declaredNames

instance (uses : List Use) : Decidable (OneSeriesPerTuple uses) :=
  inferInstanceAs (Decidable
    (∀ target ∈ uses.filterMap Use.target?, ∀ other ∈ _, _))

theorem Family.ofName?_eq_some {kind : Kind} {metric : String}
    {family : Family} (hname : ofName? kind metric = some family) :
    family.kind = kind ∧ family.name = metric := by
  simpa using List.find?_some hname

namespace Usage

variable {usage : Usage}

/-- What the end of a timer writes. -/
def finishes (usage : Usage) (metric : String) (labels : Labels) :
    Option Series :=
  if (metric, labels) ∈ usage.running then
    (Family.ofName? .histogram metric).map fun family =>
      .ofLabels family labels 1
  else none

/-- What a use writes. -/
def write? (usage : Usage) : Use → Option Series
  | .increment metric labels =>
    (Family.ofName? .counter metric).map fun family =>
      .ofLabels family labels 1
  | .start metric labels =>
    (Family.ofName? .histogram metric).map fun family =>
      .ofLabels family labels 0
  | .stop metric labels => usage.finishes metric labels
  | .drop metric labels => usage.finishes metric labels
  | .readCounter _ _ => none
  | .readObservations _ _ => none

/-- What some uses write, one after the other. -/
def writes (usage : Usage) : List Use → List Series
  | [] => []
  | use :: uses => (usage.write? use).toList ++ (usage.after use).writes uses

theorem after_registry {series : List Series}
    (hregistry : usage.registry = .ofSeries series) (use : Use) :
    (usage.after use).registry =
      .ofSeries ((usage.write? use).elim series fun added =>
        raise added series) := by
  have hfinish (metric : String) (labels : Labels) :
      (usage.finish metric labels).registry =
        .ofSeries ((usage.finishes metric labels).elim series fun added =>
          raise added series) := by
    unfold finish finishes
    split
    · rw [Registry.stopTimer, hregistry]
      cases Family.ofName? .histogram metric <;> rfl
    · exact hregistry
  cases use with
  | increment metric labels =>
    change usage.registry.increment metric labels = _
    rw [Registry.increment, write?, hregistry]
    cases Family.ofName? .counter metric <;> rfl
  | start metric labels =>
    change usage.registry.startTimer metric labels = _
    rw [Registry.startTimer, write?, hregistry]
    cases Family.ofName? .histogram metric <;> rfl
  | stop metric labels => exact hfinish metric labels
  | drop metric labels => exact hfinish metric labels
  | readCounter | readObservations => exact hregistry

/-- A plain registry keeps what some uses write. -/
theorem run_registry {before : List Series}
    (hregistry : usage.registry = .ofSeries (keep before)) (uses : List Use) :
    (usage.run uses).registry =
      .ofSeries (keep (before ++ usage.writes uses)) := by
  induction uses generalizing usage before with
  | nil => simpa [run, writes] using hregistry
  | cons use uses ih =>
    have hafter : (usage.after use).registry =
        .ofSeries (keep (before ++ (usage.write? use).toList)) := by
      rw [after_registry hregistry]
      cases usage.write? use with
      | none => simp
      | some added => simp [keep_concat]
    have hrun := ih hafter
    rwa [List.append_assoc] at hrun

theorem write?_eq_some {use : Use} {write : Series}
    (hwrite : usage.write? use = some write) :
    ∃ labels, use.target? = some (write.family, labels) ∧
      write = .ofLabels write.family labels write.count := by
  have hfinishes (metric : String) (labels : Labels)
      (hwrite : usage.finishes metric labels = some write) :
      (Family.ofName? .histogram metric).map
        (fun family => Series.ofLabels family labels 1) = some write := by
    unfold finishes at hwrite
    split at hwrite
    · exact hwrite
    · cases hwrite
  cases use with
  | increment metric labels | start metric labels =>
    obtain ⟨family, hfamily, rfl⟩ := Option.map_eq_some_iff.mp hwrite
    exact ⟨labels, by simp [Use.target?, hfamily, Series.ofLabels], rfl⟩
  | stop metric labels | drop metric labels =>
    obtain ⟨family, hfamily, rfl⟩ :=
      Option.map_eq_some_iff.mp (hfinishes metric labels hwrite)
    exact ⟨labels, by simp [Use.target?, hfamily, Series.ofLabels], rfl⟩
  | readCounter | readObservations => cases hwrite

/-- Every write has the family and the labels of one of the uses. -/
theorem of_mem_writes {uses : List Use} {write : Series}
    (hwrite : write ∈ usage.writes uses) :
    ∃ labels, (write.family, labels) ∈ uses.filterMap Use.target? ∧
      write = .ofLabels write.family labels write.count := by
  induction uses generalizing usage with
  | nil => cases hwrite
  | cons use uses ih =>
    rcases List.mem_append.mp hwrite with hfirst | hrest
    · obtain ⟨labels, htarget, hlabels⟩ :=
        write?_eq_some (Option.mem_toList.mp hfirst)
      exact ⟨labels, List.mem_filterMap.mpr
        ⟨use, List.mem_cons_self, htarget⟩, hlabels⟩
    · obtain ⟨labels, hmem, hlabels⟩ := ih hrest
      obtain ⟨other, hother, htarget⟩ := List.mem_filterMap.mp hmem
      have hmem := List.mem_cons_of_mem use hother
      exact ⟨labels, List.mem_filterMap.mpr ⟨other, hmem, htarget⟩, hlabels⟩

theorem kept_writes (usage : Usage) (uses : List Use) :
    Kept (keep (usage.writes uses)) := by
  refine kept_keep fun write hwrite => ?_
  obtain ⟨labels, -, hlabels⟩ := of_mem_writes hwrite
  exact ⟨labels, hlabels⟩

/-- Writes under one key have the same values, so they agree on any values
that are asked for. -/
theorem separated_writes {uses : List Use} (htuples : OneSeriesPerTuple uses)
    (family : Family) (shown : List (List String)) :
    Separated family shown (usage.writes uses) := by
  refine Separated.of_imp fun write hwrite other hother _ hmeets hshown => ?_
  obtain ⟨labels, hmem, hlabels⟩ := of_mem_writes hwrite
  obtain ⟨others, hmem', hothers⟩ := of_mem_writes hother
  obtain ⟨hfamily, hkey⟩ := hmeets
  rw [← hfamily] at hmem' hothers
  rw [hlabels, hothers] at hkey
  have hvalues :=
    htuples (write.family, labels) hmem (write.family, others) hmem' rfl hkey
  have hperm := write.family.declaredNames_perm_labelNames.symm
  have hsame : other.values = write.values := by
    rw [hlabels, hothers]
    exact (Labels.valuesOf_congr hperm hvalues).symm
  rwa [hsame]

/-- Whether a timer records something when it is ended. -/
def records (timer : String × Labels) : Bool :=
  (Family.ofName? .histogram timer.1).isSome

/-- Whether two usages differ in nothing that a read or a write can tell. -/
structure Alike (left right : Usage) : Prop where
  registry : left.registry = right.registry
  running : left.running.filter records = right.running.filter records

section Alike

variable {left right : Usage} {metric : String} {labels : Labels}

theorem stopTimer_of_not_records
    (hrecords : ¬ records (metric, labels) = true) (registry : Registry) :
    registry.stopTimer metric labels = registry := by
  have hname : Family.ofName? .histogram metric = none := by
    simpa [records] using hrecords
  rw [Registry.stopTimer, hname]

/-- The end of a timer that records nothing cannot be told. -/
theorem finish_alike (hrecords : ¬ records (metric, labels) = true)
    (usage : Usage) :
    (usage.finish metric labels).Alike usage := by
  have hnever : (metric, labels) ∉ usage.running.filter records := fun hmem =>
    hrecords (List.mem_filter.mp hmem).2
  unfold finish
  split
  · constructor
    · exact stopTimer_of_not_records hrecords usage.registry
    · rw [← List.erase_filter, List.erase_of_not_mem hnever]
  · exact ⟨rfl, rfl⟩

theorem Alike.finish (halike : left.Alike right) (metric : String)
    (labels : Labels) :
    (left.finish metric labels).Alike (right.finish metric labels) := by
  by_cases hrecords : records (metric, labels) = true
  · have hrunning : (metric, labels) ∈ left.running ↔
        (metric, labels) ∈ right.running := by
      have hmem : (metric, labels) ∈ left.running.filter records ↔
          (metric, labels) ∈ right.running.filter records := by
        rw [halike.running]
      simpa [List.mem_filter, hrecords] using hmem
    unfold Usage.finish
    split
    · rename_i hmem
      rw [if_pos (hrunning.mp hmem)]
      constructor
      · exact congrArg (·.stopTimer metric labels) halike.registry
      · simp only [← List.erase_filter, halike.running]
    · rename_i hmem
      rw [if_neg (hmem ∘ hrunning.mpr)]
      exact halike
  · have hleft := finish_alike hrecords left
    have hright := finish_alike hrecords right
    exact ⟨hleft.registry.trans (halike.registry.trans hright.registry.symm),
      hleft.running.trans (halike.running.trans hright.running.symm)⟩

theorem Alike.after (halike : left.Alike right) (use : Use) :
    (left.after use).Alike (right.after use) := by
  cases use with
  | increment metric labels =>
    exact ⟨congrArg (·.increment metric labels) halike.registry,
      halike.running⟩
  | start metric labels =>
    constructor
    · exact congrArg (·.startTimer metric labels) halike.registry
    · simp only [Usage.after, List.filter_cons, halike.running]
  | stop metric labels | drop metric labels =>
    exact halike.finish metric labels
  | readCounter | readObservations => exact halike

theorem Alike.run (halike : left.Alike right) (uses : List Use) :
    (left.run uses).Alike (right.run uses) := by
  induction uses generalizing left right with
  | nil => exact halike
  | cons use uses ih => exact ih (halike.after use)

/-- A use that writes nothing cannot be told. -/
theorem after_alike {use : Use} (htarget : use.target? = none)
    (usage : Usage) :
    (usage.after use).Alike usage := by
  cases use with
  | increment metric labels =>
    have hname : Family.ofName? .counter metric = none := by
      simpa [Use.target?] using htarget
    refine ⟨?_, rfl⟩
    change usage.registry.increment metric labels = usage.registry
    rw [Registry.increment, hname]
  | start metric labels =>
    have hname : Family.ofName? .histogram metric = none := by
      simpa [Use.target?] using htarget
    constructor
    · change usage.registry.startTimer metric labels = usage.registry
      rw [Registry.startTimer, hname]
    · exact List.filter_cons_of_neg (by simp [records, hname])
  | stop metric labels | drop metric labels =>
    have hname : Family.ofName? .histogram metric = none := by
      simpa [Use.target?] using htarget
    exact finish_alike (by simp [records, hname]) usage
  | readCounter | readObservations => exact ⟨rfl, rfl⟩

/-- What follows a use that writes nothing is as it would be without it. -/
theorem run_without {use : Use} (htarget : use.target? = none) (usage : Usage)
    (before behind : List Use) :
    (usage.run (before ++ use :: behind)).registry =
      (usage.run (before ++ behind)).registry := by
  rw [run, run, List.foldl_append, List.foldl_append, List.foldl_cons, ← run,
    ← run, ← run]
  exact ((after_alike htarget (usage.run before)).run behind).registry

end Alike

end Usage

end Redial.Metrics
