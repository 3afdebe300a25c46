import Mathlib.Data.List.Nodup
import Mathlib.Data.List.Perm.Subperm
import Redial.Proofs.Metrics.Answers

/-!
How the labels of a sample are compared with those of a query. As many must
have been asked for as the sample has, and each of them must be there. For a
query that repeats no label this says that both are the same set. One that
repeats a label is refused where the sets are the same, and where it is taken,
the sample has a label that was not asked for.
-/

namespace Redial.Metrics

namespace Sample

variable {sample : Sample} {query : Labels}

/-- Whether the labels of a sample and those of a query are the same set. -/
def SameLabels (sample : Sample) (query : Labels) : Prop :=
  ∀ label, label ∈ sample.labels ↔ label ∈ query.pairs

/-- What the comparison with a query says about the sets of labels. -/
structure Compared (sample : Sample) (query : Labels) : Prop where
  contained : sample.hasLabels query = true →
    ∀ label ∈ query.pairs, label ∈ sample.labels
  decided : query.pairs.Nodup →
    (sample.hasLabels query = true ↔ sample.SameLabels query)
  mistaken : ¬ query.pairs.Nodup → sample.hasLabels query = true →
    ∃ label ∈ sample.labels, label ∉ query.pairs
  refused : ¬ query.pairs.Nodup → sample.SameLabels query →
    sample.hasLabels query = false

theorem hasLabels_eq_true_iff :
    sample.hasLabels query = true ↔
      sample.labels.length = query.pairs.length ∧
        query.pairs ⊆ sample.labels := by
  simp [hasLabels, List.subset_def]

/-- Labels that repeat none, as many as the sample has, are all of them. -/
theorem sameLabels_of_nodup (hquery : query.pairs.Nodup)
    (htaken : sample.hasLabels query = true) :
    sample.SameLabels query := by
  obtain ⟨hlength, hsubset⟩ := hasLabels_eq_true_iff.mp htaken
  have hperm : query.pairs.Perm sample.labels :=
    (hquery.subperm hsubset).perm_of_length_le (Nat.le_of_eq hlength)
  exact fun label => hperm.mem_iff.symm

/-- The sample repeats no label, so a query for all of them that is as long
repeats none either. -/
theorem nodup_of_sameLabels (hsample : sample.labels.Nodup)
    (hsame : sample.SameLabels query)
    (htaken : sample.hasLabels query = true) : query.pairs.Nodup := by
  obtain ⟨hlength, -⟩ := hasLabels_eq_true_iff.mp htaken
  have hsubset : sample.labels ⊆ query.pairs := fun label => (hsame label).mp
  have hperm : sample.labels.Perm query.pairs :=
    (hsample.subperm hsubset).perm_of_length_le (Nat.le_of_eq hlength.symm)
  exact hperm.nodup hsample

theorem compared (hsample : sample.labels.Nodup) (query : Labels) :
    sample.Compared query where
  contained htaken _ hmem := (hasLabels_eq_true_iff.mp htaken).2 hmem
  decided hquery := by
    constructor
    · exact sameLabels_of_nodup hquery
    · intro hsame
      have hperm : sample.labels.Perm query.pairs :=
        (List.perm_ext_iff_of_nodup hsample hquery).mpr hsame
      exact hasLabels_eq_true_iff.mpr ⟨hperm.length_eq, hperm.symm.subset⟩
  mistaken hquery htaken := by
    by_contra hnone
    push Not at hnone
    have hcontained := (hasLabels_eq_true_iff.mp htaken).2
    exact hquery
      (nodup_of_sameLabels hsample
        (fun label => ⟨hnone label, (hcontained ·)⟩) htaken)
  refused hquery hsame := by
    by_contra htaken
    rw [Bool.not_eq_false] at htaken
    exact hquery (nodup_of_sameLabels hsample hsame htaken)

/-- Any of its labels finds a sample, if it is repeated as often as the
sample has labels. -/
theorem hasLabels_replicate {label : String × String}
    (hmem : label ∈ sample.labels) :
    sample.hasLabels ⟨List.replicate sample.labels.length label⟩ = true := by
  refine hasLabels_eq_true_iff.mpr
    ⟨List.length_replicate.symm, fun other hother => ?_⟩
  rwa [List.eq_of_mem_replicate hother]

end Sample

theorem map_fst_zip_sublist (names values : List String) :
    ((names.zip values).map Prod.fst).Sublist names := by
  induction names generalizing values with
  | nil => exact .slnil
  | cons name names ih =>
    cases values with
    | nil => exact List.nil_sublist _
    | cons value values => exact (ih values).cons_cons name

/-- Without common labels, the names of a sample are names of its family. -/
theorem Registry.nodup_names {registry : Registry} {family : Family}
    {sample : Sample} (hcommon : registry.naming.common = [])
    (hmem : sample ∈ registry.samples family) :
    (sample.labels.map Prod.fst).Nodup := by
  let shown (one : Series) : Sample :=
    ⟨family.labelNames.zip one.values, one.count⟩
  obtain ⟨placed, hplaced, rfl⟩ := List.mem_map.mp hmem
  have hperm := @Sample.foldl_place_perm shown
    (registry.series.filter fun one => one.family == family) []
  rw [List.append_nil] at hperm
  obtain ⟨one, -, rfl⟩ := List.mem_map.mp (hperm.mem_iff.mp hplaced)
  simp only [hcommon, List.append_nil]
  exact family.nodup_labelNames.sublist (map_fst_zip_sublist _ _)

/-- What a read finds has just the labels that were asked for if and only if
the query repeats none. -/
theorem Registry.sameLabels_iff_nodup {registry : Registry} {metric : String}
    {query : Labels} {kind : Kind} {sample : Sample}
    (hfound : registry.find? metric query = some (kind, sample))
    (hnames : (sample.labels.map Prod.fst).Nodup) :
    sample.SameLabels query ↔ query.pairs.Nodup := by
  obtain ⟨_, -, -, -, htaken⟩ := find?_eq_some hfound
  constructor
  · exact fun hsame =>
      Sample.nodup_of_sameLabels (hnames.of_map Prod.fst) hsame htaken
  · exact fun hquery => Sample.sameLabels_of_nodup hquery htaken

/-- Labels are compared as sets unless the query repeats one, so what a read
finds has just the labels that were asked for if and only if the query repeats
none; without common labels, whatever it finds. A query that repeats nothing
but one label finds any sample with that label. -/
theorem labels_compared_unless_repeated {sample : Sample}
    (hnames : (sample.labels.map Prod.fst).Nodup) (query : Labels) :
    sample.Compared query ∧
    (∀ (registry : Registry) (metric : String) (kind : Kind),
      registry.find? metric query = some (kind, sample) →
        (sample.SameLabels query ↔ query.pairs.Nodup)) ∧
    (∀ (registry : Registry) (metric : String) (kind : Kind) (found : Sample),
      registry.naming.common = [] →
        registry.find? metric query = some (kind, found) →
        (found.SameLabels query ↔ query.pairs.Nodup)) ∧
    ∀ label ∈ sample.labels,
      sample.hasLabels ⟨List.replicate sample.labels.length label⟩ =
        true := by
  refine ⟨Sample.compared (hnames.of_map Prod.fst) query,
    fun registry metric kind hfound => ?_,
    fun registry metric kind found hcommon hfound => ?_,
    fun label => Sample.hasLabels_replicate⟩
  · exact Registry.sameLabels_iff_nodup hfound hnames
  · obtain ⟨_, -, -, hmem, -⟩ := Registry.find?_eq_some hfound
    exact Registry.sameLabels_iff_nodup hfound
      (Registry.nodup_names hcommon hmem)

/-- A query in another order than the labels are shown in. -/
theorem labels_compared_in_another_order :
    let retries := "grpc_client_request_retries_total"
    let call : Labels := ⟨[("service", "svc"), ("method", "Call")]⟩
    let sample : Sample := ⟨[("method", "Call"), ("service", "svc")], 1⟩
    ((Registry.ofSeries []).increment retries call).find? retries call =
      some (.counter, sample) ∧
      sample.SameLabels call := by
  intro retries call sample
  obtain ⟨-, hreads, -, -⟩ :=
    labels_compared_unless_repeated
      (by decide : (sample.labels.map Prod.fst).Nodup) call
  have hfound :
      ((Registry.ofSeries []).increment retries call).find? retries call =
        some (.counter, sample) := by decide +kernel
  exact ⟨hfound, (hreads _ _ _ hfound).mpr (by decide)⟩

/-- A query that repeats a label reads a series with a label that it
does not ask for. -/
theorem repeated_label_reads_another_series :
    let retries := "grpc_client_request_retries_total"
    let call : Labels := ⟨[("service", "svc"), ("method", "Call")]⟩
    let twice : Labels := ⟨[("service", "svc"), ("service", "svc")]⟩
    ∃ registry sample, Registry.forCalls {} = .ok registry ∧
      (registry.increment retries call).find? retries twice =
        some (.counter, sample) ∧
      (sample.labels.map Prod.fst).Nodup ∧ sample.hasLabels twice = true ∧
      ¬ sample.SameLabels twice ∧
      (registry.increment retries call).counter retries twice = 1 := by
  intro retries call twice
  have hother : ¬ Sample.SameLabels
      ⟨[("method", "Call"), ("service", "svc")], 1⟩ twice := by
    intro hsame
    exact absurd ((hsame ("method", "Call")).mp (by decide)) (by decide)
  refine ⟨_, ⟨[("method", "Call"), ("service", "svc")], 1⟩, rfl, ?_,
    by decide, by decide, hother, ?_⟩
  · decide +kernel
  · decide +kernel

end Redial.Metrics
