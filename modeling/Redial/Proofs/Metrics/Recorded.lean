import Redial.Proofs.Metrics.Comparison

/-!
What any labels read. Of the labels of a write, a registry records the
declared ones, with the empty value for those that are missing; a read
compares all labels that it is asked for. So labels that are just the declared
ones read what is recorded of them, and labels of which one is missing or not
declared read nothing, unless they repeat others in the place of the missing
ones. These read the first sample with them, and since empty values come first
in the order of samples, that is again the one that is recorded.
-/

namespace Redial

namespace Labels

variable {labels : Labels} {declared names : List String}
  {name value : String}

/-- What is recorded of some labels: the declared names with the first value
of each, or the empty one. -/
def recorded (labels : Labels) (declared : List String) : Labels :=
  ⟨declared.map fun name => (name, (labels.get? name).getD "")⟩

/-- Whether some labels are as many as are declared, and each of them is
recorded. -/
def AreRecorded (labels : Labels) (declared : List String) : Prop :=
  labels.pairs.length = declared.length ∧
    labels.pairs ⊆ (labels.recorded declared).pairs

instance (labels : Labels) (declared : List String) :
    Decidable (labels.AreRecorded declared) :=
  inferInstanceAs (Decidable (_ ∧ _))

@[simp] theorem names_recorded (labels : Labels) (declared : List String) :
    (labels.recorded declared).pairs.map Prod.fst = declared := by
  simp [recorded, Function.comp_def]

theorem mem_of_get? (hvalue : labels.get? name = some value) :
    (name, value) ∈ labels.pairs := by
  obtain ⟨before, after, hpairs, -⟩ := List.lookup_eq_some_iff.mp hvalue
  simp [hpairs]

theorem exists_get? (hmem : (name, value) ∈ labels.pairs) :
    ∃ first, labels.get? name = some first := by
  rw [← Option.isSome_iff_exists, get?, List.lookup_isSome_iff]
  exact ⟨(name, value), hmem, beq_self_eq_true name⟩

/-- Recording what is recorded changes nothing. -/
theorem valuesOf_recorded (hdeclared : declared.Nodup)
    (hnames : names ⊆ declared) :
    (labels.recorded declared).valuesOf names = labels.valuesOf names := by
  refine List.map_congr_left fun name hname => ?_
  have hnodup : ((labels.recorded declared).pairs.map Prod.fst).Nodup := by
    rwa [names_recorded]
  have hmem :
      (name, (labels.get? name).getD "") ∈ (labels.recorded declared).pairs :=
    List.mem_map_of_mem (hnames hname)
  rw [(get?_eq_some_iff hnodup).mpr hmem, Option.getD_some]

/-- Labels that are just the declared ones are all recorded. -/
theorem areRecorded_of_perm (hdeclared : declared.Nodup)
    (hlabels : (labels.pairs.map Prod.fst).Perm declared) :
    labels.AreRecorded declared := by
  have hnodup : (labels.pairs.map Prod.fst).Nodup :=
    hlabels.symm.nodup hdeclared
  constructor
  · rw [← hlabels.length_eq, List.length_map]
  · rintro ⟨name, value⟩ hmem
    have hname : name ∈ declared :=
      hlabels.mem_iff.mp (List.mem_map_of_mem hmem)
    refine List.mem_map.mpr ⟨name, hname, ?_⟩
    rw [(get?_eq_some_iff hnodup).mpr hmem, Option.getD_some]

/-- Labels that repeat none are all recorded only if they are just the
declared ones. -/
theorem areRecorded_iff_perm (hdeclared : declared.Nodup)
    (hlabels : labels.pairs.Nodup) :
    labels.AreRecorded declared ↔
      (labels.pairs.map Prod.fst).Perm declared := by
  constructor
  · rintro ⟨hlength, hsubset⟩
    have hlengths :
        (labels.recorded declared).pairs.length = labels.pairs.length := by
      rw [hlength, recorded, List.length_map]
    have hperm :=
      (hlabels.subperm hsubset).perm_of_length_le (Nat.le_of_eq hlengths)
    simpa using hperm.map Prod.fst
  · exact areRecorded_of_perm hdeclared

end Labels

namespace Metrics

/-- Whether the second sample does not precede the first one, so that both may
be shown in this order. -/
def Sample.NotAfter (left right : Sample) : Prop :=
  ¬ right.precedes left = true

namespace Sample

variable {sample found left right : Sample} {samples placed : List Sample}
  {wanted : Sample → Bool}

theorem precedes_iff :
    left.precedes right = true ↔
      left.labels.map Prod.snd < right.labels.map Prod.snd :=
  decide_eq_true_iff

theorem NotAfter.refl (sample : Sample) : sample.NotAfter sample :=
  fun hprecedes => List.lt_irrefl _ (precedes_iff.mp hprecedes)

theorem notAfter_of_precedes (hprecedes : left.precedes right = true) :
    left.NotAfter right :=
  fun hback =>
    List.lt_asymm (precedes_iff.mp hprecedes) (precedes_iff.mp hback)

theorem NotAfter.trans {first second third : Sample}
    (hfirst : first.NotAfter second) (hsecond : second.NotAfter third) :
    first.NotAfter third := by
  rw [NotAfter, precedes_iff] at *
  exact List.le_trans hfirst hsecond

/-- Neither of two samples is in front of the other only if they show
the same values. -/
theorem NotAfter.antisymm (hleft : left.NotAfter right)
    (hright : right.NotAfter left) :
    left.labels.map Prod.snd = right.labels.map Prod.snd := by
  rw [NotAfter, precedes_iff] at *
  exact List.le_antisymm hleft hright

theorem place_sorted (sample : Sample) (hsorted : placed.Pairwise NotAfter) :
    (place sample placed).Pairwise NotAfter := by
  induction placed with
  | nil => exact List.pairwise_singleton _ _
  | cons other rest ih =>
    obtain ⟨hother, hrest⟩ := List.pairwise_cons.mp hsorted
    unfold place
    split
    · rename_i hprecedes
      have hfirst : sample.NotAfter other := notAfter_of_precedes hprecedes
      refine List.pairwise_cons.mpr ⟨fun later hlater => ?_, hsorted⟩
      rcases List.mem_cons.mp hlater with rfl | hlater
      · exact hfirst
      · exact hfirst.trans (hother later hlater)
    · rename_i hnot
      refine List.pairwise_cons.mpr ⟨fun later hlater => ?_, ih hrest⟩
      rcases List.mem_cons.mp
        ((place_perm sample rest).mem_iff.mp hlater) with rfl | hlater
      · exact hnot
      · exact hother later hlater

theorem foldl_place_sorted {shown : Series → Sample} (series : List Series)
    (hsorted : placed.Pairwise NotAfter) :
    (series.foldl (fun placed one => place (shown one) placed)
      placed).Pairwise NotAfter := by
  induction series generalizing placed with
  | nil => exact hsorted
  | cons first rest ih => exact ih (place_sorted (shown first) hsorted)

/-- What is found is in front of all other samples that are wanted. -/
theorem find?_notAfter (hsorted : samples.Pairwise NotAfter)
    (hfound : samples.find? wanted = some found) (hmem : sample ∈ samples)
    (hwanted : wanted sample = true) : found.NotAfter sample := by
  obtain ⟨-, before, after, rfl, hbefore⟩ :=
    List.find?_eq_some_iff_append.mp hfound
  obtain ⟨-, hbehind, -⟩ := List.pairwise_append.mp hsorted
  rcases List.mem_append.mp hmem with hmem | hmem
  · have hnot := hbefore sample hmem
    rw [hwanted] at hnot
    cases hnot
  · rcases List.mem_cons.mp hmem with rfl | hmem
    · exact .refl _
    · exact (List.pairwise_cons.mp hbehind).1 sample hmem

end Sample

section Order

variable {family : Family} {labels others : Labels} {count other : Nat}
  {series : List Series}

theorem Registry.samples_sorted (series : List Series) (family : Family) :
    ((ofSeries series).samples family).Pairwise Sample.NotAfter := by
  rw [samples_ofSeries]
  exact Sample.foldl_place_sorted _ .nil

/-- Texts of which some are left empty do not come after the full ones. -/
theorem not_map_lt_map {names : List String} {full part : String → String}
    (hpart : ∀ name ∈ names, part name = full name ∨ part name = "") :
    ¬ names.map full < names.map part := by
  induction names with
  | nil => exact List.not_lt_nil _
  | cons name names ih =>
    obtain ⟨hname, hnames⟩ := List.forall_mem_cons.mp hpart
    rw [List.map_cons, List.map_cons, List.cons_lt_cons_iff]
    rintro (hlt | ⟨-, hlt⟩)
    · rcases hname with hsame | hempty
      · exact String.lt_irrefl _ (hsame ▸ hlt)
      · rw [hempty] at hlt
        exact List.not_lt_nil _ hlt
    · exact ih hnames hlt

/-- A sample shows what is recorded of its labels. -/
theorem Series.labels_sample (family : Family) (labels : Labels)
    (count : Nat) :
    (ofLabels family labels count).sample.labels =
      (labels.recorded family.labelNames).pairs :=
  List.map_prod_left_eq_zip.symm

theorem Series.values_sample (family : Family) (labels : Labels)
    (count : Nat) :
    (ofLabels family labels count).sample.labels.map Prod.snd =
      labels.valuesOf family.labelNames := by
  rw [labels_sample, Labels.recorded, List.map_map]
  rfl

/-- A label that is asked for is the one of its name in a sample that has
it. -/
theorem eq_of_hasLabels
    (htaken : (Series.ofLabels family others count).sample.hasLabels labels =
      true) {name value : String} (hmem : (name, value) ∈ labels.pairs) :
    name ∈ family.labelNames ∧ (others.get? name).getD "" = value := by
  have hsample := (Sample.hasLabels_eq_true_iff.mp htaken).2 hmem
  rw [Series.labels_sample] at hsample
  obtain ⟨_, hname, heq⟩ := List.mem_map.mp hsample
  obtain ⟨rfl, hvalue⟩ := Prod.mk.inj heq
  exact ⟨hname, hvalue⟩

/-- Labels that some sample of a family has are all recorded. -/
theorem areRecorded_of_hasLabels
    (htaken :
      (Series.ofLabels family others count).sample.hasLabels labels = true) :
    labels.AreRecorded family.declaredNames := by
  constructor
  · have hlength := (Sample.hasLabels_eq_true_iff.mp htaken).1
    rw [Series.labels_sample, Labels.recorded, List.length_map] at hlength
    rw [← hlength, family.declaredNames_perm_labelNames.length_eq]
  · rintro ⟨name, value⟩ hmem
    obtain ⟨hname, hvalue⟩ := eq_of_hasLabels htaken hmem
    obtain ⟨first, hfirst⟩ := Labels.exists_get? hmem
    obtain ⟨-, hsame⟩ := eq_of_hasLabels htaken (Labels.mem_of_get? hfirst)
    refine List.mem_map.mpr
      ⟨name, family.declaredNames_perm_labelNames.mem_iff.mpr hname, ?_⟩
    rw [hfirst, Option.getD_some, ← hsame, hvalue]

/-- The sample that shows what is recorded of some labels has all of them if
they are recorded. -/
theorem hasLabels_own (hrecorded : labels.AreRecorded family.declaredNames) :
    (Series.ofLabels family labels count).sample.hasLabels labels = true := by
  obtain ⟨hlength, hsubset⟩ := hrecorded
  have hperm := family.declaredNames_perm_labelNames
  rw [Sample.hasLabels_eq_true_iff, Series.labels_sample]
  constructor
  · rw [hlength, hperm.length_eq, Labels.recorded, List.length_map]
  · exact List.Subset.trans hsubset (hperm.map _).subset

/-- It comes first among the samples that have the labels, as names that are
not asked for have the empty value in it. -/
theorem own_notAfter
    (htaken :
      (Series.ofLabels family others other).sample.hasLabels labels = true) :
    (Series.ofLabels family labels count).sample.NotAfter
      (Series.ofLabels family others other).sample := by
  rw [Sample.NotAfter, Sample.precedes_iff, Series.values_sample,
    Series.values_sample]
  refine not_map_lt_map fun name _ => ?_
  cases hvalue : labels.get? name with
  | none => exact .inr rfl
  | some value =>
    obtain ⟨-, hsame⟩ := eq_of_hasLabels htaken (Labels.mem_of_get? hvalue)
    exact .inl hsame.symm

/-- Labels of which some are not recorded read nothing. -/
theorem read_of_not_areRecorded (hkept : Kept series)
    (hnot : ¬ labels.AreRecorded family.declaredNames) :
    (Registry.ofSeries series).read family.kind family.name labels = 0 := by
  have hnone : ((Registry.ofSeries series).samples family).find?
      (fun sample => sample.hasLabels labels) = none := by
    refine List.find?_eq_none.mpr fun sample hmem htaken => ?_
    obtain ⟨_, _, -, rfl⟩ := Registry.exists_of_mem_samples hkept hmem
    exact hnot (areRecorded_of_hasLabels htaken)
  rw [Registry.read_eq_find?, hnone]
  rfl

/-- What such labels find is what is recorded of them, if that is shown: the
sample that is found is in front of it, and it is in front of all samples
with the labels. -/
theorem valuesOf_eq_of_find?
    (hrecorded : labels.AreRecorded family.declaredNames)
    (hshown : (Series.ofLabels family labels count).sample ∈
      (Registry.ofSeries series).samples family)
    (hfound : ((Registry.ofSeries series).samples family).find?
      (fun sample => sample.hasLabels labels) =
        some (Series.ofLabels family others other).sample) :
    others.valuesOf family.labelNames =
      labels.valuesOf family.labelNames := by
  have htaken :
      (Series.ofLabels family others other).sample.hasLabels labels = true :=
    List.find?_some (p := fun sample : Sample =>
      sample.hasLabels labels) hfound
  have hfront : (Series.ofLabels family others other).sample.NotAfter
      (Series.ofLabels family labels count).sample :=
    Sample.find?_notAfter (Registry.samples_sorted series family)
      hfound hshown (hasLabels_own hrecorded)
  simpa only [Series.values_sample]
    using hfront.antisymm (own_notAfter htaken)

/-- Labels that are all recorded read the series that shows what is
recorded of them. -/
theorem read_of_areRecorded (hkept : Kept series)
    (hrecorded : labels.AreRecorded family.declaredNames) {one : Series}
    (hmem : one ∈ series) (hfamily : one.family = family)
    (hvalues : one.values = labels.valuesOf family.labelNames) :
    (Registry.ofSeries series).read family.kind family.name labels =
      one.count := by
  have hsample :
      one.sample = (Series.ofLabels family labels one.count).sample := by
    rw [Series.sample, hfamily, hvalues]
    rfl
  have hshown : (Series.ofLabels family labels one.count).sample ∈
      (Registry.ofSeries series).samples family := by
    rw [← hsample, (Registry.samples_perm series family).mem_iff]
    exact List.mem_map_of_mem
      (List.mem_filter.mpr ⟨hmem, beq_iff_eq.mpr hfamily⟩)
  have hsome : (((Registry.ofSeries series).samples family).find?
      fun sample => sample.hasLabels labels).isSome = true :=
    List.find?_isSome.mpr ⟨_, hshown, hasLabels_own hrecorded⟩
  obtain ⟨found, hfound⟩ := Option.isSome_iff_exists.mp hsome
  obtain ⟨others, count, hseries, rfl⟩ := Registry.exists_of_mem_samples hkept
    (List.mem_of_find?_eq_some hfound)
  have hkey := hkept.key_eq hmem (hfamily ▸ hvalues)
  have hone : one = .ofLabels family others count := by
    refine hkept.eq_of_meets hmem hseries ⟨hfamily, ?_⟩
    rw [hkey, hfamily,
      Series.key_ofLabels (valuesOf_eq_of_find? hrecorded hshown hfound)]
  rw [Registry.read_eq_find?, hfound, hone]
  rfl

end Order

end Metrics

end Redial
