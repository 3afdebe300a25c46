import Mathlib.Data.List.Pairwise
import Mathlib.Data.List.Perm.Basic
import Redial.Proofs.Metrics.Counting

/-!
What is read from a plain registry, which shows its families by their own
names and its series with their own labels. A read finds the family of its
name and there the first sample with its labels. Since the series of a family
differ in their values, no other sample has them, and the order in which the
samples are shown does not matter. So the answer is the total of the query's
values, and after some events that is what these wrote.
-/

namespace Redial

namespace Labels

/-- The value of a name that is there once. -/
theorem get?_eq_some_iff {labels : Labels}
    (hnames : (labels.pairs.map Prod.fst).Nodup) {name value : String} :
    labels.get? name = some value ↔ (name, value) ∈ labels.pairs := by
  unfold get?
  generalize labels.pairs = pairs at hnames ⊢
  induction pairs with
  | nil => simp
  | cons pair rest ih =>
    obtain ⟨first, firstValue⟩ := pair
    obtain ⟨hfirst, hrest⟩ := List.nodup_cons.mp hnames
    rw [List.lookup_cons, List.mem_cons]
    by_cases hname : name = first
    · have hnever : (name, value) ∉ rest := fun hmem =>
        hfirst (List.mem_map.mpr ⟨(name, value), hmem, hname⟩)
      simp [hname ▸ hnever, hname, eq_comm]
    · have hbeq : (name == first) = false := beq_eq_false_iff_ne.mpr hname
      simp [hbeq, hname, ih hrest]

/-- Labels that agree on some names agree on them in any order. -/
theorem valuesOf_congr {labels other : Labels} {names declared : List String}
    (hnames : names.Perm declared)
    (hvalues : labels.valuesOf declared = other.valuesOf declared) :
    labels.valuesOf names = other.valuesOf names := by
  refine List.map_congr_left fun name hname => ?_
  exact List.map_inj_left.mp hvalues name (hnames.mem_iff.mp hname)

end Labels

namespace Metrics

/-- The plain registry for calls, with some series. -/
def Registry.ofSeries (series : List Series) : Registry :=
  { families := Family.all, series }

/-- The sample that shows a series. -/
def Series.sample (series : Series) : Sample :=
  ⟨series.family.labelNames.zip series.values, series.count⟩

theorem Family.nodup_labelNames (family : Family) :
    family.labelNames.Nodup := by
  cases family <;> decide

theorem Family.name_injective {left right : Family}
    (hname : left.name = right.name) :
    left = right := by
  cases left <;> cases right <;> first | rfl | exact absurd hname (by decide)

theorem Family.find?_all (family : Family) :
    all.find? (fun other => other == family) = some family := by
  cases family <;> decide

namespace Sample

/-- A sample has the labels of a query that has just the names of its family
if its values are those of the query. -/
theorem hasLabels_iff {family : Family} {labels query : Labels} {count : Nat}
    (hquery : (query.pairs.map Prod.fst).Perm family.labelNames) :
    (Series.ofLabels family labels count).sample.hasLabels query = true ↔
      labels.valuesOf family.labelNames =
        query.valuesOf family.labelNames := by
  have hnames : (query.pairs.map Prod.fst).Nodup :=
    hquery.symm.nodup family.nodup_labelNames
  have hlength : family.labelNames.length = query.pairs.length := by
    rw [← hquery.length_eq, List.length_map]
  have hpairs : family.labelNames.zip (labels.valuesOf family.labelNames) =
      family.labelNames.map fun name => (name, (labels.get? name).getD "") :=
    List.map_prod_left_eq_zip.symm
  simp only [Series.sample, Series.ofLabels, hpairs, hasLabels,
    List.length_map, hlength, beq_self_eq_true, Bool.true_and,
    List.all_eq_true, List.contains_iff_mem]
  rw [Labels.valuesOf, Labels.valuesOf, List.map_inj_left]
  constructor
  · intro hall name hname
    obtain ⟨⟨_, value⟩, hpair, rfl⟩ :=
      List.mem_map.mp (hquery.mem_iff.mpr hname)
    obtain ⟨_, -, heq⟩ := List.mem_map.mp (hall _ hpair)
    obtain ⟨rfl, hvalue⟩ := Prod.mk.inj heq
    rw [hvalue, (Labels.get?_eq_some_iff hnames).mpr hpair, Option.getD_some]
  · rintro hvalues ⟨name, value⟩ hpair
    have hname : name ∈ family.labelNames :=
      hquery.mem_iff.mp (List.mem_map.mpr ⟨(name, value), hpair, rfl⟩)
    refine List.mem_map.mpr ⟨name, hname, ?_⟩
    rw [hvalues name hname, (Labels.get?_eq_some_iff hnames).mpr hpair,
      Option.getD_some]

theorem getD_find? {samples : List Sample} {wanted : Sample → Bool}
    (hone : (samples.filter wanted).length ≤ 1) :
    ((samples.find? wanted).map count).getD 0 =
      ((samples.filter wanted).map count).sum := by
  rw [← List.head?_filter]
  match samples.filter wanted, hone with
  | [], _ => rfl
  | [sample], _ => simp

theorem place_perm (sample : Sample) (placed : List Sample) :
    (place sample placed).Perm (sample :: placed) := by
  induction placed with
  | nil => exact .refl _
  | cons other rest ih =>
    unfold place
    split
    · exact .refl _
    · exact (ih.cons other).trans (.swap sample other rest)

theorem foldl_place_perm {shown : Series → Sample} (series : List Series)
    (placed : List Sample) :
    (series.foldl (fun placed one => place (shown one) placed) placed).Perm
      (series.map shown ++ placed) := by
  induction series generalizing placed with
  | nil => exact .refl _
  | cons first rest ih =>
    rw [List.foldl_cons, List.map_cons, List.cons_append]
    exact (ih _).trans
      (((place_perm _ placed).append_left _).trans List.perm_middle)

end Sample

/-- Values give the key that they are written under. -/
theorem Series.key_ofLabels {family : Family} {labels other : Labels}
    {count : Nat} (hvalues : labels.valuesOf family.labelNames =
      other.valuesOf family.labelNames) :
    (Series.ofLabels family labels count).key =
      fingerprint (other.valuesOf family.declaredNames) :=
  congrArg fingerprint
    (Labels.valuesOf_congr family.declaredNames_perm_labelNames hvalues)

theorem Kept.eq_of_meets {series : List Series} (hkept : Kept series)
    {one two : Series} (hone : one ∈ series) (htwo : two ∈ series)
    (hmeets : one.Meets two) : one = two := by
  by_contra hne
  have hsymm : Std.Symm fun left right : Series => ¬ left.Meets right :=
    ⟨fun _ _ hapart hmeets => hapart ⟨hmeets.1.symm, hmeets.2.symm⟩⟩
  exact hkept.apart.forall hone htwo hne hmeets

/-- The series that shows some values has their key. -/
theorem Kept.key_eq {series : List Series} (hkept : Kept series)
    {one : Series} {labels : Labels} (hone : one ∈ series)
    (hvalues : one.values = labels.valuesOf one.family.labelNames) :
    one.key = fingerprint (labels.valuesOf one.family.declaredNames) := by
  obtain ⟨others, hothers⟩ := hkept.labelled one hone
  rw [hothers] at hvalues ⊢
  exact Series.key_ofLabels hvalues

/-- Series of a family that were written one after the other differ in their
values. -/
theorem Kept.values_ne {series : List Series} (hkept : Kept series) :
    series.Pairwise fun left right => left.family = right.family →
      left.values ≠ right.values := by
  refine hkept.apart.imp_of_mem
    fun {left right} hleft hright hapart hfamily hvalues => ?_
  obtain ⟨labels, hlabels⟩ := hkept.labelled left hleft
  obtain ⟨others, hothers⟩ := hkept.labelled right hright
  apply hapart
  refine ⟨hfamily, ?_⟩
  rw [hlabels, hothers, ← hfamily] at hvalues ⊢
  exact Series.key_ofLabels hvalues

namespace Registry

variable {series : List Series} {family : Family} {query : Labels}

theorem forCalls_plain : forCalls {} = .ok (ofSeries []) := rfl

theorem samples_ofSeries (series : List Series) (family : Family) :
    (ofSeries series).samples family =
      (series.filter fun one => one.family == family).foldl
        (fun placed one => Sample.place
          ⟨family.labelNames.zip one.values, one.count⟩ placed) [] := by
  simp [samples, ofSeries]

theorem samples_perm (series : List Series) (family : Family) :
    ((ofSeries series).samples family).Perm
      ((series.filter fun one => one.family == family).map
        Series.sample) := by
  let shown (one : Series) : Sample :=
    ⟨family.labelNames.zip one.values, one.count⟩
  have hshown : (series.filter fun one => one.family == family).map shown =
      (series.filter fun one => one.family == family).map Series.sample := by
    refine List.map_congr_left fun one hmem => ?_
    have hfamily : one.family = family := by
      simpa using (List.mem_filter.mp hmem).2
    rw [Series.sample, hfamily]
  rw [samples_ofSeries, ← hshown]
  simpa using Sample.foldl_place_perm
    (series.filter fun one => one.family == family) []

/-- Each sample shows a series that was written with some labels. -/
theorem exists_of_mem_samples (hkept : Kept series) {sample : Sample}
    (hmem : sample ∈ (ofSeries series).samples family) :
    ∃ labels count, Series.ofLabels family labels count ∈ series ∧
      sample = (Series.ofLabels family labels count).sample := by
  obtain ⟨one, hone, rfl⟩ :=
    List.mem_map.mp ((samples_perm series family).mem_iff.mp hmem)
  obtain ⟨hseries, hfamily⟩ := List.mem_filter.mp hone
  obtain rfl : one.family = family := by simpa using hfamily
  obtain ⟨labels, hlabels⟩ := hkept.labelled one hseries
  exact ⟨labels, one.count, hlabels ▸ hseries, congrArg Series.sample hlabels⟩

theorem find?_gather (series : List Series) (family : Family) :
    (ofSeries series).gather.find? (fun shown => shown.name == family.name) =
      if ((ofSeries series).samples family).isEmpty then none
      else some ⟨family.name, family.help, family.kind,
        (ofSeries series).samples family⟩ := by
  have hfamilies : Family.all.filter (ofSeries series).families.contains =
      Family.all := rfl
  have hname (other : Family) :
      (ofSeries series).shownName other = other.name := rfl
  have hmatch (other : Family) :
      (if ((ofSeries series).samples other).isEmpty then none
        else some (SampleFamily.mk other.name other.help other.kind
          ((ofSeries series).samples other))).any
            (fun shown => shown.name == family.name) =
        (!((ofSeries series).samples family).isEmpty && other == family) := by
    by_cases hother : other = family
    · subst hother
      split <;> simp_all
    · have hnames : (other.name == family.name) = false :=
        beq_eq_false_iff_ne.mpr fun hsame =>
          hother (Family.name_injective hsame)
      split <;> simp [hother, hnames]
  unfold gather
  simp only [hfamilies, hname, List.find?_filterMap, hmatch]
  split
  · rename_i hempty
    have hnone :
        Family.all.find? (fun other => !true && other == family) = none :=
      List.find?_eq_none.mpr fun other _ => Bool.false_ne_true
    rw [hempty, hnone, Option.bind_none]
  · rename_i hsome
    simp only [hsome, Bool.not_false, Bool.true_and, family.find?_all,
      Option.bind_some]
    rw [if_neg (by simp)]

theorem find?_ofSeries (series : List Series) (family : Family)
    (query : Labels) :
    (ofSeries series).find? family.name query =
      (((ofSeries series).samples family).find? fun sample =>
        sample.hasLabels query).map
        fun sample => (family.kind, sample) := by
  rw [find?, find?_gather]
  split
  · rename_i hempty
    rw [List.isEmpty_iff.mp hempty]
    rfl
  · simp only [Option.bind_eq_bind, Option.bind_some]
    exact (Option.map_eq_bind ..).symm

theorem read_eq_find? (series : List Series) (family : Family)
    (query : Labels) :
    (ofSeries series).read family.kind family.name query =
      ((((ofSeries series).samples family).find? fun sample =>
          sample.hasLabels query).map
        Sample.count).getD 0 := by
  rw [read, find?_ofSeries]
  cases ((ofSeries series).samples family).find? fun sample =>
      sample.hasLabels query with
  | none => rfl
  | some sample => exact if_pos rfl

/-- The samples that have the labels of a query show the series with its
values. -/
theorem filter_samples_perm (hkept : Kept series)
    (hquery : (query.pairs.map Prod.fst).Perm family.labelNames) :
    (((ofSeries series).samples family).filter fun sample =>
        sample.hasLabels query).Perm
      ((series.filter
          (Series.isAmong family [query.valuesOf family.labelNames])).map
        Series.sample) := by
  refine ((samples_perm series family).filter _).trans (.of_eq ?_)
  rw [List.filter_map, List.filter_filter]
  refine congrArg (List.map Series.sample)
    (List.filter_congr fun one hmem => ?_)
  obtain ⟨labels, hlabels⟩ := hkept.labelled one hmem
  by_cases hfamily : one.family = family
  · have hsame : one.sample.hasLabels query = true ↔
        one.values = query.valuesOf family.labelNames := by
      subst hfamily
      rw [hlabels]
      exact Sample.hasLabels_iff hquery
    rw [Bool.eq_iff_iff, Series.isAmong_iff]
    simp [hsame, hfamily]
  · have hother : (one.family == family) = false :=
      beq_eq_false_iff_ne.mpr hfamily
    rw [Series.isAmong, hother, Bool.and_false, Bool.false_and]

/-- A query finds at most one sample. -/
theorem length_filter_le_one (hkept : Kept series) (family : Family)
    (values : List String) :
    (series.filter (Series.isAmong family [values])).length ≤ 1 := by
  have hpairwise := hkept.values_ne.filter (Series.isAmong family [values])
  have hall : ∀ one ∈ series.filter (Series.isAmong family [values]),
      one.family = family ∧ one.values = values := by
    intro one hmem
    obtain ⟨hfamily, hvalues⟩ :=
      Series.isAmong_iff.mp (List.mem_filter.mp hmem).2
    exact ⟨hfamily, List.mem_singleton.mp hvalues⟩
  generalize series.filter _ = found at hpairwise hall ⊢
  match found with
  | [] | [_] => simp
  | first :: second :: _ =>
    exfalso
    obtain ⟨hfamily, hvalues⟩ := hall first (by simp)
    obtain ⟨hfamily', hvalues'⟩ := hall second (by simp)
    refine (List.pairwise_cons.mp hpairwise).1 second (by simp) ?_ ?_
    · rw [hfamily, hfamily']
    · rw [hvalues, hvalues']

/-- A read of a family, with a query that has just its names, gives the total
of the values that the query has. -/
theorem read_ofSeries (hkept : Kept series)
    (hquery : (query.pairs.map Prod.fst).Perm family.labelNames) :
    (ofSeries series).read family.kind family.name query =
      total family [query.valuesOf family.labelNames] series := by
  have hperm := filter_samples_perm hkept hquery
  have hone : (((ofSeries series).samples family).filter
      fun sample => sample.hasLabels query).length ≤ 1 := by
    rw [hperm.length_eq, List.length_map]
    exact length_filter_le_one hkept family _
  calc (ofSeries series).read family.kind family.name query
    _ = ((((ofSeries series).samples family).find?
          fun sample => sample.hasLabels query).map Sample.count).getD 0 :=
        read_eq_find? series family query
    _ = ((((ofSeries series).samples family).filter
          fun sample => sample.hasLabels query).map Sample.count).sum :=
        Sample.getD_find? hone
    _ = total family [query.valuesOf family.labelNames] series := by
        rw [(hperm.map Sample.count).sum_nat, List.map_map]
        rfl

end Registry

end Metrics

namespace Event

open Metrics

variable {α : Type}

/-- What an event writes to a registry. -/
def write? : Event α → Option Series
  | .timerStarted stop => some (.ofLabels .duration stop.toLabels 0)
  | .timerStopped stop => some (.ofLabels .duration stop.toLabels 1)
  | .incremented family labels =>
    if family.kind = .counter then some (.ofLabels family labels 1) else none
  | _ => none

theorem recordIn_ofSeries (event : Event α) (series : List Series) :
    event.recordIn (Registry.ofSeries series) =
      .ofSeries (event.write?.elim series fun added =>
        raise added series) := by
  cases event with
  | incremented family labels => cases family <;> rfl
  | timerStarted | timerStopped | logged | traced | called | abandoned => rfl

theorem write?_eq_some {event : Event α} {write : Series}
    (hwrite : event.write? = some write) :
    ∃ labels, write = .ofLabels write.family labels write.count := by
  cases event with
  | timerStarted | timerStopped =>
    obtain rfl := Option.some.inj hwrite
    exact ⟨_, rfl⟩
  | incremented family labels =>
    rw [write?, Option.ite_none_right_eq_some] at hwrite
    obtain rfl := Option.some.inj hwrite.2
    exact ⟨labels, rfl⟩
  | logged | traced | called | abandoned => cases hwrite

end Event

namespace Metrics

/-- What some events write. -/
def writes {α : Type} (events : List (TimedEvent α)) : List Series :=
  events.filterMap fun timed => timed.event.write?

@[simp] theorem writes_append {α : Type}
    (before behind : List (TimedEvent α)) :
    writes (before ++ behind) = writes before ++ writes behind :=
  List.filterMap_append

/-- A plain registry that follows some events keeps what they write. -/
theorem follow_ofSeries {α : Type} (events : List (TimedEvent α)) :
    (Registry.ofSeries []).follow events =
      .ofSeries (keep (writes events)) := by
  induction events using List.reverseRecOn with
  | nil => rfl
  | append_singleton events timed ih =>
    rw [Registry.follow, List.foldl_append, List.foldl_cons, List.foldl_nil,
      ← Registry.follow, ih, Event.recordIn_ofSeries, writes_append]
    cases hwrite : timed.event.write? with
    | none => simp [writes, hwrite]
    | some write => simp [writes, hwrite, keep_concat]

theorem kept_writes {α : Type} (events : List (TimedEvent α)) :
    Kept (keep (writes events)) := by
  refine kept_keep fun write hwrite => ?_
  obtain ⟨timed, -, hwrite⟩ := List.mem_filterMap.mp hwrite
  exact Event.write?_eq_some hwrite

end Metrics

end Redial
