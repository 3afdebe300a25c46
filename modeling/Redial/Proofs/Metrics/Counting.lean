import Mathlib.Algebra.BigOperators.Group.List.Basic
import Mathlib.Algebra.GroupWithZero.Nat
import Mathlib.Data.List.Induction
import Redial.Call.Event

/-!
What a registry counts. Every write goes to the series with its key, so no two
series of a family have the same key, and each shows the values of the first
write with its key. As long as writes that share a key agree on whether their
values are among some lists of values, the series that show one of these count
what was written with one of them.
-/

namespace Redial.Metrics

/-- Whether two series are one to their registry. -/
def Series.Meets (series other : Series) : Prop :=
  series.family = other.family ∧ series.key = other.key

/-- Whether a series is one of a family, and shows one of some lists of
values. -/
def Series.isAmong (family : Family) (shown : List (List String))
    (series : Series) : Bool :=
  series.family == family && shown.contains series.values

/-- The counts of the series of a family that show one of some lists of
values. -/
def total (family : Family) (shown : List (List String))
    (series : List Series) : Nat :=
  ((series.filter (Series.isAmong family shown)).map Series.count).sum

/-- The series that are kept of some writes. -/
def keep (writes : List Series) : List Series :=
  writes.foldl (fun kept added => raise added kept) []

/-- Whether the writes of a family that share a key agree on whether their
values are among some lists of values. -/
def Separated (family : Family) (shown : List (List String))
    (writes : List Series) : Prop :=
  ∀ write ∈ writes, ∀ other ∈ writes, write.family = family →
    write.Meets other → (write.values ∈ shown ↔ other.values ∈ shown)

/-- What holds of all series that were written one after the other. -/
structure Kept (series : List Series) : Prop where
  apart : series.Pairwise fun left right => ¬ left.Meets right
  labelled :
    ∀ one ∈ series, ∃ labels, one = .ofLabels one.family labels one.count

section Writing

variable {family : Family} {shown : List (List String)} {added : Series}
  {kept writes : List Series}

theorem Series.isAmong_iff {series : Series} :
    series.isAmong family shown = true ↔
      series.family = family ∧ series.values ∈ shown := by
  simp [isAmong]

theorem total_eq_zero {series : List Series}
    (hnever : ∀ one ∈ series, one.family = family → one.values ∉ shown) :
    total family shown series = 0 := by
  have hnone : series.filter (Series.isAmong family shown) = [] := by
    refine List.filter_eq_nil_iff.mpr fun one hmem hshown => ?_
    obtain ⟨hfamily, hvalues⟩ := Series.isAmong_iff.mp hshown
    exact hnever one hmem hfamily hvalues
  rw [total, hnone, List.map_nil, List.sum_nil]

theorem total_append (family : Family) (shown : List (List String))
    (left right : List Series) :
    total family shown (left ++ right) =
      total family shown left + total family shown right := by
  simp [total]

theorem total_cons (family : Family) (shown : List (List String))
    (series : Series) (rest : List Series) :
    total family shown (series :: rest) =
      total family shown [series] + total family shown rest :=
  total_append family shown [series] rest

theorem total_singleton (family : Family) (shown : List (List String))
    (series : Series) :
    total family shown [series] =
      if series.family = family ∧ series.values ∈ shown then series.count
      else 0 := by
  by_cases hshown : series.family = family ∧ series.values ∈ shown
  · rw [if_pos hshown, total,
      List.filter_cons_of_pos (Series.isAmong_iff.mpr hshown)]
    rfl
  · rw [if_neg hshown, total,
      List.filter_cons_of_neg (hshown ∘ Series.isAmong_iff.mp)]
    rfl

/-- Nothing is counted of another family, or of a write that adds nothing. -/
theorem total_ofLabels_eq_zero {other : Family} {count : Nat}
    (labels : Labels) (hzero : other ≠ family ∨ count = 0) :
    total family shown [.ofLabels other labels count] = 0 := by
  rw [total_singleton]
  split
  · rename_i hshown
    exact hzero.resolve_left (not_not_intro hshown.1)
  · rfl

theorem Separated.of_imp
    (himp : ∀ write ∈ writes, ∀ other ∈ writes, write.family = family →
      write.Meets other → write.values ∈ shown → other.values ∈ shown) :
    Separated family shown writes := by
  intro write hwrite other hother hfamily hmeets
  have hsymm : other.Meets write := ⟨hmeets.1.symm, hmeets.2.symm⟩
  constructor
  · exact himp write hwrite other hother hfamily hmeets
  · exact himp other hother write hwrite (hmeets.1 ▸ hfamily) hsymm

theorem keep_concat (writes : List Series) (added : Series) :
    keep (writes ++ [added]) = raise added (keep writes) := by
  simp [keep]

/-- A write leaves the values of every series as they are. -/
theorem of_mem_raise {series : Series} (hmem : series ∈ raise added kept) :
    series = added ∨
      ∃ earlier ∈ kept, ∃ count, series = { earlier with count } := by
  induction kept with
  | nil => exact .inl (List.mem_singleton.mp hmem)
  | cons first rest ih =>
    unfold raise at hmem
    split at hmem
    · rcases List.mem_cons.mp hmem with rfl | hmem
      · exact .inr ⟨first, List.mem_cons_self, _, rfl⟩
      · exact .inr ⟨series, List.mem_cons_of_mem _ hmem, series.count, rfl⟩
    · rcases List.mem_cons.mp hmem with rfl | hmem
      · exact .inr ⟨series, List.mem_cons_self, series.count, rfl⟩
      · rcases ih hmem with hadded | ⟨earlier, hearlier, hseries⟩
        · exact .inl hadded
        · exact .inr ⟨earlier, List.mem_cons_of_mem _ hearlier, hseries⟩

/-- A write takes no series away, and changes nothing but the count of one. -/
theorem exists_mem_raise_of_mem (added : Series) {series : Series}
    (hmem : series ∈ kept) :
    ∃ count, { series with count } ∈ raise added kept := by
  induction kept with
  | nil => cases hmem
  | cons first rest ih =>
    unfold raise
    rcases List.mem_cons.mp hmem with rfl | hmem
    · split
      · exact ⟨_, List.mem_cons_self⟩
      · exact ⟨series.count, List.mem_cons_self⟩
    · split
      · exact ⟨series.count, List.mem_cons_of_mem _ hmem⟩
      · obtain ⟨count, hcount⟩ := ih hmem
        exact ⟨count, List.mem_cons_of_mem _ hcount⟩

/-- There is a series for what was written. -/
theorem exists_meets_raise (added : Series) (kept : List Series) :
    ∃ series ∈ raise added kept, series.Meets added := by
  induction kept with
  | nil => exact ⟨added, List.mem_singleton_self added, rfl, rfl⟩
  | cons first rest ih =>
    unfold raise
    split
    · rename_i hmeets
      exact ⟨_, List.mem_cons_self, hmeets⟩
    · obtain ⟨series, hmem, hmeets⟩ := ih
      exact ⟨series, List.mem_cons_of_mem _ hmem, hmeets⟩

/-- Every series has the family, the key and the values of one of the
writes. -/
theorem of_mem_keep {series : Series} (hmem : series ∈ keep writes) :
    ∃ write ∈ writes, ∃ count, series = { write with count } := by
  induction writes using List.reverseRecOn generalizing series with
  | nil => cases hmem
  | append_singleton writes added ih =>
    rw [keep_concat] at hmem
    rcases of_mem_raise hmem with rfl | ⟨earlier, hearlier, count, rfl⟩
    · exact ⟨series, by simp, series.count, rfl⟩
    · obtain ⟨write, hwrite, _, rfl⟩ := ih hearlier
      exact ⟨write, List.mem_append_left _ hwrite, count, rfl⟩

theorem Kept.nil : Kept [] := ⟨.nil, nofun⟩

theorem Kept.raise (hkept : Kept kept) (family : Family) (labels : Labels)
    (count : Nat) :
    Kept (raise (.ofLabels family labels count) kept) := by
  constructor
  case apart =>
    obtain ⟨hapart, -⟩ := hkept
    induction kept with
    | nil => simp [Metrics.raise]
    | cons first rest ih =>
      obtain ⟨hfirst, hrest⟩ := List.pairwise_cons.mp hapart
      unfold Metrics.raise
      split
      · exact List.pairwise_cons.mpr ⟨hfirst, hrest⟩
      · rename_i hother
        refine List.pairwise_cons.mpr ⟨fun series hmem hmeets => ?_, ih hrest⟩
        rcases of_mem_raise hmem with rfl | ⟨earlier, hearlier, _, rfl⟩
        · exact hother hmeets
        · exact hfirst earlier hearlier hmeets
  case labelled =>
    intro series hmem
    rcases of_mem_raise hmem with rfl | ⟨earlier, hearlier, _, rfl⟩
    · exact ⟨labels, rfl⟩
    · obtain ⟨labels, hlabels⟩ := hkept.labelled earlier hearlier
      exact ⟨labels, by rw [hlabels]; rfl⟩

theorem kept_keep
    (hlabelled : ∀ write ∈ writes, ∃ labels,
      write = .ofLabels write.family labels write.count) :
    Kept (keep writes) := by
  induction writes using List.reverseRecOn with
  | nil => exact .nil
  | append_singleton writes added ih =>
    obtain ⟨labels, hadded⟩ := hlabelled added (by simp)
    rw [keep_concat, hadded]
    exact (ih fun write hmem =>
      hlabelled write (List.mem_append_left _ hmem)).raise ..

/-- One write adds to what is counted if its values are among those that
count, provided the series with its key agrees. -/
theorem total_raise
    (hagree : ∀ series ∈ kept, series.Meets added → series.family = family →
      (series.values ∈ shown ↔ added.values ∈ shown)) :
    total family shown (raise added kept) =
      total family shown kept + total family shown [added] := by
  induction kept with
  | nil => simp [raise, total]
  | cons first rest ih =>
    have hrest :=
      ih fun series hmem => hagree series (List.mem_cons_of_mem _ hmem)
    unfold raise
    split
    · rename_i hmeets
      have hfirst := hagree first List.mem_cons_self hmeets
      rw [total_cons, total_cons family shown first]
      have hraised : total family shown
            [{ first with count := first.count + added.count }] =
          total family shown [first] + total family shown [added] := by
        rw [total_singleton, total_singleton, total_singleton, ← hmeets.1]
        by_cases hfamily : first.family = family
        · simp only [hfamily, true_and, ← hfirst hfamily]
          split <;> rfl
        · simp [hfamily]
      omega
    · rw [total_cons, hrest, total_cons family shown first rest,
        Nat.add_assoc]

/-- What is counted is what was written, of a family whose writes are
separated. -/
theorem total_keep (hseparated : Separated family shown writes) :
    total family shown (keep writes) = total family shown writes := by
  induction writes using List.reverseRecOn with
  | nil => rfl
  | append_singleton writes added ih =>
    have hbefore : Separated family shown writes :=
      fun write hwrite other hother =>
        hseparated write (List.mem_append_left _ hwrite) other
          (List.mem_append_left _ hother)
    rw [keep_concat, total_append, ← ih hbefore]
    apply total_raise
    intro series hmem hmeets hfamily
    obtain ⟨write, hwrite, _, rfl⟩ := of_mem_keep hmem
    exact hseparated write (List.mem_append_left _ hwrite) added (by simp)
      hfamily hmeets

theorem total_cons_shown {values : List String} (hvalues : values ∉ shown)
    (series : List Series) :
    total family (values :: shown) series =
      total family [values] series + total family shown series := by
  induction series with
  | nil => rfl
  | cons first rest ih =>
    have hfirst : total family (values :: shown) [first] =
        total family [values] [first] + total family shown [first] := by
      simp only [total_singleton, List.mem_cons, List.not_mem_nil, or_false]
      by_cases hfamily : first.family = family
      · by_cases heq : first.values = values
        · simp [hfamily, heq, hvalues]
        · simp [hfamily, heq]
      · simp [hfamily]
    rw [total_cons, total_cons family [values], total_cons family shown,
      hfirst, ih]
    omega

/-- Values that differ from each other are counted apart. -/
theorem total_eq_sum (series : List Series) (hshown : shown.Nodup) :
    total family shown series =
      (shown.map fun values => total family [values] series).sum := by
  induction shown with
  | nil => exact total_eq_zero fun _ _ _ => List.not_mem_nil
  | cons values shown ih =>
    obtain ⟨hvalues, hshown⟩ := List.nodup_cons.mp hshown
    rw [total_cons_shown hvalues, ih hshown, List.map_cons, List.sum_cons]

/-- Values that differ from each other are counted for what was written with
them, all together. -/
theorem sum_total_keep {ι : Type} {items : List ι} {values : ι → List String}
    (hnodup : (items.map values).Nodup)
    (hseparated : Separated family (items.map values) writes) :
    (items.map fun item => total family [values item] (keep writes)).sum =
      (items.map fun item => total family [values item] writes).sum := by
  have hsplit (series : List Series) :
      total family (items.map values) series =
        (items.map fun item => total family [values item] series).sum := by
    rw [total_eq_sum series hnodup, List.map_map]
    rfl
  rw [← hsplit, ← hsplit, total_keep hseparated]

/-- Nothing is counted for values that were never written. -/
theorem total_keep_eq_zero
    (hnever : ∀ write ∈ writes, write.family = family →
      write.values ∉ shown) :
    total family shown (keep writes) = 0 := by
  refine total_eq_zero fun series hmem => ?_
  obtain ⟨write, hwrite, _, rfl⟩ := of_mem_keep hmem
  exact hnever write hwrite

end Writing

end Redial.Metrics
