import Mathlib.Data.List.Basic
import Redial.Json.Value

/-!
What the members of an object say of a record. Each field that may be unset
is left out, `null` or a value, and each field that is a record itself is
left out or an object of its own; the members may come in any order, but no
name is there twice. Setting the fields that are named, in any order, is
setting all of them.
-/

namespace Redial.Json

variable {σ : Type}

/-- Whether a value is written as one value of JSON. -/
def Is {α : Type} (write : α → Json) (value : α) (json : Json) : Prop :=
  json = write value

/-- What an object says of a field that may be unset: nothing, `null`, or a
value. -/
inductive Says {α : Type} (means : α → Json → Prop) :
    Option α → Option Json → Prop where
  | absent : Says means none none
  | null : Says means none (some .null)
  | value {value : α} {json : Json} (hmeans : means value json) :
      Says means (some value) (some json)

/-- What an object says of a field that is a record itself: nothing, or an
object of its own. -/
inductive SaysRecord {α : Type} (means : α → List (String × Json) → Prop)
    (unset : α) :
    α → Option Json → Prop where
  | absent : SaysRecord means unset unset none
  | object {value : α} {members : List (String × Json)}
      (hobject : means value members) :
      SaysRecord means unset value (some (.object members))

/-- The members of an object in any order: each name is a declared one, and
is there once. -/
structure Keyed (declared : List String) (members : List (String × Json)) :
    Prop where
  once : (members.map Prod.fst).Nodup
  declared : ∀ member ∈ members, member.1 ∈ declared

/-- One more member, anywhere, of a name that is not declared or that is
there already. -/
inductive GainsMember (declared : List String) :
    List (String × Json) → List (String × Json) → Prop where
  | intro {before after : List (String × Json)} {name : String} {value : Json}
      (hname : name ∉ declared ∨ name ∈ (before ++ after).map Prod.fst) :
      GainsMember declared (before ++ after)
        (before ++ (name, value) :: after)

section Names

variable {members : List (String × Json)}

theorem lookup_eq_of_mem {member : String × Json}
    (hnames : (members.map Prod.fst).Nodup) (hmem : member ∈ members) :
    members.lookup member.1 = some member.2 := by
  obtain ⟨before, after, rfl⟩ := List.append_of_mem hmem
  rw [List.map_append, List.map_cons] at hnames
  refine List.lookup_eq_some_iff.mpr
    ⟨before, after, rfl, fun other hother => ?_⟩
  have hne :=
    (List.nodup_append.mp hnames).2.2 other.1 (List.mem_map_of_mem hother)
      member.1 List.mem_cons_self
  simpa using Ne.symm hne

theorem lookup_eq_none {name : String} (hname : name ∉ members.map Prod.fst) :
    members.lookup name = none := by
  refine List.lookup_eq_none_iff.mpr fun member hmem => ?_
  have hne : name ≠ member.1 :=
    fun hsame => hname (List.mem_map.mpr ⟨member, hmem, hsame.symm⟩)
  simpa using hne

variable {set : σ → String → σ} {initial : σ} {names declared : List String}

/-- Setting some of the declared names is setting all of them, if the others
stay as they start. -/
theorem foldl_of_subset
    (hcomm : ∀ record name other,
      set (set record name) other = set (set record other) name)
    (hnames : names.Nodup) (hdeclared : declared.Nodup)
    (hsubset : names ⊆ declared)
    (hothers : ∀ name ∈ declared, name ∉ names → set initial name = initial) :
    names.foldl set initial = declared.foldl set initial := by
  let others := declared.filter (· ∉ names)
  have hdisjoint : ∀ name ∈ others, ∀ other ∈ names, name ≠ other := by
    rintro name hname _ hother rfl
    simp [others, hother] at hname
  have hperm : (others ++ names).Perm declared := by
    refine (List.perm_ext_iff_of_nodup
      (List.nodup_append.mpr ⟨hdeclared.filter _, hnames, hdisjoint⟩)
      hdeclared).mpr fun name => ?_
    by_cases hname : name ∈ names
    · simp [hname, hsubset hname]
    · simp [hname]
  have hfixed : others.foldl set initial = initial := by
    refine List.foldlRecOn (motive := (· = initial)) others set rfl
      fun record hrecord name hname => ?_
    obtain ⟨hmem, hnot⟩ := List.mem_filter.mp hname
    rw [hrecord]
    exact hothers name hmem (by simpa using hnot)
  rw [← hperm.foldl_eq' (fun name _ other _ record => hcomm record name other)
    initial, List.foldl_append, hfixed]

end Names

end Redial.Json
