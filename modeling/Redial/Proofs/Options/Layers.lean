import Mathlib.Data.List.Induction
import Redial.Options.Policy

/-!
Layers of options. Each of the eight leaves of a layer is set or not, and
where layers are put over one another the last one that sets a leaf decides
it. So the order of the layers counts, but not which of them are put together
first, and a layer that comes twice counts only where it comes last.
-/

namespace Redial

namespace CallOptions

/-- A field of a layer that is set as a whole, by the type of its values. -/
inductive Leaf : Type → Type where
  | useZipkin : Leaf Bool
  | authToken : Leaf String
  | attemptTimeout : Leaf UInt64
  | retry : Leaf Bool
  | retryTimeout : Leaf Int64
  | delay : Leaf UInt64
  | maxCount : Leaf Int64
  | statusCodes : Leaf (List StatusCode)

namespace Leaf

variable {γ : Type}

def value? : Leaf γ → CallOptions → Option γ
  | .useZipkin, options => options.headers.useZipkin?
  | .authToken, options => options.headers.authToken?
  | .attemptTimeout, options => options.attempt.timeout?
  | .retry, options => options.retry.retry?
  | .retryTimeout, options => options.retry.timeout?
  | .delay, options => options.retry.delay?
  | .maxCount, options => options.retry.maxCount?
  | .statusCodes, options => options.retry.statusCodes?

/-- Whether the last of some layers that sets a leaf sets it to a value. -/
def LastSetTo (leaf : Leaf γ) (layers : List CallOptions) (value : γ) :
    Prop :=
  ∃ below options above, layers = below ++ options :: above ∧
    leaf.value? options = some value ∧
    ∀ upper ∈ above, leaf.value? upper = none

theorem value?_empty (leaf : Leaf γ) : leaf.value? {} = none := by
  cases leaf <;> rfl

theorem value?_overriddenBy (leaf : Leaf γ) (lower upper : CallOptions) :
    leaf.value? (lower.overriddenBy upper) =
      (leaf.value? upper).or (leaf.value? lower) := by
  cases leaf <;> rfl

theorem lastSetTo_iff (leaf : Leaf γ) (layers : List CallOptions)
    (value : γ) :
    leaf.LastSetTo layers value ↔
      layers.reverse.findSome? leaf.value? = some value := by
  rw [List.findSome?_eq_some_iff]
  constructor
  · rintro ⟨below, options, above, rfl, hvalue, habove⟩
    refine ⟨above.reverse, options, below.reverse,
      by simp, hvalue, fun upper hmem => ?_⟩
    exact habove upper (List.mem_reverse.mp hmem)
  · rintro ⟨above, options, below, hlayers, hvalue, habove⟩
    refine ⟨below.reverse, options, above.reverse, ?_, hvalue,
      fun upper hmem => ?_⟩
    · rw [← layers.reverse_reverse, hlayers]
      simp
    · exact habove upper (List.mem_reverse.mp hmem)

end Leaf

/-- A layer has no other fields than its leaves. -/
theorem eq_of_leaves {first second : CallOptions}
    (hleaves : ∀ {γ : Type} (leaf : Leaf γ),
      leaf.value? first = leaf.value? second) :
    first = second := by
  have hheaders : first.headers = second.headers := by
    rw [HeaderOptions.mk.injEq]
    exact ⟨hleaves .useZipkin, hleaves .authToken⟩
  have hattempt : first.attempt = second.attempt :=
    congrArg AttemptOptions.mk (hleaves .attemptTimeout)
  have hretry : first.retry = second.retry := by
    rw [RetryOptions.mk.injEq]
    exact ⟨hleaves .retry, hleaves .retryTimeout, hleaves .delay,
      hleaves .maxCount, hleaves .statusCodes⟩
  rw [CallOptions.mk.injEq]
  exact ⟨hheaders, hattempt, hretry⟩

theorem overriddenBy_assoc (lowest middle highest : CallOptions) :
    (lowest.overriddenBy middle).overriddenBy highest =
      lowest.overriddenBy (middle.overriddenBy highest) := by
  apply eq_of_leaves
  intro γ leaf
  simp only [leaf.value?_overriddenBy, Option.or_assoc]

theorem overriddenBy_self (options : CallOptions) :
    options.overriddenBy options = options := by
  apply eq_of_leaves
  intro γ leaf
  rw [leaf.value?_overriddenBy, Option.or_self]

theorem overriddenBy_empty (options : CallOptions) :
    options.overriddenBy {} = options := by
  apply eq_of_leaves
  intro γ leaf
  rw [leaf.value?_overriddenBy, leaf.value?_empty, Option.none_or]

theorem empty_overriddenBy (options : CallOptions) :
    ({} : CallOptions).overriddenBy options = options := by
  apply eq_of_leaves
  intro γ leaf
  rw [leaf.value?_overriddenBy, leaf.value?_empty, Option.or_none]

/-- A layer does not count below itself. -/
theorem overriddenBy_overriddenBy_self (first second : CallOptions) :
    (first.overriddenBy second).overriddenBy first =
      second.overriddenBy first := by
  apply eq_of_leaves
  intro γ leaf
  simp only [leaf.value?_overriddenBy]
  cases leaf.value? first with
  | none => simp
  | some value => rfl

/-- Layers put over one another one by one, from the lowest to the highest. -/
def stacked (layers : List CallOptions) : CallOptions :=
  layers.foldl overriddenBy {}

theorem value?_stacked {γ : Type} (leaf : Leaf γ)
    (layers : List CallOptions) :
    leaf.value? (stacked layers) = layers.reverse.findSome? leaf.value? := by
  induction layers using List.reverseRecOn with
  | nil => exact leaf.value?_empty
  | append_singleton layers options ih =>
    have hstacked : stacked (layers ++ [options]) =
        (stacked layers).overriddenBy options := by
      simp [stacked]
    rw [hstacked, leaf.value?_overriddenBy, ih]
    cases hvalue : leaf.value? options <;> simp [hvalue]

/-- Layers in their order, with brackets that say which of them are put
together first. -/
inductive Layering where
  | empty
  | layer (options : CallOptions)
  | under (lower upper : Layering)

namespace Layering

def layers : Layering → List CallOptions
  | empty => []
  | layer options => [options]
  | under lower upper => lower.layers ++ upper.layers

def combined : Layering → CallOptions
  | empty => {}
  | layer options => options
  | under lower upper => lower.combined.overriddenBy upper.combined

theorem value?_combined {γ : Type} (layering : Layering) (leaf : Leaf γ) :
    leaf.value? layering.combined =
      layering.layers.reverse.findSome? leaf.value? := by
  induction layering with
  | empty => exact leaf.value?_empty
  | layer options =>
    cases hvalue : leaf.value? options <;> simp [combined, layers, hvalue]
  | under lower upper hlower hupper =>
    rw [combined, leaf.value?_overriddenBy, hlower, hupper, layers,
      List.reverse_append, List.findSome?_append]

/-- The brackets do not matter. -/
theorem combined_eq_stacked (layering : Layering) :
    layering.combined = stacked layering.layers := by
  apply eq_of_leaves
  intro γ leaf
  rw [layering.value?_combined, value?_stacked]

end Layering

theorem overriddenBy_stacked (lowest : CallOptions)
    (layers : List CallOptions) :
    lowest.overriddenBy (stacked layers) = stacked (lowest :: layers) := by
  apply eq_of_leaves
  intro γ leaf
  rw [leaf.value?_overriddenBy, value?_stacked, value?_stacked,
    List.reverse_cons, List.findSome?_append]
  cases hvalue : leaf.value? lowest <;> simp [hvalue]

/-- The last layer that sets a leaf decides it. To put layers over one another
is associative and idempotent, with the empty layer as its identity, and a
layer does not count below itself. However layers are bracketed, each leaf has
the value of the last one that sets it, and none if no layer does. A call with
layers of its own over the defaults of its client runs by the policy of the
whole list of layers. -/
theorem last_layer_decides :
    (∀ lowest middle highest : CallOptions,
      (lowest.overriddenBy middle).overriddenBy highest =
        lowest.overriddenBy (middle.overriddenBy highest)) ∧
    (∀ options : CallOptions,
      options.overriddenBy options = options ∧
        options.overriddenBy {} = options ∧
        ({} : CallOptions).overriddenBy options = options) ∧
    (∀ first second : CallOptions,
      (first.overriddenBy second).overriddenBy first =
        second.overriddenBy first) ∧
    (∀ (layering : Layering) {γ : Type} (leaf : Leaf γ),
      (∀ value, leaf.value? layering.combined = some value ↔
        leaf.LastSetTo layering.layers value) ∧
      (leaf.value? layering.combined = none ↔
        ∀ options ∈ layering.layers, leaf.value? options = none)) ∧
    (∀ (defaults : CallOptions) (layering : Layering),
      defaults.resolveOver layering.combined =
        (stacked (defaults :: layering.layers)).resolve) ∧
    ∀ defaults overrides : CallOptions,
      defaults.resolveOver {} = defaults.resolve ∧
        defaults.resolveOver (({} : CallOptions).overriddenBy overrides) =
          defaults.resolveOver overrides := by
  refine ⟨overriddenBy_assoc, fun options => ?_,
    overriddenBy_overriddenBy_self, ?_, ?_, ?_⟩
  · exact ⟨options.overriddenBy_self, options.overriddenBy_empty,
      options.empty_overriddenBy⟩
  · intro layering γ leaf
    rw [layering.value?_combined]
    refine ⟨fun value => (leaf.lastSetTo_iff ..).symm, ?_⟩
    simp
  · intro defaults layering
    rw [resolveOver, layering.combined_eq_stacked, overriddenBy_stacked]
  · intro defaults overrides
    constructor
    · rw [resolveOver, overriddenBy_empty]
    · rw [empty_overriddenBy]

end CallOptions

end Redial
