import Redial.Metrics.Family
import Redial.Text.Bytes

/-!
A registry of series. Each family has one series for each fingerprint of label
values, with the number of increments or observations; how long attempts took
is not kept. A series shows the values with which it was first written, also
where others with the same fingerprint were added to it. The fingerprint is
the 64-bit FNV-1a hash of the bytes of the values, one after the other.
Nothing marks where one value ends and the next begins, so lists whose values
join to the same text have the same fingerprint.

Writing goes by the name of a family and projects the labels onto the declared
ones. Reading goes through `gather`, where a registry puts its own scope in
front of the names and its common labels behind those of each series, and
compares all labels.

Counts are natural numbers. They are taken to stay below 2^53, since the value
of a counter is a floating-point number, which holds every integer up to
there. A registry holds the families of calls and nothing else; collectors
that others have registered before are not modelled.
-/

namespace Redial.Metrics

/-- The fingerprint of no bytes. -/
def fingerprintBasis : UInt64 := 0xCBF29CE484222325

/-- The factor of each step. -/
def fingerprintPrime : UInt64 := 0x100000001B3

def extendFingerprint (hash : UInt64) (byte : UInt8) : UInt64 :=
  (hash ^^^ byte.toUInt64).mul fingerprintPrime

/-- The fingerprint of the texts of a list. -/
def fingerprint (texts : List String) : UInt64 :=
  (texts.flatMap Text.utf8).foldl extendFingerprint fingerprintBasis

/-- How a registry shows its series: a scope in front of each name, and labels
common to all. -/
structure Naming where
  scope? : Option String := none
  common : List (String × String) := []
  deriving DecidableEq, Repr, Inhabited

/-- Why there is no registry, or why a family is not accepted. -/
inductive RegistryError where
  | emptyScope
  | alreadyRegistered
  deriving DecidableEq, Repr

def RegistryError.message : RegistryError → String
  | .emptyScope => "Error: empty prefix namespace"
  | .alreadyRegistered => "Duplicate metrics collector registration attempted"

/-- The count for one fingerprint of label values of a family, and the values
that came first, in the order in which the labels are shown. -/
structure Series where
  family : Family
  key : UInt64
  values : List String
  count : Nat
  deriving DecidableEq, Repr, Inhabited

/-- The families that are registered, and the series that were written. -/
structure Registry where
  naming : Naming := {}
  families : List Family := []
  series : List Series := []
  deriving DecidableEq, Repr, Inhabited

structure Sample where
  labels : List (String × String)
  count : Nat
  deriving DecidableEq, Repr, Inhabited

/-- A family as it is shown, with its samples in order. -/
structure SampleFamily where
  name : String
  help : String
  kind : Kind
  samples : List Sample
  deriving DecidableEq, Repr, Inhabited

/-- The series of a family that some labels are written to, with a
count of its own. -/
def Series.ofLabels (family : Family) (labels : Labels) (count : Nat) :
    Series where
  family
  key := fingerprint (labels.valuesOf family.declaredNames)
  values := labels.valuesOf family.labelNames
  count

/-- Adds the count of a series to the one with its key, or puts the series
behind the others. -/
def raise (added : Series) : List Series → List Series
  | [] => [added]
  | series :: rest =>
    if series.family = added.family ∧ series.key = added.key then
      { series with count := series.count + added.count } :: rest
    else series :: raise added rest

namespace Sample

/-- The order of samples: by the values of their labels, one after the
other. -/
def precedes (left right : Sample) : Bool :=
  decide (left.labels.map Prod.snd < right.labels.map Prod.snd)

/-- Puts a sample in front of the first one that it precedes. -/
def place (sample : Sample) : List Sample → List Sample
  | [] => [sample]
  | other :: rest =>
    if sample.precedes other then sample :: other :: rest
    else other :: place sample rest

/-- Whether a sample has as many labels as were asked for, and each of
those. -/
def hasLabels (sample : Sample) (labels : Labels) : Bool :=
  sample.labels.length == labels.pairs.length &&
    labels.pairs.all sample.labels.contains

end Sample

namespace Registry

/-- A registry without families. Its scope may be missing, but not empty. -/
def new (naming : Naming) : Except RegistryError Registry :=
  if naming.scope? = some "" then .error .emptyScope else .ok { naming }

/-- Registers the families of calls, which a registry accepts once. -/
def register (registry : Registry) : Except RegistryError Registry :=
  if Family.all.any registry.families.contains then .error .alreadyRegistered
  else .ok { registry with families := registry.families ++ Family.all }

def forCalls (naming : Naming) : Except RegistryError Registry := do
  (← new naming).register

/-- Adds to a series of a family. -/
def record (registry : Registry) (family : Family) (labels : Labels)
    (amount : Nat) : Registry :=
  { registry with
    series := raise (.ofLabels family labels amount) registry.series }

/-- Adds one to a counter. Other names are ignored. -/
def increment (registry : Registry) (metric : String) (labels : Labels) :
    Registry :=
  match Family.ofName? .counter metric with
  | some family => registry.record family labels 1
  | none => registry

/-- Starts a timer, which makes its series. Other names are ignored. -/
def startTimer (registry : Registry) (metric : String) (labels : Labels) :
    Registry :=
  match Family.ofName? .histogram metric with
  | some family => registry.record family labels 0
  | none => registry

/-- Stops a timer that was started with these labels, which is one
observation. -/
def stopTimer (registry : Registry) (metric : String) (labels : Labels) :
    Registry :=
  match Family.ofName? .histogram metric with
  | some family => registry.record family labels 1
  | none => registry

def shownName (registry : Registry) (family : Family) : String :=
  match registry.naming.scope? with
  | some scope => scope ++ "_" ++ family.name
  | none => family.name

def samples (registry : Registry) (family : Family) : List Sample :=
  let own := registry.series.filter fun series => series.family == family
  let placed := own.foldl (fun placed series =>
    Sample.place ⟨family.labelNames.zip series.values, series.count⟩
      placed) []
  placed.map fun sample =>
    { sample with labels := sample.labels ++ registry.naming.common }

/-- Everything that is shown: the families that have series, in the order
of their names. -/
def gather (registry : Registry) : List SampleFamily :=
  (Family.all.filter registry.families.contains).filterMap fun family =>
    let samples := registry.samples family
    if samples.isEmpty then none
    else some ⟨registry.shownName family, family.help, family.kind, samples⟩

/-- The first sample shown under a name with these labels, and what is read
from it. -/
def find? (registry : Registry) (metric : String) (labels : Labels) :
    Option (Kind × Sample) := do
  let family ← registry.gather.find? fun family => family.name == metric
  let sample ← family.samples.find? fun sample => sample.hasLabels labels
  some (family.kind, sample)

/-- The count of a sample that is read as the given kind. Nothing was written
to samples that are not there or of the other kind. -/
def read (registry : Registry) (kind : Kind) (metric : String)
    (labels : Labels) : Nat :=
  match registry.find? metric labels with
  | some (found, sample) => if found = kind then sample.count else 0
  | none => 0

def counter (registry : Registry) (metric : String) (labels : Labels) : Nat :=
  registry.read .counter metric labels

def observations (registry : Registry) (metric : String)
    (labels : Labels) : Nat :=
  registry.read .histogram metric labels

end Registry

end Redial.Metrics
