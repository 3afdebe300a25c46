import Redial.Metrics.Registry
import Redial.Text.Basic

/-!
The lines in which a registry is published. A family has a line of help, one
of its kind, and one for each sample; a histogram has a line for each bucket,
for the sum and for the count. What depends on how long attempts took is
written as a star.
-/

namespace Redial.Metrics

namespace Exposition

/-- A character of a label's value, where backslashes, quotes and line
ends are escaped. -/
def escaped : Char → List Char
  | '\\' => ['\\', '\\']
  | '"' => ['\\', '"']
  | '\n' => ['\\', 'n']
  | char => [char]

def label (pair : String × String) : String :=
  pair.1 ++ "=\"" ++ String.ofList (pair.2.toList.flatMap escaped) ++ "\""

def line (name : String) (labels : List (String × String)) (value : String) :
    String :=
  if labels.isEmpty then name ++ " " ++ value
  else name ++ "\x7b" ++ String.intercalate "," (labels.map label) ++
    "\x7d " ++ value

def countText (count : Nat) : String :=
  String.ofList (Numeral.digits count)

/-- The text of a value that depends on how long attempts took. -/
def measured : String := "*"

/-- The upper bounds of the buckets, in seconds. -/
def bounds : List String :=
  ["0.005", "0.01", "0.025", "0.05", "0.1", "0.25", "0.5", "1", "2.5", "5",
    "10", "15", "30"]

def sampleLines (name : String) (kind : Kind) (sample : Sample) :
    List String :=
  match kind with
  | .counter => [line name sample.labels (countText sample.count)]
  | .histogram =>
    let bucket (bound value : String) :=
      line (name ++ "_bucket") (sample.labels ++ [("le", bound)]) value
    bounds.map (bucket · measured) ++
      [bucket "+Inf" (countText sample.count),
        line (name ++ "_sum") sample.labels measured,
        line (name ++ "_count") sample.labels (countText sample.count)]

def familyLines (family : SampleFamily) : List String :=
  ["# HELP " ++ family.name ++ " " ++ family.help,
    "# TYPE " ++ family.name ++ " " ++ family.kind.name] ++
    family.samples.flatMap (sampleLines family.name family.kind)

end Exposition

def Registry.exposition (registry : Registry) : List String :=
  registry.gather.flatMap Exposition.familyLines

end Redial.Metrics
