/-!
The three families of metrics that calls are counted in, with the labels that
each declares.

The labels of a write or a read are names with values, in the order in
which they were added. A name may be there several times; then its
first value counts.
-/

namespace Redial

structure Labels where
  pairs : List (String × String) := []
  deriving DecidableEq, Repr, Inhabited

namespace Labels

/-- Adds a label behind the others. -/
def add (labels : Labels) (name value : String) : Labels :=
  ⟨labels.pairs ++ [(name, value)]⟩

/-- The first value of a name. -/
def get? (labels : Labels) (name : String) : Option String :=
  labels.pairs.lookup name

/-- The values of declared names. A name without a value has the empty one,
and names that are not declared are left out. -/
def valuesOf (labels : Labels) (declared : List String) : List String :=
  declared.map fun name => (labels.get? name).getD ""

end Labels

namespace Metrics

/-- What is read from a family: the value of a counter, or the observations
of a histogram. -/
inductive Kind where
  | counter
  | histogram
  deriving DecidableEq, Repr, Inhabited

def Kind.name : Kind → String
  | .counter => "counter"
  | .histogram => "histogram"

/-- How long attempts took, failed attempts, and retries. -/
inductive Family where
  | duration
  | failures
  | retries
  deriving DecidableEq, Repr, Inhabited

namespace Family

/-- Every family, in the order of the names. -/
def all : List Family := [.duration, .failures, .retries]

def name : Family → String
  | .duration => "grpc_client_request_duration_seconds"
  | .failures => "grpc_client_request_failures_total"
  | .retries => "grpc_client_request_retries_total"

def help : Family → String
  | .duration => "Duration of gRPC call attempts in seconds"
  | .failures => "Total failed gRPC call attempts"
  | .retries => "Total gRPC call retries"

def kind : Family → Kind
  | .duration => .histogram
  | .failures => .counter
  | .retries => .counter

/-- The names of a family's labels, in the order in which it declares them. -/
def declaredNames : Family → List String
  | .duration => ["service", "method"]
  | .failures => ["service", "method", "status_code", "type"]
  | .retries => ["service", "method"]

/-- The names of a family's labels in order of the alphabet, in which
they are shown. -/
def labelNames : Family → List String
  | .duration => ["method", "service"]
  | .failures => ["method", "service", "status_code", "type"]
  | .retries => ["method", "service"]

/-- The family of this name and kind. -/
def ofName? (kind : Kind) (name : String) : Option Family :=
  all.find? fun family => family.kind == kind && family.name == name

theorem declaredNames_perm_labelNames (family : Family) :
    family.declaredNames.Perm family.labelNames := by
  cases family <;> decide

theorem ofName?_name (family : Family) :
    ofName? family.kind family.name = some family := by
  cases family <;> decide

end Family

end Metrics

end Redial
