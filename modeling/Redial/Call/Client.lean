import Redial.Call.Run
import Redial.Metadata.Builder

/-!
A client: options for all its calls and a builder of metadata. A request
resolves its options, builds its metadata once and then runs; if the metadata
cannot be built, nothing happens. Calls that are made one after another share
the transport and the clock.
-/

namespace Redial

structure Client where
  defaults : CallOptions := {}
  builder : MetadataBuilder := .trace

/-- One of several calls: where it comes from, its options, how long the
caller waits for it, and the pause between its end and the next call. -/
structure Visit (α : Type) where
  context : TraceContext
  request : CallRequest α
  overrides? : Option CallOptions := none
  patience? : Option Nat := none
  idle : Nat := 0

namespace Client

variable {α β : Type}

def policy (client : Client) (overrides? : Option CallOptions) : CallPolicy :=
  client.defaults.resolveOver (overrides?.getD {})

section Effects

variable {m : Type → Type} [Monad m]

/-- What a call runs by when its builder has effects: its metadata are built
once. -/
def planIn (client : Client) (build : EffectfulBuilder m) (span : String)
    (transport : Transport α β) (context : TraceContext)
    (request : CallRequest α) (overrides? : Option CallOptions) :
    m (Except CallError (Plan α β)) := do
  let policy := client.policy overrides?
  let built ← build span context request.metadata? policy.headers
  return built.map fun metadata =>
    let invocation : Invocation α :=
      { service := request.service, method := request.method,
        payload := request.payload, metadata }
    { policy, invocation, reply := fun index => transport index invocation }

/-- A call whose builder has effects. They are over before the call begins. -/
def requestIn (client : Client) (build : EffectfulBuilder m) (span : String)
    (transport : Transport α β) (visit : Visit α) (start : Nat) :
    m (Run α β) := do
  match ← client.planIn build span transport visit.context visit.request
      visit.overrides? with
  | .ok plan => return plan.run start visit.patience?
  | .error error => return ⟨[], .failed error, start⟩

end Effects

/-- What a call runs by, or the error of a builder that has no
metadata for it. -/
def plan (client : Client) (span : String) (transport : Transport α β)
    (context : TraceContext) (request : CallRequest α)
    (overrides? : Option CallOptions) : Except CallError (Plan α β) :=
  Id.run (client.planIn client.builder.effectless span transport context
    request overrides?)

def request (client : Client) (span : String) (transport : Transport α β)
    (visit : Visit α) (start : Nat) : Run α β :=
  Id.run (client.requestIn client.builder.effectless span transport
    visit start)

/-- Makes calls one after another, beginning at a time and after some calls to
the transport. Gives the time at which each began, and its run. -/
def session (client : Client) (span : String) (transport : Transport α β)
    (start used : Nat) : List (Visit α) → List (Nat × Run α β)
  | [] => []
  | visit :: visits =>
    let run :=
      client.request span (fun index => transport (used + index)) visit start
    (start, run) ::
      session client span transport (run.finish + pauseLength visit.idle)
        (used + run.calls) visits

end Client

end Redial
