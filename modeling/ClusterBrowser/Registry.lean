import ClusterBrowser.Settings.Launch

/-!
# The client in service

* `Registry`: all clients built so far, how often each was closed, and which one is in service.
* `Registry.start`, `stop`, `current`: the life of the client in service.
-/

namespace ClusterBrowser

variable {τ : Type}

structure BuiltClient (τ : Type) where
  client : Client τ
  timesClosed : Nat := 0

/-- All clients built so far, oldest first, and the number of the one in service. -/
structure Registry (τ : Type) where
  built : List (BuiltClient τ) := []
  inService : Option Nat := none

namespace Registry

/-- Puts a new client in service. -/
def enter (r : Registry τ) (client : Client τ) : Registry τ :=
  { built := r.built ++ [{ client }], inService := some r.built.length }

/-- Builds a client and puts it in service. The one before is let go of as it is. -/
def start (s : Settings) (clock : Clock) (send : Transport τ) (transport : τ) : Action (Registry τ) Unit := do
  let client ← Action.ofExcept id (Client.build s clock send transport)
  modify (·.enter client)

def closeClient (b : BuiltClient τ) : BuiltClient τ :=
  { client := (b.client.run fun c => c.close).2, timesClosed := b.timesClosed + 1 }

/-- Closes the client in service, if there is one. -/
def stop : Action (Registry τ) Unit :=
  modify fun r => match r.inService with
    | some i => { built := r.built.modify i closeClient, inService := none }
    | none => r

/-- The client in service. -/
def current? (r : Registry τ) : Option (Client τ) :=
  r.inService.bind fun i => r.built[i]?.map BuiltClient.client

/-- The client in service, which there has to be. -/
def current : Action (Registry τ) (Client τ) := do
  match (← get).current? with
  | some client => return client
  | none => throw .noClient

/-- Runs an action of the client in service, if there is one. -/
def serve {α : Type} (act : {σ : Type} → Option (Cluster σ) → Action σ α) : Action (Registry τ) α :=
  Action.ofFunction fun r =>
    match r.inService, r.current? with
    | some i, some client =>
      let (outcome, client) := client.run fun c => act (some c)
      (outcome, { r with built := r.built.modify i fun b => { b with client } })
    | _, _ => (((act (none : Option (Cluster Unit))).exec ()).1, r)

end Registry

end ClusterBrowser
