import SchemaKeeper.Registry

/-!
Contract: everything that is done with a registry, as data.

An action is one call on the registry with its arguments, and an event is an action
with what it gave. A run is a list of actions and leaves the list of its events, in
order, so what a registry holds can be compared with what was done to it.

Owns: actions, their answers, and runs.

Does not own: the calls (`Registry`).
-/

namespace SchemaKeeper.Registry

/-- A call on a registry with its arguments. -/
inductive Action where
  | registerConnection (name : String) (handle : Handle)
  | unregisterConnection (name : String)
  | registerModel (connection : String) (table : Table)
  | model (key : ModelKey)
  | connection (name : String)
  | modelsOn (name : String)
  | disconnectAll

inductive Answer where
  | done
  | known (wasRegistered : Bool)
  | handle (handle : Handle)
  | model (model : Model)
  | models (models : List Model)

/-- An action and what it gave. -/
structure Event where
  action : Action
  result : Except RegistryError Answer

/-! ## Runs -/

variable {σ : Type} [Connection σ]

def perform : Action → Call σ Answer
  | .registerConnection name handle => do
      registerConnection name handle
      return .done
  | .unregisterConnection name => return .known (← unregisterConnection name)
  | .registerModel connectionName table => return .model (← registerModel connectionName table)
  | .model key => return .model (← model key)
  | .connection name => return .handle (← connection name)
  | .modelsOn name => return .models ((← get).modelsOn name)
  | .disconnectAll => do
      disconnectAll
      return .done

def performAll : List Action → Registry σ → List Event × Registry σ
  | [], registry => ([], registry)
  | action :: rest, registry =>
      let (result, registry) := perform action registry
      let (events, registry) := performAll rest registry
      (⟨action, result⟩ :: events, registry)

end SchemaKeeper.Registry
