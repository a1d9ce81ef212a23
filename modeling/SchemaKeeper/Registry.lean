import SchemaKeeper.Table.Reconciliation
import SchemaKeeper.Table.Rows

/-!
Contract: named connections and the tables registered on them.

Connections are known by handles, and a registry gives names to handles. A model is
a table together with the handle that it was reconciled over, so it can still be
used after its registration is gone, and it never moves to another connection that
takes the same name.

Names are not reused: a second registration of a name, or of a table on the same
connection, is refused and leaves the first one in place.

Owns: the registrations, the order of the checks, and what each failure leaves
behind.
-/

namespace SchemaKeeper

/-! ## Failures -/

/-- Something that is registered by name. -/
inductive RegistryEntry where
  | connection (name : String)
  | model (connection table : String)
deriving DecidableEq

/-- The entry as messages name it. -/
def RegistryEntry.describe : RegistryEntry → String
  | .connection name => "connection " ++ name
  | .model owner table => "model " ++ owner ++ "." ++ table

inductive RegistryError where
  | request (cause : RequestError)
  | alreadyRegistered (entry : RegistryEntry)
  | notRegistered (entry : RegistryEntry)
deriving DecidableEq

def RegistryError.message : RegistryError → String
  | .request cause => cause.message
  | .alreadyRegistered entry => entry.describe ++ " is already registered"
  | .notRegistered entry => entry.describe ++ " is not registered"

/-! ## State -/

/-- Stands for one connection. -/
structure Handle where
  index : Nat
deriving DecidableEq

/-- A table that has been reconciled over a connection. -/
structure Model where
  handle : Handle
  table : Table

/-- The names under which a model is registered. -/
structure ModelKey where
  connection : String
  table : String
deriving DecidableEq

/-- The states of all connections, and what is registered. -/
structure Registry (σ : Type) where
  state : Handle → σ
  connections : List (String × Handle)
  models : List (ModelKey × Model)

namespace Registry

variable {σ α : Type}

def start (state : Handle → σ) : Registry σ := ⟨state, [], []⟩

/-- Puts a connection in place of the state of a handle. -/
def withState (registry : Registry σ) (handle : Handle) (state : σ) : Registry σ :=
  { registry with
    state := fun other => if other = handle then state else registry.state other }

def handle? (registry : Registry σ) (name : String) : Option Handle :=
  registry.connections.lookup name

def hasConnection (registry : Registry σ) (name : String) : Bool :=
  (registry.handle? name).isSome

def model? (registry : Registry σ) (key : ModelKey) : Option Model :=
  registry.models.lookup key

def modelsOn (registry : Registry σ) (name : String) : List Model :=
  (registry.models.filter fun entry => entry.1.connection == name).map (·.2)

/-- The registry without a connection and its models. -/
def forget (registry : Registry σ) (name : String) : Registry σ :=
  { registry with
    connections := registry.connections.filter fun entry => entry.1 != name
    models := registry.models.filter fun entry => entry.1.connection != name }

/-! ## Calls -/

abbrev Call (σ : Type) := ExceptT RegistryError (StateM (Registry σ))

/-- Makes a request over the connection of a handle. -/
def through (handle : Handle) (request : Request σ α) : Call σ α := fun registry =>
  let (result, state) := request (registry.state handle)
  (result.mapError .request, registry.withState handle state)

def connection (name : String) : Call σ Handle := do
  match (← get).handle? name with
  | some handle => return handle
  | none => throw (.notRegistered (.connection name))

def model (key : ModelKey) : Call σ Model := do
  match (← get).model? key with
  | some model => return model
  | none => throw (.notRegistered (.model key.connection key.table))

variable [Connection σ]

/-- Opens a connection and registers it. A name that is taken is refused before the
connection is opened, and a connection that does not open is not registered. -/
def registerConnection (name : String) (handle : Handle) : Call σ Unit := do
  if (← get).hasConnection name then
    throw (.alreadyRegistered (.connection name))
  through handle (Request.access Connection.connect)
  modify fun registry =>
    { registry with connections := registry.connections ++ [(name, handle)] }

/-- Forgets a connection and its models, then closes it. Tells whether there was
one. A failure to close is passed on, and the connection is forgotten all the same. -/
def unregisterConnection (name : String) : Call σ Bool := do
  match (← get).handle? name with
  | none => return false
  | some handle => do
      modify fun registry => registry.forget name
      through handle (Request.access Connection.disconnect)
      return true

/-- Closes connections one after the other. Each is tried, and the first failure
counts. -/
def disconnectEach : List Handle → Call σ Unit
  | [] => pure ()
  | handle :: rest => fun registry =>
      let (first, registry) := through handle (Request.access Connection.disconnect) registry
      let (later, registry) := disconnectEach rest registry
      (first.bind fun () => later, registry)

/-- Closes every registered connection and keeps the registrations. -/
def disconnectAll : Call σ Unit := do
  disconnectEach ((← get).connections.map (·.2))

/-- Reconciles a table over a registered connection and registers its model. A table
that has a model there is refused first. -/
def registerModel (connectionName : String) (table : Table) : Call σ Model := do
  let key : ModelKey := ⟨connectionName, table.name⟩
  if ((← get).model? key).isSome then
    throw (.alreadyRegistered (.model key.connection key.table))
  let handle ← connection connectionName
  let _ ← through handle table.reconcile
  let model : Model := ⟨handle, table⟩
  modify fun registry => { registry with models := registry.models ++ [(key, model)] }
  return model

end Registry

end SchemaKeeper
