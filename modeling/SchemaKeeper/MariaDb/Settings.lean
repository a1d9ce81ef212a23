import SchemaKeeper.Json.Number
import SchemaKeeper.Json.Reader

/-!
Contract: settings of a connection, read from JSON.

Only the database has to be named; everything else has a usual value.

Owns: the settings, their usual values and their reader.
-/

namespace SchemaKeeper.MariaDb

/-- How to reach a server, and how many connections to hold at most. -/
structure Settings where
  host : String
  port : UInt16
  username : String
  password : Option String
  database : String
  maxConnections : UInt32
deriving DecidableEq

namespace Settings

def usual (database : String) : Settings where
  host := "localhost"
  port := 3306
  username := "root"
  password := none
  database := database
  maxConnections := 10

def entryNames : List String :=
  ["host", "port", "username", "password", "database", "max_connections"]

def naturalBelow? (bound : Nat) : Json → Option Nat
  | .number literal =>
      literal.integer?.bind fun value =>
        if 0 ≤ value ∧ value < bound then some value.toNat else none
  | _ => none

def ofJson? (document : Json) : Option Settings :=
  match document.fields? entryNames with
  | some [host, port, username, password, some database, maxConnections] => do
      let settings := usual (← database.string?)
      let natural := fun (bound usual : Nat) => Json.withDefault? usual (naturalBelow? bound)
      return { settings with
        host := ← Json.withDefault? settings.host Json.string? host
        port := .ofNat (← natural UInt16.size settings.port.toNat port)
        username := ← Json.withDefault? settings.username Json.string? username
        password := ← Json.optional? Json.string? password
        maxConnections :=
          .ofNat (← natural UInt32.size settings.maxConnections.toNat maxConnections) }
  | _ => none

/-- The settings that a JSON text holds. -/
def ofJsonText? (text : String) : Option Settings :=
  (Json.read? text).bind ofJson?

end Settings

end SchemaKeeper.MariaDb
