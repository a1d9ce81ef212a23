import SchemaKeeper.Record
import SchemaKeeper.Json.Number
import SchemaKeeper.Json.Reader
import SchemaKeeper.Json.Writer

/-!
Contract: values and records as JSON.

An integer literal that fits into 64 bits is an integer, any other number a
double. An object is no value. Doubles that are not finite are written as null.
Lists and objects that are read count against the nesting limit.

Owns: both directions for values and records.
-/

namespace SchemaKeeper

namespace Value

/-! ## Writing -/

mutual

def toJson : Value → Json
  | .null => .null
  | .bool value => .bool value
  | .int value => .number (.ofInt value.toInt)
  | .float value => if value.isFinite then .number (.ofBinary64 value) else .null
  | .text value => .string value
  | .list items => .list (itemsToJson items)

def itemsToJson : List Value → List Json
  | [] => []
  | item :: rest => toJson item :: itemsToJson rest

end

/-! ## Reading -/

def ofNumber? (literal : Json.Number) : Option Value :=
  match literal.integer? with
  | some value =>
      if -Int.pow 2 63 ≤ value ∧ value < Int.pow 2 63 then some (.int (.ofInt value))
      else literal.toBinary64?.map .float
  | none => literal.toBinary64?.map .float

mutual

/-- The value that a document holds, with at most `depth` lists nested in it. -/
def ofJson? (depth : Nat) : Json → Option Value
  | .null => some .null
  | .bool value => some (.bool value)
  | .number literal => ofNumber? literal
  | .quoted content => content.map .text
  | .list items =>
      if depth = 0 then none else (itemsOfJson? (depth - 1) items).map .list
  | .object _ => none

def itemsOfJson? (depth : Nat) : List Json → Option (List Value)
  | [] => some []
  | item :: rest => do
      let value ← ofJson? depth item
      let values ← itemsOfJson? depth rest
      return value :: values

end

end Value

namespace Record

def toJson (record : Record) : Json :=
  .ofMembers (record.entries.map fun entry => (entry.1, entry.2.toJson))

/-- The record that an object holds; the last of several members of one name
counts. -/
def ofJson? : Json → Option Record
  | .object members => do
      let named ← Json.namedMembers? members
      let entries ← named.mapM fun member =>
        (Value.ofJson? (Json.maxDepth - 1) member.2).map fun value => (member.1, value)
      return ofList entries
  | _ => none

def toJsonText (record : Record) : String :=
  record.toJson.toText

def ofJsonText? (text : String) : Option Record :=
  (Json.read? text).bind ofJson?

end Record

end SchemaKeeper
