/-!
Contract: JSON documents as trees.

The tree keeps what later readers still have to judge: a number stays the literal
that was written, and a string literal whose escapes leave half of a surrogate
pair is kept as a text without content, since it is only an error where the text
is used.

Owns: the tree, its literals and the selection of members.

Does not own: the notation (`Json.Reader`, `Json.Writer`).
-/

namespace SchemaKeeper

/-- A number literal: sign, whole digits, digits behind a point, and a signed
exponent. -/
structure Json.Number where
  negative : Bool
  whole : List Char
  fraction : Option (List Char)
  exponent : Option (Bool × List Char)
deriving DecidableEq

/-- The content of a string literal; `none` when an escape names half of a
surrogate pair. -/
abbrev Json.Text := Option String

/-- A JSON document. Members keep the order in which they are written. -/
inductive Json where
  | null
  | bool (value : Bool)
  | number (literal : Json.Number)
  | quoted (content : Json.Text)
  | list (items : List Json)
  | object (members : List (Json.Text × Json))
deriving Inhabited

namespace Json

/-- How deeply lists and objects may be nested in a document that is read. -/
def maxDepth : Nat := 127

def string (content : String) : Json :=
  .quoted (some content)

def ofMembers (members : List (String × Json)) : Json :=
  .object (members.map fun member => (some member.1, member.2))

/-- The members of an object by name, with a name that has no content refused. -/
def namedMembers? : List (Json.Text × Json) → Option (List (String × Json))
  | [] => some []
  | (some name, value) :: rest => (namedMembers? rest).map ((name, value) :: ·)
  | (none, _) :: _ => none

/-- The value of a member that occurs at most once: the outer `none` reports a
repetition, the inner one absence. -/
def uniqueMember? (members : List (String × Json)) (name : String) : Option (Option Json) :=
  match members.filter (fun member => member.1 == name) with
  | [] => some none
  | [member] => some (some member.2)
  | _ => none

/-- The values of a structure's fields in the declared order. A structure is an
object, where unknown members are ignored and a repeated field is refused, or a
list of its leading fields. -/
def fields? (names : List String) : Json → Option (List (Option Json))
  | .object members => do
      let named ← namedMembers? members
      names.mapM (uniqueMember? named)
  | .list items =>
      if items.length ≤ names.length then
        some (items.map some ++ List.replicate (names.length - items.length) none)
      else
        none
  | _ => none

def string? : Json → Option String
  | .quoted content => content
  | _ => none

def bool? : Json → Option Bool
  | .bool value => some value
  | _ => none

def list? : Json → Option (List Json)
  | .list items => some items
  | _ => none

/-- The name of a choice: a string literal, or an object whose only member has
that name and holds null. -/
def choice? : Json → Option String
  | .quoted content => content
  | .object [(name, .null)] => name
  | _ => none

/-- A field that may be absent or null: the outer `none` reports a value that is
neither null nor read by `read`. -/
def optional? {α : Type} (read : Json → Option α) : Option Json → Option (Option α)
  | none => some none
  | some .null => some none
  | some value => (read value).map some

/-- A field that takes a default when it is absent. -/
def withDefault? {α : Type} (default : α) (read : Json → Option α) : Option Json → Option α
  | none => some default
  | some value => read value

end Json

end SchemaKeeper
