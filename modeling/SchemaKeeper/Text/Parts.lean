/-!
Contract: texts cut at a character.

`parts` cuts at every separator, so a text has one part more than separators.
`lines` cuts at line feeds: each of them ends a line, and what follows the last one
is a line only if there is something.

Owns: both cuts.
-/

namespace SchemaKeeper.Text

/-- The parts of a text between separators. -/
def parts (separator : Char) : List Char → List (List Char)
  | [] => [[]]
  | character :: rest =>
      if character = separator then [] :: parts separator rest
      else
        match parts separator rest with
        | [] => [[character]]
        | first :: later => (character :: first) :: later

/-- A line without the carriage return that may stand before its line feed. -/
def withoutReturn : List Char → List Char
  | [] => []
  | ['\r'] => []
  | character :: rest => character :: withoutReturn rest

/-- The lines among parts between line feeds. Only the last part has no line feed
behind it. -/
def endedLines : List (List Char) → List (List Char)
  | [] => []
  | [last] => if last.isEmpty then [] else [last]
  | part :: next :: rest => withoutReturn part :: endedLines (next :: rest)

def lines (text : String) : List String :=
  (endedLines (parts '\n' text.toList)).map String.ofList

end SchemaKeeper.Text
