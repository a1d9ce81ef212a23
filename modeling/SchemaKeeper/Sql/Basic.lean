/-!
Contract: statement text as tokens and the spaces between them.

A piece of SQL is a list of tokens with explicit spaces, so the text of a
statement and the tokens a server reads from it come from one description. Names
and texts only ever occur inside identifier and string tokens, which quote them.

Owns: tokens, their written form, and the ways pieces are put together.

Does not own: reading SQL text back.
-/

namespace SchemaKeeper

/-! ## Quoting -/

namespace Sql

/-- A name between backquotes, with each backquote inside written twice. -/
def quoteIdentifier (name : List Char) : List Char :=
  '\x60' :: (name.flatMap (fun character =>
    if character = '\x60' then ['\x60', '\x60'] else [character]) ++ ['\x60'])

/-- One character of a string literal. Characters that MariaDB treats specially
stand behind a backslash. -/
def escapeChar (character : Char) : List Char :=
  if character = '\x00' then ['\\', '0']
  else if character = '\'' then ['\\', '\'']
  else if character = '"' then ['\\', '"']
  else if character = '\\' then ['\\', '\\']
  else if character = '\n' then ['\\', 'n']
  else if character = '\r' then ['\\', 'r']
  else if character = '\t' then ['\\', 't']
  else if character = '\x08' then ['\\', 'b']
  else if character = '\x1a' then ['\\', 'Z']
  else [character]

/-- A text between single quotes, escaped. -/
def quoteString (content : List Char) : List Char :=
  '\'' :: (content.flatMap escapeChar ++ ['\''])

/-! ## Tokens -/

/-- What a server reads as one unit: a keyword or type name, punctuation or an
operator, a quoted name, a string literal, or a number. -/
inductive Token where
  | word (text : String)
  | symbol (text : String)
  | identifier (name : String)
  | string (content : String)
  | number (text : String)
deriving DecidableEq

def Token.chars : Token → List Char
  | .word text => text.toList
  | .symbol text => text.toList
  | .identifier name => quoteIdentifier name.toList
  | .string content => quoteString content.toList
  | .number text => text.toList

/-- A token, a space, or text taken over as it is. -/
inductive Piece where
  | token (token : Token)
  | space
  | verbatim (text : String)
deriving DecidableEq

def Piece.chars : Piece → List Char
  | .token written => written.chars
  | .space => [' ']
  | .verbatim text => text.toList

end Sql

abbrev Sql := List Sql.Piece

namespace Sql

def chars (sql : Sql) : List Char :=
  sql.flatMap Piece.chars

def text (sql : Sql) : String :=
  String.ofList sql.chars

/-- The tokens of a piece of SQL; text taken over as it is has none. -/
def tokens (sql : Sql) : List Token :=
  sql.filterMap fun
    | .token written => some written
    | _ => none

/-! ## Construction -/

def word (text : String) : Sql := [.token (.word text)]

def symbol (text : String) : Sql := [.token (.symbol text)]

def identifier (name : String) : Sql := [.token (.identifier name)]

def natural (number : Nat) : Sql := [.token (.number (toString number))]

/-- Text taken over as it is. -/
def verbatim (text : String) : Sql := [.verbatim text]

/-- Parts with one space between them. -/
def spaced (parts : List Sql) : Sql :=
  [Piece.space].intercalate parts

/-- Parts with a comma and a space between them. -/
def listed (parts : List Sql) : Sql :=
  [Piece.token (.symbol ","), Piece.space].intercalate parts

def enclosed (part : Sql) : Sql :=
  symbol "(" ++ part ++ symbol ")"

def words (texts : List String) : Sql :=
  spaced (texts.map word)

def identifiers (names : List String) : Sql :=
  listed (names.map identifier)

end Sql

end SchemaKeeper
