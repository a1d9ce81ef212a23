import SchemaKeeper.Text.Blank
import SchemaKeeper.Text.Case

/-!
Contract: the columns of an existing table, as its server describes them.

Owns: live columns, key kinds, and the normal form of reported defaults.
-/

namespace SchemaKeeper

/-! ## Keys -/

/-- The index that a description reports for a column. `multiple` stands for the
first column of any index that is not unique, such as that of a reference. -/
inductive KeyKind where
  | primary
  | unique
  | multiple
deriving DecidableEq

namespace KeyKind

def report : KeyKind → String
  | .primary => "PRI"
  | .unique => "UNI"
  | .multiple => "MUL"

/-- The key that a description reports, in any case and with blanks around it. Any
other report means no key. -/
def ofReport? (text : String) : Option KeyKind :=
  [primary, unique, multiple].find? fun kind => kind.report == Text.upper (Text.trim text)

end KeyKind

/-! ## Columns -/

structure LiveColumn where
  name : String
  type : String
  nullable : Bool
  key : Option KeyKind
  foreignKey : Bool
  default : Option String
  extra : String
deriving DecidableEq

def Text.occursIn (part : List Char) : List Char → Bool
  | [] => part.isEmpty
  | character :: rest => part.isPrefixOf (character :: rest) || occursIn part rest

/-- Whether the server numbers the column itself. -/
def LiveColumn.isAutoIncrement (column : LiveColumn) : Bool :=
  Text.occursIn "auto_increment".toList (Text.lower column.extra).toList

/-! ## Defaults -/

def undoubleQuotes : List Char → List Char
  | '\'' :: '\'' :: rest => '\'' :: undoubleQuotes rest
  | character :: rest => character :: undoubleQuotes rest
  | [] => []

/-- A reported default without the quotes around it and without doubled quotes
inside; a text that is not between quotes stands for itself. -/
def unquoteDefault (report : List Char) : List Char :=
  match report with
  | '\'' :: opened =>
      match opened.reverse with
      | '\'' :: body => undoubleQuotes body.reverse
      | _ => report
  | _ => report

/-- The normal form of a reported default. The bare word NULL, in any case, means
that there is none. -/
def normalizeDefault (report : Option String) : Option String :=
  report.bind fun text =>
    if Text.sameIgnoringCase text "NULL" then none
    else some (String.ofList (unquoteDefault text.toList))

end SchemaKeeper
