import SchemaKeeper.Table.Reconciliation
import SchemaKeeper.Table.Rows

/-!
Contract: everything that is done with a table over a connection, as data.

An action is one request on the table with its arguments, so a run is a list of
actions. An action that fails does not keep the next one from being performed.

Owns: actions, their answers, and what each of them writes or is restricted by.

Does not own: the requests (`Table.Rows`, `Table.Reconciliation`).
-/

namespace SchemaKeeper.Table

/-- A request on a table with its arguments. -/
inductive Action where
  | register
  | find (query : Record) (limit : Option Nat)
  | findOne (query : Record)
  | findById (identifier : Value) (field : Option String)
  | select (fields : List String) (filter : Option Filter) (limit : Option Nat)
  | selectOne (fields : List String) (filter : Option Filter)
  | insert (record : Record)
  | upsert (record : Record) (updated : Option (List String))
  | update (query record : Record)
  | updateWhere (filter : Filter) (record : Record)
  | delete (query : Record)
  | deleteWhere (filter : Filter)

inductive Answer where
  | plan (plan : Plan)
  | rows (rows : List Record)
  | row (row : Option Record)
  | count (count : Nat)

namespace Action

/-- The row that an action writes if its checks succeed. -/
def row? (table : Table) : Action → Option Row
  | .insert record => (table.insertion record).toOption
  | .upsert record updated => (table.upsertion record updated).toOption.map (·.1)
  | .update query record => (table.replacement query record).toOption.map (·.2)
  | .updateWhere filter record => (table.changes filter record).toOption.map (·.2)
  | _ => none

/-- The filter of an action that changes or removes existing rows. -/
def restriction? : Action → Option Filter
  | .update query _ | .delete query => some (.allEqual query)
  | .updateWhere filter _ | .deleteWhere filter => some filter
  | _ => none

end Action

/-! ## Runs -/

variable {σ : Type} [Connection σ]

def perform (table : Table) : Action → Request σ Answer
  | .register => return .plan (← table.reconcile)
  | .find query limit => return .rows (← table.find query limit)
  | .findOne query => return .row (← table.findOne query)
  | .findById identifier field => return .row (← table.findById identifier field)
  | .select fields filter limit => return .rows (← table.select fields filter limit)
  | .selectOne fields filter => return .row (← table.selectOne fields filter)
  | .insert record => return .row (some (← table.insert record))
  | .upsert record updated => return .row (← table.upsert record updated)
  | .update query record => return .row (← table.update query record)
  | .updateWhere filter record => return .row (← table.updateWhere filter record)
  | .delete query => return .count (← table.delete query)
  | .deleteWhere filter => return .count (← table.deleteWhere filter)

def performAll (table : Table) : List Action → σ → List (Except RequestError Answer) × σ
  | [], connection => ([], connection)
  | action :: rest, connection =>
      let (answer, connection) := table.perform action connection
      let (answers, connection) := performAll table rest connection
      (answer :: answers, connection)

end SchemaKeeper.Table
