import EntitySql.Database.Basic

/-!
# Running statements

An executor is the way to a database. It is handed each statement once, after the statement was
built and logged, and what it answers is passed on.
-/

namespace EntitySql

/-- What a database answers to statements. -/
structure Executor where
  /-- The records that the rows of a result come to. -/
  query : Query → Mapping → Except Error (List Record)
  /-- The number of rows changed. -/
  update : Query → Except Error Nat

/-- At most `limit` characters of a text, with dots after them where something is left out. -/
def truncate (limit : Option Nat) (text : String) : String :=
  match limit with
  | none => text
  | some n => if text.length ≤ n then text else String.ofList (text.toList.take n) ++ "..."

namespace Database

/-- Logs a statement where the configuration asks for it. -/
def log (db : Database) (kind : StatementKind) (q : Query) : Action Unit :=
  if db.config.logStatements then
    .note (.executing kind (truncate db.config.maxLoggedSql q.sql) q.args.length)
  else pure ()

/-- The records that a query finds. -/
def getMulti (db : Database) (executor : Executor) (s : Select) : Action (List Record) := do
  let q ← db.buildSelect s
  let mapping ← db.mapping s.entity
  db.log .select q
  .note (.sent q)
  .ofExcept (executor.query q mapping)

/-- The only one of several records. -/
def single : List Record → Except Error Record
  | [] => .error .noRows
  | [record] => .ok record
  | records => .error (.tooManyRows 1 records.length)

/-- The record that a query finds, if it finds exactly one. -/
def get (db : Database) (executor : Executor) (s : Select) : Action Record := do
  .ofExcept (single (← db.getMulti executor s))

/-- The number of rows that an update changes. -/
def exec (db : Database) (executor : Executor) (u : Update) : Action Nat := do
  let q ← db.buildUpdate u
  db.log .update q
  .note (.sent q)
  .ofExcept (executor.update q)

end Database

end EntitySql
