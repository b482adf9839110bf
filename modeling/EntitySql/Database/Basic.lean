import EntitySql.Config.Basic
import EntitySql.Record.Mapping
import EntitySql.Registry.Concurrent
import EntitySql.Resolution.Update

/-!
# Database handles

A handle builds statements in its dialect against a registry. Whatever it does is an `Action`: it
may change the registry, it adds to the journal, and it ends with a result or an error. Neither the
registry nor the journal goes back to what it was when an error ends an action.
-/

namespace EntitySql

/-- Whether a statement reads rows or changes them. -/
inductive StatementKind
  | select
  | update
  deriving DecidableEq, Repr

def StatementKind.name : StatementKind → String
  | select => "select"
  | update => "update"

/-- What a journal tells. -/
inductive Event
  | opened (dialect : String) (accessor : AccessorStrategy) (registry : RegistryScope)
  | registry (event : RegistryEvent)
  /-- A statement that is about to be sent, with its text as it is logged. -/
  | executing (kind : StatementKind) (sql : String) (args : Nat)
  /-- A statement that was sent. -/
  | sent (query : Query)
  deriving DecidableEq, Repr

/-- What actions change. -/
structure Store where
  registry : Registry
  /-- What has happened, in order. -/
  journal : List Event
  deriving DecidableEq, Repr

/-- An empty registry, and nothing happened. -/
def Store.empty : Store :=
  ⟨.empty, []⟩

/-- A computation that uses a store. -/
abbrev Action (α : Type) : Type :=
  ExceptT Error (StateM Store) α

namespace Action

variable {α : Type}

/-- The result of an action, and the store after it. -/
def exec (a : Action α) (s : Store) : Except Error α × Store :=
  a s

/-- Does something with the registry. -/
def withRegistry (call : Registry → Outcome α) : Action α := fun s =>
  let outcome := call s.registry
  (outcome.result, ⟨outcome.registry, s.journal ++ outcome.events.map .registry⟩)

/-- Puts an inquiry to the registry. -/
def inquire (q : Inquiry α) : Action α :=
  withRegistry q.run

/-- Adds an event to the journal. -/
def note (event : Event) : Action Unit := fun s =>
  (.ok (), { s with journal := s.journal ++ [event] })

/-- A result that does not depend on the store. -/
def ofExcept (result : Except Error α) : Action α := fun s =>
  (result, s)

end Action

/-- The model of `e` in the registry. -/
def fetchModel (e : EntityType) : Action TableModel :=
  .withRegistry (·.get e)

/-- Registers `e` under the given options. -/
def registerModel (e : EntityType) (options : List ModelOption) : Action TableModel :=
  .withRegistry (·.register e options)

/-- Makes several calls to the registry at once: the results in the order of the calls. -/
def callTogether (calls : List Call) : Action (List (Except Error TableModel)) := fun s =>
  let system := (System.start s.registry calls).sideBySide
  (.ok system.results, ⟨system.registry, s.journal ++ system.events.map .registry⟩)

/-- A configured way to a database. -/
structure Database where
  dialect : Dialect
  config : Config
  deriving DecidableEq, Repr

namespace Database

/-- A handle with the given configuration, if that is valid. -/
def make (config : Config) : Action Database := do
  .ofExcept config.validate
  .note (.opened config.dialect.name config.accessor config.registry)
  pure ⟨config.dialect, config⟩

/-- The last words of a program that cannot go on without a handle. -/
def openFailure (err : Error) : String :=
  "failed to open db: " ++ err.message

/-- How a handle describes itself. -/
def describe (db : Database) : String :=
  "Db \x7b dialect: " ++ Text.quoteString db.dialect.name ++ ", config: " ++ db.config.describe
    ++ ", .. \x7d"

/-- The SELECT statement of a query. -/
def buildSelect (db : Database) (s : Select) : Action Query := do
  pure (db.dialect.query (← Action.inquire s.resolve).lexemes)

/-- The UPDATE statement of an update. -/
def buildUpdate (db : Database) (u : Update) : Action Query := do
  pure (db.dialect.query (← Action.inquire (u.resolve db.config.accessor)).lexemes)

/-- The accessor to records of type `e` that the configuration asks for. -/
def accessor (db : Database) (e : EntityType) : Action Accessor := do
  .ofExcept (db.config.accessor.accessor e (← fetchModel e))

/-- The mapping of rows to records of type `e`. -/
def mapping (db : Database) (e : EntityType) : Action Mapping := do
  pure ⟨← db.accessor e⟩

end Database

end EntitySql
