import EntitySql.Dialect
import EntitySql.Record.Accessor

/-!
# Configuration

What can be chosen for a database handle, what is chosen by default, and which choices are refused.
-/

namespace EntitySql

/-- The registry that a handle keeps its models in. -/
inductive RegistryScope
  /-- The one that the whole program shares. -/
  | shared
  /-- One of its own. -/
  | isolated
  deriving DecidableEq, Repr

/-- The choices for a database handle. -/
structure Config where
  dialect : Dialect
  accessor : AccessorStrategy
  registry : RegistryScope
  /-- Whether executed statements are logged. -/
  logStatements : Bool
  /-- The number of characters of a statement that are logged; none stands for all of them. -/
  maxLoggedSql : Option Nat
  deriving DecidableEq, Repr

namespace Config

/-- What is chosen where nothing is said. -/
def default : Config where
  dialect := .mysql
  accessor := .direct
  registry := .shared
  logStatements := false
  maxLoggedSql := some 200

/-- Refuses quote characters that will not do, and a log of no characters. -/
def validate (c : Config) : Except Error Unit := do
  c.dialect.validate
  if c.maxLoggedSql = some 0 then throw (.config .zeroLogLimit)

end Config

/-! ### Names in documents -/

def PlaceholderStyle.names : List (String × PlaceholderStyle) :=
  [("question", .question), ("numbered", .numbered)]

def AccessorStrategy.names : List (String × AccessorStrategy) :=
  [("reflective", .reflective), ("direct", .direct)]

def RegistryScope.names : List (String × RegistryScope) :=
  [("global", .shared), ("isolated", .isolated)]

/-- The name of a choice among named ones. -/
def nameAmong {α : Type} [DecidableEq α] (names : List (String × α)) (a : α) : String :=
  ((names.find? (·.2 == a)).map (·.1)).getD ""

/-! ### Descriptions -/

def PlaceholderStyle.describe : PlaceholderStyle → String
  | question => "Question"
  | numbered => "Numbered"

def Dialect.describe : Dialect → String
  | mysql => "MySql"
  | sqlite => "Sqlite"
  | postgres => "Postgres"
  | custom d =>
    "Custom(CustomDialect \x7b quote: " ++ Text.quoteChar d.quote ++ ", placeholder: "
      ++ d.placeholder.describe ++ " \x7d)"

def AccessorStrategy.describe : AccessorStrategy → String
  | reflective => "Reflective"
  | direct => "Direct"

def RegistryScope.describe : RegistryScope → String
  | shared => "Global"
  | isolated => "Isolated"

/-- How a configuration describes itself. -/
def Config.describe (c : Config) : String :=
  let limit := match c.maxLoggedSql with
    | none => "None"
    | some n => "Some(" ++ toString n ++ ")"
  "DbConfig \x7b dialect: " ++ c.dialect.describe ++ ", accessor: " ++ c.accessor.describe
    ++ ", registry: " ++ c.registry.describe ++ ", log_statements: " ++ toString c.logStatements
    ++ ", max_logged_sql: " ++ limit ++ " \x7d"

end EntitySql
