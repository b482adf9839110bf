import EntitySql.Text.Escaped
import EntitySql.Value.Conversion

/-!
# Errors

An error is its cause: the constructor says what went wrong and the arguments say where.
`Error.message` is the one place that puts causes into words.
-/

namespace EntitySql

/-- What makes the description of an entity unfit for a table. -/
inductive ModelFault
  | emptyTable
  | emptyName
  | misplacedField (field : String) (type : FieldType) (offset : Nat)
  | duplicateField (field : String)
  | duplicateColumn (column : String)
  | alreadyRegistered
  | other (text : String)
  deriving DecidableEq, Repr

def ModelFault.message : ModelFault → String
  | emptyTable => "empty table name"
  | emptyName => "empty field or column name"
  | misplacedField field type offset =>
    s!"field '{field}' ({type.name}) at offset {offset} does not fit the struct layout"
  | duplicateField field => s!"duplicate field '{field}'"
  | duplicateColumn column => s!"duplicate column '{column}'"
  | alreadyRegistered => "model is already registered"
  | other text => text

/-- A table that stands where it has no meaning. -/
inductive TableFault
  /-- A column to be set from the updated entity is qualified by something else than its table. -/
  | foreignQualifier (kind column entity : String)
  | other (text : String)
  deriving DecidableEq, Repr

def TableFault.message : TableFault → String
  | foreignQualifier kind column entity =>
    s!"{kind} qualifying column '{column}' in an UPDATE of '{entity}'"
  | other text => text

/-- A statement that lacks something it needs. -/
inductive StatementFault
  /-- A column is to be set from the updated entity, and there is none. -/
  | missingEntity (column : String)
  | other (text : String)
  deriving DecidableEq, Repr

def StatementFault.message : StatementFault → String
  | missingEntity column =>
    s!"column '{column}' takes its value from the updated entity, but none was given"
  | other text => text

/-- What is wrong with a configuration. -/
inductive ConfigFault
  /-- The document is no TOML, or a setting has a value of another sort. -/
  | malformed
  | unknownVariant (found : String) (expected : List String)
  | unknownField (found : String) (expected : List String)
  | missingField (name : String)
  | invalidQuote (quote : Char)
  | zeroLogLimit
  | other (text : String)
  deriving DecidableEq, Repr

/-- The choices that a setting has: one, one or the other, or one of several. -/
def alternatives (names : List String) : String :=
  match names.map fun name => s!"`{name}`" with
  | [a, b] => s!"{a} or {b}"
  | [a] => a
  | many => "one of " ++ ", ".intercalate many

def ConfigFault.message : ConfigFault → String
  | malformed => "malformed document"
  | unknownVariant found expected =>
    s!"unknown variant `{found}`, expected {alternatives expected}"
  | unknownField found expected => s!"unknown field `{found}`, expected {alternatives expected}"
  | missingField name => s!"missing field `{name}`"
  | invalidQuote quote => s!"invalid identifier quote character {Text.quoteChar quote}"
  | zeroLogLimit => "max_logged_sql must be positive"
  | other text => text

/-- A cell of a result that is no value of the field it belongs to. -/
inductive DecodeFault
  | cell (index : Nat)
  | other (text : String)
  deriving DecidableEq, Repr

def DecodeFault.message : DecodeFault → String
  | cell index => s!"error deserializing column {index}"
  | other text => text

/-- An exchange with the database server that fails. -/
inductive QueryFault
  /-- The text of the statement cannot be sent. -/
  | unsendable
  | parameterCount (expected got : Nat)
  | parameter (index : Nat)
  /-- The rows of the answer do not fit its columns. -/
  | unreadable
  deriving DecidableEq, Repr

def QueryFault.message : QueryFault → String
  | unsendable => "error encoding message to server"
  | parameterCount expected got => s!"expected {expected} parameters but got {got}"
  | parameter index => s!"error serializing parameter {index}"
  | unreadable => "error parsing response from server"

/-- Why a model, a statement or its execution failed. -/
inductive Error
  | noRows
  | tooManyRows (expected got : Nat)
  | noUpdatedColumns
  | unsupportedTable (fault : TableFault)
  | unknownColumn (name : String)
  | modelNotFound (entity : String) (cause : Error)
  | unsupportedType (name : String)
  | invalidModel (entity : String) (fault : ModelFault)
  | unknownField (name : String)
  | typeMismatch (field : String) (mismatch : Mismatch)
  | modelMismatch (expected found : String)
  | validation (fault : StatementFault)
  | config (fault : ConfigFault)
  | decode (column : String) (fault : DecodeFault)
  | query (fault : QueryFault)
  deriving DecidableEq, Repr

namespace Error

/-- The text of an error. -/
def message : Error → String
  | noRows => "no rows in result set"
  | tooManyRows expected got => s!"expected {expected} row(s), got {got}"
  | noUpdatedColumns => "no columns to update"
  | unsupportedTable fault => s!"unsupported table reference: {fault.message}"
  | unknownColumn name => s!"unknown column '{name}'"
  | modelNotFound entity cause => s!"model not found for '{entity}': {cause.message}"
  | unsupportedType name =>
    s!"unsupported type '{name}': only structs with named fields can be mapped"
  | invalidModel entity fault => s!"invalid model '{entity}': {fault.message}"
  | unknownField name => s!"unknown field '{name}'"
  | typeMismatch field mismatch =>
    s!"type mismatch on field '{field}': expected {mismatch.expected.name}, found {mismatch.found}"
  | modelMismatch expected found => s!"model of '{expected}' cannot be used with '{found}'"
  | validation fault => s!"Validation error: {fault.message}"
  | config fault => s!"Configuration error: {fault.message}"
  | decode column fault => s!"Decode error on column '{column}': {fault.message}"
  | query fault => s!"Query error: {fault.message}"

/-- The error that a missing model stands for. -/
def cause? : Error → Option Error
  | modelNotFound _ cause => some cause
  | _ => none

/-- The innermost error, seen through missing models. -/
def rootCause : Error → Error
  | modelNotFound _ cause => cause.rootCause
  | e => e

def isNoRows : Error → Bool
  | noRows => true
  | _ => false

def isTypeMismatch : Error → Bool
  | typeMismatch _ _ => true
  | _ => false

end Error

end EntitySql
