import EntitySql.Database.Execution
import EntitySql.Postgres.Wire

/-!
# Running statements on PostgreSQL

A server prepares each statement and reports the types of its placeholders. The values are then
encoded as those types and sent. Each row of the result fills a record, column by column.
-/

namespace EntitySql.Postgres

/-- What a server answers to a statement. -/
structure Server where
  /-- The types of the placeholders. -/
  parameters : List WireType
  /-- The names and types of the columns of the result. -/
  columns : List (String × WireType)
  /-- The cells of each row; a null has none. -/
  rows : List (List (Option (List UInt8)))
  /-- The number of rows changed. -/
  affected : Nat

/-- What a server hears. -/
inductive Heard
  /-- A statement to prepare. -/
  | prepare (sql : String)
  /-- The values to run it with. -/
  | execute (parameters : List (Option (List UInt8)))
  deriving DecidableEq, Repr

/-- Encodes values as the given types; `index` is the number of values before them. -/
def encodeAll (index : Nat) :
    List (WireType × Value) → Except QueryFault (List (Option (List UInt8)))
  | [] => .ok []
  | (type, v) :: rest =>
    match encodeAs type v with
    | .error _ => .error (.parameter index)
    | .ok bytes => do pure (bytes :: (← encodeAll (index + 1) rest))

namespace Server

/-- Whether a text can be sent as the text of a statement, whose end is marked by a null
character. -/
def isSendable (sql : String) : Bool :=
  !sql.toList.contains '\x00'

/-- The bytes to send for the values of a statement, of which there have to be as many as there are
placeholders. -/
def bind (s : Server) (args : List Value) : Except QueryFault (List (Option (List UInt8))) :=
  if args.length ≠ s.parameters.length then
    .error (.parameterCount s.parameters.length args.length)
  else encodeAll 0 (s.parameters.zip args)

/-- Prepares a statement and encodes its values. -/
def send (s : Server) (q : Query) : Except QueryFault (List (Option (List UInt8))) :=
  if isSendable q.sql then s.bind q.args else .error .unsendable

/-- What a server hears when a statement is sent to it. -/
def heard (s : Server) (q : Query) : List Heard :=
  if isSendable q.sql then
    .prepare q.sql ::
      match s.bind q.args with
      | .ok parameters => [.execute parameters]
      | .error _ => []
  else []

/-- The rows of the answer, if each has one cell for every column. All of them are received before
the first one is read. -/
def receive (s : Server) : Except QueryFault (List (List (Option (List UInt8)))) :=
  if s.rows.all (·.length == s.columns.length) then .ok s.rows else .error .unreadable

/-- Stores the cells of a row, of which the first one belongs to column number `index`. A column
has to be one of the model by its column name. -/
def fill (mapping : Mapping) (record : Record) (index : Nat) :
    List ((String × WireType) × Option (List UInt8)) → Except Error Record
  | [] => .ok record
  | ((name, type), cell) :: rest =>
    match mapping.model.column? name with
    | none => .error (.unknownColumn name)
    | some f =>
      match decodeAs? f.type.kind type cell with
      | none => .error (.decode name (.cell index))
      | some v => do fill mapping (← mapping.setColumn record name v) (index + 1) rest

/-- The record of a row. -/
def recordOf (s : Server) (mapping : Mapping) (row : List (Option (List UInt8))) :
    Except Error Record :=
  fill mapping mapping.newRow 0 (s.columns.zip row)

/-- What comes of an exchange, a fault in it being the error of the statement. -/
def answer {α : Type} (exchange : Except QueryFault α) : Except Error α :=
  exchange.mapError .query

/-- The server as the way to a database. -/
def executor (s : Server) : Executor where
  query q mapping := do
    let _ ← answer (s.send q)
    let rows ← answer s.receive
    rows.mapM (s.recordOf mapping)
  update q := do
    let _ ← answer (s.send q)
    pure s.affected

end Server

end EntitySql.Postgres
