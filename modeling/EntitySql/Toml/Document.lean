import EntitySql.Toml.Expression

/-!
# TOML documents

The expressions of a document are put together to one table. No table may be defined twice, and
what one expression wrote no other may write again: a table is opened by its header once, keys that
are paths add only to tables that such keys made, and inline values are closed.
-/

namespace EntitySql.Toml

/-- How a table that is being put together came about. -/
inductive Origin
  /-- On the way to a table that a header names. -/
  | implicit
  /-- By a header of its own. -/
  | header
  /-- On the way to the end of a key. -/
  | dotted
  deriving DecidableEq, Repr

/-- What stands under a name while a document is put together. -/
inductive Node
  | leaf (v : Value)
  | table (origin : Origin) (entries : List (String × Node))
  /-- The tables of an array of tables, the latest one first. -/
  | tables (elements : List (List (String × Node)))

/-- The entries of a table that is being put together. -/
abbrev Entries := List (String × Node)

/-- Changes the node under a name, or adds one. The change is told whether there is a node. -/
def Entries.alter? (change : Option Node → Option Node) (name : String) :
    Entries → Option Entries
  | [] => (change none).map fun node => [(name, node)]
  | (other, node) :: rest =>
    if other = name then (change (some node)).map fun node => (other, node) :: rest
    else (Entries.alter? change name rest).map fun rest => (other, node) :: rest

/-- Changes the entries of the table that a header path leads to: through tables of every origin,
and into the latest table of an array. -/
def Entries.under? (change : Entries → Option Entries) : Path → Entries → Option Entries
  | [], entries => change entries
  | name :: path, entries =>
    entries.alter? (fun
      | none => (under? change path []).map (.table .implicit)
      | some (.table origin inner) => (under? change path inner).map (.table origin)
      | some (.tables (latest :: older)) =>
        (under? change path latest).map fun latest => .tables (latest :: older)
      | some (.tables []) | some (.leaf _) => none) name

/-- Adds a value at the end of a key. On the way a key passes through tables that no header opened,
and the last of them has to be one that keys made. -/
def Entries.add? (value : Node) : Path → Entries → Option Entries
  | [], _ => none
  | [name], entries =>
    entries.alter? (fun
      | none => some value
      | some _ => none) name
  | name :: next :: path, entries =>
    entries.alter? (fun
      | none => (add? value (next :: path) []).map (.table .dotted)
      | some (.table inner entries) =>
        if inner = .header ∨ (inner = .implicit ∧ path.isEmpty) then none
        else (add? value (next :: path) entries).map (.table inner)
      | some (.tables (latest :: older)) =>
        if path.isEmpty then none
        else (add? value (next :: path) latest).map fun latest => .tables (latest :: older)
      | some (.tables []) | some (.leaf _) => none) name

mutual

/-- A table under construction as a value. -/
def Node.toValue : Node → Value
  | .leaf v => v
  | .table _ entries => .table (entryValues entries)
  | .tables elements => .array (elementValues elements).reverse

def entryValues : List (String × Node) → List (String × Value)
  | [] => []
  | (name, node) :: rest => (name, node.toValue) :: entryValues rest

def elementValues : List (List (String × Node)) → List Value
  | [] => []
  | entries :: rest => .table (entryValues entries) :: elementValues rest

end

mutual

/-- The value that is meant by one as it is written, if its inline tables define nothing twice. -/
def Written.toValue? : Written → Option Value
  | .scalar v => some v
  | .array elements => (writtenElements? elements).map .array
  | .inlineTable entries => (writtenEntries? [] entries).map fun inner => .table (entryValues inner)

def writtenElements? : List Written → Option (List Value)
  | [] => some []
  | first :: rest => do
    let v ← first.toValue?
    let more ← writtenElements? rest
    pure (v :: more)

def writtenEntries? (before : Entries) : List (Path × Written) → Option Entries
  | [] => some before
  | (path, value) :: rest => do
    let v ← value.toValue?
    let entries ← before.add? (.leaf v) path
    writtenEntries? entries rest

end

/-- Opens the table of a header: one more element of an array, or a table that no header opened and
no key made. -/
def Entries.open? (element : Bool) (name : String) (entries : Entries) : Option Entries :=
  entries.alter? (fun
    | none => some (if element then .tables [[]] else .table .header [])
    | some (.tables elements) => if element then some (.tables ([] :: elements)) else none
    | some (.table .implicit inner) => if element then none else some (.table .header inner)
    | some (.table _ _) | some (.leaf _) => none) name

/-- Adds one expression to a document, `current` being the path of the header above it. -/
def addExpression? (root : Entries) (current : Path) : Expression → Option (Entries × Path)
  | .header path => do
    let root ← root.under? (Entries.open? false (path.getLast?.getD "")) path.dropLast
    pure (root, path)
  | .elementHeader path => do
    let root ← root.under? (Entries.open? true (path.getLast?.getD "")) path.dropLast
    pure (root, path)
  | .pair path value => do
    let v ← value.toValue?
    let root ← root.under? (Entries.add? (.leaf v) path) current
    pure (root, current)

/-- The document of a list of expressions. -/
def assemble? (root : Entries) (current : Path) : List Expression → Option Entries
  | [] => some root
  | expression :: rest => do
    let (root, current) ← addExpression? root current expression
    assemble? root current rest

/-- The entries of the document with the given text, if it is TOML. -/
def parse? (text : String) : Option (List (String × Value)) := do
  let entries ← assemble? [] [] (← expressions? text)
  pure (entryValues entries)

end EntitySql.Toml
