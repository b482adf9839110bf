import EntitySql.Toml.Scalar
import EntitySql.Toml.Text

/-!
# The lines of a TOML document

A document is a list of expressions: headers of tables, and keys with their values. A key is a path
of names. Values are read here as they are written; what the paths in them come to is settled later.
-/

namespace EntitySql.Toml

/-- The names that lead to a value. -/
abbrev Path := List String

/-- A value as it is written: keys in inline tables are still paths. -/
inductive Written
  | scalar (v : Value)
  | array (elements : List Written)
  | inlineTable (entries : List (Path × Written))

inductive Expression
  | header (path : Path)
  /-- The header of one more table in an array of tables. -/
  | elementHeader (path : Path)
  | pair (path : Path) (value : Written)

/-- Letters, digits, underscores and dashes need no quotes in a key. -/
def isBareKeyChar (c : Char) : Bool :=
  c.isAlphanum || c == '_' || c == '-'

/-- One name of a path, quoted or not, and what follows it. -/
def readName? : List Char → Option (String × List Char)
  | '"' :: '"' :: '"' :: _ | '\'' :: '\'' :: '\'' :: _ => none
  | '"' :: rest => (readBasic rest).map fun (s, after) => (String.ofList s, after)
  | '\'' :: rest => (readLiteral rest).map fun (s, after) => (String.ofList s, after)
  | s =>
    let name := s.takeWhile isBareKeyChar
    if name.isEmpty then none else some (String.ofList name, s.dropWhile isBareKeyChar)

/-- A path, of which at most `fuel` names are read, and what follows it and the blanks after it. -/
def readPathFrom? : Nat → List Char → Option (Path × List Char)
  | 0, _ => none
  | fuel + 1, s => do
    let (name, rest) ← readName? (skipBlanks s)
    match skipBlanks rest with
    | '.' :: rest =>
      let (path, rest) ← readPathFrom? fuel rest
      pure (name :: path, rest)
    | rest => pure ([name], rest)

/-- The number of names that a path may have, and of arrays and inline tables that may stand in one
another. -/
def depthLimit : Nat := 80

/-- A path, and what follows it and the blanks after it. -/
def readPath? (s : List Char) : Option (Path × List Char) :=
  readPathFrom? depthLimit s

/-- What follows a comment, which ends before a line end; nothing is skipped where there is none.
A comment may not hold control characters. -/
def skipComment? : List Char → Option (List Char)
  | '#' :: rest =>
    match rest.dropWhile isText with
    | [] => some []
    | rest => (newline? rest).map fun _ => rest
  | s => some s

/-- What follows blanks, comments and line ends. -/
def skipLines? : Nat → List Char → Option (List Char)
  | 0, s => some s
  | fuel + 1, s => do
    let s ← skipComment? (skipBlanks s)
    match newline? s with
    | some rest => skipLines? fuel rest
    | none => some s

mutual

/-- A value and what follows it; `fuel` bounds the number of values read, and `depth` the number of
arrays and inline tables that may stand in one another. -/
def readValue? : Nat → Nat → List Char → Option (Written × List Char)
  | 0, _, _ => none
  | fuel + 1, depth, s =>
    match s, depth with
    | '"' :: _, _ | '\'' :: _, _ =>
      (readString? s).map fun (text, rest) => (.scalar (.string text), rest)
    | '[' :: _, 0 | '\x7b' :: _, 0 => none
    | '[' :: rest, depth + 1 =>
      (readElements? fuel depth rest).map fun (elements, rest) => (.array elements, rest)
    | '\x7b' :: rest, depth + 1 =>
      (readEntries? fuel depth rest).map fun (entries, rest) => (.inlineTable entries, rest)
    | s, _ => (readScalar? s).map fun (v, rest) => (.scalar v, rest)

/-- The remaining elements of an array and what follows it. A comma may stand after the last one. -/
def readElements? : Nat → Nat → List Char → Option (List Written × List Char)
  | 0, _, _ => none
  | fuel + 1, depth, s => do
    match ← skipLines? s.length s with
    | ']' :: rest => pure ([], rest)
    | s =>
      let (first, rest) ← readValue? fuel depth s
      match ← skipLines? rest.length rest with
      | ',' :: rest =>
        let (more, rest) ← readElements? fuel depth rest
        pure (first :: more, rest)
      | ']' :: rest => pure ([first], rest)
      | _ => none

/-- The remaining entries of an inline table and what follows it. A comma may stand after the last
one, and lines may end anywhere but within a path. -/
def readEntries? : Nat → Nat → List Char → Option (List (Path × Written) × List Char)
  | 0, _, _ => none
  | fuel + 1, depth, s => do
    match ← skipLines? s.length s with
    | '\x7d' :: rest => pure ([], rest)
    | s =>
      let (path, rest) ← readPath? s
      match ← skipLines? rest.length rest with
      | '=' :: rest =>
        let (value, rest) ← readValue? fuel depth (← skipLines? rest.length rest)
        match ← skipLines? rest.length rest with
        | ',' :: rest =>
          let (more, rest) ← readEntries? fuel depth rest
          pure ((path, value) :: more, rest)
        | '\x7d' :: rest => pure ([(path, value)], rest)
        | _ => none
      | _ => none

end

/-- An expression and what follows it on its line. -/
def readExpression? (s : List Char) : Option (Expression × List Char) :=
  match s with
  | '[' :: '[' :: rest => do
    match ← readPath? rest with
    | (path, ']' :: ']' :: rest) => pure (.elementHeader path, rest)
    | _ => none
  | '[' :: rest => do
    match ← readPath? rest with
    | (path, ']' :: rest) => pure (.header path, rest)
    | _ => none
  | s => do
    match ← readPath? s with
    | (path, '=' :: rest) =>
      let (value, rest) ← readValue? (rest.length + 1) depthLimit (skipBlanks rest)
      pure (.pair path value, rest)
    | _ => none

/-- The expressions of a document, of which at most `fuel` are read. Each ends its line, save for a
comment. -/
def readExpressions? : Nat → List Char → Option (List Expression)
  | 0, s => if s.isEmpty then some [] else none
  | fuel + 1, s => do
    match ← skipLines? s.length s with
    | [] => some []
    | s =>
      let (first, rest) ← readExpression? s
      match ← skipComment? (skipBlanks rest) with
      | [] => some [first]
      | rest => do
        let rest ← newline? rest
        pure (first :: (← readExpressions? fuel rest))

/-- The expressions of a document. A byte order mark in front of it is ignored. -/
def expressions? (text : String) : Option (List Expression) :=
  match text.toList with
  | '\ufeff' :: s => readExpressions? (s.length + 1) s
  | s => readExpressions? (s.length + 1) s

end EntitySql.Toml
