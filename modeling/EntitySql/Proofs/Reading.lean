import EntitySql.Sql.Lexeme

/-!
# Reading statements back

A reader of statements takes lexemes from the front and leaves the rest. It only goes by what a
text shows of the lexemes: not by which value stands in a place, nor by whether an equality sign
assigns or compares. Therefore it reads statements in which every literal is a hole. What is read
from the lexemes of a statement is that statement with holes (`Select.anonymous`,
`Update.anonymous`).

The fuel of a reader bounds the depth of what it reads. As many units as there are lexemes will do.
-/

namespace EntitySql.Sql

/-! ### What a text shows -/

/-- A lexeme as it looks: values are alike, and so are the signs of assignment and equality. -/
def Lexeme.shown : Lexeme → Lexeme
  | .value _ => .value .null
  | .word .assign => .word (.compare .eq)
  | lexeme => lexeme

mutual

/-- A source with a hole for each literal. -/
def Source.anonymous : Source → Source
  | .table name alias? => .table name alias?
  | .join kind left right condition =>
    .join kind left.anonymous right.anonymous condition.anonymous
  | .subquery query aliasName => .subquery query.anonymous aliasName

/-- A join condition with a hole for each literal. -/
def JoinCondition.anonymous : JoinCondition → JoinCondition
  | .unconditional => .unconditional
  | .holds p => .holds p.anonymous
  | .sharing columns => .sharing columns

/-- A query with a hole for each literal. Of the row counts only their presence is left. -/
def Select.anonymous : Select → Select
  | ⟨selections, source, filter, groupBy, having, limit, offset⟩ =>
    ⟨selections, source.anonymous, filter.anonymous, groupBy, having.anonymous, min limit 1,
      min offset 1⟩

/-- A filter with a hole for each literal. -/
def Filter.anonymous : Filter → Filter
  | .all => .all
  | .only p => .only p.anonymous

/-- A predicate with a hole for each literal. -/
def Predicate.anonymous : Predicate → Predicate
  | .compare op left right => .compare op left right.anonymous
  | .member left query => .member left query.anonymous
  | .not p => .not p.anonymous
  | .exists query => .exists query.anonymous
  | .and p q => .and p.anonymous q.anonymous
  | .or p q => .or p.anonymous q.anonymous

/-- An expression with a hole for each literal. -/
def Expr.anonymous : Expr → Expr
  | .term t => .term t
  | .literal _ => .literal .null
  | .predicate p => .predicate p.anonymous
  | .subquery query => .subquery query.anonymous
  | .quantified q query => .quantified q query.anonymous

end

/-- An update with a hole for each literal. -/
def Update.anonymous (u : Update) : Update where
  table := u.table
  assignments := u.assignments.map fun (column, value) => (column, value.anonymous)
  filter := u.filter.anonymous

/-! ### Readers -/

/-- A way to take something from the front of a list of lexemes. -/
abbrev Reader (α : Type) := List Lexeme → Option (α × List Lexeme)

section Combinators

variable {α : Type}

/-- Takes one word. -/
def take (w : Word) : List Lexeme → Option (List Lexeme)
  | .word w' :: rest => if w' = w then some rest else none
  | _ => none

/-- Reads what stands in parentheses. -/
def inParens (read : Reader α) : Reader α := fun lexemes => do
  let (a, rest) ← read (← take .openParen lexemes)
  pure (a, ← take .closeParen rest)

/-- Reads what stands behind a word, if that comes next. -/
def optional (w : Word) (read : Reader α) : Reader (Option α) := fun lexemes =>
  match take w lexemes with
  | none => some (none, lexemes)
  | some rest => do
    let (a, rest) ← read rest
    pure (some a, rest)

/-- Reads entries with commas between them, up to a number; none where no entry can be read. -/
def readEntries (read : Reader α) : Nat → Reader (List α)
  | 0, lexemes => some ([], lexemes)
  | fuel + 1, lexemes =>
    match read lexemes with
    | none => some ([], lexemes)
    | some (a, rest) =>
      match take .comma rest with
      | none => some ([a], rest)
      | some rest => do
        let (more, rest) ← readEntries read fuel rest
        pure (a :: more, rest)

/-- Reads a list with commas between its entries. -/
def readList (read : Reader α) : Reader (List α) := fun lexemes =>
  readEntries read lexemes.length lexemes

end Combinators

def readName : Reader String
  | .name s :: rest => some (s, rest)
  | _ => none

/-- Reads the place of a value. -/
def readHole : Reader Unit
  | .value _ :: rest => some ((), rest)
  | _ => none

def readColumn : Reader Column := fun lexemes => do
  let (first, rest) ← readName lexemes
  match ← optional .dot readName rest with
  | (none, rest) => pure (⟨none, first⟩, rest)
  | (some second, rest) => pure (⟨some first, second⟩, rest)

def readTerm : Reader Term
  | .word (.aggregate fn) :: rest =>
    match rest with
    | .word .openParen :: .word .star :: .word .closeParen :: rest =>
      if fn = .count then some (.countAll, rest) else none
    | rest => do
      let (argument, rest) ← inParens readColumn rest
      pure (.aggregate fn argument, rest)
  | lexemes => do
    let (c, rest) ← readColumn lexemes
    pure (.column c, rest)

def readSelection : Reader Selection := fun lexemes => do
  let (term, rest) ← readTerm lexemes
  let (alias?, rest) ← optional .aliased readName rest
  pure (⟨term, alias?⟩, rest)

def readSelections : Reader (List Selection) := fun lexemes =>
  match take .star lexemes with
  | some rest => some ([], rest)
  | none => readList readSelection lexemes

def readGroups : Reader (List Column) := fun lexemes => do
  let (columns?, rest) ← optional .groupBy (readList readColumn) lexemes
  pure (columns?.getD [], rest)

/-- Reads whether a row count is there. -/
def readRowCount (w : Word) : Reader Nat := fun lexemes => do
  let (hole?, rest) ← optional w readHole lexemes
  pure (if hole?.isSome then 1 else 0, rest)

def readFilter (w : Word) (readPredicate : Reader Predicate) : Reader Filter := fun lexemes => do
  let (p?, rest) ← optional w readPredicate lexemes
  pure (p?.elim .all .only, rest)

def readJoinKind : Reader JoinKind
  | .word (.join kind) :: rest => some (kind, rest)
  | _ => none

def readJoinCondition (readPredicate : Reader Predicate) : Reader JoinCondition :=
  fun lexemes => do
  match ← optional .condition readPredicate lexemes with
  | (some p, rest) => pure (.holds p, rest)
  | (none, lexemes) =>
    match ← optional .sharing (inParens (readList readName)) lexemes with
    | (some columns, rest) => pure (.sharing columns, rest)
    | (none, rest) => pure (.unconditional, rest)

/-- Whether a query in parentheses comes next, and not a predicate or a join. -/
def opensQuery (lexemes : List Lexeme) : Bool :=
  ((take .openParen lexemes).bind (take .select)).isSome

mutual

def readSource : Nat → Reader Source
  | 0, _ => none
  | fuel + 1, lexemes =>
    match readName lexemes with
    | some (name, rest) => do
      let (alias?, rest) ← optional .aliased readName rest
      pure (.table name alias?, rest)
    | none =>
      if opensQuery lexemes then do
        let (query, rest) ← inParens (readSelect fuel) lexemes
        let (aliasName, rest) ← readName (← take .aliased rest)
        pure (.subquery query aliasName, rest)
      else
        inParens (fun lexemes => do
          let (left, rest) ← readSource fuel lexemes
          let (kind, rest) ← readJoinKind rest
          let (right, rest) ← readSource fuel rest
          let (condition, rest) ← readJoinCondition (readPredicate fuel) rest
          pure (.join kind left right condition, rest)) lexemes

def readSelect : Nat → Reader Select
  | 0, _ => none
  | fuel + 1, lexemes => do
    let (selections, rest) ← readSelections (← take .select lexemes)
    let (source, rest) ← readSource fuel (← take .from rest)
    let (filter, rest) ← readFilter .filter (readPredicate fuel) rest
    let (groupBy, rest) ← readGroups rest
    let (having, rest) ← readFilter .having (readPredicate fuel) rest
    let (limit, rest) ← readRowCount .limit rest
    let (offset, rest) ← readRowCount .offset rest
    pure (⟨selections, source, filter, groupBy, having, limit, offset⟩, rest)

def readPredicate : Nat → Reader Predicate
  | 0, _ => none
  | fuel + 1, lexemes =>
    match readTerm lexemes with
    | some (left, .word (.compare op) :: rest) => do
      let (right, rest) ← readOperand fuel rest
      pure (.compare op left right, rest)
    | some (.column left, .word .member :: rest) => do
      let (query, rest) ← inParens (readSelect fuel) rest
      pure (.member left query, rest)
    | some _ => none
    | none =>
      match lexemes with
      | .word .not :: rest => do
        let (p, rest) ← inParens (readPredicate fuel) rest
        pure (.not p, rest)
      | .word .exists :: rest => do
        let (query, rest) ← inParens (readSelect fuel) rest
        pure (.exists query, rest)
      | lexemes => do
        match ← inParens (readPredicate fuel) lexemes with
        | (p, .word .and :: rest) =>
          let (q, rest) ← inParens (readPredicate fuel) rest
          pure (.and p q, rest)
        | (p, .word .or :: rest) =>
          let (q, rest) ← inParens (readPredicate fuel) rest
          pure (.or p q, rest)
        | _ => none

/-- Reads the right side of a comparison. -/
def readOperand : Nat → Reader Expr
  | 0, _ => none
  | fuel + 1, lexemes =>
    match readTerm lexemes with
    | some (t, rest) => some (.term t, rest)
    | none =>
      match lexemes with
      | .value _ :: rest => some (.literal .null, rest)
      | .word (.quantifier q) :: rest => do
        let (query, rest) ← inParens (readSelect fuel) rest
        pure (.quantified q query, rest)
      | lexemes =>
        if opensQuery lexemes then do
          let (query, rest) ← inParens (readSelect fuel) lexemes
          pure (.subquery query, rest)
        else do
          let (p, rest) ← inParens (readPredicate fuel) lexemes
          pure (.predicate p, rest)

end

/-- Whether what stands before is the left side of a predicate. -/
def continuesPredicate : List Lexeme → Bool
  | .word (.compare _) :: _ | .word .member :: _ => true
  | _ => false

/-- Reads a value that is assigned. A predicate stands there without parentheses. -/
def readExpr (fuel : Nat) : Reader Expr := fun lexemes =>
  let predicate := do
    let (p, rest) ← readPredicate fuel lexemes
    pure (.predicate p, rest)
  match readTerm lexemes with
  | some (t, rest) => if continuesPredicate rest then predicate else some (.term t, rest)
  | none =>
    match lexemes with
    | .value _ :: rest => some (.literal .null, rest)
    | .word (.quantifier q) :: rest => do
      let (query, rest) ← inParens (readSelect fuel) rest
      pure (.quantified q query, rest)
    | lexemes =>
      if opensQuery lexemes then do
        let (query, rest) ← inParens (readSelect fuel) lexemes
        pure (.subquery query, rest)
      else predicate

def readAssignment (fuel : Nat) : Reader (String × Expr) := fun lexemes => do
  let (column, rest) ← readName lexemes
  let (value, rest) ← readExpr fuel (← take (.compare .eq) rest)
  pure ((column, value), rest)

def readUpdate (fuel : Nat) : Reader Update := fun lexemes => do
  let (table, rest) ← readName (← take .update lexemes)
  let (assignments, rest) ← readList (readAssignment fuel) (← take .set rest)
  let (filter, rest) ← readFilter .filter (readPredicate fuel) rest
  pure (⟨table, assignments, filter⟩, rest)

end EntitySql.Sql
