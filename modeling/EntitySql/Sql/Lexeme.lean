import EntitySql.Sql.Basic

/-!
# Statements as lexemes

A statement is written as a list of lexemes: words, names and the values that it binds. How a name
is quoted and what stands in the place of a value is up to the dialect. Predicates and queries
inside others stand in parentheses, so that the tree can be read off the text.
-/

namespace EntitySql.Sql

/-- A piece of a statement. -/
inductive Lexeme
  | word (w : Word)
  | name (s : String)
  | value (v : Value)
  deriving DecidableEq, Repr

/-- The parts of a list with commas between them. -/
def commaSeparated : List (List Lexeme) → List Lexeme
  | [] => []
  | [part] => part
  | part :: rest => part ++ .word .comma :: commaSeparated rest

/-- A part in parentheses. -/
def parenthesized (part : List Lexeme) : List Lexeme :=
  .word .openParen :: (part ++ [.word .closeParen])

def Column.lexemes (c : Column) : List Lexeme :=
  match c.qualifier? with
  | none => [.name c.name]
  | some qualifier => [.name qualifier, .word .dot, .name c.name]

def Term.lexemes : Term → List Lexeme
  | column c => c.lexemes
  | aggregate fn argument => .word (.aggregate fn) :: parenthesized argument.lexemes
  | countAll => .word (.aggregate .count) :: parenthesized [.word .star]

/-- The alias of a table or of an entry in a select list. -/
def aliasLexemes : Option String → List Lexeme
  | none => []
  | some aliasName => [.word .aliased, .name aliasName]

def Selection.lexemes (s : Selection) : List Lexeme :=
  s.term.lexemes ++ aliasLexemes s.alias?

/-- The select list; every column where it is empty. -/
def selectionLexemes : List Selection → List Lexeme
  | [] => [.word .star]
  | selections => commaSeparated (selections.map Selection.lexemes)

def groupLexemes : List Column → List Lexeme
  | [] => []
  | columns => .word .groupBy :: commaSeparated (columns.map Column.lexemes)

/-- A number of rows as a value; numbers beyond the largest integer are cut to it. -/
def rowCount (n : Nat) : Value :=
  .int64 (Int64.ofNat (min n 9223372036854775807))

/-- A limit or an offset. -/
def rowCountLexemes (w : Word) (n : Nat) : List Lexeme :=
  if n = 0 then [] else [.word w, .value (rowCount n)]

mutual

def Source.lexemes : Source → List Lexeme
  | .table name alias? => .name name :: aliasLexemes alias?
  | .join kind left right condition =>
    parenthesized (left.lexemes ++ .word (.join kind) :: (right.lexemes ++ condition.lexemes))
  | .subquery query aliasName => parenthesized query.lexemes ++ aliasLexemes (some aliasName)

def JoinCondition.lexemes : JoinCondition → List Lexeme
  | .unconditional => []
  | .holds p => .word .condition :: p.lexemes
  | .sharing columns =>
    .word .sharing :: parenthesized (commaSeparated (columns.map fun c => [.name c]))

def Select.lexemes : Select → List Lexeme
  | ⟨selections, source, filter, groupBy, having, limit, offset⟩ =>
    .word .select :: (selectionLexemes selections ++ .word .from :: source.lexemes
      ++ filter.lexemes .filter ++ groupLexemes groupBy ++ having.lexemes .having
      ++ rowCountLexemes .limit limit ++ rowCountLexemes .offset offset)

def Filter.lexemes (w : Word) : Filter → List Lexeme
  | .all => []
  | .only p => .word w :: p.lexemes

def Predicate.lexemes : Predicate → List Lexeme
  | .compare op left right => left.lexemes ++ .word (.compare op) :: right.operandLexemes
  | .member left query => left.lexemes ++ .word .member :: parenthesized query.lexemes
  | .not p => .word .not :: parenthesized p.lexemes
  | .exists query => .word .exists :: parenthesized query.lexemes
  | .and p q => parenthesized p.lexemes ++ .word .and :: parenthesized q.lexemes
  | .or p q => parenthesized p.lexemes ++ .word .or :: parenthesized q.lexemes

def Expr.lexemes : Expr → List Lexeme
  | .term t => t.lexemes
  | .literal v => [.value v]
  | .predicate p => p.lexemes
  | .subquery query => parenthesized query.lexemes
  | .quantified q query => .word (.quantifier q) :: parenthesized query.lexemes

/-- An expression as an operand of a predicate: predicates stand in parentheses. -/
def Expr.operandLexemes : Expr → List Lexeme
  | .term t => t.lexemes
  | .literal v => [.value v]
  | .predicate p => parenthesized p.lexemes
  | .subquery query => parenthesized query.lexemes
  | .quantified q query => .word (.quantifier q) :: parenthesized query.lexemes

end

def Update.lexemes (u : Update) : List Lexeme :=
  .word .update :: .name u.table :: .word .set ::
    (commaSeparated (u.assignments.map fun (column, value) =>
        .name column :: .word .assign :: value.lexemes)
      ++ u.filter.lexemes .filter)

end EntitySql.Sql
