import EntitySql.Resolution.Exposure
import EntitySql.Sql.Basic

/-!
# Resolving queries

Resolution turns a statement over entity types into SQL: it asks for the model of each entity type
where the statement comes to it, from left to right, and puts tables and columns in the place of
the names. A bare column belongs to the entity type of the innermost query around it, whose model
is the `scope`. The first name that stands for nothing is the error.
-/

namespace EntitySql

/-- The SQL column of a reference. -/
def Column.resolve (scope : TableModel) : Column → Inquiry Sql.Column
  | .bare name => do
    let field ← Inquiry.require (scope.resolve? name) (.unknownColumn name)
    pure ⟨none, field.column⟩
  | .ofTable entity alias? name => do
    let model ← Inquiry.model entity
    let field ← Inquiry.require (model.resolve? name) (.unknownColumn name)
    pure ⟨some (alias?.getD model.table), field.column⟩
  | .ofSubquery query aliasName name => do
    let column ← Inquiry.require (← query.exposed? name) (.unknownColumn name)
    pure ⟨some aliasName, column⟩

def Term.resolve (scope : TableModel) : Term → Inquiry Sql.Term
  | .column c => do pure (.column (← c.resolve scope))
  | .aggregate fn argument => do pure (.aggregate fn (← argument.resolve scope))
  | .countAll => pure .countAll

def Selection.resolve (scope : TableModel) (s : Selection) : Inquiry Sql.Selection := do
  pure ⟨← s.term.resolve scope, s.alias?⟩

/-- The column that one side of a join has under the name `name`, if any. -/
def Source.column? (scope : TableModel) (name : String) : Source → Inquiry (Option String)
  | .own => pure ((scope.resolve? name).map (·.column))
  | .table entity _ => do
    let model ← Inquiry.model entity
    pure ((model.resolve? name).map (·.column))
  | .joinWhere _ left right _ | .joinSharing _ left right _ => do
    match ← left.column? scope name with
    | some column => pure (some column)
    | none => right.column? scope name
  | .subquery query _ => query.exposed? name

/-- The column that both sides of a join share under the name `name`. The left side is asked
first, and the right side only where the left one has no such column. -/
def sharedColumn (scope : TableModel) (left right : Source) (name : String) : Inquiry String := do
  match ← left.column? scope name with
  | some column => pure column
  | none => Inquiry.require (← right.column? scope name) (.unknownColumn name)

mutual

/-- The SQL query of a query. -/
def Select.resolve : Select → Inquiry Sql.Select
  | ⟨entity, selections, source, filter, groupBy, having, limit, offset⟩ => do
    let scope ← Inquiry.model entity
    let selections ← selections.mapM (Selection.resolve scope)
    let source ← source.resolve scope
    let filter ← resolvePredicates scope filter
    let groupBy ← groupBy.mapM (Column.resolve scope)
    let having ← resolvePredicates scope having
    pure ⟨selections, source, .conjunction filter, groupBy, .conjunction having, limit, offset⟩

def Source.resolve (scope : TableModel) : Source → Inquiry Sql.Source
  | .own => pure (.table scope.table none)
  | .table entity alias? => do
    let model ← Inquiry.model entity
    pure (.table model.table alias?)
  | .joinWhere kind left right predicates => do
    let left ← left.resolve scope
    let right ← right.resolve scope
    match Sql.Filter.conjunction (← resolvePredicates scope predicates) with
    | .all => pure (.join kind left right .unconditional)
    | .only p => pure (.join kind left right (.holds p))
  | .joinSharing kind left right columns => do
    let leftSource ← left.resolve scope
    let rightSource ← right.resolve scope
    match ← columns.mapM (sharedColumn scope left right) with
    | [] => pure (.join kind leftSource rightSource .unconditional)
    | shared => pure (.join kind leftSource rightSource (.sharing shared))
  | .subquery query aliasName => do pure (.subquery (← query.resolve) aliasName)

def resolvePredicates (scope : TableModel) : List Predicate → Inquiry (List Sql.Predicate)
  | [] => pure []
  | p :: rest => do
    let first ← p.resolve scope
    let more ← resolvePredicates scope rest
    pure (first :: more)

def Predicate.resolve (scope : TableModel) : Predicate → Inquiry Sql.Predicate
  | .compare op left right => do
    let left ← left.resolve scope
    let right ← right.resolve scope
    pure (.compare op left right)
  | .member left query => do
    let left ← left.resolve scope
    let query ← query.resolve
    pure (.member left query)
  | .not p => do pure (.not (← p.resolve scope))
  | .exists query => do pure (.exists (← query.resolve))
  | .and p q => do
    let p ← p.resolve scope
    let q ← q.resolve scope
    pure (.and p q)
  | .or p q => do
    let p ← p.resolve scope
    let q ← q.resolve scope
    pure (.or p q)

def Expr.resolve (scope : TableModel) : Expr → Inquiry Sql.Expr
  | .term t => do pure (.term (← t.resolve scope))
  | .literal v => pure (.literal v)
  | .predicate p => do pure (.predicate (← p.resolve scope))
  | .subquery query => do pure (.subquery (← query.resolve))
  | .quantified q query => do pure (.quantified q (← query.resolve))

end

/-- The filter that a list of predicates stands for: they all have to hold. -/
def resolveFilter (scope : TableModel) (predicates : List Predicate) : Inquiry Sql.Filter := do
  pure (.conjunction (← resolvePredicates scope predicates))

end EntitySql
