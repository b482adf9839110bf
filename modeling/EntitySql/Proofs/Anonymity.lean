import EntitySql.Proofs.Reading
import EntitySql.Resolution.Update
import Mathlib.Control.Monad.Basic

/-!
# Statements with holes

Statements over entity types with a hole for each literal, as there are SQL statements with holes in
`EntitySql.Proofs.Reading`. What names stand for has nothing to do with literals, so a subquery
exposes the same columns with holes as without them (`Select.exposed?_anonymous`), and making holes
before resolution comes to the same as making them after it (`Select.resolve_anonymous`).
-/

namespace EntitySql

mutual

/-- A column reference with a hole for each literal of a subquery that it refers to. -/
def Column.anonymous : Column → Column
  | .bare name => .bare name
  | .ofTable entity alias? name => .ofTable entity alias? name
  | .ofSubquery query aliasName name => .ofSubquery query.anonymous aliasName name

def Term.anonymous : Term → Term
  | .column c => .column c.anonymous
  | .aggregate fn argument => .aggregate fn argument.anonymous
  | .countAll => .countAll

def Selection.anonymous : Selection → Selection
  | ⟨term, alias?⟩ => ⟨term.anonymous, alias?⟩

/-- A source with a hole for each literal. -/
def Source.anonymous : Source → Source
  | .own => .own
  | .table entity alias? => .table entity alias?
  | .joinWhere kind left right predicates =>
    .joinWhere kind left.anonymous right.anonymous (anonymousPredicates predicates)
  | .joinSharing kind left right columns =>
    .joinSharing kind left.anonymous right.anonymous columns
  | .subquery query aliasName => .subquery query.anonymous aliasName

/-- A query with a hole for each literal. Of the row counts only their presence is left. -/
def Select.anonymous : Select → Select
  | ⟨entity, selections, source, filter, groupBy, having, limit, offset⟩ =>
    ⟨entity, anonymousSelections selections, source.anonymous, anonymousPredicates filter,
      anonymousColumns groupBy, anonymousPredicates having, min limit 1, min offset 1⟩

/-- A predicate with a hole for each literal. -/
def Predicate.anonymous : Predicate → Predicate
  | .compare op left right => .compare op left.anonymous right.anonymous
  | .member left query => .member left.anonymous query.anonymous
  | .not p => .not p.anonymous
  | .exists query => .exists query.anonymous
  | .and p q => .and p.anonymous q.anonymous
  | .or p q => .or p.anonymous q.anonymous

/-- An expression with a hole for each literal. -/
def Expr.anonymous : Expr → Expr
  | .term t => .term t.anonymous
  | .literal _ => .literal .null
  | .predicate p => .predicate p.anonymous
  | .subquery query => .subquery query.anonymous
  | .quantified q query => .quantified q query.anonymous

def anonymousColumns : List Column → List Column
  | [] => []
  | c :: rest => c.anonymous :: anonymousColumns rest

def anonymousSelections : List Selection → List Selection
  | [] => []
  | s :: rest => s.anonymous :: anonymousSelections rest

def anonymousPredicates : List Predicate → List Predicate
  | [] => []
  | p :: rest => p.anonymous :: anonymousPredicates rest

end

/-! ### What names stand for -/

mutual

/-- A query exposes the same columns with holes. -/
theorem Select.exposed?_anonymous (query : Select) (name : String) :
    query.anonymous.exposed? name = query.exposed? name := by
  obtain ⟨entity, selections, source, filter, groupBy, having, limit, offset⟩ := query
  cases selections with
  | nil => rfl
  | cons first rest =>
    have entries := fun model => firstExposed?_anonymous model name (first :: rest)
    simp only [anonymousSelections] at entries
    simp only [Select.anonymous, anonymousSelections, Select.exposed?, entries]

theorem firstExposed?_anonymous (model : TableModel) (name : String) (selections : List Selection) :
    firstExposed? model name (anonymousSelections selections) =
      firstExposed? model name selections := by
  cases selections with
  | nil => rfl
  | cons first rest =>
    have more := firstExposed?_anonymous model name rest
    obtain ⟨term, alias?⟩ := first
    cases term with
    | column c =>
      cases alias? with
      | none =>
        have answer := Column.answering?_anonymous model name c
        simp only [anonymousSelections, Selection.anonymous, Term.anonymous, firstExposed?, answer,
          more]
      | some aliasName =>
        simp only [anonymousSelections, Selection.anonymous, Term.anonymous, firstExposed?, more]
    | aggregate fn argument =>
      simp only [anonymousSelections, Selection.anonymous, Term.anonymous, firstExposed?, more]
    | countAll =>
      simp only [anonymousSelections, Selection.anonymous, Term.anonymous, firstExposed?, more]

theorem Column.answering?_anonymous (model : TableModel) (name : String) (c : Column) :
    c.anonymous.answering? model name = c.answering? model name := by
  cases c with
  | bare own => rfl
  | ofTable entity alias? own => rfl
  | ofSubquery query aliasName own =>
    have exposed := fun name => Select.exposed?_anonymous query name
    simp only [Column.anonymous, Column.answering?, exposed]

end

theorem Column.resolve_anonymous (scope : TableModel) (c : Column) :
    c.anonymous.resolve scope = c.resolve scope := by
  cases c with
  | bare name => rfl
  | ofTable entity alias? name => rfl
  | ofSubquery query aliasName name =>
    rw [Column.anonymous, Column.resolve, Column.resolve, query.exposed?_anonymous]

theorem Term.resolve_anonymous (scope : TableModel) (t : Term) :
    t.anonymous.resolve scope = t.resolve scope := by
  cases t with
  | column c => rw [Term.anonymous, Term.resolve, Term.resolve, c.resolve_anonymous]
  | aggregate fn argument =>
    rw [Term.anonymous, Term.resolve, Term.resolve, argument.resolve_anonymous]
  | countAll => rfl

theorem mapM_resolve_anonymousSelections (scope : TableModel) (selections : List Selection) :
    (anonymousSelections selections).mapM (Selection.resolve scope) =
      selections.mapM (Selection.resolve scope) := by
  induction selections with
  | nil => rfl
  | cons first rest ih =>
    have entry : first.anonymous.resolve scope = first.resolve scope := by
      obtain ⟨term, alias?⟩ := first
      simp only [Selection.anonymous, Selection.resolve, term.resolve_anonymous]
    rw [anonymousSelections, List.mapM_cons, List.mapM_cons, entry, ih]

theorem mapM_resolve_anonymousColumns (scope : TableModel) (columns : List Column) :
    (anonymousColumns columns).mapM (Column.resolve scope) =
      columns.mapM (Column.resolve scope) := by
  induction columns with
  | nil => rfl
  | cons first rest ih =>
    rw [anonymousColumns, List.mapM_cons, List.mapM_cons, first.resolve_anonymous, ih]

/-- A side of a join has the same columns with holes. -/
theorem Source.column?_anonymous (scope : TableModel) (name : String) :
    ∀ s : Source, s.anonymous.column? scope name = s.column? scope name
  | .own => rfl
  | .table _ _ => rfl
  | .joinWhere _ left right _ | .joinSharing _ left right _ => by
    rw [Source.anonymous, Source.column?, Source.column?, left.column?_anonymous scope name,
      right.column?_anonymous scope name]
  | .subquery query _ => query.exposed?_anonymous name

theorem sharedColumn_anonymous (scope : TableModel) (left right : Source) :
    sharedColumn scope left.anonymous right.anonymous = sharedColumn scope left right := by
  funext name
  rw [sharedColumn, sharedColumn, left.column?_anonymous, right.column?_anonymous]

/-! ### Resolution -/

theorem Sql.Filter.conjunction_anonymous (predicates : List Sql.Predicate) :
    Sql.Filter.conjunction (predicates.map Sql.Predicate.anonymous) =
      (Sql.Filter.conjunction predicates).anonymous := by
  have folded : ∀ (rest : List Sql.Predicate) (p : Sql.Predicate),
      (rest.map Sql.Predicate.anonymous).foldl .and p.anonymous =
        (rest.foldl .and p).anonymous := by
    intro rest
    induction rest with
    | nil => exact fun _ => rfl
    | cons q rest ih =>
      intro p
      exact ih (.and p q)
  cases predicates with
  | nil => rfl
  | cons p rest => exact congrArg Sql.Filter.only (folded rest p)

mutual

/-- Resolving a query with holes makes holes in what the query resolves to. -/
theorem Select.resolve_anonymous (s : Select) :
    s.anonymous.resolve = Sql.Select.anonymous <$> s.resolve := by
  obtain ⟨entity, selections, source, filter, groupBy, having, limit, offset⟩ := s
  have source := fun scope => Source.resolve_anonymous scope source
  have filter := fun scope => resolvePredicates_anonymous scope filter
  have having := fun scope => resolvePredicates_anonymous scope having
  simp only [Select.anonymous, Select.resolve, mapM_resolve_anonymousSelections,
    mapM_resolve_anonymousColumns, source, filter, having, map_bind, bind_map_left, map_pure,
    Sql.Filter.conjunction_anonymous, Sql.Select.anonymous]

theorem Source.resolve_anonymous (scope : TableModel) (s : Source) :
    s.anonymous.resolve scope = Sql.Source.anonymous <$> s.resolve scope := by
  cases s with
  | own => rfl
  | table entity alias? => rfl
  | joinWhere kind left right predicates =>
    simp only [Source.anonymous, Source.resolve, Source.resolve_anonymous scope left,
      Source.resolve_anonymous scope right, resolvePredicates_anonymous scope predicates, map_bind,
      bind_map_left, Sql.Filter.conjunction_anonymous]
    refine bind_congr fun left => bind_congr fun right => bind_congr fun predicates => ?_
    cases Sql.Filter.conjunction predicates <;> rfl
  | joinSharing kind left right columns =>
    simp only [Source.anonymous, Source.resolve, Source.resolve_anonymous scope left,
      Source.resolve_anonymous scope right, sharedColumn_anonymous, map_bind, bind_map_left]
    refine bind_congr fun left => bind_congr fun right => bind_congr fun shared => ?_
    cases shared <;> rfl
  | subquery query aliasName =>
    simp only [Source.anonymous, Source.resolve, Select.resolve_anonymous query, map_bind,
      bind_map_left, map_pure, Sql.Source.anonymous]

theorem resolvePredicates_anonymous (scope : TableModel) (predicates : List Predicate) :
    resolvePredicates scope (anonymousPredicates predicates) =
      List.map Sql.Predicate.anonymous <$> resolvePredicates scope predicates := by
  cases predicates with
  | nil => rfl
  | cons p rest =>
    simp only [anonymousPredicates, resolvePredicates, Predicate.resolve_anonymous scope p,
      resolvePredicates_anonymous scope rest, map_bind, bind_map_left, map_pure, List.map_cons]

theorem Predicate.resolve_anonymous (scope : TableModel) (p : Predicate) :
    p.anonymous.resolve scope = Sql.Predicate.anonymous <$> p.resolve scope := by
  cases p with
  | compare op left right =>
    simp only [Predicate.anonymous, Predicate.resolve, left.resolve_anonymous,
      Expr.resolve_anonymous scope right, map_bind, bind_map_left, map_pure,
      Sql.Predicate.anonymous]
  | member left query =>
    simp only [Predicate.anonymous, Predicate.resolve, left.resolve_anonymous,
      Select.resolve_anonymous query, map_bind, bind_map_left, map_pure, Sql.Predicate.anonymous]
  | not p =>
    simp only [Predicate.anonymous, Predicate.resolve, Predicate.resolve_anonymous scope p,
      map_bind, bind_map_left, map_pure, Sql.Predicate.anonymous]
  | «exists» query =>
    simp only [Predicate.anonymous, Predicate.resolve, Select.resolve_anonymous query, map_bind,
      bind_map_left, map_pure, Sql.Predicate.anonymous]
  | and p q | or p q =>
    simp only [Predicate.anonymous, Predicate.resolve, Predicate.resolve_anonymous scope p,
      Predicate.resolve_anonymous scope q, map_bind, bind_map_left, map_pure,
      Sql.Predicate.anonymous]

theorem Expr.resolve_anonymous (scope : TableModel) (e : Expr) :
    e.anonymous.resolve scope = Sql.Expr.anonymous <$> e.resolve scope := by
  cases e with
  | term t =>
    simp only [Expr.anonymous, Expr.resolve, t.resolve_anonymous, map_bind, map_pure,
      Sql.Expr.anonymous]
  | literal v => rfl
  | predicate p =>
    simp only [Expr.anonymous, Expr.resolve, Predicate.resolve_anonymous scope p, map_bind,
      bind_map_left, map_pure, Sql.Expr.anonymous]
  | subquery query =>
    simp only [Expr.anonymous, Expr.resolve, Select.resolve_anonymous query, map_bind,
      bind_map_left, map_pure, Sql.Expr.anonymous]
  | quantified q query =>
    simp only [Expr.anonymous, Expr.resolve, Select.resolve_anonymous query, map_bind,
      bind_map_left, map_pure, Sql.Expr.anonymous]

end

theorem resolveFilter_anonymous (scope : TableModel) (predicates : List Predicate) :
    resolveFilter scope (anonymousPredicates predicates) =
      Sql.Filter.anonymous <$> resolveFilter scope predicates := by
  simp only [resolveFilter, resolvePredicates_anonymous, map_bind, bind_map_left, map_pure,
    Sql.Filter.conjunction_anonymous]

end EntitySql
