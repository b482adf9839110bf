import EntitySql.Proofs.Exposure

/-!
# The columns that a query refers to

A query refers to columns in its select list, in its conditions, in what it groups by, in the
columns that its joins share, and all over again in the queries inside it. `Select.references` lists
these places in the order in which the query is written, each with the entity type of the innermost
query around it. Whether one of them resolves (`Reference.Resolves`) can be told from the models
alone, and so can the column that stands for it then (`Reference.Renders`).

In a resolved query, the columns are found in the places of the references (`Sql.Select.columns`),
and in this order they stand in its text (`Sql.Select.sublist_lexemes`).
-/

namespace EntitySql

/-! ### What resolves -/

/-- The query has a column that answers to `name`: one of its select list, and without a select list
one of the fields of its model. -/
def Select.Offers (model : EntityType → TableModel) (query : Select) (name : String) : Prop :=
  match query.selections with
  | [] => (model query.entity).Knows name
  | selections => ∃ s ∈ selections, ∃ x, s.Answers model (model query.entity) name x

/-- A column reference in the scope of a model has a meaning. -/
def Column.Resolves (model : EntityType → TableModel) (scope : TableModel) : Column → Prop
  | .bare name => scope.Knows name
  | .ofTable entity _ name => (model entity).Knows name
  | .ofSubquery query _ name => query.Offers model name

/-- The first of the columns that resolves stands for the column `x`. -/
def FirstRenders (model : EntityType → TableModel) (scope : TableModel) :
    List Column → String → Prop
  | [], _ => False
  | c :: rest, x =>
    (∃ qualifier?, c.Renders model scope ⟨qualifier?, x⟩) ∨
      ¬c.Resolves model scope ∧ FirstRenders model scope rest x

/-- A place in a query where a column is named, together with the entity type of the innermost query
around it. -/
inductive Reference
  | single (scope : EntityType) (c : Column)
  /-- A column that the sides of a join share, and what it would be in each leaf of the join. -/
  | shared (scope : EntityType) (leaves : List Column) (name : String)

namespace Reference

/-- The name that is referred to. -/
def name : Reference → String
  | single _ c => c.name
  | shared _ _ name => name

def Resolves (model : EntityType → TableModel) : Reference → Prop
  | single scope c => c.Resolves model (model scope)
  | shared scope leaves _ => ∃ leaf ∈ leaves, leaf.Resolves model (model scope)

/-- The column that is written in the place of the reference. What is shared has no qualifier, and
is the column of the first leaf that has one. -/
def Renders (model : EntityType → TableModel) : Reference → Sql.Column → Prop
  | single scope c, column => c.Renders model (model scope) column
  | shared scope leaves _, column =>
    column.qualifier? = none ∧ FirstRenders model (model scope) leaves column.name

end Reference

variable {model : EntityType → TableModel} {scope : TableModel}

theorem Select.exists_exposes {query : Select} {name : String} :
    (∃ x, query.Exposes model name x) ↔ query.Offers model name := by
  obtain ⟨entity, _ | ⟨first, rest⟩, source, filter, groupBy, having, limit, offset⟩ := query
  · exact TableModel.exists_means
  · exact exists_firstAnswers

/-- Which qualifier a column has does not matter to whether there is one. -/
theorem exists_column {qualifier? : Option String} {R : String → Prop} :
    (∃ column : Sql.Column, column.qualifier? = qualifier? ∧ R column.name) ↔ ∃ x, R x := by
  constructor
  · rintro ⟨column, -, h⟩
    exact ⟨column.name, h⟩
  · rintro ⟨x, h⟩
    exact ⟨⟨qualifier?, x⟩, rfl, h⟩

/-- The references that resolve are those that stand for a column. -/
theorem Column.exists_renders {c : Column} :
    (∃ column, c.Renders model scope column) ↔ c.Resolves model scope := by
  cases c with
  | bare name | ofTable entity alias? name => exact exists_column.trans TableModel.exists_means
  | ofSubquery query aliasName name => exact exists_column.trans Select.exists_exposes

theorem exists_firstRenders {columns : List Column} :
    (∃ x, FirstRenders model scope columns x) ↔ ∃ c ∈ columns, c.Resolves model scope := by
  induction columns with
  | nil => simp [FirstRenders]
  | cons c rest ih =>
    have here : (∃ x qualifier?, c.Renders model scope ⟨qualifier?, x⟩) ↔
        c.Resolves model scope := by
      rw [← Column.exists_renders]
      constructor
      · rintro ⟨x, qualifier?, renders⟩
        exact ⟨⟨qualifier?, x⟩, renders⟩
      · rintro ⟨column, renders⟩
        exact ⟨column.name, column.qualifier?, renders⟩
    simp only [FirstRenders, exists_or, here, exists_and_left, ih, List.mem_cons, exists_eq_or_imp]
    by_cases resolves : c.Resolves model scope <;> simp [resolves]

/-- The first column that resolves stands for one column. -/
theorem FirstRenders.unique {columns : List Column} {x y : String}
    (hx : FirstRenders model scope columns x) (hy : FirstRenders model scope columns y) : x = y := by
  induction columns with
  | nil => exact hx.elim
  | cons c rest ih =>
    rcases hx with ⟨qualifier?, hx⟩ | ⟨unresolved, hx⟩ <;>
      rcases hy with ⟨qualifier?', hy⟩ | ⟨unresolved', hy⟩
    · exact congrArg Sql.Column.name (hx.unique hy)
    · exact absurd (Column.exists_renders.1 ⟨_, hx⟩) unresolved'
    · exact absurd (Column.exists_renders.1 ⟨_, hy⟩) unresolved
    · exact ih hx hy

theorem firstRenders_append {left right : List Column} {x : String} :
    FirstRenders model scope (left ++ right) x ↔
      FirstRenders model scope left x ∨
        (∀ y, ¬FirstRenders model scope left y) ∧ FirstRenders model scope right x := by
  rw [← not_exists, exists_firstRenders]
  induction left with
  | nil => simp [FirstRenders]
  | cons c rest ih =>
    simp only [List.cons_append, FirstRenders, ih, List.mem_cons, exists_eq_or_imp, not_or,
      and_or_left, or_assoc, and_assoc]

theorem Reference.exists_renders {ref : Reference} :
    (∃ column, ref.Renders model column) ↔ ref.Resolves model := by
  cases ref with
  | single scope c => exact Column.exists_renders
  | shared scope leaves name => exact exists_column.trans exists_firstRenders

/-! ### References in the order of writing -/

/-- The columns that the leaves of a source would have under the name `name`, from left to right. -/
def Source.leaves (name : String) : Source → List Column
  | .own => [.bare name]
  | .table entity alias? => [.ofTable entity alias? name]
  | .joinWhere _ left right _ | .joinSharing _ left right _ =>
    left.leaves name ++ right.leaves name
  | .subquery query aliasName => [.ofSubquery query aliasName name]

def Term.references (scope : EntityType) : Term → List Reference
  | .column c => [.single scope c]
  | .aggregate _ argument => [.single scope argument]
  | .countAll => []

mutual

/-- The references of a query. -/
def Select.references : Select → List Reference
  | ⟨entity, selections, source, filter, groupBy, having, _, _⟩ =>
    selections.flatMap (fun s => s.term.references entity) ++ source.references entity
      ++ predicateReferences entity filter ++ groupBy.map (.single entity)
      ++ predicateReferences entity having

def Source.references (scope : EntityType) : Source → List Reference
  | .own | .table _ _ => []
  | .joinWhere _ left right predicates =>
    left.references scope ++ right.references scope ++ predicateReferences scope predicates
  | .joinSharing _ left right columns =>
    left.references scope ++ right.references scope
      ++ columns.map fun name => .shared scope (left.leaves name ++ right.leaves name) name
  | .subquery query _ => query.references

def predicateReferences (scope : EntityType) : List Predicate → List Reference
  | [] => []
  | p :: rest => p.references scope ++ predicateReferences scope rest

def Predicate.references (scope : EntityType) : Predicate → List Reference
  | .compare _ left right => left.references scope ++ right.references scope
  | .member left query => .single scope left :: query.references
  | .not p => p.references scope
  | .exists query => query.references
  | .and p q | .or p q => p.references scope ++ q.references scope

def Expr.references (scope : EntityType) : Expr → List Reference
  | .term t => t.references scope
  | .literal _ => []
  | .predicate p => p.references scope
  | .subquery query | .quantified _ query => query.references

end

/-! ### The columns of resolved queries -/

namespace Sql

def Term.columns : Term → List Column
  | .column c => [c]
  | .aggregate _ argument => [argument]
  | .countAll => []

mutual

/-- The columns of a query, in the order in which it is written. -/
def Select.columns : Select → List Column
  | ⟨selections, source, filter, groupBy, having, _, _⟩ =>
    selections.flatMap (fun s => s.term.columns) ++ source.columns ++ filter.columns ++ groupBy
      ++ having.columns

def Source.columns : Source → List Column
  | .table _ _ => []
  | .join _ left right condition => left.columns ++ right.columns ++ condition.columns
  | .subquery query _ => query.columns

def JoinCondition.columns : JoinCondition → List Column
  | .unconditional => []
  | .holds p => p.columns
  | .sharing columns => columns.map (⟨none, ·⟩)

def Filter.columns : Filter → List Column
  | .all => []
  | .only p => p.columns

def Predicate.columns : Predicate → List Column
  | .compare _ left right => left.columns ++ right.columns
  | .member left query => left :: query.columns
  | .not p => p.columns
  | .exists query => query.columns
  | .and p q | .or p q => p.columns ++ q.columns

def Expr.columns : Expr → List Column
  | .term t => t.columns
  | .literal _ => []
  | .predicate p => p.columns
  | .subquery query | .quantified _ query => query.columns

end

theorem Filter.columns_conjunction (predicates : List Predicate) :
    (Filter.conjunction predicates).columns = predicates.flatMap Predicate.columns := by
  have fold (p : Predicate) (rest : List Predicate) :
      (rest.foldl .and p).columns = p.columns ++ rest.flatMap Predicate.columns := by
    induction rest generalizing p with
    | nil => simp
    | cons q rest ih => rw [List.foldl_cons, ih, Predicate.columns, List.append_assoc]; rfl
  cases predicates with
  | nil => rfl
  | cons p rest => exact fold p rest

/-! ### Columns in the text -/

/-- What the columns look like one after the other. -/
def columnLexemes (columns : List Column) : List Lexeme :=
  columns.flatMap Column.lexemes

@[simp] theorem columnLexemes_append (left right : List Column) :
    columnLexemes (left ++ right) = columnLexemes left ++ columnLexemes right :=
  List.flatMap_append ..

theorem sublist_parenthesized {part part' : List Lexeme} (h : part.Sublist part') :
    part.Sublist (parenthesized part') :=
  .cons _ (h.trans (List.sublist_append_left ..))

/-- The columns of the entries of a list, if they are found in the entries. -/
theorem sublist_commaSeparated {α : Type} (columns : α → List Column) (written : α → List Lexeme)
    (h : ∀ a, (columnLexemes (columns a)).Sublist (written a)) (l : List α) :
    (columnLexemes (l.flatMap columns)).Sublist (commaSeparated (l.map written)) := by
  induction l with
  | nil => exact .slnil
  | cons a rest ih =>
    rw [List.flatMap_cons, columnLexemes_append]
    cases rest with
    | nil => simpa [commaSeparated, columnLexemes] using h a
    | cons b rest => exact (h a).append (.cons _ ih)

theorem Term.sublist_lexemes : ∀ t : Term, (columnLexemes t.columns).Sublist t.lexemes
  | .column c => by simp [columns, columnLexemes, lexemes]
  | .aggregate _ argument =>
    .cons _ (sublist_parenthesized (by simp [columns, columnLexemes]))
  | .countAll => List.nil_sublist _

theorem sublist_selectionLexemes (selections : List Selection) :
    (columnLexemes (selections.flatMap fun s => s.term.columns)).Sublist
      (selectionLexemes selections) := by
  cases selections with
  | nil => exact List.nil_sublist _
  | cons first rest =>
    exact sublist_commaSeparated _ _ (fun s =>
      s.term.sublist_lexemes.trans (List.sublist_append_left ..)) (first :: rest)

theorem sublist_groupLexemes (columns : List Column) :
    (columnLexemes columns).Sublist (groupLexemes columns) := by
  cases columns with
  | nil => exact .slnil
  | cons first rest =>
    have entries := sublist_commaSeparated (fun c => [c]) Column.lexemes
      (fun c => by simp [columnLexemes]) (first :: rest)
    exact .cons _ (by simpa using entries)

mutual

/-- The columns of a query stand in its text, in this order. -/
theorem Select.sublist_lexemes : ∀ s : Select, (columnLexemes s.columns).Sublist s.lexemes
  | ⟨selections, source, filter, groupBy, having, limit, offset⟩ => by
    simp only [Select.columns, Select.lexemes, columnLexemes_append]
    have clauses := ((((sublist_selectionLexemes selections).append
      (.cons (.word .from) source.sublist_lexemes)).append (filter.sublist_lexemes .filter)).append
        (sublist_groupLexemes groupBy)).append (having.sublist_lexemes .having)
    exact .cons _ ((clauses.trans (List.sublist_append_left ..)).trans
      (List.sublist_append_left ..))

theorem Source.sublist_lexemes : ∀ s : Source, (columnLexemes s.columns).Sublist s.lexemes
  | .table _ _ => List.nil_sublist _
  | .join kind left right condition => by
    simp only [Source.columns, Source.lexemes, columnLexemes_append, List.append_assoc]
    exact sublist_parenthesized (left.sublist_lexemes.append
      (.cons _ (right.sublist_lexemes.append condition.sublist_lexemes)))
  | .subquery query _ =>
    (sublist_parenthesized query.sublist_lexemes).trans (List.sublist_append_left ..)

theorem JoinCondition.sublist_lexemes : ∀ c : JoinCondition,
    (columnLexemes c.columns).Sublist c.lexemes
  | .unconditional => .slnil
  | .holds p => .cons _ p.sublist_lexemes
  | .sharing columns => by
    rw [JoinCondition.columns, List.map_eq_flatMap]
    exact .cons _ (sublist_parenthesized (sublist_commaSeparated _ _ (fun x => .refl _) columns))

theorem Filter.sublist_lexemes (w : Word) : ∀ f : Filter,
    (columnLexemes f.columns).Sublist (f.lexemes w)
  | .all => .slnil
  | .only p => .cons _ p.sublist_lexemes

theorem Predicate.sublist_lexemes : ∀ p : Predicate, (columnLexemes p.columns).Sublist p.lexemes
  | .compare _ left right => by
    simp only [Predicate.columns, Predicate.lexemes, columnLexemes_append]
    exact left.sublist_lexemes.append (.cons _ right.sublist_operandLexemes)
  | .member left query =>
    (List.Sublist.refl left.lexemes).append (.cons _ (sublist_parenthesized query.sublist_lexemes))
  | .not p => .cons _ (sublist_parenthesized p.sublist_lexemes)
  | .exists query => .cons _ (sublist_parenthesized query.sublist_lexemes)
  | .and p q | .or p q => by
    simp only [Predicate.columns, Predicate.lexemes, columnLexemes_append]
    exact (sublist_parenthesized p.sublist_lexemes).append
      (.cons _ (sublist_parenthesized q.sublist_lexemes))

theorem Expr.sublist_operandLexemes : ∀ e : Expr,
    (columnLexemes e.columns).Sublist e.operandLexemes
  | .term t => t.sublist_lexemes
  | .literal _ => List.nil_sublist _
  | .predicate p => sublist_parenthesized p.sublist_lexemes
  | .subquery query => sublist_parenthesized query.sublist_lexemes
  | .quantified _ query => .cons _ (sublist_parenthesized query.sublist_lexemes)

end

end Sql

end EntitySql
