import EntitySql.Proofs.NameResolution
import Mathlib.Data.List.Induction
import Mathlib.Data.List.ReduceOption

/-!
# The syntax trees of statements

Which SQL tree a statement has, told constructor by constructor and apart from resolution
(`Select.HasTree`, `Update.HasTree`). Operators and the order and grouping of their operands, kinds
of joins, aggregates, quantifiers, aliases, literals and row counts are those of the statement. The
own table of a statement is the table of its model, without an alias. A name gives way to the column
that it means where it stands (`Column.Renders`, `FirstRenders`). Predicates that all have to hold
are put together from left to right (`Sql.Filter.Conjoins`).

Resolution comes to the tree that the statement has, and fails where it has none
(`Select.answer_resolve_eq_ok`, `Update.answer_resolve_eq_ok`). So a statement has at most one tree, and
this is the one that is written.
-/

namespace EntitySql

open Inquiry

/-! ### Trees -/

/-- The filter that stands for all predicates of a list. One predicate stands for itself, and each
further one is the right side of an AND that has those in front of it on the left. -/
inductive Sql.Filter.Conjoins : List Sql.Predicate → Sql.Filter → Prop
  | none : Conjoins [] .all
  | one (p : Sql.Predicate) : Conjoins [p] (.only p)
  | more {before : List Sql.Predicate} {p : Sql.Predicate} (front : Conjoins before (.only p))
      (q : Sql.Predicate) :
    Conjoins (before ++ [q]) (.only (.and p q))

section

variable (model : EntityType → TableModel)

/-- A term in the scope of a model, and its tree. -/
inductive Term.HasTree (scope : TableModel) : Term → Sql.Term → Prop
  | column {c : Column} {column : Sql.Column} (renders : c.Renders model scope column) :
    HasTree scope (.column c) (.column column)
  | aggregate (fn : Sql.AggregateFn) {c : Column} {column : Sql.Column}
      (renders : c.Renders model scope column) :
    HasTree scope (.aggregate fn c) (.aggregate fn column)
  | countAll : HasTree scope .countAll .countAll

/-- An entry of a select list, and its tree. -/
inductive Selection.HasTree (scope : TableModel) : Selection → Sql.Selection → Prop
  | mk {t : Term} {term : Sql.Term} (h : t.HasTree model scope term) (alias? : Option String) :
    HasTree scope ⟨t, alias?⟩ ⟨term, alias?⟩

mutual

/-- A source in the scope of a model, and its tree. -/
inductive Source.HasTree : TableModel → Source → Sql.Source → Prop
  | own {scope : TableModel} : Source.HasTree scope .own (.table scope.table none)
  | table {scope : TableModel} (entity : EntityType) (alias? : Option String) :
    Source.HasTree scope (.table entity alias?) (.table (model entity).table alias?)
  | joinEvery {scope : TableModel} (kind : Sql.JoinKind) {left right : Source}
      {left' right' : Sql.Source} (onLeft : Source.HasTree scope left left')
      (onRight : Source.HasTree scope right right') :
    Source.HasTree scope (.joinWhere kind left right []) (.join kind left' right' .unconditional)
  | joinWhere {scope : TableModel} (kind : Sql.JoinKind) {left right : Source}
      {left' right' : Sql.Source} {predicates : List Predicate} {ps : List Sql.Predicate}
      {p : Sql.Predicate} (onLeft : Source.HasTree scope left left')
      (onRight : Source.HasTree scope right right') (each : PredicatesHaveTrees scope predicates ps)
      (condition : Sql.Filter.Conjoins ps (.only p)) :
    Source.HasTree scope (.joinWhere kind left right predicates)
      (.join kind left' right' (.holds p))
  | joinUnshared {scope : TableModel} (kind : Sql.JoinKind) {left right : Source}
      {left' right' : Sql.Source} (onLeft : Source.HasTree scope left left')
      (onRight : Source.HasTree scope right right') :
    Source.HasTree scope (.joinSharing kind left right []) (.join kind left' right' .unconditional)
  | joinSharing {scope : TableModel} (kind : Sql.JoinKind) {left right : Source}
      {left' right' : Sql.Source} {name : String} {names : List String} {columns : List String}
      (onLeft : Source.HasTree scope left left') (onRight : Source.HasTree scope right right')
      (shared : List.Forall₂
        (fun name x => FirstRenders model scope (left.leaves name ++ right.leaves name) x)
        (name :: names) columns) :
    Source.HasTree scope (.joinSharing kind left right (name :: names))
      (.join kind left' right' (.sharing columns))
  | subquery {scope : TableModel} {query : Select} {tree : Sql.Select}
      (inner : Select.HasTree query tree) (aliasName : String) :
    Source.HasTree scope (.subquery query aliasName) (.subquery tree aliasName)

/-- A query, and its tree. -/
inductive Select.HasTree : Select → Sql.Select → Prop
  | mk {entity : EntityType} {selections : List Selection} {selections' : List Sql.Selection}
      {source : Source} {source' : Sql.Source} {filter having : List Predicate}
      {ps ps' : List Sql.Predicate} {filter' having' : Sql.Filter} {groupBy : List Column}
      {groupBy' : List Sql.Column} (limit offset : Nat)
      (entries : List.Forall₂ (Selection.HasTree model (model entity)) selections selections')
      (origin : Source.HasTree (model entity) source source')
      (rows : PredicatesHaveTrees (model entity) filter ps)
      (allRows : Sql.Filter.Conjoins ps filter')
      (keys : List.Forall₂ (Column.Renders model (model entity)) groupBy groupBy')
      (groups : PredicatesHaveTrees (model entity) having ps')
      (allGroups : Sql.Filter.Conjoins ps' having') :
    Select.HasTree ⟨entity, selections, source, filter, groupBy, having, limit, offset⟩
      ⟨selections', source', filter', groupBy', having', limit, offset⟩

-- The list relation is spelled out: `List.Forall₂` cannot be nested with a scope that varies.
inductive PredicatesHaveTrees : TableModel → List Predicate → List Sql.Predicate → Prop
  | nil {scope : TableModel} : PredicatesHaveTrees scope [] []
  | cons {scope : TableModel} {p : Predicate} {p' : Sql.Predicate} {rest : List Predicate}
      {rest' : List Sql.Predicate} (first : Predicate.HasTree scope p p')
      (more : PredicatesHaveTrees scope rest rest') :
    PredicatesHaveTrees scope (p :: rest) (p' :: rest')

/-- A predicate in the scope of a model, and its tree. -/
inductive Predicate.HasTree : TableModel → Predicate → Sql.Predicate → Prop
  | compare {scope : TableModel} (op : Sql.Comparison) {left : Term} {left' : Sql.Term}
      {right : Expr} {right' : Sql.Expr} (onLeft : left.HasTree model scope left')
      (onRight : Expr.HasTree scope right right') :
    Predicate.HasTree scope (.compare op left right) (.compare op left' right')
  | member {scope : TableModel} {left : Column} {left' : Sql.Column} {query : Select}
      {tree : Sql.Select} (onLeft : left.Renders model scope left')
      (inner : Select.HasTree query tree) :
    Predicate.HasTree scope (.member left query) (.member left' tree)
  | not {scope : TableModel} {p : Predicate} {p' : Sql.Predicate}
      (h : Predicate.HasTree scope p p') :
    Predicate.HasTree scope (.not p) (.not p')
  | exists {scope : TableModel} {query : Select} {tree : Sql.Select}
      (inner : Select.HasTree query tree) :
    Predicate.HasTree scope (.exists query) (.exists tree)
  | and {scope : TableModel} {p q : Predicate} {p' q' : Sql.Predicate}
      (onLeft : Predicate.HasTree scope p p') (onRight : Predicate.HasTree scope q q') :
    Predicate.HasTree scope (.and p q) (.and p' q')
  | or {scope : TableModel} {p q : Predicate} {p' q' : Sql.Predicate}
      (onLeft : Predicate.HasTree scope p p') (onRight : Predicate.HasTree scope q q') :
    Predicate.HasTree scope (.or p q) (.or p' q')

/-- An expression in the scope of a model, and its tree. -/
inductive Expr.HasTree : TableModel → Expr → Sql.Expr → Prop
  | term {scope : TableModel} {t : Term} {t' : Sql.Term} (h : t.HasTree model scope t') :
    Expr.HasTree scope (.term t) (.term t')
  | literal {scope : TableModel} (v : Value) : Expr.HasTree scope (.literal v) (.literal v)
  | predicate {scope : TableModel} {p : Predicate} {p' : Sql.Predicate}
      (h : Predicate.HasTree scope p p') :
    Expr.HasTree scope (.predicate p) (.predicate p')
  | subquery {scope : TableModel} {query : Select} {tree : Sql.Select}
      (inner : Select.HasTree query tree) :
    Expr.HasTree scope (.subquery query) (.subquery tree)
  | quantified {scope : TableModel} (q : Sql.Quantifier) {query : Select} {tree : Sql.Select}
      (inner : Select.HasTree query tree) :
    Expr.HasTree scope (.quantified q query) (.quantified q tree)

end

/-- A column of the updated entity of the model `m`, qualified by its table or not at all. -/
def Column.IsHeldBy (m : TableModel) : Column → Prop
  | .bare _ => True
  | .ofTable entity _ _ => (model entity).entity = m.entity
  | .ofSubquery _ _ _ => False

/-- An entry in a list of changes, and the assignment that it stands for; none where it is left out.
That depends on the record that fields take their values from. -/
inductive Assignment.HasTree (m : TableModel) (accessor : Accessor) (record? : Option Record) :
    Assignment → Option (String × Sql.Expr) → Prop
  | assign {name x : String} {value : Expr} {value' : Sql.Expr} (means : m.Means name x)
      (h : value.HasTree model m value') :
    HasTree m accessor record? (.assign name value) (some (x, value'))
  | assignNonZero {name x : String} {value : Expr} {value' : Sql.Expr}
      (nonzero : ∀ v, value = .literal v → ¬v.isZero = true) (means : m.Means name x)
      (h : value.HasTree model m value') :
    HasTree m accessor record? (.assignNonZero name value) (some (x, value'))
  | assignZero (name : String) {v : Value} (zero : v.isZero = true) :
    HasTree m accessor record? (.assignNonZero name (.literal v)) none
  | fromEntity {c : Column} {record : Record} {f : FieldModel} {v : Value}
      (held : c.IsHeldBy model m) (given : record? = some record)
      (resolves : m.resolve? c.name = some f) (read : accessor.get record f.field = .ok v)
      (nonzero : ¬f.type.isZero v = true) :
    HasTree m accessor record? (.fromEntity c) (some (f.column, .literal v))
  | fromUnset {c : Column} {record : Record} {f : FieldModel} {v : Value}
      (held : c.IsHeldBy model m) (given : record? = some record)
      (resolves : m.resolve? c.name = some f) (read : accessor.get record f.field = .ok v)
      (zero : f.type.isZero v = true) :
    HasTree m accessor record? (.fromEntity c) none

/-- The changes one after the other. -/
inductive Assignments.Lists (m : TableModel) : Assignments → List Assignment → Prop
  | list (entries : List Assignment) : Lists m (.list entries) entries
  | nonZeroFields : Lists m .nonZeroFields (m.fields.map fun f => .fromEntity (.bare f.field))

/-- An update, and its tree. At least one change is not left out. -/
inductive Update.HasTree (strategy : AccessorStrategy) : Update → Sql.Update → Prop
  | mk {u : Update} {accessor : Accessor} {entries : List Assignment}
      {changes : List (Option (String × Sql.Expr))} {ps : List Sql.Predicate} {filter : Sql.Filter}
      (access : strategy.accessor u.entity (model u.entity) = .ok accessor)
      (listed : u.assignments.Lists (model u.entity) entries)
      (each : List.Forall₂ (Assignment.HasTree model (model u.entity) accessor u.value?) entries
        changes)
      (left : changes.reduceOption ≠ [])
      (rows : PredicatesHaveTrees model (model u.entity) u.filter ps)
      (allRows : Sql.Filter.Conjoins ps filter) :
    HasTree strategy u ⟨(model u.entity).table, changes.reduceOption, filter⟩

end

/-! ### Conjunctions and names -/

theorem Sql.Filter.conjunction_concat (first : Sql.Predicate) (rest : List Sql.Predicate)
    (q : Sql.Predicate) :
    Filter.conjunction (first :: rest ++ [q]) = .only (.and (rest.foldl .and first) q) := by
  rw [List.cons_append, conjunction, List.foldl_append]
  rfl

theorem Sql.Filter.conjoins_conjunction (ps : List Sql.Predicate) :
    Conjoins ps (.conjunction ps) := by
  induction ps using List.reverseRecOn with
  | nil => exact .none
  | append_singleton before q ih =>
    cases before with
    | nil => exact .one q
    | cons first rest =>
      rw [conjunction_concat]
      exact .more ih q

theorem Sql.Filter.conjoins_iff {ps : List Sql.Predicate} {filter : Sql.Filter} :
    Conjoins ps filter ↔ Filter.conjunction ps = filter := by
  constructor
  · intro h
    induction h with
    | none => rfl
    | one p => rfl
    | @more before p front q ih =>
      cases before with
      | nil => cases ih
      | cons first rest =>
        cases ih
        exact conjunction_concat first rest q
  · rintro rfl
    exact conjoins_conjunction ps

variable {model : EntityType → TableModel} {scope : TableModel}

theorem answer_sharedColumn_eq_ok {left right : Source} {name x : String} :
    (sharedColumn scope left right name).answer (given model) = .ok x ↔
      FirstRenders model scope (left.leaves name ++ right.leaves name) x := by
  rcases answer_sharedColumn scope left right name with ⟨y, renders, answer⟩ | ⟨none, answer⟩
  · rw [answer, Except.ok.injEq]
    exact ⟨fun same => same ▸ renders, fun other => renders.unique other⟩
  · rw [answer]
    exact ⟨nofun, fun renders => absurd renders (none x)⟩

theorem answer_assignedColumn_eq_ok {models : EntityType → Except Error TableModel}
    {name x : String} :
    (assignedColumn scope name).answer models = .ok x ↔ scope.Means name x := by
  simp only [assignedColumn, answer_bind_eq_ok, answer_require_eq_ok, answer_pure,
    Except.ok.injEq, TableModel.Means]

theorem Column.answer_checkOwn_eq_ok {c : Column} :
    (c.checkOwn scope).answer (given model) = .ok () ↔ c.IsHeldBy model scope := by
  cases c with
  | bare name => exact iff_of_true rfl trivial
  | ofTable entity alias? name =>
    simp only [checkOwn, answer_bind_eq_ok, answer_model_eq_ok, given, Except.ok.injEq,
      exists_eq_left', IsHeldBy]
    by_cases same : (model entity).entity = scope.entity
    · rw [if_pos same]
      exact iff_of_true rfl same
    · rw [if_neg same]
      refine iff_of_false ?_ same
      intro h
      cases h
  | ofSubquery query aliasName name =>
    refine iff_of_false ?_ id
    intro h
    cases h

/-! ### Resolution comes to the tree -/

theorem Term.answer_resolve_eq_ok {t : Term} {term : Sql.Term} :
    (t.resolve scope).answer (given model) = .ok term ↔ t.HasTree model scope term := by
  cases t with
  | column c =>
    simp only [resolve, answer_bind_eq_ok, answer_pure, Except.ok.injEq,
      Column.answer_resolve_eq_ok]
    constructor
    · rintro ⟨column, renders, rfl⟩
      exact .column renders
    · intro h
      cases h with
      | column renders => exact ⟨_, renders, rfl⟩
  | aggregate fn argument =>
    simp only [resolve, answer_bind_eq_ok, answer_pure, Except.ok.injEq,
      Column.answer_resolve_eq_ok]
    constructor
    · rintro ⟨column, renders, rfl⟩
      exact .aggregate fn renders
    · intro h
      cases h with
      | aggregate fn renders => exact ⟨_, renders, rfl⟩
  | countAll =>
    simp only [resolve, answer_pure, Except.ok.injEq]
    constructor
    · rintro rfl
      exact .countAll
    · rintro ⟨⟩
      rfl

theorem Selection.answer_resolve_eq_ok {s : Selection} {selection : Sql.Selection} :
    (s.resolve scope).answer (given model) = .ok selection ↔ s.HasTree model scope selection := by
  obtain ⟨t, alias?⟩ := s
  simp only [resolve, answer_bind_eq_ok, answer_pure, Except.ok.injEq, Term.answer_resolve_eq_ok]
  constructor
  · rintro ⟨term, h, rfl⟩
    exact .mk h alias?
  · intro h
    cases h with
    | mk h alias? => exact ⟨_, h, rfl⟩

mutual

/-- Resolution comes to an SQL query if and only if that is the tree of the query. By induction on
the statement: each form of it resolves as the constructor for this form says. -/
theorem Select.answer_resolve_eq_ok : ∀ (s : Select) {tree : Sql.Select},
    s.resolve.answer (given model) = .ok tree ↔ s.HasTree model tree
  | ⟨entity, selections, source, filter, groupBy, having, limit, offset⟩, tree => by
    simp only [Select.resolve, answer_bind_eq_ok, answer_model_eq_ok, given, Except.ok.injEq,
      answer_pure, exists_eq_left', answer_mapM_eq_ok, Selection.answer_resolve_eq_ok,
      Column.answer_resolve_eq_ok, Source.answer_resolve_eq_ok (model entity) source,
      answer_resolvePredicates_eq_ok (model entity) filter,
      answer_resolvePredicates_eq_ok (model entity) having]
    constructor
    · rintro ⟨selections', entries, source', origin, ps, rows, groupBy', keys, ps', groups, rfl⟩
      exact .mk limit offset entries origin rows (Sql.Filter.conjoins_conjunction ps) keys groups
        (Sql.Filter.conjoins_conjunction ps')
    · intro h
      cases h with
      | mk limit offset entries origin rows allRows keys groups allGroups =>
        cases Sql.Filter.conjoins_iff.1 allRows
        cases Sql.Filter.conjoins_iff.1 allGroups
        exact ⟨_, entries, _, origin, _, rows, _, keys, _, groups, rfl⟩

theorem Source.answer_resolve_eq_ok : ∀ (scope : TableModel) (s : Source) {tree : Sql.Source},
    (s.resolve scope).answer (given model) = .ok tree ↔ s.HasTree model scope tree
  | scope, .own, tree => by
    simp only [Source.resolve, answer_pure, Except.ok.injEq]
    constructor
    · rintro rfl
      exact .own
    · rintro ⟨⟩
      rfl
  | scope, .table entity alias?, tree => by
    simp only [Source.resolve, answer_bind_eq_ok, answer_model_eq_ok, given, Except.ok.injEq,
      answer_pure, exists_eq_left']
    constructor
    · rintro rfl
      exact .table entity alias?
    · rintro ⟨⟩
      rfl
  | scope, .joinWhere kind left right predicates, tree => by
    simp only [Source.resolve, answer_bind_eq_ok, Source.answer_resolve_eq_ok scope left,
      Source.answer_resolve_eq_ok scope right, answer_resolvePredicates_eq_ok scope predicates]
    constructor
    · rintro ⟨left', onLeft, right', onRight, ps, each, answer⟩
      -- Resolution looks at the conjunction, and the tree at whether there are predicates.
      have conjoins := Sql.Filter.conjoins_conjunction ps
      revert answer conjoins
      cases hc : Sql.Filter.conjunction ps with
      | all =>
        intro answer conjoins
        cases answer
        cases conjoins
        cases each
        exact .joinEvery kind onLeft onRight
      | only p =>
        intro answer conjoins
        cases answer
        exact .joinWhere kind onLeft onRight each conjoins
    · intro h
      cases h with
      | joinEvery kind onLeft onRight => exact ⟨_, onLeft, _, onRight, [], .nil, rfl⟩
      | @joinWhere _ _ _ _ _ _ _ ps p onLeft onRight each condition =>
        refine ⟨_, onLeft, _, onRight, ps, each, ?_⟩
        rw [Sql.Filter.conjoins_iff.1 condition]
        rfl
  | scope, .joinSharing kind left right columns, tree => by
    simp only [Source.resolve, answer_bind_eq_ok, answer_mapM_eq_ok, answer_sharedColumn_eq_ok,
      Source.answer_resolve_eq_ok scope left, Source.answer_resolve_eq_ok scope right]
    constructor
    · rintro ⟨left', onLeft, right', onRight, columns', shared, answer⟩
      cases shared with
      | nil =>
        cases answer
        exact .joinUnshared kind onLeft onRight
      | cons first others =>
        cases answer
        exact .joinSharing kind onLeft onRight (.cons first others)
    · intro h
      cases h with
      | joinUnshared kind onLeft onRight => exact ⟨_, onLeft, _, onRight, [], .nil, rfl⟩
      | joinSharing kind onLeft onRight shared =>
        obtain _ | ⟨first, others⟩ := shared
        exact ⟨_, onLeft, _, onRight, _, .cons first others, rfl⟩
  | scope, .subquery query aliasName, tree => by
    simp only [Source.resolve, answer_bind_eq_ok, answer_pure, Except.ok.injEq,
      Select.answer_resolve_eq_ok query]
    constructor
    · rintro ⟨query', inner, rfl⟩
      exact .subquery inner aliasName
    · intro h
      cases h with
      | subquery inner aliasName => exact ⟨_, inner, rfl⟩

theorem answer_resolvePredicates_eq_ok : ∀ (scope : TableModel) (predicates : List Predicate)
    {ps : List Sql.Predicate}, (resolvePredicates scope predicates).answer (given model) = .ok ps ↔
      PredicatesHaveTrees model scope predicates ps
  | scope, [], ps => by
    simp only [resolvePredicates, answer_pure, Except.ok.injEq]
    constructor
    · rintro rfl
      exact .nil
    · rintro ⟨⟩
      rfl
  | scope, p :: rest, ps => by
    simp only [resolvePredicates, answer_bind_eq_ok, answer_pure, Except.ok.injEq,
      Predicate.answer_resolve_eq_ok scope p, answer_resolvePredicates_eq_ok scope rest]
    constructor
    · rintro ⟨p', first, rest', more, rfl⟩
      exact .cons first more
    · intro h
      cases h with
      | cons first more => exact ⟨_, first, _, more, rfl⟩

theorem Predicate.answer_resolve_eq_ok : ∀ (scope : TableModel) (p : Predicate)
    {tree : Sql.Predicate},
    (p.resolve scope).answer (given model) = .ok tree ↔ p.HasTree model scope tree
  | scope, .compare op left right, tree => by
    simp only [Predicate.resolve, answer_bind_eq_ok, answer_pure, Except.ok.injEq,
      Term.answer_resolve_eq_ok, Expr.answer_resolve_eq_ok scope right]
    constructor
    · rintro ⟨left', onLeft, right', onRight, rfl⟩
      exact .compare op onLeft onRight
    · intro h
      cases h with
      | compare op onLeft onRight => exact ⟨_, onLeft, _, onRight, rfl⟩
  | scope, .member left query, tree => by
    simp only [Predicate.resolve, answer_bind_eq_ok, answer_pure, Except.ok.injEq,
      Column.answer_resolve_eq_ok, Select.answer_resolve_eq_ok query]
    constructor
    · rintro ⟨left', onLeft, query', inner, rfl⟩
      exact .member onLeft inner
    · intro h
      cases h with
      | member onLeft inner => exact ⟨_, onLeft, _, inner, rfl⟩
  | scope, .not p, tree => by
    simp only [Predicate.resolve, answer_bind_eq_ok, answer_pure, Except.ok.injEq,
      Predicate.answer_resolve_eq_ok scope p]
    constructor
    · rintro ⟨p', h, rfl⟩
      exact .not h
    · intro h
      cases h with
      | not h => exact ⟨_, h, rfl⟩
  | scope, .exists query, tree => by
    simp only [Predicate.resolve, answer_bind_eq_ok, answer_pure, Except.ok.injEq,
      Select.answer_resolve_eq_ok query]
    constructor
    · rintro ⟨query', inner, rfl⟩
      exact .exists inner
    · intro h
      cases h with
      | «exists» inner => exact ⟨_, inner, rfl⟩
  | scope, .and p q, tree => by
    simp only [Predicate.resolve, answer_bind_eq_ok, answer_pure, Except.ok.injEq,
      Predicate.answer_resolve_eq_ok scope p, Predicate.answer_resolve_eq_ok scope q]
    constructor
    · rintro ⟨p', onLeft, q', onRight, rfl⟩
      exact .and onLeft onRight
    · intro h
      cases h with
      | and onLeft onRight => exact ⟨_, onLeft, _, onRight, rfl⟩
  | scope, .or p q, tree => by
    simp only [Predicate.resolve, answer_bind_eq_ok, answer_pure, Except.ok.injEq,
      Predicate.answer_resolve_eq_ok scope p, Predicate.answer_resolve_eq_ok scope q]
    constructor
    · rintro ⟨p', onLeft, q', onRight, rfl⟩
      exact .or onLeft onRight
    · intro h
      cases h with
      | or onLeft onRight => exact ⟨_, onLeft, _, onRight, rfl⟩

theorem Expr.answer_resolve_eq_ok : ∀ (scope : TableModel) (e : Expr) {tree : Sql.Expr},
    (e.resolve scope).answer (given model) = .ok tree ↔ e.HasTree model scope tree
  | scope, .term t, tree => by
    simp only [Expr.resolve, answer_bind_eq_ok, answer_pure, Except.ok.injEq,
      Term.answer_resolve_eq_ok]
    constructor
    · rintro ⟨t', h, rfl⟩
      exact .term h
    · intro h
      cases h with
      | term h => exact ⟨_, h, rfl⟩
  | scope, .literal v, tree => by
    simp only [Expr.resolve, answer_pure, Except.ok.injEq]
    constructor
    · rintro rfl
      exact .literal v
    · rintro ⟨⟩
      rfl
  | scope, .predicate p, tree => by
    simp only [Expr.resolve, answer_bind_eq_ok, answer_pure, Except.ok.injEq,
      Predicate.answer_resolve_eq_ok scope p]
    constructor
    · rintro ⟨p', h, rfl⟩
      exact .predicate h
    · intro h
      cases h with
      | predicate h => exact ⟨_, h, rfl⟩
  | scope, .subquery query, tree => by
    simp only [Expr.resolve, answer_bind_eq_ok, answer_pure, Except.ok.injEq,
      Select.answer_resolve_eq_ok query]
    constructor
    · rintro ⟨query', inner, rfl⟩
      exact .subquery inner
    · intro h
      cases h with
      | subquery inner => exact ⟨_, inner, rfl⟩
  | scope, .quantified q query, tree => by
    simp only [Expr.resolve, answer_bind_eq_ok, answer_pure, Except.ok.injEq,
      Select.answer_resolve_eq_ok query]
    constructor
    · rintro ⟨query', inner, rfl⟩
      exact .quantified q inner
    · intro h
      cases h with
      | quantified q inner => exact ⟨_, inner, rfl⟩

end

/-! ### Updates -/

theorem Expr.isLiteralZero_eq_true_iff {e : Expr} :
    e.isLiteralZero = true ↔ ∃ v, e = .literal v ∧ v.isZero = true := by
  cases e <;> simp [isLiteralZero]

theorem Assignments.lists_iff {a : Assignments} {entries : List Assignment} :
    a.Lists scope entries ↔ a.entries scope = entries := by
  cases a with
  | list entries' =>
    constructor
    · intro h
      cases h with
      | list => rfl
    · rintro rfl
      exact .list entries'
  | nonZeroFields =>
    constructor
    · intro h
      cases h with
      | nonZeroFields => rfl
    · rintro rfl
      exact .nonZeroFields

variable {accessor : Accessor} {record? : Option Record}

theorem Assignment.answer_resolve_assign {name : String} {value : Expr}
    {change? : Option (String × Sql.Expr)} :
    ((Assignment.assign name value).resolve scope accessor record?).answer (given model) =
        .ok change? ↔
      (Assignment.assign name value).HasTree model scope accessor record? change? := by
  simp only [resolve, answer_bind_eq_ok, answer_pure, Except.ok.injEq, answer_assignedColumn_eq_ok,
    Expr.answer_resolve_eq_ok]
  constructor
  · rintro ⟨x, means, value', h, rfl⟩
    exact .assign means h
  · intro h
    cases h with
    | assign means h => exact ⟨_, means, _, h, rfl⟩

theorem Assignment.answer_resolve_assignNonZero {name : String} {value : Expr}
    {change? : Option (String × Sql.Expr)} :
    ((Assignment.assignNonZero name value).resolve scope accessor record?).answer (given model) =
        .ok change? ↔
      (Assignment.assignNonZero name value).HasTree model scope accessor record? change? := by
  rw [resolve]
  split
  · rename_i zero
    obtain ⟨v, rfl, zero⟩ := Expr.isLiteralZero_eq_true_iff.1 zero
    rw [answer_pure, Except.ok.injEq]
    constructor
    · rintro rfl
      exact .assignZero name zero
    · intro h
      cases h with
      | assignNonZero nonzero means h => exact absurd zero (nonzero v rfl)
      | assignZero name zero => rfl
  · rename_i nonzero
    simp only [answer_bind_eq_ok, answer_pure, Except.ok.injEq, answer_assignedColumn_eq_ok,
      Expr.answer_resolve_eq_ok]
    constructor
    · rintro ⟨x, means, value', h, rfl⟩
      have nonzero : ∀ v, value = .literal v → ¬v.isZero = true := fun v literal zero =>
        nonzero (Expr.isLiteralZero_eq_true_iff.2 ⟨v, literal, zero⟩)
      exact .assignNonZero nonzero means h
    · intro h
      cases h with
      | assignNonZero _ means h => exact ⟨_, means, _, h, rfl⟩
      | assignZero name zero => exact absurd zero nonzero

theorem Assignment.answer_resolve_fromEntity {c : Column}
    {change? : Option (String × Sql.Expr)} :
    ((Assignment.fromEntity c).resolve scope accessor record?).answer (given model) =
        .ok change? ↔
      (Assignment.fromEntity c).HasTree model scope accessor record? change? := by
  simp only [resolve, answer_bind_eq_ok, answer_pure, Except.ok.injEq, answer_require_eq_ok, answer]
  constructor
  · rintro ⟨⟨⟩, held, record, given, f, resolves, v, read, rfl⟩
    have held := Column.answer_checkOwn_eq_ok.1 held
    split
    · exact .fromUnset held given resolves read ‹_›
    · exact .fromEntity held given resolves read ‹_›
  · intro h
    cases h with
    | fromEntity held given resolves read nonzero =>
      refine ⟨(), Column.answer_checkOwn_eq_ok.2 held, _, given, _, resolves, _, read, ?_⟩
      rw [if_neg nonzero]
    | fromUnset held given resolves read zero =>
      refine ⟨(), Column.answer_checkOwn_eq_ok.2 held, _, given, _, resolves, _, read, ?_⟩
      rw [if_pos zero]

theorem Assignment.answer_resolve_eq_ok {entry : Assignment}
    {change? : Option (String × Sql.Expr)} :
    (entry.resolve scope accessor record?).answer (given model) = .ok change? ↔
      entry.HasTree model scope accessor record? change? := by
  cases entry with
  | assign name value => exact answer_resolve_assign
  | assignNonZero name value => exact answer_resolve_assignNonZero
  | fromEntity c => exact answer_resolve_fromEntity

/-- Changes resolve to those of their assignments that are not left out. -/
theorem answer_resolveAssignments_eq_ok {entries : List Assignment}
    {assigned : List (String × Sql.Expr)} :
    (resolveAssignments scope accessor record? entries).answer (given model) = .ok assigned ↔
      ∃ changes, List.Forall₂ (Assignment.HasTree model scope accessor record?) entries changes ∧
        changes.reduceOption = assigned := by
  induction entries generalizing assigned with
  | nil =>
    rw [resolveAssignments, answer_pure, Except.ok.injEq]
    constructor
    · rintro rfl
      exact ⟨[], .nil, rfl⟩
    · rintro ⟨_, each, rfl⟩
      cases each with
      | nil => rfl
  | cons entry rest ih =>
    simp only [resolveAssignments, answer_bind_eq_ok, answer_pure, Except.ok.injEq,
      Assignment.answer_resolve_eq_ok, ih]
    have reduce (change? : Option (String × Sql.Expr)) (changes : List (Option _)) :
        (change? :: changes).reduceOption = change?.toList ++ changes.reduceOption := by
      cases change? <;> rfl
    constructor
    · rintro ⟨change?, first, _, ⟨changes, others, rfl⟩, rfl⟩
      exact ⟨change? :: changes, .cons first others, reduce change? changes⟩
    · rintro ⟨_, each, rfl⟩
      cases each with
      | @cons _ change? _ changes first others =>
        exact ⟨change?, first, _, ⟨changes, others, rfl⟩, (reduce change? changes).symm⟩

/-- Resolution comes to an SQL update if and only if that is the tree of the update. -/
theorem Update.answer_resolve_eq_ok {strategy : AccessorStrategy} {u : Update}
    {tree : Sql.Update} :
    (u.resolve strategy).answer (given model) = .ok tree ↔ u.HasTree model strategy tree := by
  simp only [Update.resolve_eq_ok, resolveFilter, answer_bind_eq_ok, answer_pure,
    answer_resolveAssignments_eq_ok, answer_resolvePredicates_eq_ok, given, Except.ok.injEq,
    exists_eq_left']
  constructor
  · rintro ⟨accessor, access, _, ⟨changes, each, rfl⟩, left, _, ⟨ps, rows, rfl⟩, rfl⟩
    exact .mk access (Assignments.lists_iff.2 rfl) each left rows
      (Sql.Filter.conjoins_conjunction ps)
  · intro h
    cases h with
    | mk access listed each left rows allRows =>
      cases Assignments.lists_iff.1 listed
      cases Sql.Filter.conjoins_iff.1 allRows
      exact ⟨_, access, _, ⟨_, each, rfl⟩, left, _, ⟨_, rows, rfl⟩, rfl⟩

/-! ### Statements that are built -/

/-- What an inquiry comes to, it comes to as well where further types have models. -/
theorem Inquiry.answer_given_of_ok {α : Type} {q : Inquiry α}
    {models : EntityType → Except Error TableModel}
    (agrees : ∀ e m, models e = .ok m → model e = m) {a : α} (h : q.answer models = .ok a) :
    q.answer (given model) = .ok a := by
  induction q with
  | done result => exact h
  | ask e next ih =>
    simp only [answer] at h ⊢
    cases hm : models e with
    | error err =>
      rw [hm] at h
      cases h
    | ok m =>
      rw [hm] at h
      rw [given, agrees e m hm]
      exact ih m h

variable {db : Database} {store : Store} {q : Query}

/-- A query that is built has one tree, and that is what is written. -/
theorem Database.hasTree_of_buildSelect {s : Select}
    (agrees : ∀ e m, store.registry.effective e = .ok m → model e = m)
    (h : ((db.buildSelect s).exec store).1 = .ok q) :
    ∃ tree, (∀ tree', s.HasTree model tree' ↔ tree' = tree) ∧
      q = db.dialect.query tree.lexemes := by
  obtain ⟨tree, resolved, written⟩ := buildSelect_ok h
  have resolved := answer_given_of_ok agrees resolved
  refine ⟨tree, fun tree' => ?_, written⟩
  rw [← Select.answer_resolve_eq_ok, resolved, Except.ok.injEq, eq_comm]

/-- An update that is built has one tree, and that is what is written. -/
theorem Database.hasTree_of_buildUpdate {u : Update}
    (agrees : ∀ e m, store.registry.effective e = .ok m → model e = m)
    (h : ((db.buildUpdate u).exec store).1 = .ok q) :
    ∃ tree, (∀ tree', u.HasTree model db.config.accessor tree' ↔ tree' = tree) ∧
      q = db.dialect.query tree.lexemes := by
  obtain ⟨tree, resolved, written⟩ := buildUpdate_ok h
  have resolved := answer_given_of_ok agrees resolved
  refine ⟨tree, fun tree' => ?_, written⟩
  rw [← Update.answer_resolve_eq_ok, resolved, Except.ok.injEq, eq_comm]

end EntitySql
