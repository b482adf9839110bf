import EntitySql.Proofs.Independence
import EntitySql.Proofs.PartialUpdate

/-!
# Synonyms

A field can be referred to by its field name and by its column, and it does not matter which of the
two is used. A statement is respelled when names in its references are replaced by other names of
the same fields, anywhere in it and in any of its subqueries. It may refer to columns of these
subqueries: what a subquery exposes depends on the fields that are selected and not on their
spelling (`Select.exposed?_respelled`). So a respelled statement is built as the same query
(`respelled_statements_build_alike`).

Names are synonyms if they resolve to one field. The column of a field is no synonym of its field
name where it is the field name of another one.
-/

namespace EntitySql

section

variable (models : EntityType → Except Error TableModel)

/-- Two names of one field in the model that `e` goes by, or one name twice. -/
inductive Synonyms (e : EntityType) : String → String → Prop
  | same (name : String) : Synonyms e name name
  | field {m : TableModel} {f : FieldModel} {name name' : String} (known : models e = .ok m)
      (resolves : m.resolve? name = some f) (resolves' : m.resolve? name' = some f) :
    Synonyms e name name'

-- Lists have relations of their own: `List.Forall₂` would have to be nested with a scope that
-- varies.
mutual

/-- The same reference in a query over `scope`, but for the name of a field. A reference to a column
of a subquery keeps its name, and the subquery may be respelled. -/
inductive Column.Respelled : EntityType → Column → Column → Prop
  | bare {scope : EntityType} {name name' : String} (synonyms : Synonyms models scope name name') :
    Column.Respelled scope (.bare name) (.bare name')
  | ofTable {scope entity : EntityType} {alias? : Option String} {name name' : String}
      (synonyms : Synonyms models entity name name') :
    Column.Respelled scope (.ofTable entity alias? name) (.ofTable entity alias? name')
  | ofSubquery {scope : EntityType} {query query' : Select} {aliasName name : String}
      (inner : Select.Respelled query query') :
    Column.Respelled scope (.ofSubquery query aliasName name) (.ofSubquery query' aliasName name)

inductive Term.Respelled : EntityType → Term → Term → Prop
  | column {scope : EntityType} {c c' : Column} (h : Column.Respelled scope c c') :
    Term.Respelled scope (.column c) (.column c')
  | aggregate {scope : EntityType} {fn : Sql.AggregateFn} {c c' : Column}
      (h : Column.Respelled scope c c') :
    Term.Respelled scope (.aggregate fn c) (.aggregate fn c')
  | countAll {scope : EntityType} : Term.Respelled scope .countAll .countAll

/-- The same select list but for the names of fields. Aliases stay as they are. -/
inductive SelectionsRespelled : EntityType → List Selection → List Selection → Prop
  | nil {scope : EntityType} : SelectionsRespelled scope [] []
  | cons {scope : EntityType} {t t' : Term} {alias? : Option String} {rest rest' : List Selection}
      (first : Term.Respelled scope t t') (more : SelectionsRespelled scope rest rest') :
    SelectionsRespelled scope (⟨t, alias?⟩ :: rest) (⟨t', alias?⟩ :: rest')

/-- The same source but for the names of fields. Names of shared columns stay as they are. -/
inductive Source.Respelled : EntityType → Source → Source → Prop
  | own {scope : EntityType} : Source.Respelled scope .own .own
  | table {scope entity : EntityType} {alias? : Option String} :
    Source.Respelled scope (.table entity alias?) (.table entity alias?)
  | joinWhere {scope : EntityType} {kind : Sql.JoinKind} {left left' right right' : Source}
      {predicates predicates' : List Predicate} (onLeft : Source.Respelled scope left left')
      (onRight : Source.Respelled scope right right')
      (condition : PredicatesRespelled scope predicates predicates') :
    Source.Respelled scope (.joinWhere kind left right predicates)
      (.joinWhere kind left' right' predicates')
  | joinSharing {scope : EntityType} {kind : Sql.JoinKind} {left left' right right' : Source}
      {columns : List String} (onLeft : Source.Respelled scope left left')
      (onRight : Source.Respelled scope right right') :
    Source.Respelled scope (.joinSharing kind left right columns)
      (.joinSharing kind left' right' columns)
  | subquery {scope : EntityType} {query query' : Select} {aliasName : String}
      (inner : Select.Respelled query query') :
    Source.Respelled scope (.subquery query aliasName) (.subquery query' aliasName)

/-- The same query but for the names of fields. -/
inductive Select.Respelled : Select → Select → Prop
  | mk {entity : EntityType} {selections selections' : List Selection} {source source' : Source}
      {filter filter' : List Predicate} {groupBy groupBy' : List Column}
      {having having' : List Predicate} {limit offset : Nat}
      (entries : SelectionsRespelled entity selections selections')
      (origin : Source.Respelled entity source source')
      (rows : PredicatesRespelled entity filter filter')
      (keys : ColumnsRespelled entity groupBy groupBy')
      (groups : PredicatesRespelled entity having having') :
    Select.Respelled ⟨entity, selections, source, filter, groupBy, having, limit, offset⟩
      ⟨entity, selections', source', filter', groupBy', having', limit, offset⟩

inductive ColumnsRespelled : EntityType → List Column → List Column → Prop
  | nil {scope : EntityType} : ColumnsRespelled scope [] []
  | cons {scope : EntityType} {c c' : Column} {rest rest' : List Column}
      (first : Column.Respelled scope c c') (more : ColumnsRespelled scope rest rest') :
    ColumnsRespelled scope (c :: rest) (c' :: rest')

inductive PredicatesRespelled : EntityType → List Predicate → List Predicate → Prop
  | nil {scope : EntityType} : PredicatesRespelled scope [] []
  | cons {scope : EntityType} {p p' : Predicate} {rest rest' : List Predicate}
      (first : Predicate.Respelled scope p p') (more : PredicatesRespelled scope rest rest') :
    PredicatesRespelled scope (p :: rest) (p' :: rest')

/-- The same predicate but for the names of fields. -/
inductive Predicate.Respelled : EntityType → Predicate → Predicate → Prop
  | compare {scope : EntityType} {op : Sql.Comparison} {left left' : Term} {right right' : Expr}
      (onLeft : Term.Respelled scope left left') (onRight : Expr.Respelled scope right right') :
    Predicate.Respelled scope (.compare op left right) (.compare op left' right')
  | member {scope : EntityType} {left left' : Column} {query query' : Select}
      (onLeft : Column.Respelled scope left left') (inner : Select.Respelled query query') :
    Predicate.Respelled scope (.member left query) (.member left' query')
  | not {scope : EntityType} {p p' : Predicate} (h : Predicate.Respelled scope p p') :
    Predicate.Respelled scope (.not p) (.not p')
  | exists {scope : EntityType} {query query' : Select} (inner : Select.Respelled query query') :
    Predicate.Respelled scope (.exists query) (.exists query')
  | and {scope : EntityType} {p p' q q' : Predicate} (onLeft : Predicate.Respelled scope p p')
      (onRight : Predicate.Respelled scope q q') :
    Predicate.Respelled scope (.and p q) (.and p' q')
  | or {scope : EntityType} {p p' q q' : Predicate} (onLeft : Predicate.Respelled scope p p')
      (onRight : Predicate.Respelled scope q q') :
    Predicate.Respelled scope (.or p q) (.or p' q')

/-- The same expression but for the names of fields. -/
inductive Expr.Respelled : EntityType → Expr → Expr → Prop
  | term {scope : EntityType} {t t' : Term} (h : Term.Respelled scope t t') :
    Expr.Respelled scope (.term t) (.term t')
  | literal {scope : EntityType} (v : Value) : Expr.Respelled scope (.literal v) (.literal v)
  | predicate {scope : EntityType} {p p' : Predicate} (h : Predicate.Respelled scope p p') :
    Expr.Respelled scope (.predicate p) (.predicate p')
  | subquery {scope : EntityType} {query query' : Select} (inner : Select.Respelled query query') :
    Expr.Respelled scope (.subquery query) (.subquery query')
  | quantified {scope : EntityType} {q : Sql.Quantifier} {query query' : Select}
      (inner : Select.Respelled query query') :
    Expr.Respelled scope (.quantified q query) (.quantified q query')

end

/-- The same change of the table of `e` but for the names of fields. A column that takes its value
from the updated entity is one of `e`, whatever it is qualified by. -/
inductive Assignment.Respelled (e : EntityType) : Assignment → Assignment → Prop
  | assign {column column' : String} {value value' : Expr}
      (target : Synonyms models e column column') (h : Expr.Respelled models e value value') :
    Assignment.Respelled e (.assign column value) (.assign column' value')
  | assignNonZero {column column' : String} {value value' : Expr}
      (target : Synonyms models e column column') (h : Expr.Respelled models e value value') :
    Assignment.Respelled e (.assignNonZero column value) (.assignNonZero column' value')
  | bare {name name' : String} (target : Synonyms models e name name') :
    Assignment.Respelled e (.fromEntity (.bare name)) (.fromEntity (.bare name'))
  | ofTable {entity : EntityType} {alias? : Option String} {name name' : String}
      (target : Synonyms models e name name') :
    Assignment.Respelled e (.fromEntity (.ofTable entity alias? name))
      (.fromEntity (.ofTable entity alias? name'))

inductive Assignments.Respelled (e : EntityType) : Assignments → Assignments → Prop
  | list {entries entries' : List Assignment}
      (h : List.Forall₂ (Assignment.Respelled models e) entries entries') :
    Assignments.Respelled e (.list entries) (.list entries')
  | nonZeroFields : Assignments.Respelled e .nonZeroFields .nonZeroFields

/-- The same update but for the names of fields. -/
structure Update.Respelled (u u' : Update) : Prop where
  entity : u.entity = u'.entity
  value? : u.value? = u'.value?
  assignments : u.assignments.Respelled models u.entity u'.assignments
  filter : PredicatesRespelled models u.entity u.filter u'.filter

end

variable {models : EntityType → Except Error TableModel}

/-! ### What synonyms have in common -/

namespace Synonyms

variable {scope : EntityType} {m : TableModel} {name name' : String}

theorem resolve?_eq (h : Synonyms models scope name name') (hm : models scope = .ok m) :
    m.resolve? name = m.resolve? name' := by
  cases h with
  | same => rfl
  | field known resolves resolves' =>
    cases known.symm.trans hm
    rw [resolves, resolves']

/-- A name with another synonym than itself is known, so there is no error to tell them apart. -/
theorem require_eq (h : Synonyms models scope name name') (hm : models scope = .ok m) :
    Inquiry.require (m.resolve? name) (.unknownColumn name) =
      Inquiry.require (m.resolve? name') (.unknownColumn name') := by
  cases h with
  | same => rfl
  | field known resolves resolves' =>
    cases known.symm.trans hm
    rw [resolves, resolves']
    rfl

end Synonyms

/-! ### The columns of a respelled subquery -/

mutual

/-- A respelled query exposes the same columns under the same names. -/
theorem Select.exposed?_respelled : ∀ {query query' : Select}, query.Respelled models query' →
    ∀ name, (query.exposed? name).answer models = (query'.exposed? name).answer models
  | ⟨entity, selections, _, _, _, _, _, _⟩, _, .mk entries _ _ _ _, name => by
    rw [Select.exposed?, Select.exposed?]
    refine Inquiry.answer_bind_congr rfl fun m known => ?_
    have found := firstExposed?_respelled (Inquiry.answer_model_eq_ok.1 known) entries name
    cases entries with
    | nil => rfl
    | cons first more => exact found

theorem firstExposed?_respelled {scope : EntityType} {m : TableModel} (hm : models scope = .ok m) :
    ∀ {selections selections' : List Selection},
      SelectionsRespelled models scope selections selections' → ∀ name,
        (firstExposed? m name selections).answer models =
          (firstExposed? m name selections').answer models
  | [], _, .nil, name => rfl
  | ⟨.column c, none⟩ :: rest, _, .cons (.column h) more, name => by
    have later := firstExposed?_respelled hm more name
    rw [firstExposed?, firstExposed?]
    refine Inquiry.answer_bind_congr (Column.answering?_respelled hm h name) fun column? _ => ?_
    cases column? with
    | some column => rfl
    | none => exact later
  | ⟨.column _, some _⟩ :: _, _, .cons (.column _) more, name
  | ⟨.aggregate _ _, _⟩ :: _, _, .cons (.aggregate _) more, name
  | ⟨.countAll, _⟩ :: _, _, .cons .countAll more, name => by
    rw [firstExposed?_of_named rfl, firstExposed?_of_named rfl]
    split
    · rfl
    · exact firstExposed?_respelled hm more name

theorem Column.answering?_respelled {scope : EntityType} {m : TableModel}
    (hm : models scope = .ok m) :
    ∀ {c c' : Column}, c.Respelled models scope c' → ∀ name,
      (c.answering? m name).answer models = (c'.answering? m name).answer models
  | .bare own, _, .bare synonyms, name => by
    rw [Column.answering?, Column.answering?, TableModel.columnAnswering?,
      TableModel.columnAnswering?, synonyms.resolve?_eq hm]
  | .ofTable entity alias? own, _, .ofTable synonyms, name => by
    rw [Column.answering?, Column.answering?]
    refine Inquiry.answer_bind_congr rfl fun other known => ?_
    rw [TableModel.columnAnswering?, TableModel.columnAnswering?,
      synonyms.resolve?_eq (Inquiry.answer_model_eq_ok.1 known)]
  | .ofSubquery query aliasName own, _, .ofSubquery inner, name => by
    have exposed := Select.exposed?_respelled inner
    rw [Column.answering?, Column.answering?]
    refine Inquiry.answer_bind_congr (exposed own) fun column? _ => ?_
    cases column? with
    | none => rfl
    | some column =>
      dsimp only
      split
      · rfl
      · exact Inquiry.answer_bind_congr (exposed name) fun _ _ => rfl

end

section Scope

variable {scope : EntityType} {m : TableModel} (hm : models scope = .ok m)
include hm

theorem Column.resolve_respelled {c c' : Column} (h : c.Respelled models scope c') :
    (c.resolve m).answer models = (c'.resolve m).answer models := by
  cases h with
  | bare synonyms => rw [Column.resolve, Column.resolve, synonyms.require_eq hm]
  | ofTable synonyms =>
    rw [Column.resolve, Column.resolve]
    refine Inquiry.answer_bind_congr rfl fun other known => ?_
    rw [synonyms.require_eq (Inquiry.answer_model_eq_ok.1 known)]
  | ofSubquery inner =>
    rw [Column.resolve, Column.resolve]
    exact Inquiry.answer_bind_congr (Select.exposed?_respelled inner _) fun _ _ => rfl

theorem Term.resolve_respelled {t t' : Term} (h : t.Respelled models scope t') :
    (t.resolve m).answer models = (t'.resolve m).answer models := by
  cases h with
  | column h | aggregate h =>
    exact Inquiry.answer_bind_congr (Column.resolve_respelled hm h) fun _ _ => rfl
  | countAll => rfl

theorem resolve_columnsRespelled {columns columns' : List Column}
    (h : ColumnsRespelled models scope columns columns') :
    (columns.mapM (Column.resolve m)).answer models =
      (columns'.mapM (Column.resolve m)).answer models := by
  induction columns generalizing columns' with
  | nil => cases h; rfl
  | cons c rest ih =>
    cases h with
    | cons first more =>
      rw [List.mapM_cons, List.mapM_cons]
      refine Inquiry.answer_bind_congr (Column.resolve_respelled hm first) fun _ _ => ?_
      exact Inquiry.answer_bind_congr (ih more) fun _ _ => rfl

theorem resolve_selectionsRespelled {selections selections' : List Selection}
    (h : SelectionsRespelled models scope selections selections') :
    (selections.mapM (Selection.resolve m)).answer models =
      (selections'.mapM (Selection.resolve m)).answer models := by
  induction selections generalizing selections' with
  | nil => cases h; rfl
  | cons s rest ih =>
    cases h with
    | cons first more =>
      rw [List.mapM_cons, List.mapM_cons]
      refine Inquiry.answer_bind_congr ?_ fun _ _ => ?_
      · exact Inquiry.answer_bind_congr (Term.resolve_respelled hm first) fun _ _ => rfl
      · exact Inquiry.answer_bind_congr (ih more) fun _ _ => rfl

end Scope

/-- A name means the same to both sources, as a column of a join. -/
theorem Source.column?_respelled {scope : EntityType} (m : TableModel) (name : String) :
    ∀ {s s' : Source}, s.Respelled models scope s' →
      (s.column? m name).answer models = (s'.column? m name).answer models
  | .own, _, .own => rfl
  | .table _ _, _, .table => rfl
  | .joinWhere _ left right _, _, .joinWhere onLeft onRight _
  | .joinSharing _ left right _, _, .joinSharing onLeft onRight => by
    have later := Source.column?_respelled m name onRight
    refine Inquiry.answer_bind_congr (Source.column?_respelled m name onLeft) fun column? _ => ?_
    cases column? with
    | some column => rfl
    | none => exact later
  | .subquery _ _, _, .subquery inner => Select.exposed?_respelled inner name

theorem sharedColumn_respelled {scope : EntityType} (m : TableModel)
    {left left' right right' : Source} (onLeft : left.Respelled models scope left')
    (onRight : right.Respelled models scope right') (name : String) :
    (sharedColumn m left right name).answer models =
      (sharedColumn m left' right' name).answer models := by
  rw [sharedColumn, sharedColumn]
  refine Inquiry.answer_bind_congr (Source.column?_respelled m name onLeft) fun column? _ => ?_
  cases column? with
  | some column => rfl
  | none =>
    exact Inquiry.answer_bind_congr (Source.column?_respelled m name onRight) fun _ _ => rfl

theorem sharedColumns_respelled {scope : EntityType} (m : TableModel)
    {left left' right right' : Source} (onLeft : left.Respelled models scope left')
    (onRight : right.Respelled models scope right') (columns : List String) :
    (columns.mapM (sharedColumn m left right)).answer models =
      (columns.mapM (sharedColumn m left' right')).answer models := by
  induction columns with
  | nil => rfl
  | cons name rest ih =>
    rw [List.mapM_cons, List.mapM_cons]
    refine Inquiry.answer_bind_congr (sharedColumn_respelled m onLeft onRight name) fun _ _ => ?_
    exact Inquiry.answer_bind_congr ih fun _ _ => rfl

/-! ### Respelled statements -/

mutual

/-- A respelled query resolves to the same SQL. By induction on the tree: each part does. -/
theorem Select.resolve_respelled : ∀ {s s' : Select}, s.Respelled models s' →
    s.resolve.answer models = s'.resolve.answer models
  | ⟨entity, _, source, filter, _, having, _, _⟩, _, .mk entries origin rows keys groups => by
    rw [Select.resolve, Select.resolve]
    refine Inquiry.answer_bind_congr rfl fun m known => ?_
    have hm := Inquiry.answer_model_eq_ok.1 known
    have origin := Source.resolve_respelled hm origin
    have rows := resolve_predicatesRespelled hm rows
    have groups := resolve_predicatesRespelled hm groups
    refine Inquiry.answer_bind_congr (resolve_selectionsRespelled hm entries) fun _ _ => ?_
    refine Inquiry.answer_bind_congr origin fun _ _ => ?_
    refine Inquiry.answer_bind_congr rows fun _ _ => ?_
    refine Inquiry.answer_bind_congr (resolve_columnsRespelled hm keys) fun _ _ => ?_
    exact Inquiry.answer_bind_congr groups fun _ _ => rfl

theorem Source.resolve_respelled {scope : EntityType} {m : TableModel} (hm : models scope = .ok m) :
    ∀ {s s' : Source}, s.Respelled models scope s' →
      (s.resolve m).answer models = (s'.resolve m).answer models
  | .own, _, .own => rfl
  | .table _ _, _, .table => rfl
  | .joinWhere _ left right predicates, _, .joinWhere onLeft onRight condition => by
    have condition := resolve_predicatesRespelled hm condition
    have right := Source.resolve_respelled hm onRight
    rw [Source.resolve, Source.resolve]
    refine Inquiry.answer_bind_congr (Source.resolve_respelled hm onLeft) fun _ _ => ?_
    refine Inquiry.answer_bind_congr right fun _ _ => ?_
    exact Inquiry.answer_bind_congr condition fun _ _ => rfl
  | .joinSharing _ left right columns, _, .joinSharing onLeft onRight => by
    have right := Source.resolve_respelled hm onRight
    rw [Source.resolve, Source.resolve]
    refine Inquiry.answer_bind_congr (Source.resolve_respelled hm onLeft) fun _ _ => ?_
    refine Inquiry.answer_bind_congr right fun _ _ => ?_
    exact Inquiry.answer_bind_congr (sharedColumns_respelled m onLeft onRight columns)
      fun _ _ => rfl
  | .subquery query _, _, .subquery inner => by
    rw [Source.resolve, Source.resolve]
    exact Inquiry.answer_bind_congr (Select.resolve_respelled inner) fun _ _ => rfl

theorem resolve_predicatesRespelled {scope : EntityType} {m : TableModel}
    (hm : models scope = .ok m) : ∀ {predicates predicates' : List Predicate},
      PredicatesRespelled models scope predicates predicates' →
        (resolvePredicates m predicates).answer models =
          (resolvePredicates m predicates').answer models
  | [], _, .nil => rfl
  | p :: rest, _, .cons first more => by
    have later := resolve_predicatesRespelled hm more
    rw [resolvePredicates, resolvePredicates]
    refine Inquiry.answer_bind_congr (Predicate.resolve_respelled hm first) fun _ _ => ?_
    exact Inquiry.answer_bind_congr later fun _ _ => rfl

theorem Predicate.resolve_respelled {scope : EntityType} {m : TableModel}
    (hm : models scope = .ok m) : ∀ {p p' : Predicate}, p.Respelled models scope p' →
      (p.resolve m).answer models = (p'.resolve m).answer models
  | .compare _ left right, _, .compare onLeft onRight => by
    have right := Expr.resolve_respelled hm onRight
    rw [Predicate.resolve, Predicate.resolve]
    refine Inquiry.answer_bind_congr (Term.resolve_respelled hm onLeft) fun _ _ => ?_
    exact Inquiry.answer_bind_congr right fun _ _ => rfl
  | .member left query, _, .member onLeft inner => by
    have inner := Select.resolve_respelled inner
    rw [Predicate.resolve, Predicate.resolve]
    refine Inquiry.answer_bind_congr (Column.resolve_respelled hm onLeft) fun _ _ => ?_
    exact Inquiry.answer_bind_congr inner fun _ _ => rfl
  | .not p, _, .not h => by
    rw [Predicate.resolve, Predicate.resolve]
    exact Inquiry.answer_bind_congr (Predicate.resolve_respelled hm h) fun _ _ => rfl
  | .exists query, _, .exists inner => by
    rw [Predicate.resolve, Predicate.resolve]
    exact Inquiry.answer_bind_congr (Select.resolve_respelled inner) fun _ _ => rfl
  | .and p q, _, .and onLeft onRight | .or p q, _, .or onLeft onRight => by
    have right := Predicate.resolve_respelled hm onRight
    rw [Predicate.resolve, Predicate.resolve]
    refine Inquiry.answer_bind_congr (Predicate.resolve_respelled hm onLeft) fun _ _ => ?_
    exact Inquiry.answer_bind_congr right fun _ _ => rfl

theorem Expr.resolve_respelled {scope : EntityType} {m : TableModel} (hm : models scope = .ok m) :
    ∀ {x x' : Expr}, x.Respelled models scope x' →
      (x.resolve m).answer models = (x'.resolve m).answer models
  | .term t, _, .term h => by
    rw [Expr.resolve, Expr.resolve]
    exact Inquiry.answer_bind_congr (Term.resolve_respelled hm h) fun _ _ => rfl
  | .literal v, _, .literal _ => rfl
  | .predicate p, _, .predicate h => by
    rw [Expr.resolve, Expr.resolve]
    exact Inquiry.answer_bind_congr (Predicate.resolve_respelled hm h) fun _ _ => rfl
  | .subquery query, _, .subquery inner | .quantified _ query, _, .quantified inner => by
    rw [Expr.resolve, Expr.resolve]
    exact Inquiry.answer_bind_congr (Select.resolve_respelled inner) fun _ _ => rfl

end

section Change

variable {e : EntityType} {m : TableModel} (hm : models e = .ok m)
include hm

theorem assignedColumn_synonym {column column' : String}
    (target : Synonyms models e column column') :
    assignedColumn m column = assignedColumn m column' := by
  rw [assignedColumn, assignedColumn, target.require_eq hm]

theorem resolve_assign_respelled (a : Accessor) (value? : Option Record) {column column' : String}
    {value value' : Expr} (target : Synonyms models e column column')
    (h : value.Respelled models e value') :
    ((Assignment.assign column value).resolve m a value?).answer models =
      ((Assignment.assign column' value').resolve m a value?).answer models := by
  rw [Assignment.resolve, Assignment.resolve, assignedColumn_synonym hm target]
  refine Inquiry.answer_bind_congr rfl fun _ _ => ?_
  exact Inquiry.answer_bind_congr (Expr.resolve_respelled hm h) fun _ _ => rfl

/-- A column that takes its value from the updated entity does so under any name of the field, if
the qualifier is admitted for both. -/
theorem resolve_fromEntity_respelled (c c' : Column) {a : Accessor} {value? : Option Record}
    {result : Option (String × Sql.Expr)} (target : Synonyms models e c.name c'.name)
    (own : ∀ done, (c.checkOwn m).answer models = .ok done →
      (c'.checkOwn m).answer models = .ok done)
    (resolved : ((Assignment.fromEntity c).resolve m a value?).answer models = .ok result) :
    ((Assignment.fromEntity c').resolve m a value?).answer models = .ok result := by
  rw [Assignment.resolve] at resolved ⊢
  obtain ⟨done, admitted, resolved⟩ := Inquiry.answer_bind_eq_ok.1 resolved
  obtain ⟨record, given, resolved⟩ := Inquiry.answer_bind_eq_ok.1 resolved
  have given := Inquiry.answer_require_eq_ok.1 given
  refine Inquiry.answer_bind_eq_ok.2 ⟨done, own done admitted, ?_⟩
  refine Inquiry.answer_bind_eq_ok.2 ⟨record, Inquiry.answer_require_eq_ok.2 given, ?_⟩
  rwa [← target.require_eq hm]

/-- A change resolves to the same under other names. It may not do so where it does not resolve:
without an entity to take a value from, the error is about the name in use. -/
theorem Assignment.resolve_respelled {change change' : Assignment} {a : Accessor}
    {value? : Option Record} {result : Option (String × Sql.Expr)}
    (h : change.Respelled models e change')
    (resolved : (change.resolve m a value?).answer models = .ok result) :
    (change'.resolve m a value?).answer models = .ok result := by
  cases h with
  | assign target h => rwa [← resolve_assign_respelled hm a value? target h]
  | @assignNonZero _ _ value value' target h =>
    have zero : value.isLiteralZero = value'.isLiteralZero := by
      cases h <;> rfl
    rw [Assignment.resolve, zero] at resolved
    rw [Assignment.resolve]
    by_cases left_out : value'.isLiteralZero = true
    · rwa [if_pos left_out] at resolved ⊢
    · rw [if_neg left_out] at resolved ⊢
      exact (resolve_assign_respelled hm a value? target h).symm.trans resolved
  | bare target =>
    exact resolve_fromEntity_respelled hm (.bare _) (.bare _) target (fun _ own => own) resolved
  | ofTable target =>
    refine resolve_fromEntity_respelled hm (.ofTable _ _ _) (.ofTable _ _ _) target
      (fun done own => ?_) resolved
    rw [Column.checkOwn] at own ⊢
    obtain ⟨other, known, own⟩ := Inquiry.answer_bind_eq_ok.1 own
    refine Inquiry.answer_bind_eq_ok.2 ⟨other, known, ?_⟩
    by_cases same : other.entity = m.entity
    · rwa [if_pos same] at own ⊢
    · rw [if_neg same] at own
      cases own

theorem resolveAssignments_respelled {changes changes' : List Assignment} {a : Accessor}
    {value? : Option Record} {result : List (String × Sql.Expr)}
    (h : List.Forall₂ (Assignment.Respelled models e) changes changes')
    (resolved : (resolveAssignments m a value? changes).answer models = .ok result) :
    (resolveAssignments m a value? changes').answer models = .ok result := by
  induction h generalizing result with
  | nil => exact resolved
  | cons first _ ih =>
    rw [resolveAssignments] at resolved ⊢
    obtain ⟨x, here, resolved⟩ := Inquiry.answer_bind_eq_ok.1 resolved
    obtain ⟨xs, later, resolved⟩ := Inquiry.answer_bind_eq_ok.1 resolved
    refine Inquiry.answer_bind_eq_ok.2 ⟨x, Assignment.resolve_respelled hm first here, ?_⟩
    exact Inquiry.answer_bind_eq_ok.2 ⟨xs, ih later, resolved⟩

end Change

/-- An update resolves to the same SQL under other names. -/
theorem Update.resolve_respelled {u u' : Update} {s : AccessorStrategy} {t : Sql.Update}
    (h : u.Respelled models u') (resolved : (u.resolve s).answer models = .ok t) :
    (u'.resolve s).answer models = .ok t := by
  rw [Update.resolve_eq_ok] at resolved ⊢
  obtain ⟨m, hm, a, ha, changes, resolved, some_left, filter, rows, rfl⟩ := resolved
  have entries : List.Forall₂ (Assignment.Respelled models u.entity) (u.assignments.entries m)
      (u'.assignments.entries m) := by
    generalize u.assignments = assignments, u'.assignments = assignments', h.assignments = same
    cases same with
    | list h => exact h
    | nonZeroFields =>
      rw [List.forall₂_same]
      intro change hchange
      obtain ⟨f, -, rfl⟩ := List.mem_map.1 hchange
      exact .bare (.same f.field)
  have same_changes := resolveAssignments_respelled hm entries resolved
  have same_rows : (resolveFilter m u'.filter).answer models = .ok filter := by
    rw [← rows]
    exact (Inquiry.answer_bind_congr (resolve_predicatesRespelled hm h.filter) fun _ _ => rfl).symm
  rw [h.value?] at same_changes
  exact ⟨m, h.entity ▸ hm, a, h.entity ▸ ha, changes, same_changes, some_left, filter, same_rows,
    rfl⟩

/-- **Synonyms are interchangeable.** A query and its respelled form have the same result, be it an
SQL query or an error. Where an update is built, its respelled form is built as the same SQL. -/
theorem respelled_statements_build_alike (db : Database) (store : Store) :
    (∀ s s' : Select, s.Respelled store.registry.effective s' →
        ((db.buildSelect s').exec store).1 = ((db.buildSelect s).exec store).1) ∧
      ∀ u u' : Update, u.Respelled store.registry.effective u' →
        ∀ q, ((db.buildUpdate u).exec store).1 = .ok q →
          ((db.buildUpdate u').exec store).1 = .ok q := by
  constructor
  · intro s s' h
    rw [Database.buildSelect_result, Database.buildSelect_result, Select.resolve_respelled h]
  · intro u u' h q built
    obtain ⟨t, resolved, rfl⟩ := Database.buildUpdate_ok built
    rw [Database.buildUpdate_result, Update.resolve_respelled h resolved]
    rfl

namespace Sample

/-- The parcels with a certain label, which goes by `name`. -/
def labelled (name : String) : Select :=
  { parcel.rows with
    selections := [⟨.column (.bare name), none⟩]
    filter := [.compare .eq (.column (.ofTable parcel none name)) (.literal (.text "left"))] }

/-- How many parcels there are for each of these labels. -/
def labelCounts (name : String) : Select :=
  { parcel.rows with
    selections := [⟨.column (.bare name), none⟩, ⟨.aggregate .count (.bare "weight"), none⟩]
    source := .joinWhere .inner .own (.subquery (labelled name) "l")
      [.compare .eq (.column (.ofTable parcel none name))
        (.term (.column (.ofSubquery (labelled name) "l" "label")))]
    groupBy := [.bare name] }

/-- Sets the labels of these parcels to what one parcel holds. -/
def relabelled (name : String) : Update :=
  { parcel.update with
    value? := some fullParcel
    assignments := .list [.fromEntity (.bare "weight"), .fromEntity (.bare name),
      .assign name (.term (.column (.bare name)))]
    filter := [.member (.bare name) (labelled name)] }

def labelCountsQuery : Query where
  sql := "SELECT \"note\",COUNT(\"label\") FROM (\"parcels\" JOIN (SELECT \"note\" FROM " ++
    "\"parcels\" WHERE \"parcels\".\"note\" = $1) AS \"l\" ON \"parcels\".\"note\" = " ++
    "\"l\".\"note\") GROUP BY \"note\";"
  args := [.text "left"]

def relabelledQuery : Query where
  sql := "UPDATE \"parcels\" SET \"label\" = $1,\"note\" = $2,\"note\" = \"note\" WHERE " ++
    "\"note\" IN (SELECT \"note\" FROM \"parcels\" WHERE \"parcels\".\"note\" = $3);"
  args := [.int64 5, .text "left", .text "left"]

/-- The column of a label is not another name of the weight, although that has it for its column. -/
theorem synonyms_label : Synonyms parcelStore.registry.effective parcel "label" "note" :=
  .field effective_parcel (f := ⟨"label", "note", ⟨.text, true⟩, 32, 1⟩) rfl rfl

theorem respelled_labelled :
    (labelled "label").Respelled parcelStore.registry.effective (labelled "note") :=
  .mk (.cons (.column (.bare synonyms_label)) .nil) .own
    (.cons (.compare (.column (.ofTable synonyms_label)) (.literal _)) .nil) .nil .nil

theorem respelled_labelCounts :
    (labelCounts "label").Respelled parcelStore.registry.effective (labelCounts "note") :=
  .mk (.cons (.column (.bare synonyms_label)) (.cons (.aggregate (.bare (.same "weight"))) .nil))
    (.joinWhere .own (.subquery respelled_labelled)
      (.cons (.compare (.column (.ofTable synonyms_label))
        (.term (.column (.ofSubquery respelled_labelled)))) .nil))
    .nil (.cons (.bare synonyms_label) .nil) .nil

theorem respelled_relabelled :
    (relabelled "label").Respelled parcelStore.registry.effective (relabelled "note") where
  entity := rfl
  value? := rfl
  assignments := .list (.cons (.bare (.same "weight")) (.cons (.bare synonyms_label)
    (.cons (.assign synonyms_label (.term (.column (.bare synonyms_label)))) .nil)))
  filter := .cons (.member (.bare synonyms_label) respelled_labelled) .nil

end Sample

theorem sample_respelling :
    (Sample.labelCounts "label").Respelled Sample.parcelStore.registry.effective
        (Sample.labelCounts "note") ∧
      ((Sample.database.buildSelect (Sample.labelCounts "note")).exec Sample.parcelStore).1 =
        .ok Sample.labelCountsQuery ∧
      (Sample.relabelled "label").Respelled Sample.parcelStore.registry.effective
        (Sample.relabelled "note") ∧
      ((Sample.database.buildUpdate (Sample.relabelled "note")).exec Sample.parcelStore).1 =
        .ok Sample.relabelledQuery := by
  obtain ⟨selects, updates⟩ :=
    respelled_statements_build_alike Sample.database Sample.parcelStore
  have select : ((Sample.database.buildSelect (Sample.labelCounts "label")).exec
      Sample.parcelStore).1 = .ok Sample.labelCountsQuery := by
    decide +kernel
  have update : ((Sample.database.buildUpdate (Sample.relabelled "label")).exec
      Sample.parcelStore).1 = .ok Sample.relabelledQuery := by
    decide +kernel
  refine ⟨Sample.respelled_labelCounts, ?_, Sample.respelled_relabelled, ?_⟩
  · rw [selects _ _ Sample.respelled_labelCounts, select]
  · exact updates _ _ Sample.respelled_relabelled _ update

end EntitySql
