import EntitySql.Proofs.Writing
import Mathlib.Data.List.Induction

/-!
# Lists of predicates as conjunctions

A list of predicates means that they all hold, which is what one predicate says that puts them
together by `AND` from left to right. Written out, the list is taken apart from its end, with
parentheses of its own around what comes before the last predicate and around the last one
(`Draft.predicates`). This is how the one predicate is written as well, with the same numbers for
the same values and the same first error (`Draft.predicates_eq`). So a statement can be changed to
say `AND` wherever it has such a list (`Select.conjoined`), and comes to the same
(`predicate_lists_are_conjunctions`).
-/

namespace EntitySql

open Sql (Lexeme boundValues)

/-! ### One predicate for a list -/

/-- A list of predicates as the one that they come to, if there are any. -/
def conjoin : List Predicate → List Predicate
  | [] => []
  | p :: rest => [rest.foldl .and p]

theorem resolve_foldl_and (scope : TableModel) (p : Predicate) (rest : List Predicate) :
    (rest.foldl .and p).resolve scope = (do
      let first ← p.resolve scope
      let more ← resolvePredicates scope rest
      pure (more.foldl .and first)) := by
  induction rest generalizing p with
  | nil => simp [resolvePredicates]
  | cons q rest ih =>
    rw [List.foldl_cons, ih]
    simp only [Predicate.resolve, resolvePredicates, bind_assoc, pure_bind, List.foldl_cons]

theorem resolveFilter_conjoin (scope : TableModel) (predicates : List Predicate) :
    resolveFilter scope (conjoin predicates) = resolveFilter scope predicates := by
  cases predicates with
  | nil => rfl
  | cons p rest =>
    simp only [conjoin, resolveFilter, resolvePredicates, resolve_foldl_and, bind_assoc, pure_bind]
    rfl

/-! ### Writing a list from its end -/

/-- A statement as far as it is written: its text and the values bound in it. -/
structure Draft where
  text : List Char
  args : List Value

namespace Draft

variable (d : Dialect) (scope : TableModel)

/-- Writes lexemes. The values among them are numbered on from those that are bound. -/
def push (draft : Draft) (lexemes : List Lexeme) : Draft :=
  ⟨draft.text ++ d.write draft.args.length lexemes, draft.args ++ boundValues lexemes⟩

/-- Writes a predicate. -/
def predicate (draft : Draft) (p : Predicate) : Inquiry Draft := do
  pure (draft.push d (← p.resolve scope).lexemes)

/-- Writes predicates that are given from the last to the first. -/
def predicatesFromEnd (draft : Draft) : List Predicate → Inquiry Draft
  | [] => pure draft
  | [p] => draft.predicate d scope p
  | last :: next :: before => do
    let front ← (draft.push d [.word .openParen]).predicatesFromEnd (next :: before)
    let joined := front.push d [.word .closeParen, .word .and, .word .openParen]
    pure ((← joined.predicate d scope last).push d [.word .closeParen])

/-- Writes predicates that all have to hold. -/
def predicates (draft : Draft) (predicates : List Predicate) : Inquiry Draft :=
  draft.predicatesFromEnd d scope predicates.reverse

/-- Writes a condition of a statement under its keyword; nothing where it has no predicates. -/
def clause (draft : Draft) (w : Sql.Word) : List Predicate → Inquiry Draft
  | [] => pure draft
  | p :: rest => (draft.push d [.word w]).predicates d scope (p :: rest)

variable {d} {scope} {draft : Draft}

theorem push_append (left right : List Lexeme) :
    draft.push d (left ++ right) = (draft.push d left).push d right := by
  unfold push
  simp only [Dialect.write_append, Sql.boundValues_append, List.length_append, List.append_assoc]

/-- The list is written as its conjunction is. By induction from the end, where the front is written
as a predicate by itself. -/
theorem predicates_eq (p : Predicate) (rest : List Predicate) :
    draft.predicates d scope (p :: rest) = draft.predicate d scope (rest.foldl .and p) := by
  induction rest using List.reverseRecOn generalizing draft with
  | nil => rfl
  | append_singleton rest last ih =>
    have step : draft.predicates d scope (p :: (rest ++ [last])) = (do
        let front ← (draft.push d [.word .openParen]).predicates d scope (p :: rest)
        let joined := front.push d [.word .closeParen, .word .and, .word .openParen]
        pure ((← joined.predicate d scope last).push d [.word .closeParen])) := by
      obtain ⟨next, before, front⟩ := List.exists_cons_of_ne_nil
        (List.reverse_ne_nil_iff.2 (List.cons_ne_nil p rest))
      have whole : (p :: (rest ++ [last])).reverse = last :: next :: before := by
        rw [← List.cons_append, List.reverse_append, front]
        rfl
      rw [predicates, whole, predicates, front, predicatesFromEnd]
    rw [step, ih, List.foldl_append]
    simp only [List.foldl_cons, List.foldl_nil, predicate, Predicate.resolve, bind_assoc, pure_bind]
    refine bind_congr fun first => bind_congr fun second => congrArg pure ?_
    simp only [← push_append, Sql.Predicate.lexemes, Sql.parenthesized, List.append_assoc,
      List.cons_append, List.nil_append]

/-- What a statement has under a keyword is written in this way. -/
theorem clause_eq (w : Sql.Word) (predicates : List Predicate) :
    draft.clause d scope w predicates = (do
      pure (draft.push d ((← resolveFilter scope predicates).lexemes w))) := by
  cases predicates with
  | nil =>
    have nothing : draft.push d [] = draft := by
      simp [push, Dialect.write, boundValues]
    exact congrArg pure nothing.symm
  | cons p rest =>
    rw [clause, predicates_eq, predicate, ← resolveFilter_conjoin]
    simp only [conjoin, resolveFilter, resolvePredicates, bind_assoc, pure_bind,
      Sql.Filter.conjunction, List.foldl_nil, Sql.Filter.lexemes, ← push_append, List.cons_append,
      List.nil_append]

end Draft

/-! ### Statements with conjunctions -/

mutual

/-- A column reference with a conjunction for each list of a subquery that it refers to. -/
def Column.conjoined : Column → Column
  | .bare name => .bare name
  | .ofTable entity alias? name => .ofTable entity alias? name
  | .ofSubquery query aliasName name => .ofSubquery query.conjoined aliasName name

def Term.conjoined : Term → Term
  | .column c => .column c.conjoined
  | .aggregate fn argument => .aggregate fn argument.conjoined
  | .countAll => .countAll

def Selection.conjoined : Selection → Selection
  | ⟨term, alias?⟩ => ⟨term.conjoined, alias?⟩

/-- A source with a conjunction in the place of each list of predicates. -/
def Source.conjoined : Source → Source
  | .own => .own
  | .table entity alias? => .table entity alias?
  | .joinWhere kind left right predicates =>
    .joinWhere kind left.conjoined right.conjoined (conjoin (conjoinedPredicates predicates))
  | .joinSharing kind left right columns =>
    .joinSharing kind left.conjoined right.conjoined columns
  | .subquery query aliasName => .subquery query.conjoined aliasName

/-- A query with a conjunction in the place of each list of predicates, its own and those of all
queries inside it. -/
def Select.conjoined : Select → Select
  | ⟨entity, selections, source, filter, groupBy, having, limit, offset⟩ =>
    ⟨entity, conjoinedSelections selections, source.conjoined, conjoin (conjoinedPredicates filter),
      conjoinedColumns groupBy, conjoin (conjoinedPredicates having), limit, offset⟩

def Predicate.conjoined : Predicate → Predicate
  | .compare op left right => .compare op left.conjoined right.conjoined
  | .member left query => .member left.conjoined query.conjoined
  | .not p => .not p.conjoined
  | .exists query => .exists query.conjoined
  | .and p q => .and p.conjoined q.conjoined
  | .or p q => .or p.conjoined q.conjoined

def Expr.conjoined : Expr → Expr
  | .term t => .term t.conjoined
  | .literal v => .literal v
  | .predicate p => .predicate p.conjoined
  | .subquery query => .subquery query.conjoined
  | .quantified q query => .quantified q query.conjoined

def conjoinedColumns : List Column → List Column
  | [] => []
  | c :: rest => c.conjoined :: conjoinedColumns rest

def conjoinedSelections : List Selection → List Selection
  | [] => []
  | s :: rest => s.conjoined :: conjoinedSelections rest

def conjoinedPredicates : List Predicate → List Predicate
  | [] => []
  | p :: rest => p.conjoined :: conjoinedPredicates rest

end

def Assignment.conjoined : Assignment → Assignment
  | .assign column value => .assign column value.conjoined
  | .assignNonZero column value => .assignNonZero column value.conjoined
  | .fromEntity c => .fromEntity c.conjoined

def Assignments.conjoined : Assignments → Assignments
  | .list entries => .list (entries.map Assignment.conjoined)
  | .nonZeroFields => .nonZeroFields

/-- An update with a conjunction in the place of each list of predicates. -/
def Update.conjoined (u : Update) : Update :=
  { u with
    assignments := u.assignments.conjoined
    filter := conjoin (conjoinedPredicates u.filter) }

/-! ### What names stand for -/

mutual

/-- What a query exposes has nothing to do with its predicates. -/
theorem Select.exposed?_conjoined (query : Select) (name : String) :
    query.conjoined.exposed? name = query.exposed? name := by
  obtain ⟨entity, selections, source, filter, groupBy, having, limit, offset⟩ := query
  cases selections with
  | nil => rfl
  | cons first rest =>
    have entries := fun model => firstExposed?_conjoined model name (first :: rest)
    simp only [conjoinedSelections] at entries
    simp only [Select.conjoined, conjoinedSelections, Select.exposed?, entries]

theorem firstExposed?_conjoined (model : TableModel) (name : String)
    (selections : List Selection) :
    firstExposed? model name (conjoinedSelections selections) =
      firstExposed? model name selections := by
  cases selections with
  | nil => rfl
  | cons first rest =>
    have more := firstExposed?_conjoined model name rest
    obtain ⟨term, alias?⟩ := first
    cases term with
    | column c =>
      cases alias? with
      | none =>
        have answer := Column.answering?_conjoined model name c
        simp only [conjoinedSelections, Selection.conjoined, Term.conjoined, firstExposed?, answer,
          more]
      | some aliasName =>
        simp only [conjoinedSelections, Selection.conjoined, Term.conjoined, firstExposed?, more]
    | aggregate fn argument =>
      simp only [conjoinedSelections, Selection.conjoined, Term.conjoined, firstExposed?, more]
    | countAll =>
      simp only [conjoinedSelections, Selection.conjoined, Term.conjoined, firstExposed?, more]

theorem Column.answering?_conjoined (model : TableModel) (name : String) (c : Column) :
    c.conjoined.answering? model name = c.answering? model name := by
  cases c with
  | bare own => rfl
  | ofTable entity alias? own => rfl
  | ofSubquery query aliasName own =>
    have exposed := fun name => Select.exposed?_conjoined query name
    simp only [Column.conjoined, Column.answering?, exposed]

end

theorem Column.resolve_conjoined (scope : TableModel) (c : Column) :
    c.conjoined.resolve scope = c.resolve scope := by
  cases c with
  | bare name => rfl
  | ofTable entity alias? name => rfl
  | ofSubquery query aliasName name =>
    rw [Column.conjoined, Column.resolve, Column.resolve, query.exposed?_conjoined]

theorem Term.resolve_conjoined (scope : TableModel) (t : Term) :
    t.conjoined.resolve scope = t.resolve scope := by
  cases t with
  | column c => rw [Term.conjoined, Term.resolve, Term.resolve, c.resolve_conjoined]
  | aggregate fn argument =>
    rw [Term.conjoined, Term.resolve, Term.resolve, argument.resolve_conjoined]
  | countAll => rfl

theorem mapM_resolve_conjoinedSelections (scope : TableModel) (selections : List Selection) :
    (conjoinedSelections selections).mapM (Selection.resolve scope) =
      selections.mapM (Selection.resolve scope) := by
  induction selections with
  | nil => rfl
  | cons first rest ih =>
    have entry : first.conjoined.resolve scope = first.resolve scope := by
      obtain ⟨term, alias?⟩ := first
      simp only [Selection.conjoined, Selection.resolve, term.resolve_conjoined]
    rw [conjoinedSelections, List.mapM_cons, List.mapM_cons, entry, ih]

theorem mapM_resolve_conjoinedColumns (scope : TableModel) (columns : List Column) :
    (conjoinedColumns columns).mapM (Column.resolve scope) =
      columns.mapM (Column.resolve scope) := by
  induction columns with
  | nil => rfl
  | cons first rest ih =>
    rw [conjoinedColumns, List.mapM_cons, List.mapM_cons, first.resolve_conjoined, ih]

theorem Source.column?_conjoined (scope : TableModel) (name : String) :
    ∀ s : Source, s.conjoined.column? scope name = s.column? scope name
  | .own => rfl
  | .table _ _ => rfl
  | .joinWhere _ left right _ | .joinSharing _ left right _ => by
    rw [Source.conjoined, Source.column?, Source.column?, left.column?_conjoined scope name,
      right.column?_conjoined scope name]
  | .subquery query _ => query.exposed?_conjoined name

theorem sharedColumn_conjoined (scope : TableModel) (left right : Source) :
    sharedColumn scope left.conjoined right.conjoined = sharedColumn scope left right := by
  funext name
  rw [sharedColumn, sharedColumn, left.column?_conjoined, right.column?_conjoined]

/-! ### Resolution -/

/-- Of its lists of predicates a query uses what they come to. -/
theorem Select.resolve_eq (s : Select) :
    s.resolve = (do
      let scope ← Inquiry.model s.entity
      let selections ← s.selections.mapM (Selection.resolve scope)
      let source ← s.source.resolve scope
      let filter ← resolveFilter scope s.filter
      let groupBy ← s.groupBy.mapM (Column.resolve scope)
      let having ← resolveFilter scope s.having
      pure ⟨selections, source, filter, groupBy, having, s.limit, s.offset⟩) := by
  obtain ⟨entity, selections, source, filter, groupBy, having, limit, offset⟩ := s
  simp only [Select.resolve, resolveFilter, bind_assoc, pure_bind]

theorem Source.resolve_joinWhere (scope : TableModel) (kind : Sql.JoinKind) (left right : Source)
    (predicates : List Predicate) :
    (Source.joinWhere kind left right predicates).resolve scope = (do
      let left ← left.resolve scope
      let right ← right.resolve scope
      match ← resolveFilter scope predicates with
      | .all => pure (.join kind left right .unconditional)
      | .only p => pure (.join kind left right (.holds p))) := by
  rw [Source.resolve]
  refine bind_congr fun left => bind_congr fun right => ?_
  rw [resolveFilter, bind_assoc]
  exact bind_congr fun resolved => rfl

/-- Predicates that resolve to the same come to the same as one predicate. -/
theorem resolveFilter_conjoin_of_eq {scope : TableModel} {changed predicates : List Predicate}
    (h : resolvePredicates scope changed = resolvePredicates scope predicates) :
    resolveFilter scope (conjoin changed) = resolveFilter scope predicates := by
  rw [resolveFilter_conjoin, resolveFilter, resolveFilter, h]

mutual

/-- A query with conjunctions resolves to what the query resolves to. -/
theorem Select.resolve_conjoined (s : Select) : s.conjoined.resolve = s.resolve := by
  obtain ⟨entity, selections, source, filter, groupBy, having, limit, offset⟩ := s
  have source := fun scope => Source.resolve_conjoined scope source
  have filter := fun scope => resolveFilter_conjoin_of_eq (resolvePredicates_conjoined scope filter)
  have having := fun scope => resolveFilter_conjoin_of_eq (resolvePredicates_conjoined scope having)
  simp only [Select.resolve_eq, Select.conjoined, mapM_resolve_conjoinedSelections,
    mapM_resolve_conjoinedColumns, source, filter, having]

theorem Source.resolve_conjoined (scope : TableModel) (s : Source) :
    s.conjoined.resolve scope = s.resolve scope := by
  cases s with
  | own => rfl
  | table entity alias? => rfl
  | joinWhere kind left right predicates =>
    have condition := resolveFilter_conjoin_of_eq (resolvePredicates_conjoined scope predicates)
    simp only [Source.conjoined, Source.resolve_joinWhere, Source.resolve_conjoined scope left,
      Source.resolve_conjoined scope right, condition]
  | joinSharing kind left right columns =>
    simp only [Source.conjoined, Source.resolve, Source.resolve_conjoined scope left,
      Source.resolve_conjoined scope right, sharedColumn_conjoined]
  | subquery query aliasName =>
    simp only [Source.conjoined, Source.resolve, Select.resolve_conjoined query]

theorem resolvePredicates_conjoined (scope : TableModel) (predicates : List Predicate) :
    resolvePredicates scope (conjoinedPredicates predicates) =
      resolvePredicates scope predicates := by
  cases predicates with
  | nil => rfl
  | cons p rest =>
    simp only [conjoinedPredicates, resolvePredicates, Predicate.resolve_conjoined scope p,
      resolvePredicates_conjoined scope rest]

theorem Predicate.resolve_conjoined (scope : TableModel) (p : Predicate) :
    p.conjoined.resolve scope = p.resolve scope := by
  cases p with
  | compare op left right =>
    simp only [Predicate.conjoined, Predicate.resolve, left.resolve_conjoined,
      Expr.resolve_conjoined scope right]
  | member left query =>
    simp only [Predicate.conjoined, Predicate.resolve, left.resolve_conjoined,
      Select.resolve_conjoined query]
  | not p => simp only [Predicate.conjoined, Predicate.resolve, Predicate.resolve_conjoined scope p]
  | «exists» query =>
    simp only [Predicate.conjoined, Predicate.resolve, Select.resolve_conjoined query]
  | and p q | or p q =>
    simp only [Predicate.conjoined, Predicate.resolve, Predicate.resolve_conjoined scope p,
      Predicate.resolve_conjoined scope q]

theorem Expr.resolve_conjoined (scope : TableModel) (e : Expr) :
    e.conjoined.resolve scope = e.resolve scope := by
  cases e with
  | term t => simp only [Expr.conjoined, Expr.resolve, t.resolve_conjoined]
  | literal v => rfl
  | predicate p => simp only [Expr.conjoined, Expr.resolve, Predicate.resolve_conjoined scope p]
  | subquery query | quantified q query =>
    simp only [Expr.conjoined, Expr.resolve, Select.resolve_conjoined query]

end

/-! ### Updates -/

section Updates

variable (model : TableModel) (accessor : Accessor) (value? : Option Record)

theorem Expr.isLiteralZero_conjoined (e : Expr) : e.conjoined.isLiteralZero = e.isLiteralZero := by
  cases e <;> rfl

theorem Column.name_conjoined (c : Column) : c.conjoined.name = c.name := by
  cases c <;> rfl

theorem Column.checkOwn_conjoined (c : Column) : c.conjoined.checkOwn model = c.checkOwn model := by
  cases c <;> rfl

theorem Assignment.resolve_conjoined (entry : Assignment) :
    entry.conjoined.resolve model accessor value? = entry.resolve model accessor value? := by
  cases entry with
  | assign column e => simp only [Assignment.conjoined, Assignment.resolve, e.resolve_conjoined]
  | assignNonZero column e =>
    simp only [Assignment.conjoined, Assignment.resolve, e.isLiteralZero_conjoined,
      e.resolve_conjoined]
  | fromEntity c =>
    simp only [Assignment.conjoined, Assignment.resolve, c.checkOwn_conjoined, c.name_conjoined]

theorem resolveAssignments_conjoined (entries : List Assignment) :
    resolveAssignments model accessor value? (entries.map Assignment.conjoined) =
      resolveAssignments model accessor value? entries := by
  induction entries with
  | nil => rfl
  | cons entry rest ih =>
    rw [List.map_cons, resolveAssignments, resolveAssignments, entry.resolve_conjoined, ih]

end Updates

theorem Update.resolve_conjoined (strategy : AccessorStrategy) (u : Update) :
    u.conjoined.resolve strategy = u.resolve strategy := by
  have filter := fun model =>
    resolveFilter_conjoin_of_eq (resolvePredicates_conjoined model u.filter)
  obtain ⟨entity, value?, (_ | ⟨first, rest⟩) | _, predicates⟩ := u
  · rfl
  · have entries := fun model accessor =>
      resolveAssignments_conjoined model accessor value? (first :: rest)
    simp only [List.map_cons] at entries
    simp only [Update.conjoined, Assignments.conjoined, List.map_cons, Update.resolve,
      Assignments.entries, entries, filter]
  · simp only [Update.conjoined, Assignments.conjoined, Update.resolve, Assignments.entries, filter]

/-- Conditions that are added one by one are added at the end of the list. -/
theorem Select.foldl_andWhere (s : Select) (more : List Predicate) :
    more.foldl andWhere s = { s with filter := s.filter ++ more } := by
  induction more generalizing s with
  | nil =>
    cases s
    rw [List.append_nil]
    rfl
  | cons p rest ih =>
    rw [List.foldl_cons, ih]
    simp [andWhere]

/-- **Lists of predicates are conjunctions.** A list is written, from its end, just as the one
predicate that puts its members together by `AND` from left to right: with the same text, the same
values bound under the same numbers and the same questions to the registry, to the same end. This is
how statements write their conditions. So the list and the one predicate can stand for each other
under `WHERE`, `HAVING` and `ON`, and at all places of a statement at once, with the same outcome in
any store. Conditions that are added later join the list. -/
theorem predicate_lists_are_conjunctions (db : Database) :
    (∀ (scope : TableModel) (draft : Draft) (p : Predicate) (rest : List Predicate),
      draft.predicates db.dialect scope (p :: rest) =
        draft.predicate db.dialect scope (rest.foldl .and p)) ∧
    (∀ (scope : TableModel) (draft : Draft) (w : Sql.Word) (predicates : List Predicate),
      draft.clause db.dialect scope w predicates = (do
        pure (draft.push db.dialect ((← resolveFilter scope predicates).lexemes w)))) ∧
    (∀ (s : Select) (p : Predicate) (rest : List Predicate),
      db.buildSelect { s with filter := p :: rest } =
          db.buildSelect { s with filter := [rest.foldl .and p] } ∧
        db.buildSelect { s with having := p :: rest } =
          db.buildSelect { s with having := [rest.foldl .and p] } ∧
        ∀ kind left right,
          db.buildSelect { s with source := .joinWhere kind left right (p :: rest) } =
            db.buildSelect { s with source := .joinWhere kind left right [rest.foldl .and p] }) ∧
    (∀ (u : Update) (p : Predicate) (rest : List Predicate),
      db.buildUpdate { u with filter := p :: rest } =
        db.buildUpdate { u with filter := [rest.foldl .and p] }) ∧
    (∀ s : Select, db.buildSelect s.conjoined = db.buildSelect s) ∧
    (∀ u : Update, db.buildUpdate u.conjoined = db.buildUpdate u) ∧
    ∀ (s : Select) (more : List Predicate),
      db.buildSelect (more.foldl Select.andWhere s) =
        db.buildSelect { s with filter := conjoin (s.filter ++ more) } := by
  have condition (scope : TableModel) (p : Predicate) (rest : List Predicate) :
      resolveFilter scope (p :: rest) = resolveFilter scope [rest.foldl .and p] :=
    (resolveFilter_conjoin scope (p :: rest)).symm
  refine ⟨fun scope draft p rest => Draft.predicates_eq p rest,
    fun scope draft w predicates => Draft.clause_eq w predicates, fun s p rest => ⟨?_, ?_, ?_⟩,
    fun u p rest => ?_, fun s => ?_, fun u => ?_, fun s more => ?_⟩
  · rw [Database.buildSelect, Database.buildSelect, Select.resolve_eq, Select.resolve_eq]
    simp only [condition _ p rest]
  · rw [Database.buildSelect, Database.buildSelect, Select.resolve_eq, Select.resolve_eq]
    simp only [condition _ p rest]
  · intro kind left right
    rw [Database.buildSelect, Database.buildSelect, Select.resolve_eq, Select.resolve_eq]
    simp only [Source.resolve_joinWhere, condition _ p rest]
  · rw [Database.buildUpdate, Database.buildUpdate, Update.resolve, Update.resolve]
    simp only [condition _ p rest]
  · rw [Database.buildSelect, Database.buildSelect, s.resolve_conjoined]
  · rw [Database.buildUpdate, Database.buildUpdate, u.resolve_conjoined]
  · rw [Database.buildSelect, Database.buildSelect, s.foldl_andWhere, Select.resolve_eq,
      Select.resolve_eq]
    simp only [resolveFilter_conjoin]

end EntitySql
