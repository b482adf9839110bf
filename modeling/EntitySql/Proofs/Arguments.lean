import EntitySql.Proofs.Writing

/-!
# Arguments of statements

The arguments of a statement can be read off the statement as it was put together, without looking
at its text: they are its literals and row counts in the order of its clauses, at every depth. What
is built has these arguments (`select_update_args`).
-/

namespace EntitySql

open Sql (Lexeme boundValues)

/-! ### The arguments of a statement -/

/-- A number of rows is bound, up to the largest integer, unless it is 0. -/
def rowCountArguments (n : Nat) : List Value :=
  if n = 0 then [] else [.int64 (Int64.ofNat (min n 9223372036854775807))]

mutual

/-- The arguments of a query: those of its source, its filter, its groups and its row counts. The
select list and the grouping have none. -/
def Select.arguments : Select → List Value
  | ⟨_, _, source, filter, _, having, limit, offset⟩ =>
    source.arguments ++ predicateArguments filter ++ predicateArguments having
      ++ rowCountArguments limit ++ rowCountArguments offset

/-- The arguments of a source: those of a join stand left, right and condition in turn. -/
def Source.arguments : Source → List Value
  | .own | .table _ _ => []
  | .joinWhere _ left right predicates =>
    left.arguments ++ right.arguments ++ predicateArguments predicates
  | .joinSharing _ left right _ => left.arguments ++ right.arguments
  | .subquery query _ => query.arguments

/-- The arguments of predicates one after the other. -/
def predicateArguments : List Predicate → List Value
  | [] => []
  | p :: rest => p.arguments ++ predicateArguments rest

/-- The arguments of a predicate, from left to right. What is compared or looked for on the left is
a column or an aggregate and has none. -/
def Predicate.arguments : Predicate → List Value
  | .compare _ _ right => right.arguments
  | .member _ query | .exists query => query.arguments
  | .not p => p.arguments
  | .and p q | .or p q => p.arguments ++ q.arguments

/-- The arguments of an expression; a literal is one itself. -/
def Expr.arguments : Expr → List Value
  | .term _ => []
  | .literal v => [v]
  | .predicate p => p.arguments
  | .subquery query | .quantified _ query => query.arguments

end

/-- What an entry in a list of changes sets its column to, unless it drops out. -/
def Assignment.value? (model : TableModel) (accessor : Accessor) (record? : Option Record) :
    Assignment → Option Expr
  | .assign _ value => some value
  | .assignNonZero _ value => if value.isLiteralZero then none else some value
  | .fromEntity c => do
    let record ← record?
    let field ← model.resolve? c.name
    let value ← (accessor.get record field.field).toOption
    if field.type.isZero value then none else some (.literal value)

/-- The arguments of an update: those of the changes that do not drop out, then those of its
filter. -/
def Update.arguments (model : TableModel) (accessor : Accessor) (u : Update) : List Value :=
  ((u.assignments.entries model).filterMap (Assignment.value? model accessor u.value?)).flatMap
    Expr.arguments ++ predicateArguments u.filter

/-! ### The values among the lexemes of SQL -/

namespace Sql

@[simp] theorem boundValues_commaSeparated (parts : List (List Lexeme)) :
    boundValues (commaSeparated parts) = parts.flatMap boundValues := by
  induction parts with
  | nil => rfl
  | cons part rest ih =>
    cases rest with
    | nil => simp [commaSeparated]
    | cons next rest => simp [commaSeparated, ih]

@[simp] theorem Column.boundValues_lexemes (c : Column) : boundValues c.lexemes = [] := by
  obtain ⟨_ | _, _⟩ := c <;> rfl

@[simp] theorem Term.boundValues_lexemes (t : Term) : boundValues t.lexemes = [] := by
  cases t <;> simp [Term.lexemes]

@[simp] theorem boundValues_aliasLexemes (alias? : Option String) :
    boundValues (aliasLexemes alias?) = [] := by
  cases alias? <;> rfl

@[simp] theorem Selection.boundValues_lexemes (s : Selection) : boundValues s.lexemes = [] := by
  simp [Selection.lexemes]

@[simp] theorem boundValues_selectionLexemes (selections : List Selection) :
    boundValues (selectionLexemes selections) = [] := by
  cases selections <;> simp [selectionLexemes]

@[simp] theorem boundValues_groupLexemes (columns : List Column) :
    boundValues (groupLexemes columns) = [] := by
  cases columns <;> simp [groupLexemes]

theorem boundValues_rowCountLexemes (w : Word) (n : Nat) :
    boundValues (rowCountLexemes w n) = rowCountArguments n := by
  unfold rowCountLexemes rowCountArguments
  split <;> rfl

/-- An operand differs from the expression only in parentheses. -/
@[simp] theorem Expr.boundValues_operandLexemes (e : Expr) :
    boundValues e.operandLexemes = boundValues e.lexemes := by
  cases e <;> simp [operandLexemes, Expr.lexemes]

/-- The values of a conjunction are those of its predicates in order. -/
theorem Filter.boundValues_conjunction (w : Word) (predicates : List Predicate) :
    boundValues ((Filter.conjunction predicates).lexemes w) =
      predicates.flatMap fun p => boundValues p.lexemes := by
  cases predicates with
  | nil => rfl
  | cons p rest =>
    simp only [conjunction, Filter.lexemes, boundValues_word, List.flatMap_cons]
    induction rest generalizing p with
    | nil => simp
    | cons q rest ih => simp [ih, Predicate.lexemes]

/-- The values of a query stand in its source, its filters and its row counts. -/
theorem Select.boundValues_lexemes (s : Select) :
    boundValues s.lexemes = boundValues s.source.lexemes ++ boundValues (s.filter.lexemes .filter)
      ++ boundValues (s.having.lexemes .having) ++ rowCountArguments s.limit
      ++ rowCountArguments s.offset := by
  obtain ⟨selections, source, filter, groupBy, having, limit, offset⟩ := s
  simp [Select.lexemes, boundValues_rowCountLexemes]

end Sql

/-! ### Resolution keeps the arguments -/

variable {models : EntityType → Except Error TableModel}

mutual

theorem Select.boundValues_resolve : ∀ (s : Select) {t : Sql.Select},
    s.resolve.answer models = .ok t → boundValues t.lexemes = s.arguments
  | ⟨entity, selections, source, filter, groupBy, having, limit, offset⟩, t, h => by
    simp only [Select.resolve, Inquiry.answer_bind_eq_ok, Inquiry.answer_pure,
      Except.ok.injEq] at h
    obtain ⟨scope, -, selections, -, source', hs, filter', hf, groupBy, -, having', hh, rfl⟩ := h
    simp only [Sql.Select.boundValues_lexemes, Sql.Filter.boundValues_conjunction,
      Select.arguments, source.boundValues_resolve hs, boundValues_resolvePredicates filter hf,
      boundValues_resolvePredicates having hh]

theorem Source.boundValues_resolve : ∀ {scope : TableModel} (s : Source) {t : Sql.Source},
    (s.resolve scope).answer models = .ok t → boundValues t.lexemes = s.arguments
  | _, .own, t, h => by
    simp only [Source.resolve, Inquiry.answer_pure, Except.ok.injEq] at h
    subst h
    rfl
  | _, .table entity alias?, t, h => by
    simp only [Source.resolve, Inquiry.answer_bind_eq_ok, Inquiry.answer_pure,
      Except.ok.injEq] at h
    obtain ⟨model, -, rfl⟩ := h
    simp [Sql.Source.lexemes, Source.arguments]
  | _, .joinWhere kind left right predicates, t, h => by
    simp only [Source.resolve, Inquiry.answer_bind_eq_ok] at h
    obtain ⟨left', hl, right', hr, predicates', hp, h⟩ := h
    have condition := Sql.Filter.boundValues_conjunction .condition predicates'
    rw [boundValues_resolvePredicates predicates hp] at condition
    rw [Source.arguments, ← left.boundValues_resolve hl, ← right.boundValues_resolve hr,
      ← condition]
    revert h
    cases Sql.Filter.conjunction predicates' with
    | all =>
      intro h
      cases h
      simp [Sql.Source.lexemes, Sql.JoinCondition.lexemes, Sql.Filter.lexemes]
    | only p =>
      intro h
      cases h
      simp [Sql.Source.lexemes, Sql.JoinCondition.lexemes, Sql.Filter.lexemes]
  | _, .joinSharing kind left right columns, t, h => by
    simp only [Source.resolve, Inquiry.answer_bind_eq_ok] at h
    obtain ⟨left', hl, right', hr, shared, -, h⟩ := h
    rw [Source.arguments, ← left.boundValues_resolve hl, ← right.boundValues_resolve hr]
    cases shared with
    | nil =>
      cases h
      simp [Sql.Source.lexemes, Sql.JoinCondition.lexemes]
    | cons first rest =>
      cases h
      simp [Sql.Source.lexemes, Sql.JoinCondition.lexemes, List.flatMap_map]
  | _, .subquery query aliasName, t, h => by
    simp only [Source.resolve, Inquiry.answer_bind_eq_ok, Inquiry.answer_pure,
      Except.ok.injEq] at h
    obtain ⟨query', hq, rfl⟩ := h
    simp [Sql.Source.lexemes, Source.arguments, query.boundValues_resolve hq]

theorem boundValues_resolvePredicates :
    ∀ {scope : TableModel} (predicates : List Predicate) {t : List Sql.Predicate},
    (resolvePredicates scope predicates).answer models = .ok t →
      t.flatMap (fun p => boundValues p.lexemes) = predicateArguments predicates
  | _, [], t, h => by
    simp only [resolvePredicates, Inquiry.answer_pure, Except.ok.injEq] at h
    subst h
    rfl
  | _, p :: rest, t, h => by
    simp only [resolvePredicates, Inquiry.answer_bind_eq_ok, Inquiry.answer_pure,
      Except.ok.injEq] at h
    obtain ⟨first, hf, more, hm, rfl⟩ := h
    rw [List.flatMap_cons, p.boundValues_resolve hf, boundValues_resolvePredicates rest hm,
      predicateArguments]

theorem Predicate.boundValues_resolve :
    ∀ {scope : TableModel} (p : Predicate) {t : Sql.Predicate},
    (p.resolve scope).answer models = .ok t → boundValues t.lexemes = p.arguments
  | _, .compare op left right, t, h => by
    simp only [Predicate.resolve, Inquiry.answer_bind_eq_ok, Inquiry.answer_pure,
      Except.ok.injEq] at h
    obtain ⟨left', -, right', hr, rfl⟩ := h
    simp [Sql.Predicate.lexemes, Predicate.arguments, ← right.boundValues_resolve hr]
  | _, .member left query, t, h => by
    simp only [Predicate.resolve, Inquiry.answer_bind_eq_ok, Inquiry.answer_pure,
      Except.ok.injEq] at h
    obtain ⟨left', -, query', hq, rfl⟩ := h
    simp [Sql.Predicate.lexemes, Predicate.arguments, query.boundValues_resolve hq]
  | _, .not p, t, h => by
    simp only [Predicate.resolve, Inquiry.answer_bind_eq_ok, Inquiry.answer_pure,
      Except.ok.injEq] at h
    obtain ⟨p', hp, rfl⟩ := h
    simp [Sql.Predicate.lexemes, Predicate.arguments, p.boundValues_resolve hp]
  | _, .exists query, t, h => by
    simp only [Predicate.resolve, Inquiry.answer_bind_eq_ok, Inquiry.answer_pure,
      Except.ok.injEq] at h
    obtain ⟨query', hq, rfl⟩ := h
    simp [Sql.Predicate.lexemes, Predicate.arguments, query.boundValues_resolve hq]
  | _, .and p q, t, h | _, .or p q, t, h => by
    simp only [Predicate.resolve, Inquiry.answer_bind_eq_ok, Inquiry.answer_pure,
      Except.ok.injEq] at h
    obtain ⟨p', hp, q', hq, rfl⟩ := h
    simp [Sql.Predicate.lexemes, Predicate.arguments, p.boundValues_resolve hp,
      q.boundValues_resolve hq]

theorem Expr.boundValues_resolve : ∀ {scope : TableModel} (e : Expr) {t : Sql.Expr},
    (e.resolve scope).answer models = .ok t → boundValues t.lexemes = e.arguments
  | _, .term _, t, h => by
    simp only [Expr.resolve, Inquiry.answer_bind_eq_ok, Inquiry.answer_pure,
      Except.ok.injEq] at h
    obtain ⟨term, -, rfl⟩ := h
    simp [Sql.Expr.lexemes, Expr.arguments]
  | _, .literal v, t, h => by
    simp only [Expr.resolve, Inquiry.answer_pure, Except.ok.injEq] at h
    subst h
    rfl
  | _, .predicate p, t, h => by
    simp only [Expr.resolve, Inquiry.answer_bind_eq_ok, Inquiry.answer_pure,
      Except.ok.injEq] at h
    obtain ⟨p', hp, rfl⟩ := h
    simp [Sql.Expr.lexemes, Expr.arguments, p.boundValues_resolve hp]
  | _, .subquery query, t, h | _, .quantified _ query, t, h => by
    simp only [Expr.resolve, Inquiry.answer_bind_eq_ok, Inquiry.answer_pure,
      Except.ok.injEq] at h
    obtain ⟨query', hq, rfl⟩ := h
    simp [Sql.Expr.lexemes, Expr.arguments, query.boundValues_resolve hq]

end

/-- The values of a list of assignments. -/
def assignedValues (assignments : List (String × Sql.Expr)) : List Value :=
  assignments.flatMap fun (_, value) => boundValues value.lexemes

variable {model : TableModel} {accessor : Accessor} {record? : Option Record}

theorem Assignment.assignedValues_resolve (entry : Assignment)
    {t : Option (String × Sql.Expr)}
    (h : (entry.resolve model accessor record?).answer models = .ok t) :
    assignedValues t.toList =
      (entry.value? model accessor record?).toList.flatMap Expr.arguments := by
  cases entry with
  | assign column value =>
    simp only [Assignment.resolve, Inquiry.answer_bind_eq_ok, Inquiry.answer_pure,
      Except.ok.injEq] at h
    obtain ⟨column', -, value', hv, rfl⟩ := h
    simp [assignedValues, Assignment.value?, value.boundValues_resolve hv]
  | assignNonZero column value =>
    simp only [Assignment.resolve] at h
    split at h
    · rename_i hz
      cases h
      simp [assignedValues, Assignment.value?, hz]
    · rename_i hz
      simp only [Inquiry.answer_bind_eq_ok, Inquiry.answer_pure, Except.ok.injEq] at h
      obtain ⟨column', -, value', hv, rfl⟩ := h
      simp [assignedValues, Assignment.value?, hz, value.boundValues_resolve hv]
  | fromEntity c =>
    simp only [Assignment.resolve, Inquiry.answer_bind_eq_ok, Inquiry.answer_pure,
      Except.ok.injEq] at h
    obtain ⟨-, -, record, hr, field, hf, value, hv, rfl⟩ := h
    have hr := Inquiry.answer_require_eq_ok.1 hr
    have hf := Inquiry.answer_require_eq_ok.1 hf
    have hv : accessor.get record field.field = .ok value := hv
    by_cases hz : field.type.isZero value
    · simp [assignedValues, Assignment.value?, hr, hf, hv, hz, Except.toOption]
    · simp [assignedValues, Assignment.value?, hr, hf, hv, hz, Except.toOption, Sql.Expr.lexemes,
        Expr.arguments]

theorem assignedValues_resolveAssignments (entries : List Assignment)
    {t : List (String × Sql.Expr)}
    (h : (resolveAssignments model accessor record? entries).answer models = .ok t) :
    assignedValues t =
      (entries.filterMap (Assignment.value? model accessor record?)).flatMap Expr.arguments := by
  induction entries generalizing t with
  | nil =>
    cases h
    rfl
  | cons entry rest ih =>
    simp only [resolveAssignments, Inquiry.answer_bind_eq_ok, Inquiry.answer_pure,
      Except.ok.injEq] at h
    obtain ⟨first?, hf, more, hm, rfl⟩ := h
    have first := entry.assignedValues_resolve hf
    have rest := ih hm
    rw [assignedValues] at first rest ⊢
    rw [List.flatMap_append, first, rest, List.filterMap_cons]
    cases entry.value? model accessor record? <;> simp

/-- The arguments of an update that resolves are read off it with the model and the accessor of its
entity type. -/
theorem Update.boundValues_resolve {strategy : AccessorStrategy} (u : Update) {t : Sql.Update}
    (h : (u.resolve strategy).answer models = .ok t) :
    ∃ model accessor, models u.entity = .ok model ∧
      strategy.accessor u.entity model = .ok accessor ∧
      boundValues t.lexemes = u.arguments model accessor := by
  unfold Update.resolve at h
  split at h
  · cases h
  · simp only [Inquiry.answer_bind_eq_ok] at h
    obtain ⟨model, hm, accessor, ha, resolved, hr, h⟩ := h
    refine ⟨model, accessor, Inquiry.answer_model_eq_ok.1 hm, ha, ?_⟩
    split at h
    · cases h
    · simp only [resolveFilter, Inquiry.answer_bind_eq_ok, Inquiry.answer_pure,
        Except.ok.injEq] at h
      obtain ⟨filter, ⟨predicates, hp, rfl⟩, rfl⟩ := h
      have values := assignedValues_resolveAssignments _ hr
      have rest := Sql.Filter.boundValues_conjunction .filter predicates
      rw [boundValues_resolvePredicates u.filter hp] at rest
      simp only [Sql.Update.lexemes, Sql.boundValues_word, Sql.boundValues_name,
        Sql.boundValues_append, Sql.boundValues_commaSeparated, List.flatMap_map, rest,
        Update.arguments, ← values, assignedValues]

/-- **Arguments stand in the order of the statement** in every statement that is built. -/
theorem select_update_args (db : Database) (store : Store) :
    (∀ s q, ((db.buildSelect s).exec store).1 = .ok q → q.args = s.arguments) ∧
      ∀ u q, ((db.buildUpdate u).exec store).1 = .ok q →
        ∃ model accessor, store.registry.effective u.entity = .ok model ∧
          db.config.accessor.accessor u.entity model = .ok accessor ∧
          q.args = u.arguments model accessor := by
  refine ⟨fun s q hq => ?_, fun u q hq => ?_⟩
  · obtain ⟨t, ht, rfl⟩ := Database.buildSelect_ok hq
    exact s.boundValues_resolve ht
  · obtain ⟨t, ht, rfl⟩ := Database.buildUpdate_ok hq
    exact u.boundValues_resolve ht

theorem sample_args :
    ((Sample.database.buildSelect Sample.namesakes).exec .empty).1 = .ok Sample.namesakesQuery ∧
      Sample.namesakesQuery.args = Sample.namesakes.arguments ∧
      ((Sample.database.buildUpdate Sample.birthday).exec .empty).1 = .ok Sample.birthdayQuery ∧
      ∃ model accessor, Registry.empty.effective Sample.person = .ok model ∧
        AccessorStrategy.direct.accessor Sample.person model = .ok accessor ∧
        Sample.birthdayQuery.args = Sample.birthday.arguments model accessor :=
  have args := select_update_args Sample.database .empty
  ⟨Sample.buildSelect_namesakes, args.1 _ _ Sample.buildSelect_namesakes,
    Sample.buildUpdate_birthday, args.2 _ _ Sample.buildUpdate_birthday⟩

end EntitySql
