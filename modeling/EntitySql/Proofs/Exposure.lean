import EntitySql.Proofs.Mentions
import EntitySql.Proofs.Writing

/-!
# What names mean

What a name means to a query, to an entry of its select list or to a table can be told without
asking for models one after the other, once every type has a model. The relations here do that:
`TableModel.Means`, `Column.Answers`, `Select.Exposes`. Looking a name up comes to what they say
(`Select.finds_exposed?`).

The columns that a subquery has to offer are the output columns of its select list, no more and no
less (`subquery_columns_are_outputs`), although the list is gone through anew, in a way of its own,
for each column of the subquery that is referred to.
-/

namespace EntitySql

/-! ### Names and tables -/

namespace TableModel

/-- `name` is the field name or the column of some field. -/
def Knows (m : TableModel) (name : String) : Prop :=
  ∃ f ∈ m.fields, f.field = name ∨ f.column = name

/-- `name` stands for the column `x`. -/
def Means (m : TableModel) (name x : String) : Prop :=
  ∃ f, m.resolve? name = some f ∧ f.column = x

/-- `own` stands for the column `x`, and `name` is that very column, or it stands for the same
field. -/
def Answers (m : TableModel) (own name x : String) : Prop :=
  ∃ f, m.resolve? own = some f ∧ f.column = x ∧
    (f.column = name ∨ ∃ g, m.resolve? name = some g ∧ g.index = f.index)

variable {m : TableModel} {own name x : String}

theorem resolve?_eq_none : m.resolve? name = none ↔ ¬m.Knows name := by
  have fields : m.field? name = none ↔ ∀ f ∈ m.fields, f.field ≠ name := by
    simp [field?]
  have columns : m.column? name = none ↔ ∀ f ∈ m.fields, f.column ≠ name := by
    simp [column?]
  have both : m.resolve? name = none ↔ m.field? name = none ∧ m.column? name = none := by
    unfold resolve?
    cases m.field? name <;> simp
  rw [both, fields, columns, Knows]
  constructor
  · rintro ⟨noField, noColumn⟩ ⟨f, hf, named | named⟩
    · exact noField f hf named
    · exact noColumn f hf named
  · intro unknown
    exact ⟨fun f hf named => unknown ⟨f, hf, .inl named⟩,
      fun f hf named => unknown ⟨f, hf, .inr named⟩⟩

/-- A name stands for something only if it is known. -/
theorem knows_of_resolve? {f : FieldModel} (h : m.resolve? name = some f) : m.Knows name := by
  by_contra unknown
  rw [resolve?_eq_none.2 unknown] at h
  cases h

/-- The names that mean something are the field names and the columns. -/
theorem exists_means : (∃ x, m.Means name x) ↔ m.Knows name := by
  constructor
  · rintro ⟨x, f, hf, -⟩
    exact knows_of_resolve? hf
  · intro known
    cases hf : m.resolve? name with
    | some f => exact ⟨f.column, f, hf, rfl⟩
    | none => exact absurd known (resolve?_eq_none.1 hf)

theorem map_resolve?_eq_some : (m.resolve? name).map (·.column) = some x ↔ m.Means name x :=
  Option.map_eq_some_iff

theorem columnAnswering?_eq_some : m.columnAnswering? own name = some x ↔ m.Answers own name x := by
  unfold columnAnswering? Answers
  cases m.resolve? own with
  | none => simp
  | some f =>
    have same : (m.resolve? name).any (·.index == f.index) = true ↔
        ∃ g, m.resolve? name = some g ∧ g.index = f.index := by
      cases m.resolve? name <;> simp
    simp only [same, Option.some.injEq]
    constructor
    · intro h
      split at h
      · rename_i answers
        exact ⟨f, rfl, Option.some.inj h, answers⟩
      · cases h
    · rintro ⟨_, rfl, hx, answers⟩
      rw [if_pos answers, hx]

end TableModel

/-! ### Names and queries -/

mutual

/-- To the query, `name` means the output column `x`. With a select list that is the column of the
first entry that answers to the name, and else the one that the name stands for in the model. -/
def Select.Exposes (model : EntityType → TableModel) : Select → String → String → Prop
  | ⟨entity, [], _, _, _, _, _, _⟩, name, x => (model entity).Means name x
  | ⟨entity, first :: rest, _, _, _, _, _, _⟩, name, x =>
    FirstAnswers model (model entity) (first :: rest) name x

/-- The first entry that answers to `name` gives the column `x`. -/
def FirstAnswers (model : EntityType → TableModel) (scope : TableModel) :
    List Selection → String → String → Prop
  | [], _, _ => False
  | s :: rest, name, x =>
    s.Answers model scope name x ∨
      (∀ y, ¬s.Answers model scope name y) ∧ FirstAnswers model scope rest name x

/-- An entry answers to `name`, and gives the column `x`: to its alias, if it has one, and else, if
it is a column, to whatever means this column. -/
def Selection.Answers (model : EntityType → TableModel) (scope : TableModel) :
    Selection → String → String → Prop
  | ⟨.column c, none⟩, name, x => c.Answers model scope name x
  | ⟨_, alias?⟩, name, x => alias? = some name ∧ name = x

/-- The column reference stands for the column `x`, and `name` is that very column, or it means the
same where the reference looks. -/
def Column.Answers (model : EntityType → TableModel) (scope : TableModel) :
    Column → String → String → Prop
  | .bare own, name, x => scope.Answers own name x
  | .ofTable entity _ own, name, x => (model entity).Answers own name x
  | .ofSubquery query _ own, name, x =>
    query.Exposes model own x ∧ (x = name ∨ query.Exposes model name x)

end

variable {model : EntityType → TableModel} {scope : TableModel}

theorem exists_firstAnswers {selections : List Selection} {name : String} :
    (∃ x, FirstAnswers model scope selections name x) ↔
      ∃ s ∈ selections, ∃ x, s.Answers model scope name x := by
  induction selections with
  | nil => simp [FirstAnswers]
  | cons s rest ih =>
    simp only [FirstAnswers, List.mem_cons]
    constructor
    · rintro ⟨x, answers | ⟨-, later⟩⟩
      · exact ⟨s, .inl rfl, x, answers⟩
      · obtain ⟨s', hs', answers⟩ := ih.1 ⟨x, later⟩
        exact ⟨s', .inr hs', answers⟩
    · rintro ⟨s', rfl | hs', x, answers⟩
      · exact ⟨x, .inl answers⟩
      · by_cases here : ∃ y, s.Answers model scope name y
        · obtain ⟨y, answers⟩ := here
          exact ⟨y, .inl answers⟩
        · obtain ⟨y, later⟩ := ih.2 ⟨s', hs', x, answers⟩
          exact ⟨y, .inr ⟨fun y answers => here ⟨y, answers⟩, later⟩⟩

theorem mem_of_firstAnswers {selections : List Selection} {name x : String}
    (h : FirstAnswers model scope selections name x) :
    ∃ s ∈ selections, s.Answers model scope name x := by
  induction selections with
  | nil => exact h.elim
  | cons s rest ih =>
    rcases h with answers | ⟨-, later⟩
    · exact ⟨s, List.mem_cons_self, answers⟩
    · obtain ⟨s', hs', answers⟩ := ih later
      exact ⟨s', List.mem_cons_of_mem _ hs', answers⟩

/-! ### Looking names up -/

/-- Every type goes by the model that is given for it. -/
def given (model : EntityType → TableModel) : EntityType → Except Error TableModel :=
  fun e => .ok (model e)

namespace Inquiry

/-- A search that does not fail, and finds what meets `R`, if anything does. -/
def Finds (q : Inquiry (Option String)) (model : EntityType → TableModel) (R : String → Prop) :
    Prop :=
  ∃ found?, q.answer (given model) = .ok found? ∧ ∀ x, found? = some x ↔ R x

variable {R R' : String → Prop} {q q' : Inquiry (Option String)}

theorem finds_pure {found? : Option String} (h : ∀ x, found? = some x ↔ R x) :
    (pure found? : Inquiry _).Finds model R :=
  ⟨found?, rfl, h⟩

theorem Finds.congr (h : q.Finds model R) (hR : ∀ x, R x ↔ R' x) : q.Finds model R' := by
  obtain ⟨found?, answer, found⟩ := h
  exact ⟨found?, answer, fun x => (found x).trans (hR x)⟩

theorem finds_model {e : EntityType} {next : TableModel → Inquiry (Option String)}
    (h : (next (model e)).Finds model R) : (Inquiry.model e >>= next).Finds model R := by
  obtain ⟨found?, answer, found⟩ := h
  refine ⟨found?, ?_, found⟩
  rw [answer_bind]
  exact answer

theorem Finds.unique (h : q.Finds model R) {x y : String} (hx : R x) (hy : R y) : x = y := by
  obtain ⟨found?, -, found⟩ := h
  exact Option.some.inj (((found x).2 hx).symm.trans ((found y).2 hy))

/-- A second search where the first one finds nothing. -/
theorem Finds.orElse (h : q.Finds model R) (h' : q'.Finds model R') :
    (do match ← q with
      | some x => pure (some x)
      | none => q' : Inquiry (Option String)).Finds model
      fun x => R x ∨ (∀ y, ¬R y) ∧ R' x := by
  obtain ⟨found?, answer, found⟩ := h
  rw [Finds, answer_bind, answer]
  cases found? with
  | some x =>
    have hx := (found x).1 rfl
    refine ⟨some x, rfl, fun y => ⟨fun same => .inl ((found y).1 same), ?_⟩⟩
    rintro (hy | ⟨none, -⟩)
    · exact (found y).2 hy
    · exact absurd hx (none x)
  | none =>
    obtain ⟨found'?, answer', found'⟩ := h'
    have none : ∀ y, ¬R y := fun y hy => Option.some_ne_none y ((found y).2 hy).symm
    refine ⟨found'?, answer', fun y => (found' y).trans ⟨fun hy => .inr ⟨none, hy⟩, ?_⟩⟩
    rintro (hy | ⟨-, hy⟩)
    · exact absurd hy (none y)
    · exact hy

end Inquiry

open Inquiry

theorem Selection.answers_of_named {s : Selection} (h : s.column? = none) {name x : String} :
    s.Answers model scope name x ↔ s.alias? = some name ∧ name = x := by
  obtain ⟨_ | _ | _, _ | _⟩ := s
  · cases h
  all_goals rfl

/-- An entry that does not go by a column is told by its alias. -/
theorem finds_of_named {s : Selection} (h : s.column? = none) {rest : List Selection}
    {name : String}
    (hr : (firstExposed? scope name rest).Finds model (FirstAnswers model scope rest name)) :
    (firstExposed? scope name (s :: rest)).Finds model
      (FirstAnswers model scope (s :: rest) name) := by
  rw [firstExposed?_of_named h]
  simp only [FirstAnswers, Selection.answers_of_named h]
  by_cases named : s.alias? = some name
  · rw [if_pos named]
    exact finds_pure fun x => by simp [named]
  · rw [if_neg named]
    exact hr.congr fun x => by simp [named]

/-- A reference through a query answers to what the query itself means by the name. -/
theorem Column.finds_ofSubquery {query : Select} {aliasName own name : String}
    (ho : (query.exposed? own).Finds model (query.Exposes model own))
    (hn : (query.exposed? name).Finds model (query.Exposes model name)) :
    ((Column.ofSubquery query aliasName own).answering? scope name).Finds model
      ((Column.ofSubquery query aliasName own).Answers model scope name) := by
  obtain ⟨own?, answer, found⟩ := ho
  obtain ⟨other?, answer', found'⟩ := hn
  rw [Column.answering?, Finds, answer_bind, answer]
  simp only [Column.Answers, ← found, ← found']
  cases own? with
  | none => exact ⟨none, rfl, fun x => by simp⟩
  | some column =>
    by_cases same : column = name
    · refine ⟨some column, ?_, fun x => ?_⟩
      · show (if column = name then pure (some column) else _ : Inquiry _).answer _ = _
        rw [if_pos same]
        rfl
      · rw [Option.some.injEq]
        exact ⟨fun hx => ⟨hx, .inl (hx ▸ same)⟩, And.left⟩
    · refine ⟨if other? = some column then some column else none, ?_, fun x => ?_⟩
      · show (if column = name then _ else _ : Inquiry _).answer _ = _
        rw [if_neg same, answer_bind, answer']
        rfl
      · by_cases known : other? = some column
        · rw [if_pos known, Option.some.injEq]
          exact ⟨fun hx => ⟨hx, .inr (hx ▸ known)⟩, And.left⟩
        · rw [if_neg known]
          constructor
          · intro hx
            cases hx
          · rintro ⟨hx, named | named⟩
            · cases hx
              exact absurd named same
            · cases hx
              exact absurd named known

mutual

/-- Looking a name up in a query finds what the name means to it. -/
theorem Select.finds_exposed? : ∀ (query : Select) (name : String),
    (query.exposed? name).Finds model (query.Exposes model name)
  | ⟨entity, selections, source, filter, groupBy, having, limit, offset⟩, name => by
    have entries := fun scope => finds_firstExposed? scope selections name
    rw [Select.exposed?]
    refine finds_model ?_
    cases selections with
    | nil => exact finds_pure fun x => TableModel.map_resolve?_eq_some
    | cons first rest => exact entries (model entity)

theorem finds_firstExposed? (scope : TableModel) : ∀ (selections : List Selection) (name : String),
    (firstExposed? scope name selections).Finds model (FirstAnswers model scope selections name)
  | [], name => finds_pure fun x => ⟨nofun, False.elim⟩
  | ⟨.column c, none⟩ :: rest, name => by
    rw [firstExposed?]
    exact (c.finds_answering? scope name).orElse (finds_firstExposed? scope rest name)
  | ⟨.column c, some aliasName⟩ :: rest, name =>
    finds_of_named (s := ⟨.column c, some aliasName⟩) rfl (finds_firstExposed? scope rest name)
  | ⟨.aggregate fn argument, alias?⟩ :: rest, name =>
    finds_of_named (s := ⟨.aggregate fn argument, alias?⟩) rfl (finds_firstExposed? scope rest name)
  | ⟨.countAll, alias?⟩ :: rest, name =>
    finds_of_named (s := ⟨.countAll, alias?⟩) rfl (finds_firstExposed? scope rest name)

theorem Column.finds_answering? (scope : TableModel) : ∀ (c : Column) (name : String),
    (c.answering? scope name).Finds model (c.Answers model scope name)
  | .bare own, name => finds_pure fun x => TableModel.columnAnswering?_eq_some
  | .ofTable entity _ own, name => by
    rw [Column.answering?]
    exact finds_model (finds_pure fun x => TableModel.columnAnswering?_eq_some)
  | .ofSubquery query _ own, name =>
    Column.finds_ofSubquery (query.finds_exposed? own) (query.finds_exposed? name)

end

/-! ### Columns -/

/-- A column reference in the scope of a model, and the column that it stands for. -/
def Column.Renders (model : EntityType → TableModel) (scope : TableModel) :
    Column → Sql.Column → Prop
  | .bare name, c => c.qualifier? = none ∧ scope.Means name c.name
  | .ofTable entity alias? name, c =>
    c.qualifier? = some (alias?.getD (model entity).table) ∧ (model entity).Means name c.name
  | .ofSubquery query aliasName name, c =>
    c.qualifier? = some aliasName ∧ query.Exposes model name c.name

/-- What a search finds is required: there it is, or the name is unknown. -/
theorem Inquiry.Finds.require {q : Inquiry (Option String)} {R : String → Prop}
    (h : q.Finds model R) (err : Error) :
    (∃ x, R x ∧ (do Inquiry.require (← q) err : Inquiry String).answer (given model) = .ok x) ∨
      (∀ x, ¬R x) ∧
        (do Inquiry.require (← q) err : Inquiry String).answer (given model) = .error err := by
  obtain ⟨found?, answer, found⟩ := h
  rw [answer_bind, answer]
  cases found? with
  | some x => exact .inl ⟨x, (found x).1 rfl, rfl⟩
  | none => exact .inr ⟨fun x hx => Option.some_ne_none x ((found x).2 hx).symm, rfl⟩

/-- The column of a field that a name stands for, qualified in some way. -/
theorem TableModel.answer_require {models : EntityType → Except Error TableModel} (m : TableModel)
    (name : String) (qualifier? : Option String) :
    (∃ x, m.Means name x ∧ (do
        let field ← Inquiry.require (m.resolve? name) (.unknownColumn name)
        pure ⟨qualifier?, field.column⟩ : Inquiry Sql.Column).answer models =
          .ok ⟨qualifier?, x⟩) ∨
      (∀ x, ¬m.Means name x) ∧ (do
        let field ← Inquiry.require (m.resolve? name) (.unknownColumn name)
        pure ⟨qualifier?, field.column⟩ : Inquiry Sql.Column).answer models =
          .error (.unknownColumn name) := by
  cases hf : m.resolve? name with
  | some f => exact .inl ⟨f.column, ⟨f, hf, rfl⟩, rfl⟩
  | none =>
    refine .inr ⟨?_, rfl⟩
    rintro x ⟨f, hf', -⟩
    rw [hf] at hf'
    cases hf'

/-- A column reference resolves to the column that it stands for, or its name is unknown. -/
theorem Column.answer_resolve (model : EntityType → TableModel) (scope : TableModel) (c : Column) :
    (∃ column, c.Renders model scope column ∧
        (c.resolve scope).answer (given model) = .ok column) ∨
      (∀ column, ¬c.Renders model scope column) ∧
        (c.resolve scope).answer (given model) = .error (.unknownColumn c.name) := by
  cases c with
  | bare name =>
    rcases scope.answer_require name none with ⟨x, means, answer⟩ | ⟨none, answer⟩
    · exact .inl ⟨⟨_, x⟩, ⟨rfl, means⟩, answer⟩
    · exact .inr ⟨fun column renders => none column.name renders.2, answer⟩
  | ofTable entity alias? name =>
    rcases (model entity).answer_require name (some (alias?.getD (model entity).table)) with
      ⟨x, means, answer⟩ | ⟨none, answer⟩
    · exact .inl ⟨⟨_, x⟩, ⟨rfl, means⟩, answer⟩
    · exact .inr ⟨fun column renders => none column.name renders.2, answer⟩
  | ofSubquery query aliasName name =>
    have split : (Column.ofSubquery query aliasName name).resolve scope = (do
        let column ← (do Inquiry.require (← query.exposed? name) (.unknownColumn name))
        pure ⟨some aliasName, column⟩) := by
      rw [Column.resolve, bind_assoc]
    rw [split, answer_bind]
    rcases (query.finds_exposed? name).require (.unknownColumn name) with
      ⟨x, exposes, answer⟩ | ⟨none, answer⟩
    · exact .inl ⟨⟨some aliasName, x⟩, ⟨rfl, exposes⟩, by rw [answer]; rfl⟩
    · exact .inr ⟨fun column renders => none column.name renders.2, by rw [answer]; rfl⟩

/-- A reference stands for one column. -/
theorem Column.Renders.unique {c : Column} {x y : Sql.Column} (hx : c.Renders model scope x)
    (hy : c.Renders model scope y) : x = y := by
  obtain ⟨_, x⟩ := x
  obtain ⟨_, y⟩ := y
  have same : x = y := by
    cases c with
    | bare name | ofTable entity alias? name =>
      exact Option.some.inj ((TableModel.map_resolve?_eq_some.2 hx.2).symm.trans
        (TableModel.map_resolve?_eq_some.2 hy.2))
    | ofSubquery query aliasName name => exact (query.finds_exposed? name).unique hx.2 hy.2
  cases c <;> exact congrArg₂ Sql.Column.mk (hx.1.trans hy.1.symm) same

theorem Column.answer_resolve_eq_ok {c : Column} {column : Sql.Column} :
    (c.resolve scope).answer (given model) = .ok column ↔ c.Renders model scope column := by
  rcases c.answer_resolve model scope with ⟨found, renders, answer⟩ | ⟨none, answer⟩
  · rw [answer, Except.ok.injEq]
    exact ⟨fun same => same ▸ renders, fun other => renders.unique other⟩
  · rw [answer]
    exact ⟨nofun, fun renders => absurd renders (none column)⟩

/-- A reference answers only with the column that it stands for itself. -/
theorem Column.renders_of_answers {c : Column} {name x : String}
    (h : c.Answers model scope name x) : ∃ qualifier?, c.Renders model scope ⟨qualifier?, x⟩ := by
  cases c with
  | bare own =>
    obtain ⟨f, hf, hx, -⟩ := h
    exact ⟨none, rfl, f, hf, hx⟩
  | ofTable entity alias? own =>
    obtain ⟨f, hf, hx, -⟩ := h
    exact ⟨_, rfl, f, hf, hx⟩
  | ofSubquery query aliasName own => exact ⟨_, rfl, h.1⟩

/-- A reference answers to the column that it stands for. -/
theorem Column.answers_of_renders {c : Column} {column : Sql.Column}
    (h : c.Renders model scope column) : c.Answers model scope column.name column.name := by
  cases c with
  | bare own | ofTable entity alias? own =>
    obtain ⟨-, f, hf, hx⟩ := h
    exact ⟨f, hf, hx, .inl hx⟩
  | ofSubquery query aliasName own => exact ⟨h.2, .inl rfl⟩

/-! ### The output of a select list -/

/-- The name of an entry in the output of a query, if it has one. -/
def Sql.Selection.output? : Sql.Selection → Option String
  | ⟨_, some aliasName⟩ => some aliasName
  | ⟨.column c, none⟩ => some c.name
  | ⟨_, none⟩ => none

/-- The names of the output columns of a query. -/
def Sql.Select.outputs (t : Sql.Select) : List String :=
  t.selections.filterMap Sql.Selection.output?

/-- The output name of an entry is what the entry is written to end in. -/
theorem Sql.Selection.getLast?_lexemes {s : Sql.Selection} {o : String} (h : s.output? = some o) :
    s.lexemes.getLast? = some (.name o) := by
  obtain ⟨term, _ | aliasName⟩ := s
  · obtain c | _ | _ := term
    · cases h
      obtain ⟨_ | qualifier, name⟩ := c <;> rfl
    all_goals cases h
  · cases h
    simp [lexemes, aliasLexemes]

/-- In the output of a query whose select list is one over `scope`, the entry goes by the name `o`:
by its alias, and else by the name that its column comes to. -/
def Selection.Outputs (r : Registry) (scope : TableModel) : Selection → String → Prop
  | ⟨_, some aliasName⟩, o => aliasName = o
  | ⟨.column c, none⟩, o => ∃ qualifier?, ((c.resolve scope).run r).result = .ok ⟨qualifier?, o⟩
  | ⟨_, none⟩, _ => False

variable {r : Registry}

theorem Column.run_resolve (c : Column) (known : ∀ e ∈ c.mentions, r.effective e = .ok (model e)) :
    ((c.resolve scope).run r).result = (c.resolve scope).answer (given model) := by
  rw [Inquiry.run_result]
  exact (c.confined_resolve scope fun _ he => he).answer_congr known

theorem Selection.outputs_of_named {s : Selection} (h : s.column? = none) {o : String} :
    s.Outputs r scope o ↔ s.alias? = some o := by
  obtain ⟨_ | _ | _, _ | _⟩ := s
  · cases h
  all_goals simp [Outputs]

/-- What an entry answers with is its output. -/
theorem Selection.outputs_of_answers {s : Selection}
    (known : ∀ e ∈ s.mentions, r.effective e = .ok (model e)) {name x : String}
    (h : s.Answers model scope name x) : s.Outputs r scope x := by
  cases hc : s.column? with
  | none =>
    obtain ⟨named, same⟩ := (answers_of_named hc).1 h
    exact (outputs_of_named hc).2 (same ▸ named)
  | some c =>
    cases eq_of_column? hc
    obtain ⟨qualifier?, renders⟩ := Column.renders_of_answers h
    exact ⟨qualifier?, by rw [c.run_resolve known]; exact Column.answer_resolve_eq_ok.2 renders⟩

/-- An entry answers to its output. -/
theorem Selection.answers_of_outputs {s : Selection}
    (known : ∀ e ∈ s.mentions, r.effective e = .ok (model e)) {o : String}
    (h : s.Outputs r scope o) : s.Answers model scope o o := by
  cases hc : s.column? with
  | none => exact (answers_of_named hc).2 ⟨(outputs_of_named hc).1 h, rfl⟩
  | some c =>
    cases eq_of_column? hc
    obtain ⟨qualifier?, answer⟩ := h
    rw [c.run_resolve known] at answer
    exact Column.answers_of_renders (Column.answer_resolve_eq_ok.1 answer)

/-- The output of an entry can be read off what it resolves to. -/
theorem Selection.outputs_iff {s : Selection} {t : Sql.Selection} {o : String}
    (h : (s.resolve scope).answer r.effective = .ok t) :
    s.Outputs r scope o ↔ t.output? = some o := by
  obtain ⟨term, alias?⟩ := s
  obtain ⟨resolved, answer, pure⟩ := Inquiry.answer_bind_eq_ok.1 h
  cases pure
  cases alias? with
  | some aliasName => cases term <;> simp [Outputs, Sql.Selection.output?]
  | none =>
    cases term with
    | column c =>
      obtain ⟨column, found, pure⟩ := Inquiry.answer_bind_eq_ok.1 answer
      cases pure
      have rendered : ((c.resolve scope).run r).result = .ok column :=
        (Inquiry.run_result ..).trans found
      rw [Outputs, rendered]
      constructor
      · rintro ⟨qualifier?, same⟩
        cases same
        rfl
      · intro same
        cases same
        exact ⟨column.qualifier?, rfl⟩
    | aggregate fn argument =>
      obtain ⟨column, -, pure⟩ := Inquiry.answer_bind_eq_ok.1 answer
      cases pure
      simp [Outputs, Sql.Selection.output?]
    | countAll =>
      cases answer
      simp [Outputs, Sql.Selection.output?]

theorem mem_outputs {selections : List Selection} {ts : List Sql.Selection} {o : String}
    (h : (selections.mapM (Selection.resolve scope)).answer r.effective = .ok ts) :
    o ∈ ts.filterMap Sql.Selection.output? ↔ ∃ s ∈ selections, s.Outputs r scope o := by
  induction selections generalizing ts with
  | nil =>
    cases h
    simp
  | cons s rest ih =>
    rw [List.mapM_cons] at h
    obtain ⟨t, first, h⟩ := Inquiry.answer_bind_eq_ok.1 h
    obtain ⟨more, later, pure⟩ := Inquiry.answer_bind_eq_ok.1 h
    cases pure
    simp only [List.mem_filterMap, List.mem_cons, exists_eq_or_imp, ← Selection.outputs_iff first]
    rw [← ih later, List.mem_filterMap]

/-- The select list of what a query resolves to. -/
theorem Select.selections_of_answer {models : EntityType → Except Error TableModel} {query : Select}
    {t : Sql.Select} (h : query.resolve.answer models = .ok t)
    (hm : models query.entity = .ok scope) :
    (query.selections.mapM (Selection.resolve scope)).answer models = .ok t.selections := by
  obtain ⟨entity, selections, source, filter, groupBy, having, limit, offset⟩ := query
  rw [Select.resolve] at h
  obtain ⟨scope', asked, h⟩ := Inquiry.answer_bind_eq_ok.1 h
  obtain ⟨ts, rendered, h⟩ := Inquiry.answer_bind_eq_ok.1 h
  obtain ⟨_, -, h⟩ := Inquiry.answer_bind_eq_ok.1 h
  obtain ⟨_, -, h⟩ := Inquiry.answer_bind_eq_ok.1 h
  obtain ⟨_, -, h⟩ := Inquiry.answer_bind_eq_ok.1 h
  obtain ⟨_, -, pure⟩ := Inquiry.answer_bind_eq_ok.1 h
  cases pure
  cases hm.symm.trans (Inquiry.answer_model_eq_ok.1 asked)
  exact rendered

theorem Select.entity_mem_mentions {query : Select} : query.entity ∈ query.mentions := by
  obtain ⟨entity, selections, source, filter, groupBy, having, limit, offset⟩ := query
  exact List.mem_cons_self

theorem Select.mem_mentions {query : Select} {s : Selection} (hs : s ∈ query.selections)
    {e : EntityType} (he : e ∈ s.mentions) : e ∈ query.mentions := by
  obtain ⟨entity, selections, source, filter, groupBy, having, limit, offset⟩ := query
  simp [Select.mentions, mem_selectionMentions hs he]

/-- To a query with a select list, names mean what the entries of the list answer with. -/
theorem Select.exposes_of_ne_nil {query : Select} (listed : query.selections ≠ [])
    {name x : String} :
    query.Exposes model name x ↔
      FirstAnswers model (model query.entity) query.selections name x := by
  obtain ⟨entity, _ | ⟨first, rest⟩, source, filter, groupBy, having, limit, offset⟩ := query
  · exact absurd rfl listed
  · rfl

/-- What a name comes to as a column of a subquery. -/
theorem Column.run_ofSubquery {query : Select} {outer : TableModel}
    (known : ∀ e ∈ query.mentions, r.effective e = .ok (model e)) {aliasName name : String}
    {column : Sql.Column} :
    (((Column.ofSubquery query aliasName name).resolve outer).run r).result = .ok column ↔
      column.qualifier? = some aliasName ∧ query.Exposes model name column.name := by
  rw [(Column.ofSubquery query aliasName name).run_resolve known, Column.answer_resolve_eq_ok,
    Column.Renders]

/-- **What a subquery has to offer.** A column of a subquery with a select list is always an output
column of that list. Where the list can be rendered, every output column is what an entry is written
to end in, and it is a column of the subquery. -/
theorem subquery_columns_are_outputs (r : Registry) (model : EntityType → TableModel)
    (query : Select) (aliasName : String) (outer : TableModel)
    (known : ∀ e ∈ query.mentions, r.effective e = .ok (model e))
    (listed : query.selections ≠ []) :
    (∀ name column,
      (((Column.ofSubquery query aliasName name).resolve outer).run r).result = .ok column →
        column.lexemes = [.name aliasName, .word .dot, .name column.name] ∧
          ∃ s ∈ query.selections, s.Outputs r (model query.entity) column.name) ∧
    ∀ t, (query.resolve.run r).result = .ok t →
      (∀ o, o ∈ t.outputs ↔ ∃ s ∈ query.selections, s.Outputs r (model query.entity) o) ∧
      (∀ o ∈ t.outputs, ∃ s ∈ t.selections, s.lexemes.getLast? = some (.name o)) ∧
      ∀ o ∈ t.outputs, ∃ column,
        (((Column.ofSubquery query aliasName o).resolve outer).run r).result = .ok column := by
  have entry {s : Selection} (hs : s ∈ query.selections) :
      ∀ e ∈ s.mentions, r.effective e = .ok (model e) :=
    fun e he => known e (Select.mem_mentions hs he)
  have built (name : String) (column : Sql.Column) :
      (((Column.ofSubquery query aliasName name).resolve outer).run r).result = .ok column ↔
        column.qualifier? = some aliasName ∧
          FirstAnswers model (model query.entity) query.selections name column.name := by
    rw [Column.run_ofSubquery known, Select.exposes_of_ne_nil listed]
  constructor
  · intro name column h
    obtain ⟨qualifier, answers⟩ := (built name column).1 h
    obtain ⟨s, hs, answers⟩ := mem_of_firstAnswers answers
    exact ⟨by rw [Sql.Column.lexemes, qualifier], s, hs, s.outputs_of_answers (entry hs) answers⟩
  · intro t h
    have outputs (o : String) :
        o ∈ t.outputs ↔ ∃ s ∈ query.selections, s.Outputs r (model query.entity) o := by
      exact mem_outputs (Select.selections_of_answer ((Inquiry.run_result ..).symm.trans h)
        (known _ Select.entity_mem_mentions))
    refine ⟨outputs, fun o ho => ?_, fun o ho => ?_⟩
    · obtain ⟨s, hs, named⟩ := List.mem_filterMap.1 ho
      exact ⟨s, hs, Sql.Selection.getLast?_lexemes named⟩
    · obtain ⟨s, hs, goes⟩ := (outputs o).1 ho
      obtain ⟨x, answers⟩ := exists_firstAnswers.2
        ⟨s, hs, o, s.answers_of_outputs (entry hs) goes⟩
      exact ⟨⟨some aliasName, x⟩, (built o _).2 ⟨rfl, answers⟩⟩

namespace Sample

/-- A type with two fields that go by each other's names as columns. -/
def swapped : EntityType where
  home := ""
  shortName := "Swapped"
  typeName := "Swapped"
  table? := none
  fields := [⟨"left", some "right", ⟨.int32, false⟩, 0⟩, ⟨"right", some "left", ⟨.int32, false⟩, 4⟩]
  unmapped := []
  size := 8

/-- The model of a type that nothing is registered for. -/
def models (e : EntityType) : TableModel :=
  (Registry.empty.effective e).toOption.getD ⟨e, "", []⟩

/-- What goes by `right` is the column `left`. -/
def crossing : Select :=
  { swapped.rows with selections := [⟨.column (.bare "right"), none⟩] }

/-- Entries of every sort: unqualified, qualified by a table and by a query, and with an alias. -/
def overview : Select :=
  { person.rows with
    selections := [⟨.column (.bare "age"), none⟩, ⟨.column (.ofTable swapped none "left"), none⟩,
      ⟨.column (.ofSubquery crossing "c" "right"), none⟩,
      ⟨.aggregate .max (.bare "age"), some "oldest"⟩, ⟨.countAll, none⟩] }

theorem resolve_overview : ∃ t, (overview.resolve.run .empty).result = .ok t ∧
    t.outputs = ["a\"ge$1", "right", "left", "oldest"] := by
  have rendered : (overview.resolve.run .empty).result.map Sql.Select.outputs =
      .ok ["a\"ge$1", "right", "left", "oldest"] := by
    decide +kernel
  cases h : (overview.resolve.run .empty).result with
  | error err =>
    rw [h] at rendered
    cases rendered
  | ok t =>
    rw [h] at rendered
    exact ⟨t, rfl, Except.ok.inj rendered⟩

end Sample

theorem sample_outputs :
    (∀ e ∈ Sample.overview.mentions, Registry.empty.effective e = .ok (Sample.models e)) ∧
      (∀ name column,
        (((Column.ofSubquery Sample.overview "o" name).resolve (Sample.models Sample.swapped)).run
            .empty).result = .ok column →
          ∃ s ∈ Sample.overview.selections,
            s.Outputs .empty (Sample.models Sample.person) column.name) ∧
      ∀ o ∈ ["a\"ge$1", "right", "left", "oldest"], ∃ column,
        (((Column.ofSubquery Sample.overview "o" o).resolve (Sample.models Sample.swapped)).run
          .empty).result = .ok column := by
  have known : ∀ e ∈ Sample.overview.mentions,
      Registry.empty.effective e = .ok (Sample.models e) := by
    decide +kernel
  obtain ⟨sound, complete⟩ := subquery_columns_are_outputs .empty Sample.models Sample.overview "o"
    (Sample.models Sample.swapped) known (List.cons_ne_nil _ _)
  obtain ⟨t, rendered, outputs⟩ := Sample.resolve_overview
  refine ⟨known, fun name column h => (sound name column h).2, ?_⟩
  rw [← outputs]
  exact (complete t rendered).2.2

end EntitySql
