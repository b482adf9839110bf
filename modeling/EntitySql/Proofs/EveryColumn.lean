import EntitySql.Proofs.OutputNames
import EntitySql.Proofs.Soundness

/-!
# Queries for every column

Without a select list a query is one for every column of its source. As a subquery it exposes the
columns of its own type, whatever the source is. So what it exposes is there if the table of the
type is part of the source, and else there may be no such column (`model_columns_exposed`).

A query may also list every field of its type. It exposes the same columns then, and by the same
names, except where the name of a field is the column of one declared before it
(`listed_fields_exposed_alike`).
-/

namespace EntitySql

/-- What a subquery finds under a name is the column that the name comes to. -/
theorem Column.answer_ofSubquery {models : EntityType → Except Error TableModel} {query : Select}
    {name : String} {found? : Option String} (h : (query.exposed? name).answer models = .ok found?)
    (aliasName : String) (outer : TableModel) :
    ((Column.ofSubquery query aliasName name).resolve outer).answer models =
      found?.elim (.error (.unknownColumn name)) fun x => .ok ⟨some aliasName, x⟩ := by
  rw [Column.resolve, Inquiry.answer_bind, h]
  cases found? <;> rfl

/-! ### The columns of the source -/

/-- The table of `e` has the column `x`. -/
def Registry.HasColumn (r : Registry) (e : EntityType) (x : String) : Prop :=
  ∃ m, r.effective e = .ok m ∧ ∃ f ∈ m.fields, f.column = x

mutual

/-- The rows of a query have a column of that name: an output column of its select list, and without
a select list any column of its source. -/
def Select.Yields (r : Registry) : Select → String → Prop
  | ⟨entity, [], source, _, _, _, _, _⟩, x => source.Yields r entity x
  | ⟨entity, first :: rest, _, _, _, _, _, _⟩, x =>
    ∃ m, r.effective entity = .ok m ∧ ∃ s ∈ first :: rest, s.Outputs r m x

/-- The rows of a source in a query over `own` have a column of that name. -/
def Source.Yields (r : Registry) (own : EntityType) : Source → String → Prop
  | .own, x => r.HasColumn own x
  | .table entity _, x => r.HasColumn entity x
  | .joinWhere _ left right _, x | .joinSharing _ left right _, x =>
    left.Yields r own x ∨ right.Yields r own x
  | .subquery query _, x => query.Yields r x

end

mutual

/-- The types whose tables are part of the rows of a query with all of their columns. -/
def Select.tables : Select → List EntityType
  | ⟨entity, [], source, _, _, _, _, _⟩ => source.tables entity
  | ⟨_, _ :: _, _, _, _, _, _, _⟩ => []

def Source.tables (own : EntityType) : Source → List EntityType
  | .own => [own]
  | .table entity _ => [entity]
  | .joinWhere _ left right _ | .joinSharing _ left right _ => left.tables own ++ right.tables own
  | .subquery query _ => query.tables

end

mutual

/-- The columns of a table are there in whatever the table is part of. By induction on the tree: a
subquery with a select list has no part in this. -/
theorem Select.yields_of_mem_tables {r : Registry} {e : EntityType} {x : String}
    (h : r.HasColumn e x) : ∀ query : Select, e ∈ query.tables → query.Yields r x
  | ⟨entity, [], source, _, _, _, _, _⟩, mem => by
    rw [Select.Yields]
    rw [Select.tables] at mem
    exact source.yields_of_mem_tables h entity mem
  | ⟨_, _ :: _, _, _, _, _, _, _⟩, mem => by
    rw [Select.tables] at mem
    cases mem

theorem Source.yields_of_mem_tables {r : Registry} {e : EntityType} {x : String}
    (h : r.HasColumn e x) (own : EntityType) : ∀ source : Source, e ∈ source.tables own →
      source.Yields r own x
  | .own, mem => by
    rw [Source.tables, List.mem_singleton] at mem
    rw [Source.Yields, ← mem]
    exact h
  | .table entity _, mem => by
    rw [Source.tables, List.mem_singleton] at mem
    rw [Source.Yields, ← mem]
    exact h
  | .joinWhere _ left right _, mem | .joinSharing _ left right _, mem => by
    rw [Source.tables, List.mem_append] at mem
    rw [Source.Yields]
    rcases mem with mem | mem
    · exact .inl (left.yields_of_mem_tables h own mem)
    · exact .inr (right.yields_of_mem_tables h own mem)
  | .subquery query _, mem => by
    rw [Source.tables] at mem
    rw [Source.Yields]
    exact query.yields_of_mem_tables h mem

end

/-! ### What is exposed without a select list -/

/-- Without a select list, names mean what they mean to the model. -/
theorem Select.answer_exposed? {models : EntityType → Except Error TableModel} (query : Select)
    (every : query.selections = []) {m : TableModel} (known : models query.entity = .ok m)
    (name : String) :
    (query.exposed? name).answer models = .ok ((m.resolve? name).map (·.column)) := by
  obtain ⟨entity, selections, source, filter, groupBy, having, limit, offset⟩ := query
  cases every
  rw [Select.exposed?, Inquiry.answer_bind, Inquiry.answer_model_eq_ok.2 known]
  rfl

/-- A reference to a query without a select list comes to a column of the type of the query. -/
theorem Column.run_ofSubquery_every {r : Registry} {query : Select} (every : query.selections = [])
    {aliasName name : String} {outer : TableModel} {column : Sql.Column} :
    (((Column.ofSubquery query aliasName name).resolve outer).run r).result = .ok column ↔
      column.qualifier? = some aliasName ∧
        ∃ m, r.effective query.entity = .ok m ∧ m.Means name column.name := by
  rw [Inquiry.run_result]
  cases known : r.effective query.entity with
  | error err =>
    have missing : (query.exposed? name).answer r.effective =
        .error (.modelNotFound query.entity.shortName err) := by
      obtain ⟨entity, selections, source, filter, groupBy, having, limit, offset⟩ := query
      rw [Select.exposed?, Inquiry.answer_bind, Inquiry.model, Inquiry.answer, known]
      rfl
    rw [Column.resolve, Inquiry.answer_bind, missing]
    refine iff_of_false (fun built => ?_) ?_
    · cases built
    · rintro ⟨-, m, found, -⟩
      cases found
  | ok m =>
    rw [Column.answer_ofSubquery (query.answer_exposed? every known name)]
    obtain ⟨qualifier?, x⟩ := column
    simp only [Except.ok.injEq, exists_eq_left', ← TableModel.map_resolve?_eq_some]
    cases (m.resolve? name).map (·.column) with
    | none => simp
    | some y => simp [eq_comm]

/-- **Every column.** A query without a select list exposes columns of its own type, whatever its
source is. So all that it exposes is there if and only if its rows have every column of the type.
They do if the table of the type is a part of the source: if it is all of the source, or one side of
a join, or all or part of the source of a subquery without a select list. -/
theorem model_columns_exposed {r : Registry} (sound : r.Sound) (query : Select)
    (every : query.selections = []) (aliasName : String) (outer : TableModel) :
    (∀ name column,
      (((Column.ofSubquery query aliasName name).resolve outer).run r).result = .ok column →
        column.qualifier? = some aliasName ∧ r.HasColumn query.entity column.name) ∧
    ((∀ name column,
        (((Column.ofSubquery query aliasName name).resolve outer).run r).result = .ok column →
          query.Yields r column.name) ↔
      ∀ x, r.HasColumn query.entity x → query.Yields r x) ∧
    (query.entity ∈ query.tables → ∀ name column,
      (((Column.ofSubquery query aliasName name).resolve outer).run r).result = .ok column →
        query.Yields r column.name) := by
  have exposed (name : String) (column : Sql.Column)
      (h : (((Column.ofSubquery query aliasName name).resolve outer).run r).result = .ok column) :
      column.qualifier? = some aliasName ∧ r.HasColumn query.entity column.name := by
    obtain ⟨qualifier, m, known, f, hf, column⟩ := (Column.run_ofSubquery_every every).1 h
    exact ⟨qualifier, m, known, f, TableModel.mem_of_resolve? hf, column⟩
  refine ⟨exposed, ⟨fun there x has => ?_, fun there name column h => ?_⟩,
    fun part name column h => ?_⟩
  · obtain ⟨m, known, f, hf, rfl⟩ := has
    -- The field is found under its own name.
    have means : m.Means f.field f.column := ⟨f, (sound.derivedFrom known).resolve?_field hf, rfl⟩
    exact there f.field ⟨some aliasName, f.column⟩
      ((Column.run_ofSubquery_every every).2 ⟨rfl, m, known, means⟩)
  · exact there column.name (exposed name column h).2
  · exact query.yields_of_mem_tables (exposed name column h).2 part

namespace Sample

/-- Pairs of a `Swapped` and a person, as a query over persons. -/
def pairs : Select :=
  { person.rows with
    source := .joinWhere .inner (.table swapped none) (.subquery person.rows "q") [] }

/-- The rows of another table, as a query over persons. -/
def strangers : Select :=
  { person.rows with source := .table swapped none }

end Sample

theorem sample_pairs :
    Registry.empty.Sound ∧ Sample.pairs.selections = [] ∧
      Sample.person ∈ Sample.pairs.tables ∧
      (((Column.ofSubquery Sample.pairs "p" "age").resolve (Sample.models Sample.swapped)).run
        .empty).result = .ok ⟨some "p", "a\"ge$1"⟩ ∧
      Sample.pairs.Yields .empty "a\"ge$1" := by
  have part : Sample.person ∈ Sample.pairs.tables :=
    List.mem_cons_of_mem _ List.mem_cons_self
  have built : (((Column.ofSubquery Sample.pairs "p" "age").resolve
      (Sample.models Sample.swapped)).run .empty).result = .ok ⟨some "p", "a\"ge$1"⟩ := by
    decide +kernel
  refine ⟨Registry.sound_empty, rfl, part, built, ?_⟩
  exact (model_columns_exposed Registry.sound_empty Sample.pairs rfl "p"
    (Sample.models Sample.swapped)).2.2 part "age" _ built

/-- Over another table, a column is exposed that the rows do not have. -/
theorem strangers_expose_missing_column :
    Sample.strangers.selections = [] ∧
      (((Column.ofSubquery Sample.strangers "s" "name").resolve (Sample.models Sample.person)).run
        .empty).result = .ok ⟨some "s", "name"⟩ ∧
      ¬Sample.strangers.Yields .empty "name" := by
  have effective : Registry.empty.effective Sample.swapped =
      .ok (Sample.models Sample.swapped) := by
    decide +kernel
  have missing : ∀ f ∈ (Sample.models Sample.swapped).fields, f.column ≠ "name" := by
    decide +kernel
  refine ⟨rfl, by decide +kernel, ?_⟩
  rintro ⟨m, known, f, hf, column⟩
  cases effective.symm.trans known
  exact missing f hf column

/-! ### Lists of every field -/

namespace TableModel

/-- Every field by its name, in the order of declaration. -/
def everyField (m : TableModel) : List Selection :=
  m.fields.map fun f => ⟨.column (.bare f.field), none⟩

/-- Some field is called `name`, and some field declared before it has the column `name`. -/
def Crosses (m : TableModel) (name : String) : Prop :=
  ∃ f ∈ m.fields, ∃ g ∈ m.fields, f.column = name ∧ g.field = name ∧ f.index < g.index

/-- The first field that goes by `name`. -/
def firstNamed? (m : TableModel) (name : String) : Option FieldModel :=
  m.fields.find? fun f => f.GoesBy name

variable {m : TableModel} {f g : FieldModel} {name : String}

theorem goesBy_of_firstNamed? (h : m.firstNamed? name = some f) : f.GoesBy name := by
  have called := (List.find?_eq_some_iff_append.1 h).1
  exact of_decide_eq_true called

section Derived

variable {e : EntityType} {options : List ModelOption} (derived : e.deriveModel options = .ok m)
include derived

/-- All other fields that go by a name are declared behind the first one. -/
theorem index_lt_of_firstNamed? (first : m.firstNamed? name = some f) (hg : g ∈ m.fields)
    (called : g.GoesBy name) (ne : g ≠ f) : f.index < g.index := by
  obtain ⟨-, before, after, fields, unnamed⟩ := List.find?_eq_some_iff_append.1 first
  have order : m.fields.Pairwise fun f g => f.index < g.index := by
    have indices : (m.fields.map (·.index)).Pairwise (· < ·) := by
      rw [EntityType.indices_of_deriveModel derived]
      exact List.pairwise_lt_range
    exact List.pairwise_map.1 indices
  rw [fields] at hg order
  rcases List.mem_append.1 hg with hg | hg
  · have not := unnamed g hg
    simp [called] at not
  · have behind := (List.pairwise_cons.1 (List.pairwise_append.1 order).2.1).1
    exact behind g ((List.mem_cons.1 hg).resolve_left ne)

/-- A field of that name is the one that the name stands for. -/
theorem eq_of_resolve? (resolved : m.resolve? name = some g) (hf : f ∈ m.fields)
    (field : f.field = name) : f = g := by
  have found := (EntityType.derivedFrom derived).resolve?_field hf
  rw [field, resolved] at found
  exact (Option.some.inj found).symm

/-- If the field that a name stands for is not the first one that goes by it, it has this name for
its own, and the first one has it for its column. -/
theorem crosses_of_ne (resolved : m.resolve? name = some g) (first : m.firstNamed? name = some f)
    (ne : f ≠ g) : f.column = name ∧ m.Crosses name := by
  have hf : f ∈ m.fields := List.mem_of_find?_eq_some first
  have hg := mem_of_resolve? resolved
  have called := goesBy_of_resolve? resolved
  have columns := (EntityType.derivedFrom derived).columns_nodup
  have column : f.column = name := (goesBy_of_firstNamed? first).resolve_left fun field =>
    ne (eq_of_resolve? derived resolved hf field)
  have field : g.field = name := called.resolve_right fun same =>
    ne (List.inj_on_of_nodup_map columns hf hg (column.trans same.symm))
  have lt := index_lt_of_firstNamed? derived first hg called ne.symm
  exact ⟨column, f, hf, g, hg, column, field, lt⟩

/-- A field in front has the name for its column, so the one that the name stands for is not the
first that goes by it. -/
theorem ne_of_crosses (resolved : m.resolve? name = some g) (first : m.firstNamed? name = some f)
    (crosses : m.Crosses name) : f ≠ g := by
  obtain ⟨f', hf', g', hg', column, field, lt⟩ := crosses
  rintro rfl
  cases eq_of_resolve? derived resolved hg' field
  have ne : f' ≠ f := by
    rintro rfl
    exact lt.false
  have behind := index_lt_of_firstNamed? derived first hf' (.inr column) ne
  omega

/-- The field that a name stands for and the first field that goes by it have the same column, except
where the name crosses. -/
theorem resolve?_firstNamed? (name : String) :
    m.resolve? name = none ∧ m.firstNamed? name = none ∨
      ∃ g f, m.resolve? name = some g ∧ m.firstNamed? name = some f ∧
        (g.column = f.column ↔ ¬m.Crosses name) ∧ (m.Crosses name → f.column = name) := by
  cases resolved : m.resolve? name with
  | none =>
    refine .inl ⟨rfl, List.find?_eq_none.2 fun f hf called => ?_⟩
    exact resolve?_eq_none.1 resolved ⟨f, hf, of_decide_eq_true called⟩
  | some g =>
    have hg := mem_of_resolve? resolved
    cases first : m.firstNamed? name with
    | none =>
      have called := goesBy_of_resolve? resolved
      exact absurd called (by simpa using List.find?_eq_none.1 first g hg)
    | some f =>
      have hf : f ∈ m.fields := List.mem_of_find?_eq_some first
      have apart := ne_of_crosses derived resolved first
      have crossing := crosses_of_ne derived resolved first
      refine .inr ⟨g, f, rfl, rfl, ⟨fun same crosses => apart crosses ?_, fun straight => ?_⟩,
        fun crosses => (crossing (apart crosses)).1⟩
      · have columns := (EntityType.derivedFrom derived).columns_nodup
        exact List.inj_on_of_nodup_map columns hf hg same.symm
      · by_contra differ
        exact straight (crossing fun same => differ (same ▸ rfl)).2

/-- An entry for a field answers to whatever the field goes by. -/
theorem columnAnswering?_field (hf : f ∈ m.fields) (name : String) :
    m.columnAnswering? f.field name = if f.GoesBy name then some f.column else none := by
  refine Option.ext fun x => ?_
  rw [columnAnswering?_eq_some, answers_iff derived,
    (EntityType.derivedFrom derived).resolve?_field hf]
  simp only [Option.some.injEq, exists_eq_left']
  by_cases called : f.GoesBy name <;> simp [called]

theorem firstExposed?_fields {fields : List FieldModel} (h : ∀ f ∈ fields, f ∈ m.fields)
    (name : String) :
    firstExposed? m name (fields.map fun f => ⟨.column (.bare f.field), none⟩) =
      pure ((fields.find? fun f => f.GoesBy name).map (·.column)) := by
  induction fields with
  | nil => rfl
  | cons f rest ih =>
    have later := ih fun g hg => h g (List.mem_cons_of_mem _ hg)
    rw [List.map_cons, firstExposed?, Column.answering?, pure_bind,
      columnAnswering?_field derived (h f List.mem_cons_self), List.find?_cons]
    by_cases called : f.GoesBy name
    · simp [called]
    · simpa [called] using later

end Derived

end TableModel

/-- With every field in its select list, a query is searched for the first one that goes by the
name. -/
theorem Select.answer_exposed?_everyField {models : EntityType → Except Error TableModel}
    {query : Select} {options : List ModelOption} {m : TableModel}
    (derived : query.entity.deriveModel options = .ok m) (known : models query.entity = .ok m)
    (name : String) :
    (Select.exposed? { query with selections := m.everyField } name).answer models =
      .ok ((m.firstNamed? name).map (·.column)) := by
  have found := TableModel.firstExposed?_fields derived (fun f hf => hf) name
  rw [← TableModel.everyField, ← TableModel.firstNamed?] at found
  rw [Select.exposed?, Inquiry.answer_bind, Inquiry.answer_model_eq_ok.2 known]
  cases fields : m.everyField with
  | nil =>
    -- A list of no fields is none.
    have none : m.fields = [] := List.map_eq_nil_iff.1 fields
    simp [TableModel.firstNamed?, TableModel.resolve?, TableModel.field?, TableModel.column?, none,
      Bind.bind, Except.bind, Inquiry.answer_pure]
  | cons first rest =>
    rw [fields] at found
    exact congrArg (Inquiry.answer models) found

/-- **Listing every field.** A subquery without a select list and the same one with every field in
its select list expose the same names. What a name comes to is the same for both, if and only if it
is not the name of a field and the column of one before it. Then it comes to the column of that
name in the list, and to the column of the field of that name without one. -/
theorem listed_fields_exposed_alike {r : Registry} (query : Select) {options : List ModelOption}
    {m : TableModel} (derived : query.entity.deriveModel options = .ok m)
    (effective : r.effective query.entity = .ok m) (aliasName name : String) (outer : TableModel) :
    (((Column.ofSubquery { query with selections := [] } aliasName name).resolve outer).run
          r).result = .error (.unknownColumn name) ∧
        (((Column.ofSubquery { query with selections := m.everyField } aliasName name).resolve
          outer).run r).result = .error (.unknownColumn name) ∨
      ∃ x y,
        (((Column.ofSubquery { query with selections := [] } aliasName name).resolve outer).run
          r).result = .ok ⟨some aliasName, x⟩ ∧
        (((Column.ofSubquery { query with selections := m.everyField } aliasName name).resolve
          outer).run r).result = .ok ⟨some aliasName, y⟩ ∧
        (x = y ↔ ¬m.Crosses name) ∧ (m.Crosses name → y = name) := by
  have every := Column.answer_ofSubquery
    (Select.answer_exposed? { query with selections := [] } rfl effective name) aliasName outer
  have listed := Column.answer_ofSubquery
    (Select.answer_exposed?_everyField derived effective name) aliasName outer
  rw [Inquiry.run_result, Inquiry.run_result, every, listed]
  rcases TableModel.resolve?_firstNamed? derived name with
    ⟨unknown, unnamed⟩ | ⟨g, f, resolved, first, same, captured⟩
  · rw [unknown, unnamed]
    exact .inl ⟨rfl, rfl⟩
  · rw [resolved, first]
    exact .inr ⟨g.column, f.column, rfl, rfl, same, captured⟩

theorem sample_listing :
    Sample.swapped.deriveModel [] = .ok (Sample.models Sample.swapped) ∧
      Registry.empty.effective Sample.swapped = .ok (Sample.models Sample.swapped) ∧
      ¬(Sample.models Sample.swapped).Crosses "left" ∧
      ∃ x, (((Column.ofSubquery Sample.swapped.rows "s" "left").resolve
            (Sample.models Sample.person)).run .empty).result = .ok ⟨some "s", x⟩ ∧
        (((Column.ofSubquery { Sample.swapped.rows with
            selections := (Sample.models Sample.swapped).everyField } "s" "left").resolve
          (Sample.models Sample.person)).run .empty).result = .ok ⟨some "s", x⟩ := by
  have derived : Sample.swapped.deriveModel [] = .ok (Sample.models Sample.swapped) := by
    decide +kernel
  have effective : Registry.empty.effective Sample.swapped =
      .ok (Sample.models Sample.swapped) := by
    decide +kernel
  have straight : ¬(Sample.models Sample.swapped).Crosses "left" := by
    unfold TableModel.Crosses
    decide +kernel
  have exposed : (((Column.ofSubquery Sample.swapped.rows "s" "left").resolve
      (Sample.models Sample.person)).run .empty).result = .ok ⟨some "s", "right"⟩ := by
    decide +kernel
  refine ⟨derived, effective, straight, ?_⟩
  rcases listed_fields_exposed_alike Sample.swapped.rows derived effective "s" "left"
    (Sample.models Sample.person) with ⟨unknown, -⟩ | ⟨x, y, every, listed, same, -⟩
  · cases exposed.symm.trans unknown
  · cases same.2 straight
    exact ⟨x, every, listed⟩

/-- The name of a field and of the column of a field before it comes to different columns, depending
on whether the fields are listed. -/
theorem crossed_name_depends_on_list :
    (((Column.ofSubquery Sample.swapped.rows "s" "right").resolve
          (Sample.models Sample.person)).run .empty).result = .ok ⟨some "s", "left"⟩ ∧
      (((Column.ofSubquery { Sample.swapped.rows with
            selections := (Sample.models Sample.swapped).everyField } "s" "right").resolve
          (Sample.models Sample.person)).run .empty).result = .ok ⟨some "s", "right"⟩ := by
  decide +kernel

end EntitySql
