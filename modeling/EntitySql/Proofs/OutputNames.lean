import EntitySql.Proofs.Derivation
import EntitySql.Proofs.Exposure

/-!
# The names of output columns

From outside, a column of a subquery may be referred to by its output name or by the name of its
field. The first entry of the select list that answers to the name is meant, and so an entry with a
field of that name captures it from an output column further behind. An output column is reached by
its own name if and only if no entry in front of it answers to that name
(`output_reached_iff_uncaptured`).
-/

namespace EntitySql

/-! ### The names of a field -/

/-- The field is called `name`, or its column is. -/
def FieldModel.GoesBy (f : FieldModel) (name : String) : Prop :=
  f.field = name ∨ f.column = name

instance (f : FieldModel) (name : String) : Decidable (f.GoesBy name) :=
  inferInstanceAs (Decidable (f.field = name ∨ f.column = name))

namespace TableModel

variable {m : TableModel} {f g : FieldModel} {name own x : String}

/-- A name stands for a field that goes by it. -/
theorem goesBy_of_resolve? (h : m.resolve? name = some f) : f.GoesBy name := by
  unfold resolve? field? column? at h
  cases hf : m.fields.find? (·.field == name) with
  | some g =>
    rw [hf] at h
    cases h
    have called := List.find?_some hf
    exact .inl (beq_iff_eq.1 called)
  | none =>
    rw [hf] at h
    have called := List.find?_some h
    exact .inr (beq_iff_eq.1 called)

section Derived

variable {e : EntityType} {options : List ModelOption} (derived : e.deriveModel options = .ok m)
include derived

/-- The place in the order of declaration tells the fields apart. -/
theorem eq_of_index (hf : f ∈ m.fields) (hg : g ∈ m.fields) (same : f.index = g.index) : f = g := by
  have numbered : (m.fields.map (·.index)).Nodup := by
    rw [EntityType.indices_of_deriveModel derived]
    exact List.nodup_range
  exact List.inj_on_of_nodup_map numbered hf hg same

/-- The names that a column answers to are those that its field goes by. -/
theorem answers_iff :
    m.Answers own name x ↔ ∃ f, m.resolve? own = some f ∧ f.column = x ∧ f.GoesBy name := by
  refine exists_congr fun f => and_congr_right fun hf => and_congr_right fun _ => ?_
  have mem := mem_of_resolve? hf
  constructor
  · rintro (column | ⟨g, hg, same⟩)
    · exact .inr column
    · cases eq_of_index derived (mem_of_resolve? hg) mem same
      exact goesBy_of_resolve? hg
  · rintro (field | column)
    · exact .inr ⟨f, field ▸ (EntityType.derivedFrom derived).resolve?_field mem, rfl⟩
    · exact .inl column

end Derived

end TableModel

/-! ### The order of a select list -/

variable {model : EntityType → TableModel} {scope : TableModel}

/-- Of two lists, the second one is asked only if no entry of the first one answers. -/
theorem firstAnswers_append {before after : List Selection} {name x : String} :
    FirstAnswers model scope (before ++ after) name x ↔
      FirstAnswers model scope before name x ∨
        (∀ s ∈ before, ∀ y, ¬s.Answers model scope name y) ∧
          FirstAnswers model scope after name x := by
  induction before with
  | nil => simp [FirstAnswers]
  | cons s rest ih =>
    simp only [List.cons_append, FirstAnswers, ih, List.forall_mem_cons, and_or_left, or_assoc,
      and_assoc]

/-- The entries of a list whose output names are all different have no output name in common. -/
theorem pairwise_outputs {r : Registry} {selections : List Selection} {ts : List Sql.Selection}
    (h : (selections.mapM (Selection.resolve scope)).answer r.effective = .ok ts)
    (distinct : (ts.filterMap Sql.Selection.output?).Nodup) :
    selections.Pairwise fun s s' => ∀ o, s.Outputs r scope o → ¬s'.Outputs r scope o := by
  induction selections generalizing ts with
  | nil => exact .nil
  | cons s rest ih =>
    rw [List.mapM_cons] at h
    obtain ⟨t, first, h⟩ := Inquiry.answer_bind_eq_ok.1 h
    obtain ⟨more, later, pure⟩ := Inquiry.answer_bind_eq_ok.1 h
    cases pure
    have behind (s' : Selection) (hs' : s' ∈ rest) (o : String) (ho : s'.Outputs r scope o) :
        o ∈ more.filterMap Sql.Selection.output? :=
      (mem_outputs later).2 ⟨s', hs', ho⟩
    cases named : t.output? with
    | none =>
      rw [List.filterMap_cons_none named] at distinct
      refine .cons (fun s' _ o ho _ => ?_) (ih later distinct)
      rw [Selection.outputs_iff first, named] at ho
      cases ho
    | some o =>
      rw [List.filterMap_cons_some named] at distinct
      obtain ⟨new, distinct⟩ := List.nodup_cons.1 distinct
      refine .cons (fun s' hs' o' ho ho' => ?_) (ih later distinct)
      rw [Selection.outputs_iff first, named] at ho
      cases ho
      exact new (behind s' hs' o ho')

/-- **The names of output columns.** Take a query that can be rendered and whose output columns all
have different names. A reference by the output name of an entry comes to that output column if and
only if no entry further in front answers to the name. Else it comes to the output column of one
that does. -/
theorem output_reached_iff_uncaptured (r : Registry) (model : EntityType → TableModel)
    (query : Select) (aliasName : String) (outer : TableModel)
    (known : ∀ e ∈ query.mentions, r.effective e = .ok (model e)) {t : Sql.Select}
    (rendered : (query.resolve.run r).result = .ok t) (distinct : t.outputs.Nodup)
    {before after : List Selection} {s : Selection}
    (entries : query.selections = before ++ s :: after) {o : String}
    (output : s.Outputs r (model query.entity) o) :
    ((((Column.ofSubquery query aliasName o).resolve outer).run r).result =
          .ok ⟨some aliasName, o⟩ ↔
        ∀ s' ∈ before, ∀ x, ¬s'.Answers model (model query.entity) o x) ∧
      ((∃ s' ∈ before, ∃ x, s'.Answers model (model query.entity) o x) →
        ∃ x, x ≠ o ∧ (∃ s' ∈ before, s'.Answers model (model query.entity) o x ∧
            s'.Outputs r (model query.entity) x) ∧
          (((Column.ofSubquery query aliasName o).resolve outer).run r).result =
            .ok ⟨some aliasName, x⟩) := by
  have entry {s' : Selection} (hs : s' ∈ before ++ s :: after) :
      ∀ e ∈ s'.mentions, r.effective e = .ok (model e) :=
    fun e he => known e (Select.mem_mentions (entries ▸ hs) he)
  have front {s' : Selection} (hs : s' ∈ before) : s' ∈ before ++ s :: after :=
    List.mem_append_left _ hs
  have built (x : String) :
      (((Column.ofSubquery query aliasName o).resolve outer).run r).result =
          .ok ⟨some aliasName, x⟩ ↔
        FirstAnswers model (model query.entity) (before ++ s :: after) o x := by
    have listed : query.selections ≠ [] := by
      rw [entries]
      exact List.append_ne_nil_of_right_ne_nil before (List.cons_ne_nil s after)
    rw [Column.run_ofSubquery known, Select.exposes_of_ne_nil listed, entries, and_iff_right rfl]
  -- What an entry answers with is its output, and no entry in front has the output `o`.
  have differs {s' : Selection} (hs : s' ∈ before) :
      ¬s'.Outputs r (model query.entity) o := by
    have resolved := Select.selections_of_answer ((Inquiry.run_result ..).symm.trans rendered)
      (known _ Select.entity_mem_mentions)
    rw [entries] at resolved
    have apart := (List.pairwise_append.1 (pairwise_outputs resolved distinct)).2.2
    exact fun same => apart s' hs s List.mem_cons_self o same output
  have own : s.Answers model (model query.entity) o o :=
    s.answers_of_outputs (entry (List.mem_append_right _ List.mem_cons_self)) output
  constructor
  · rw [built, firstAnswers_append]
    constructor
    · rintro (captured | ⟨uncaptured, -⟩)
      · obtain ⟨s', hs, answers⟩ := mem_of_firstAnswers captured
        exact absurd (s'.outputs_of_answers (entry (front hs)) answers) (differs hs)
      · exact uncaptured
    · exact fun uncaptured => .inr ⟨uncaptured, .inl own⟩
  · intro captured
    obtain ⟨x, first⟩ := exists_firstAnswers.2 captured
    obtain ⟨s', hs, answers⟩ := mem_of_firstAnswers first
    have outputs := s'.outputs_of_answers (entry (front hs)) answers
    refine ⟨x, ?_, ⟨s', hs, answers, outputs⟩, ?_⟩
    · rintro rfl
      exact differs hs outputs
    · exact (built x).2 (firstAnswers_append.2 (.inl first))

theorem sample_captures :
    (∀ e ∈ Sample.overview.mentions, Registry.empty.effective e = .ok (Sample.models e)) ∧
      (∃ t, (Sample.overview.resolve.run .empty).result = .ok t ∧ t.outputs.Nodup) ∧
      Selection.Outputs .empty (Sample.models Sample.person)
        ⟨.aggregate .max (.bare "age"), some "oldest"⟩ "oldest" ∧
      (∀ s ∈ Sample.overview.selections.take 3, ∀ x,
        ¬s.Answers Sample.models (Sample.models Sample.person) "oldest" x) ∧
      Selection.Outputs .empty (Sample.models Sample.person)
        ⟨.column (.ofSubquery Sample.crossing "c" "right"), none⟩ "left" ∧
      ∃ x, x ≠ "left" ∧
        (((Column.ofSubquery Sample.overview "o" "left").resolve (Sample.models Sample.swapped)).run
          .empty).result = .ok ⟨some "o", x⟩ := by
  have known : ∀ e ∈ Sample.overview.mentions,
      Registry.empty.effective e = .ok (Sample.models e) := by
    decide +kernel
  obtain ⟨t, rendered, listed⟩ := Sample.resolve_overview
  have distinct : t.outputs.Nodup := by
    rw [listed]
    decide
  have oldest : Selection.Outputs .empty (Sample.models Sample.person)
      ⟨.aggregate .max (.bare "age"), some "oldest"⟩ "oldest" := rfl
  have left : Selection.Outputs .empty (Sample.models Sample.person)
      ⟨.column (.ofSubquery Sample.crossing "c" "right"), none⟩ "left" :=
    ⟨some "c", by decide +kernel⟩
  have fourth : Sample.overview.selections = Sample.overview.selections.take 3 ++
      ⟨.aggregate .max (.bare "age"), some "oldest"⟩ :: Sample.overview.selections.drop 4 := rfl
  have third : Sample.overview.selections = Sample.overview.selections.take 2 ++
      ⟨.column (.ofSubquery Sample.crossing "c" "right"), none⟩ ::
        Sample.overview.selections.drop 3 := rfl
  have uncaptured := (output_reached_iff_uncaptured .empty Sample.models Sample.overview "o"
    (Sample.models Sample.swapped) known rendered distinct fourth oldest).1.1 (by decide +kernel)
  obtain ⟨x, ne, -, reached⟩ := (output_reached_iff_uncaptured .empty Sample.models Sample.overview
    "o" (Sample.models Sample.swapped) known rendered distinct third left).2
      ⟨⟨.column (.ofTable Sample.swapped none "left"), none⟩, List.mem_cons_of_mem _
        List.mem_cons_self, "right", _, rfl, rfl, .inr ⟨_, rfl, rfl⟩⟩
  exact ⟨known, ⟨t, rendered, distinct⟩, oldest, uncaptured, left, x, ne, reached⟩

namespace Sample

/-- People's ages, and their names under the name of the field that holds the age. -/
def aged : Select :=
  { person.rows with
    selections := [⟨.column (.bare "age"), none⟩, ⟨.column (.bare "name"), some "age"⟩] }

end Sample

/-- An alias is not reached where it is the field name of a column further in front. -/
theorem field_name_captures_alias :
    (Sample.aged.resolve.run .empty).result.map Sql.Select.outputs = .ok ["a\"ge$1", "age"] ∧
      (((Column.ofSubquery Sample.aged "p" "age").resolve (Sample.models Sample.person)).run
          .empty).result = .ok ⟨some "p", "a\"ge$1"⟩ ∧
      ((Sample.database.buildSelect { Sample.person.rows with
          selections := [⟨.column (.ofSubquery Sample.aged "p" "age"), none⟩]
          source := .subquery Sample.aged "p" }).exec .empty).1 =
        .ok ⟨"SELECT \"p\".\"a\"\"ge$1\" FROM (SELECT \"a\"\"ge$1\",\"name\" AS \"age\" " ++
          "FROM \"pe?ople;\") AS \"p\";", []⟩ := by
  decide +kernel

end EntitySql
