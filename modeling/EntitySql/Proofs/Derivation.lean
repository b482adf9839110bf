import EntitySql.Model.Derivation
import Mathlib.Data.List.Nodup

/-!
# Derived table models

What a model says of the mapped members of its entity type is what the type itself says: their
names, types and offsets. On top of that no two fields share a name or a column, so a field can be
looked up by either, and it is the one that is found (`TableModel.DerivedFrom.resolve?_field`,
`TableModel.DerivedFrom.column?_column`).
-/

namespace EntitySql

/-- Where a mapped member lies in a record, and of which type it is. -/
structure Place where
  name : String
  offset : Nat
  type : FieldType
  deriving DecidableEq, Repr

def Field.place (f : Field) : Place :=
  ⟨f.name, f.offset, f.type⟩

def FieldModel.place (f : FieldModel) : Place :=
  ⟨f.field, f.offset, f.type⟩

/-- A model that agrees with the entity type `e`, and in which names and columns tell the fields
apart. -/
structure TableModel.DerivedFrom (m : TableModel) (e : EntityType) : Prop where
  entity : m.entity = e
  places : m.fields.map FieldModel.place = e.fields.map Field.place
  fields_nodup : (m.fields.map (·.field)).Nodup
  columns_nodup : (m.fields.map (·.column)).Nodup
  fits : ∀ f ∈ m.fields, fits f.type f.offset e.size = true

/-! ### Steps that have to succeed -/

section Checks

variable {ε α β : Type} {p : Prop} [Decidable p] {err : ε}

/-- A computation in two parts succeeds if both do. -/
theorem except_bind_eq_ok {x : Except ε α} {f : α → Except ε β} {b : β} :
    (x >>= f) = .ok b ↔ ∃ a, x = .ok a ∧ f a = .ok b := by
  cases x with
  | error err => simp [Bind.bind, Except.bind]
  | ok a => simp [Bind.bind, Except.bind]

/-- A last check succeeds unless it finds something. -/
theorem check_eq_ok {rest : Except ε α} {a : α} :
    (if p then throw err else rest) = .ok a ↔ ¬p ∧ rest = .ok a := by
  by_cases hp : p
  · simp [hp, throw, throwThe, MonadExceptOf.throw]
  · simp [hp]

/-- A check with more behind it succeeds if it finds nothing and the rest succeeds. -/
theorem check_bind_eq_ok {f : α → Except ε β} {rest : Except ε β} {b : β} :
    (if p then throw err >>= f else rest) = .ok b ↔ ¬p ∧ rest = .ok b :=
  check_eq_ok

end Checks

/-! ### What derivation checks -/

namespace EntityType

variable {e : EntityType} {options : List ModelOption}

/-- A field passes the check if it has names, lies inside the record and shares no name with those
before it. -/
theorem checkField_eq_ok {before : List FieldModel} {f : FieldModel} :
    checkField e before f = .ok () ↔
      ¬(f.field.isEmpty || f.column.isEmpty) ∧ EntitySql.fits f.type f.offset e.size = true ∧
        f.field ∉ before.map (·.field) ∧ f.column ∉ before.map (·.column) := by
  simp only [checkField, check_bind_eq_ok, check_eq_ok]
  simp [pure, Except.pure]

/-- The fields that a model gets agree with the members, and they are told apart from each other and
from those before them. -/
theorem fieldModels_eq_ok {before models : List FieldModel} {fields : List Field}
    (h : fieldModels e options before fields = .ok models)
    (hf : (before.map (·.field)).Nodup) (hc : (before.map (·.column)).Nodup) :
    models.map FieldModel.place = fields.map Field.place ∧
      ((before ++ models).map (·.field)).Nodup ∧ ((before ++ models).map (·.column)).Nodup ∧
      ∀ f ∈ models, EntitySql.fits f.type f.offset e.size = true := by
  induction fields generalizing before models with
  | nil =>
    cases h
    simp [hf, hc]
  | cons f rest ih =>
    simp only [fieldModels, except_bind_eq_ok] at h
    obtain ⟨⟨⟩, checked, more, hm, h⟩ := h
    cases h
    obtain ⟨-, inside, field, column⟩ := checkField_eq_ok.1 checked
    -- The next field joins those that the remaining fields are told apart from.
    obtain ⟨places, fields, columns, within⟩ :=
      ih hm (by simpa using hf.concat field) (by simpa using hc.concat column)
    refine ⟨?_, ?_, ?_, ?_⟩
    · rw [List.map_cons, List.map_cons, places]
      rfl
    · simpa using fields
    · simpa using columns
    · intro g hg
      rcases List.mem_cons.1 hg with rfl | hg
      · exact inside
      · exact within g hg

/-- The fields of a model are those of its entity type, one after the other. -/
theorem fieldModels_of_deriveModel {m : TableModel} (h : e.deriveModel options = .ok m) :
    m.entity = e ∧ fieldModels e options [] e.fields = .ok m.fields := by
  simp only [deriveModel, check_bind_eq_ok] at h
  obtain ⟨-, h⟩ := h
  split at h
  · cases h
  · obtain ⟨-, h⟩ := check_bind_eq_ok.1 h
    split at h
    · cases h
    · rename_i models hm
      cases h
      exact ⟨rfl, hm⟩

/-- A model is derived from its entity type. -/
theorem derivedFrom {m : TableModel} (h : e.deriveModel options = .ok m) : m.DerivedFrom e := by
  obtain ⟨entity, hm⟩ := fieldModels_of_deriveModel h
  obtain ⟨places, fields, columns, within⟩ := fieldModels_eq_ok hm List.nodup_nil List.nodup_nil
  exact ⟨entity, places, fields, columns, within⟩

/-- Fields are numbered on from those before them. -/
theorem indices_of_fieldModels {before models : List FieldModel} {fields : List Field}
    (h : fieldModels e options before fields = .ok models) :
    models.map (·.index) = List.range' before.length models.length := by
  induction fields generalizing before models with
  | nil =>
    cases h
    rfl
  | cons f rest ih =>
    simp only [fieldModels, except_bind_eq_ok] at h
    obtain ⟨⟨⟩, -, more, hm, h⟩ := h
    cases h
    have later := ih hm
    rw [List.length_append, List.length_singleton] at later
    rw [List.map_cons, later, List.length_cons, List.range'_succ]

/-- The fields of a model are numbered in the order of declaration. -/
theorem indices_of_deriveModel {m : TableModel} (h : e.deriveModel options = .ok m) :
    m.fields.map (·.index) = List.range m.fields.length := by
  rw [List.range_eq_range']
  exact indices_of_fieldModels (fieldModels_of_deriveModel h).2

/-- A model cannot be derived from a type without members, or under an option for a field that the
type does not have; all else is a fault of the model itself. -/
theorem error_of_deriveModel {err : Error} (h : e.deriveModel options = .error err) :
    err = .unsupportedType e.typeName ∨
      (∃ field, ModelOption.strayField? options e = some field ∧ err = .unknownField field) ∨
      ∃ fault, err = .invalidModel e.typeName fault := by
  unfold deriveModel at h
  by_cases unmapped : e.fields.isEmpty = true
  · rw [if_pos unmapped] at h
    cases h
    exact .inl rfl
  rw [if_neg unmapped] at h
  cases stray : ModelOption.strayField? options e with
  | some field =>
    rw [stray] at h
    cases h
    exact .inr (.inl ⟨field, rfl, rfl⟩)
  | none =>
    refine .inr (.inr ?_)
    rw [stray] at h
    by_cases nameless : (e.tableName options).isEmpty = true
    · simp only [if_pos nameless] at h
      cases h
      exact ⟨_, rfl⟩
    · simp only [if_neg nameless] at h
      cases hm : fieldModels e options [] e.fields with
      | error fault =>
        simp only [hm] at h
        cases h
        exact ⟨fault, rfl⟩
      | ok fields =>
        simp only [hm] at h
        cases h

end EntityType

/-! ### Looking fields up -/

/-- In a list that a key tells apart, looking for the key of an entry finds that entry. -/
theorem find?_key {α β : Type} [BEq β] [LawfulBEq β] {key : α → β} {l : List α}
    (h : (l.map key).Nodup) {a : α} (ha : a ∈ l) : l.find? (key · == key a) = some a := by
  cases hf : l.find? (key · == key a) with
  | none => simpa using List.find?_eq_none.1 hf a ha
  | some b =>
    have same : key b = key a := by simpa using List.find?_some hf
    exact congrArg some (List.inj_on_of_nodup_map h (List.mem_of_find?_eq_some hf) ha same)

namespace TableModel.DerivedFrom

variable {m : TableModel} {e : EntityType} {f : FieldModel}

theorem field?_field (h : m.DerivedFrom e) (hf : f ∈ m.fields) : m.field? f.field = some f :=
  find?_key h.fields_nodup hf

/-- A field is the one that its name stands for, even where that is another field's column. -/
theorem resolve?_field (h : m.DerivedFrom e) (hf : f ∈ m.fields) : m.resolve? f.field = some f := by
  rw [resolve?, h.field?_field hf]
  rfl

/-- A field is the one that has its column. -/
theorem column?_column (h : m.DerivedFrom e) (hf : f ∈ m.fields) : m.column? f.column = some f :=
  find?_key h.columns_nodup hf

end TableModel.DerivedFrom

/-- A name stands for a field of the model, if for anything. -/
theorem TableModel.mem_of_resolve? {m : TableModel} {f : FieldModel} {name : String}
    (h : m.resolve? name = some f) : f ∈ m.fields := by
  unfold resolve? field? column? at h
  cases hf : m.fields.find? (·.field == name) with
  | some g =>
    rw [hf] at h
    cases h
    exact List.mem_of_find?_eq_some hf
  | none =>
    rw [hf] at h
    exact List.mem_of_find?_eq_some h

end EntitySql
