import EntitySql.Proofs.Derivation
import Mathlib.Data.List.Induction

/-!
# Consistent entity types

An entity type is consistent, under the options of a registration, if its table and its fields are
named, the options are about fields that it has, no name is used twice and every field lies inside
a record. Just the consistent types have models, and all else fails with the first thing that stands
in the way (`consistent_types_have_models`).

The fields are checked one after the other against those in front of them. So one more field is
admitted if and only if the longer list is consistent (`FieldsConsistent.concat_iff`), and the whole
list goes through by induction from its end.
-/

namespace EntitySql

/-! ### Names that are chosen -/

/-- The last of the values that `pick` takes from a list is the one that no other one follows. -/
theorem getLast?_filterMap_eq_some {α β : Type} {pick : α → Option β} {l : List α} {b : β} :
    (l.filterMap pick).getLast? = some b ↔
      ∃ before a after, l = before ++ a :: after ∧ pick a = some b ∧
        ∀ x ∈ after, pick x = none := by
  constructor
  · intro last
    obtain ⟨init, split⟩ := List.getLast?_eq_some_iff.1 last
    obtain ⟨before, rest, rfl, -, picked⟩ := List.filterMap_eq_append_iff.1 split
    obtain ⟨skipped, a, after, rfl, -, here, later⟩ := List.filterMap_eq_cons_iff.1 picked
    refine ⟨before ++ skipped, a, after, (List.append_assoc ..).symm, here, ?_⟩
    exact List.filterMap_eq_nil_iff.1 later
  · rintro ⟨before, a, after, rfl, here, later⟩
    have rest : after.filterMap pick = [] := List.filterMap_eq_nil_iff.2 later
    rw [List.filterMap_append, List.filterMap_cons_some here, rest, List.getLast?_concat]

namespace ModelOption

/-- The last option for the table says that it is called `name`. -/
def TableLast (options : List ModelOption) (name : String) : Prop :=
  ∃ before after, options = before ++ table name :: after ∧ ∀ other, table other ∉ after

/-- The last option for `field` says that its column is called `name`. -/
def ColumnLast (options : List ModelOption) (field name : String) : Prop :=
  ∃ before after, options = before ++ column field name :: after ∧
    ∀ other, column field other ∉ after

variable {options : List ModelOption} {field name : String}

theorem table?_eq_some : table? options = some name ↔ TableLast options name := by
  rw [table?, getLast?_filterMap_eq_some, TableLast]
  constructor
  · rintro ⟨before, option, after, split, here, later⟩
    cases option with
    | table other =>
      cases here
      exact ⟨before, after, split, fun other mem => nomatch later _ mem⟩
    | column f c => cases here
  · rintro ⟨before, after, split, later⟩
    refine ⟨before, table name, after, split, rfl, fun option mem => ?_⟩
    cases option with
    | table other => exact absurd mem (later other)
    | column f c => rfl

theorem column?_eq_some : column? options field = some name ↔ ColumnLast options field name := by
  rw [column?, getLast?_filterMap_eq_some, ColumnLast]
  constructor
  · rintro ⟨before, option, after, split, here, later⟩
    cases option with
    | table other => cases here
    | column f c =>
      have same : f = field ∧ c = name := by simpa using here
      obtain ⟨rfl, rfl⟩ := same
      refine ⟨before, after, split, fun other mem => ?_⟩
      simpa using later _ mem
  · rintro ⟨before, after, split, later⟩
    refine ⟨before, column field name, after, split, if_pos rfl, fun option mem => ?_⟩
    cases option with
    | table other => rfl
    | column f c =>
      have other : f ≠ field := by
        rintro rfl
        exact later c mem
      exact if_neg other

end ModelOption

/-- The name that is chosen: the one given last on registration, else the type's own, else the one
that follows by default. -/
inductive NameChosen (last : String → Prop) (own? : Option String) (default : String) :
    String → Prop
  | last {name : String} (given : last name) : NameChosen last own? default name
  | own {name : String} (unsaid : ∀ other, ¬last other) (given : own? = some name) :
    NameChosen last own? default name
  | default (unsaid : ∀ other, ¬last other) (absent : own? = none) :
    NameChosen last own? default default

/-- Choosing a name from two that may be missing and a default one. -/
theorem nameChosen_iff {last : String → Prop} {last? own? : Option String} {default name : String}
    (h : ∀ n, last? = some n ↔ last n) :
    (last? <|> own?).getD default = name ↔ NameChosen last own? default name := by
  cases said : last? with
  | some n =>
    have given : last n := (h n).1 said
    constructor
    · rintro rfl
      exact .last given
    · intro chosen
      cases chosen with
      | last given' =>
        have found := (h name).2 given'
        rw [said] at found
        exact Option.some.inj found
      | own unsaid => exact absurd given (unsaid n)
      | default unsaid => exact absurd given (unsaid n)
  | none =>
    have unsaid : ∀ other, ¬last other := by
      intro other given
      have found := (h other).2 given
      rw [said] at found
      cases found
    constructor
    · rintro rfl
      cases own? with
      | some n => exact .own unsaid rfl
      | none => exact .default unsaid rfl
    · intro chosen
      cases chosen with
      | last given => exact absurd given (unsaid name)
      | own _ given => rw [given]; rfl
      | default _ absent => rw [absent]; rfl

namespace EntityType

variable (e : EntityType) (options : List ModelOption)

theorem tableName_eq_iff {name : String} :
    e.tableName options = name ↔
      NameChosen (ModelOption.TableLast options) e.table? (Text.snakeCase e.typeName) name :=
  nameChosen_iff fun _ => ModelOption.table?_eq_some

theorem columnName_eq_iff {f : Field} {name : String} :
    columnName options f = name ↔
      NameChosen (ModelOption.ColumnLast options f.name) f.column? (Text.snakeCase f.name) name :=
  nameChosen_iff fun _ => ModelOption.column?_eq_some

/-! ### Consistency -/

/-- The field lies inside a record, and its first byte at a multiple of its alignment. -/
def Encloses (f : Field) : Prop :=
  f.offset + f.type.size ≤ e.size ∧ f.type.alignment ∣ f.offset

instance (f : Field) : Decidable (e.Encloses f) :=
  inferInstanceAs (Decidable (_ ∧ _))

/-- The fields have names, none of which is used twice, and lie inside a record. -/
structure FieldsConsistent (fields : List Field) : Prop where
  named : ∀ f ∈ fields, f.name ≠ "" ∧ columnName options f ≠ ""
  enclosed : ∀ f ∈ fields, e.Encloses f
  names : (fields.map (·.name)).Nodup
  columns : (fields.map (columnName options)).Nodup

/-- The options are about fields that the type has. -/
def Declares : Prop :=
  ∀ field column, .column field column ∈ options → field ∈ e.fields.map (·.name)

/-- There is nothing in the way of a model of the type. -/
structure Consistent : Prop where
  mapped : e.fields ≠ []
  declares : e.Declares options
  named : e.tableName options ≠ ""
  fields : e.FieldsConsistent options e.fields

/-- What is wrong with a field behind the fields `before`. -/
inductive FieldRefused (before : List Field) (f : Field) : ModelFault → Prop
  | emptyName (nameless : f.name = "" ∨ columnName options f = "") :
    FieldRefused before f .emptyName
  | misplaced (named : f.name ≠ "" ∧ columnName options f ≠ "") (outside : ¬e.Encloses f) :
    FieldRefused before f (.misplacedField f.name f.type f.offset)
  | duplicateField (named : f.name ≠ "" ∧ columnName options f ≠ "") (inside : e.Encloses f)
      (taken : f.name ∈ before.map (·.name)) :
    FieldRefused before f (.duplicateField f.name)
  | duplicateColumn (named : f.name ≠ "" ∧ columnName options f ≠ "") (inside : e.Encloses f)
      (free : f.name ∉ before.map (·.name))
      (taken : columnName options f ∈ before.map (columnName options)) :
    FieldRefused before f (.duplicateColumn (columnName options f))

/-- The first thing in the way of a model of the type: that there are no fields, an option for a
field that it does not have, the table, and then the fields in the order of declaration. -/
inductive Refused : Error → Prop
  | unmapped (none : e.fields = []) : Refused (.unsupportedType e.typeName)
  | undeclared {before after : List ModelOption} {field column : String} (mapped : e.fields ≠ [])
      (split : options = before ++ .column field column :: after) (declares : e.Declares before)
      (stray : field ∉ e.fields.map (·.name)) :
    Refused (.unknownField field)
  | emptyTable (mapped : e.fields ≠ []) (declares : e.Declares options)
      (nameless : e.tableName options = "") :
    Refused (.invalidModel e.typeName .emptyTable)
  | field {before after : List Field} {f : Field} {fault : ModelFault} (mapped : e.fields ≠ [])
      (declares : e.Declares options) (named : e.tableName options ≠ "")
      (split : e.fields = before ++ f :: after) (consistent : e.FieldsConsistent options before)
      (refused : e.FieldRefused options before f fault) :
    Refused (.invalidModel e.typeName fault)

/-! ### One field more -/

variable {e options} {fields before after : List Field} {f : Field} {fault : ModelFault}

/-- What it takes for a field to be admitted behind the fields `before`. -/
structure Admitted (e : EntityType) (options : List ModelOption) (before : List Field) (f : Field) :
    Prop where
  named : f.name ≠ "" ∧ columnName options f ≠ ""
  enclosed : e.Encloses f
  name : f.name ∉ before.map (·.name)
  column : columnName options f ∉ before.map (columnName options)

/-- A field is admitted unless it is refused. -/
theorem admitted_or_refused (before : List Field) (f : Field) :
    e.Admitted options before f ∨ ∃ fault, e.FieldRefused options before f fault := by
  by_cases named : f.name ≠ "" ∧ columnName options f ≠ ""
  · by_cases inside : e.Encloses f
    · by_cases name : f.name ∈ before.map (·.name)
      · exact .inr ⟨_, .duplicateField named inside name⟩
      · by_cases column : columnName options f ∈ before.map (columnName options)
        · exact .inr ⟨_, .duplicateColumn named inside name column⟩
        · exact .inl ⟨named, inside, name, column⟩
    · exact .inr ⟨_, .misplaced named inside⟩
  · have nameless : f.name = "" ∨ columnName options f = "" := by
      rw [not_and_or, not_not, not_not] at named
      exact named
    exact .inr ⟨_, .emptyName nameless⟩

theorem FieldsConsistent.nil : e.FieldsConsistent options [] where
  named := by simp
  enclosed := by simp
  names := List.nodup_nil
  columns := List.nodup_nil

/-- One more field at the end is admitted if and only if the fields stay consistent. -/
theorem FieldsConsistent.concat_iff :
    e.FieldsConsistent options (fields ++ [f]) ↔
      e.FieldsConsistent options fields ∧ e.Admitted options fields f := by
  have nodup (key : Field → String) : ((fields ++ [f]).map key).Nodup ↔
      (fields.map key).Nodup ∧ key f ∉ fields.map key := by
    rw [List.map_append, List.map_singleton, ← List.concat_eq_append, List.nodup_concat]
    exact and_comm
  constructor
  · rintro ⟨named, enclosed, names, columns⟩
    have behind : f ∈ fields ++ [f] := by simp
    have among (g : Field) (hg : g ∈ fields) : g ∈ fields ++ [f] := List.mem_append_left _ hg
    obtain ⟨names, name⟩ := (nodup (·.name)).1 names
    obtain ⟨columns, column⟩ := (nodup (columnName options)).1 columns
    exact ⟨⟨fun g hg => named g (among g hg), fun g hg => enclosed g (among g hg), names, columns⟩,
      ⟨named f behind, enclosed f behind, name, column⟩⟩
  · rintro ⟨⟨named, enclosed, names, columns⟩, admitted⟩
    refine ⟨?_, ?_, (nodup (·.name)).2 ⟨names, admitted.name⟩,
      (nodup (columnName options)).2 ⟨columns, admitted.column⟩⟩
    · intro g hg
      rcases List.mem_append.1 hg with hg | hg
      · exact named g hg
      · exact List.mem_singleton.1 hg ▸ admitted.named
    · intro g hg
      rcases List.mem_append.1 hg with hg | hg
      · exact enclosed g hg
      · exact List.mem_singleton.1 hg ▸ admitted.enclosed

/-- Fields are consistent unless one of them is the first to be refused. -/
theorem consistent_or_refused (fields : List Field) :
    e.FieldsConsistent options fields ∨
      ∃ before f after fault, fields = before ++ f :: after ∧
        e.FieldsConsistent options before ∧ e.FieldRefused options before f fault := by
  induction fields using List.reverseRecOn with
  | nil => exact .inl .nil
  | append_singleton fields f ih =>
    rcases ih with consistent | ⟨before, g, after, fault, rfl, consistent, refused⟩
    · rcases admitted_or_refused fields f with admitted | ⟨fault, refused⟩
      · exact .inl (FieldsConsistent.concat_iff.2 ⟨consistent, admitted⟩)
      · exact .inr ⟨fields, f, [], fault, rfl, consistent, refused⟩
    · exact .inr ⟨before, g, after ++ [f], fault, by simp, consistent, refused⟩

/-! ### The run over the fields -/

/-- What the model says of the field number `index`. -/
def fieldModel (options : List ModelOption) (index : Nat) (f : Field) : FieldModel :=
  ⟨f.name, columnName options f, f.type, f.offset, index⟩

theorem map_mapIdx_fieldModel {β : Type} {view : FieldModel → β} {view' : Field → β}
    (h : ∀ index f, view (fieldModel options index f) = view' f) (fields : List Field) :
    (fields.mapIdx (fieldModel options)).map view = fields.map view' := by
  induction fields using List.reverseRecOn with
  | nil => rfl
  | append_singleton fields f ih =>
    rw [List.mapIdx_concat, List.map_append, List.map_append, ih, List.map_singleton,
      List.map_singleton, h]

theorem fields_mapIdx (options : List ModelOption) (fields : List Field) :
    (fields.mapIdx (fieldModel options)).map (·.field) = fields.map (·.name) :=
  map_mapIdx_fieldModel (fun _ _ => rfl) fields

theorem columns_mapIdx (options : List ModelOption) (fields : List Field) :
    (fields.mapIdx (fieldModel options)).map (·.column) = fields.map (columnName options) :=
  map_mapIdx_fieldModel (fun _ _ => rfl) fields

theorem fits_iff_encloses : EntitySql.fits f.type f.offset e.size = true ↔ e.Encloses f := by
  rw [fits, decide_eq_true_iff, Encloses, Nat.dvd_iff_mod_eq_zero]

/-- The check of a field as one choice. -/
theorem checkField_eq (before : List Field) (index : Nat) (f : Field) :
    checkField e (before.mapIdx (fieldModel options)) (fieldModel options index f) =
      if f.name = "" ∨ columnName options f = "" then .error .emptyName
      else if ¬e.Encloses f then .error (.misplacedField f.name f.type f.offset)
      else if f.name ∈ before.map (·.name) then .error (.duplicateField f.name)
      else if columnName options f ∈ before.map (columnName options) then
        .error (.duplicateColumn (columnName options f))
      else .ok () := by
  have nameless : (f.name.isEmpty || (columnName options f).isEmpty) = true ↔
      f.name = "" ∨ columnName options f = "" := by
    rw [Bool.or_eq_true, String.isEmpty_iff, String.isEmpty_iff]
  have outside : (!EntitySql.fits f.type f.offset e.size) = true ↔ ¬e.Encloses f := by
    rw [← fits_iff_encloses, Bool.not_eq_true', Bool.not_eq_true]
  have name : (before.mapIdx (fieldModel options)).any (·.field == f.name) = true ↔
      f.name ∈ before.map (·.name) := by
    rw [← fields_mapIdx options, List.any_eq_true, List.mem_map]
    simp only [beq_iff_eq]
  have column : (before.mapIdx (fieldModel options)).any (·.column == columnName options f) = true ↔
      columnName options f ∈ before.map (columnName options) := by
    rw [← columns_mapIdx options, List.any_eq_true, List.mem_map]
    simp only [beq_iff_eq]
  have row : fieldModel options index f = ⟨f.name, columnName options f, f.type, f.offset, index⟩ :=
    rfl
  rw [row, checkField]
  simp only [nameless, outside, name, column]
  split_ifs <;> rfl

variable {index : Nat}

theorem checkField_of_admitted (h : e.Admitted options before f) :
    checkField e (before.mapIdx (fieldModel options)) (fieldModel options index f) = .ok () := by
  have named : ¬(f.name = "" ∨ columnName options f = "") := not_or.2 h.named
  rw [checkField_eq, if_neg named, if_neg (not_not.2 h.enclosed), if_neg h.name, if_neg h.column]

/-- A check that finds something ends the steps behind it. -/
theorem checkField_of_refused (h : e.FieldRefused options before f fault) :
    checkField e (before.mapIdx (fieldModel options)) (fieldModel options index f) =
      .error fault := by
  rw [checkField_eq]
  cases h with
  | emptyName nameless => rw [if_pos nameless]
  | misplaced named outside => rw [if_neg (not_or.2 named), if_pos outside]
  | duplicateField named inside taken =>
    rw [if_neg (not_or.2 named), if_neg (not_not.2 inside), if_pos taken]
  | duplicateColumn named inside free taken =>
    rw [if_neg (not_or.2 named), if_neg (not_not.2 inside), if_neg free, if_pos taken]

/-- The next field is checked, and it joins those that the remaining fields are checked against. -/
theorem fieldModels_cons (before : List Field) (f : Field) (rest : List Field) :
    fieldModels e options (before.mapIdx (fieldModel options)) (f :: rest) = (do
      checkField e (before.mapIdx (fieldModel options)) (fieldModel options before.length f)
      let more ← fieldModels e options ((before ++ [f]).mapIdx (fieldModel options)) rest
      pure (fieldModel options before.length f :: more)) := by
  rw [fieldModels, List.mapIdx_concat, List.length_mapIdx]
  rfl

/-- The fields in front are gone through first, and the fields behind are checked against them. -/
theorem fieldModels_append (before : List FieldModel) (fields more : List Field) :
    fieldModels e options before (fields ++ more) = (do
      let models ← fieldModels e options before fields
      let others ← fieldModels e options (before ++ models) more
      pure (models ++ others)) := by
  induction fields generalizing before with
  | nil => simp [fieldModels]
  | cons f rest ih =>
    simp only [List.cons_append, fieldModels, ih, bind_assoc, pure_bind, List.append_assoc,
      List.nil_append]

/-- Consistent fields go through, and are numbered in their order. By induction from the end, since
the fields in front of a field are consistent by themselves. -/
theorem fieldModels_of_consistent (h : e.FieldsConsistent options fields) :
    fieldModels e options [] fields = .ok (fields.mapIdx (fieldModel options)) := by
  induction fields using List.reverseRecOn with
  | nil => rfl
  | append_singleton fields f ih =>
    obtain ⟨consistent, admitted⟩ := FieldsConsistent.concat_iff.1 h
    have front := ih consistent
    have last : fieldModels e options (fields.mapIdx (fieldModel options)) [f] =
        .ok [fieldModel options fields.length f] := by
      rw [fieldModels_cons, checkField_of_admitted admitted]
      rfl
    rw [fieldModels_append, front, List.mapIdx_concat]
    exact except_bind_eq_ok.2 ⟨_, rfl, except_bind_eq_ok.2 ⟨_, last, rfl⟩⟩

/-- The first field that is refused ends the run. -/
theorem fieldModels_of_refused (h : e.FieldsConsistent options before)
    (refused : e.FieldRefused options before f fault) :
    fieldModels e options [] (before ++ f :: after) = .error fault := by
  have rest : fieldModels e options (before.mapIdx (fieldModel options)) (f :: after) =
      .error fault := by
    rw [fieldModels_cons, checkField_of_refused refused]
    rfl
  rw [fieldModels_append, fieldModels_of_consistent h]
  show (fieldModels e options (before.mapIdx (fieldModel options)) (f :: after) >>= _) = _
  rw [rest]
  rfl

/-! ### The model of a type -/

/-- The model that a consistent type gets. -/
def modelUnder (e : EntityType) (options : List ModelOption) : TableModel :=
  ⟨e, e.tableName options, e.fields.mapIdx (fieldModel options)⟩

theorem any_name_iff {field : String} :
    e.fields.any (·.name == field) = true ↔ field ∈ e.fields.map (·.name) := by
  rw [List.any_eq_true, List.mem_map]
  simp only [beq_iff_eq]

theorem strayField?_eq_none : ModelOption.strayField? options e = none ↔ e.Declares options := by
  rw [ModelOption.strayField?, List.findSome?_eq_none_iff]
  constructor
  · intro none_stray field column mem
    have declared := none_stray _ mem
    by_contra stray
    rw [← any_name_iff] at stray
    simp [stray] at declared
  · intro declares option mem
    cases option with
    | table name => rfl
    | column field column => exact if_pos (any_name_iff.2 (declares field column mem))

theorem strayField?_eq_some {field : String} :
    ModelOption.strayField? options e = some field ↔
      ∃ before column after, options = before ++ .column field column :: after ∧
        e.Declares before ∧ field ∉ e.fields.map (·.name) := by
  rw [ModelOption.strayField?, List.findSome?_eq_some_iff]
  constructor
  · rintro ⟨before, option, after, split, here, earlier⟩
    have declares : e.Declares before := by
      rw [← strayField?_eq_none, ModelOption.strayField?, List.findSome?_eq_none_iff]
      exact earlier
    cases option with
    | table name => cases here
    | column name column =>
      by_cases declared : e.fields.any (·.name == name) = true
      · simp [declared] at here
      · simp only [if_neg declared, Option.some.injEq] at here
        subst here
        exact ⟨before, column, after, split, declares, mt any_name_iff.2 declared⟩
  · rintro ⟨before, column, after, split, declares, stray⟩
    refine ⟨before, .column field column, after, split, if_neg (mt any_name_iff.1 stray), ?_⟩
    rw [← List.findSome?_eq_none_iff]
    exact strayField?_eq_none.2 declares

theorem deriveModel_of_consistent (h : e.Consistent options) :
    e.deriveModel options = .ok (e.modelUnder options) := by
  have mapped : ¬e.fields.isEmpty = true := mt List.isEmpty_iff.1 h.mapped
  have named : ¬(e.tableName options).isEmpty = true := mt String.isEmpty_iff.1 h.named
  unfold deriveModel
  rw [if_neg mapped, strayField?_eq_none.2 h.declares]
  simp only [if_neg named, fieldModels_of_consistent h.fields]
  rfl

theorem deriveModel_of_refused {err : Error} (h : e.Refused options err) :
    e.deriveModel options = .error err := by
  have nonempty (mapped : e.fields ≠ []) : ¬e.fields.isEmpty = true := mt List.isEmpty_iff.1 mapped
  unfold deriveModel
  cases h with
  | unmapped none => rw [if_pos (List.isEmpty_iff.2 none)]; rfl
  | undeclared mapped split declares stray =>
    rw [if_neg (nonempty mapped), strayField?_eq_some.2 ⟨_, _, _, split, declares, stray⟩]
    rfl
  | emptyTable mapped declares nameless =>
    rw [if_neg (nonempty mapped), strayField?_eq_none.2 declares]
    simp only [if_pos (String.isEmpty_iff.2 nameless)]
    rfl
  | field mapped declares named split consistent refused =>
    have named : ¬(e.tableName options).isEmpty = true := mt String.isEmpty_iff.1 named
    rw [if_neg (nonempty mapped), strayField?_eq_none.2 declares]
    simp only [if_neg named, split, fieldModels_of_refused consistent refused]
    rfl

/-- A type is consistent, or something is the first to stand in its way. -/
theorem consistent_or_exists_refused (e : EntityType) (options : List ModelOption) :
    e.Consistent options ∨ ∃ err, e.Refused options err := by
  by_cases mapped : e.fields = []
  · exact .inr ⟨_, .unmapped mapped⟩
  cases stray : ModelOption.strayField? options e with
  | some field =>
    obtain ⟨before, column, after, split, declares, stray⟩ := strayField?_eq_some.1 stray
    exact .inr ⟨_, .undeclared mapped split declares stray⟩
  | none =>
    have declares := strayField?_eq_none.1 stray
    by_cases named : e.tableName options = ""
    · exact .inr ⟨_, .emptyTable mapped declares named⟩
    · rcases consistent_or_refused e.fields with
        consistent | ⟨before, f, after, fault, split, consistent, refused⟩
      · exact .inl ⟨mapped, declares, named, consistent⟩
      · exact .inr ⟨_, .field mapped declares named split consistent refused⟩

end EntityType

/-! ### Looking fields up -/

/-- In a list that a key tells apart, looking for a key finds the entry that has it. -/
theorem find?_key_eq_some {α : Type} {key : α → String} {l : List α} (h : (l.map key).Nodup)
    {k : String} {a : α} : l.find? (key · == k) = some a ↔ a ∈ l ∧ key a = k := by
  constructor
  · intro found
    have named := List.find?_some found
    exact ⟨List.mem_of_find?_eq_some found, beq_iff_eq.1 named⟩
  · rintro ⟨mem, rfl⟩
    exact find?_key h mem

theorem find?_key_eq_none {α : Type} {key : α → String} {l : List α} {k : String} :
    l.find? (key · == k) = none ↔ ∀ a ∈ l, key a ≠ k := by
  rw [List.find?_eq_none]
  simp only [beq_iff_eq, ne_eq]

/-- A model in which a name finds the field that has it, and a column the field that it is of. -/
structure TableModel.Indexed (m : TableModel) : Prop where
  field : ∀ name f, m.field? name = some f ↔ f ∈ m.fields ∧ f.field = name
  noField : ∀ name, m.field? name = none ↔ ∀ f ∈ m.fields, f.field ≠ name
  column : ∀ name f, m.column? name = some f ↔ f ∈ m.fields ∧ f.column = name
  noColumn : ∀ name, m.column? name = none ↔ ∀ f ∈ m.fields, f.column ≠ name

theorem TableModel.DerivedFrom.indexed {m : TableModel} {e : EntityType} (h : m.DerivedFrom e) :
    m.Indexed where
  field _ _ := find?_key_eq_some h.fields_nodup
  noField _ := find?_key_eq_none
  column _ _ := find?_key_eq_some h.columns_nodup
  noColumn _ := find?_key_eq_none

/-- **Consistent types have models.** A type has a model under some options if and only if it is
consistent under them. The model is about the table and the columns that were chosen, has the fields
in the order of declaration and numbers them in it, and each of them is found by its name and by its
column. Any other type is refused for the first thing that stands in the way. Names are chosen from
what the last option says, what the type asks for, and the snake case of its own names. -/
theorem consistent_types_have_models (e : EntityType) (options : List ModelOption) :
    ((∃ m, e.deriveModel options = .ok m) ↔ e.Consistent options) ∧
      (∀ m, e.deriveModel options = .ok m →
        m.entity = e ∧ m.table = e.tableName options ∧
        m.fields = e.fields.mapIdx (fun i f =>
          ⟨f.name, EntityType.columnName options f, f.type, f.offset, i⟩) ∧
        m.Indexed) ∧
      (∀ err, e.deriveModel options = .error err ↔ e.Refused options err) ∧
      (∀ name, e.tableName options = name ↔
        NameChosen (ModelOption.TableLast options) e.table? (Text.snakeCase e.typeName) name) ∧
      ∀ (f : Field) (name : String), EntityType.columnName options f = name ↔
        NameChosen (ModelOption.ColumnLast options f.name) f.column? (Text.snakeCase f.name)
          name := by
  have decided := e.consistent_or_exists_refused options
  refine ⟨⟨?_, ?_⟩, ?_, fun err => ⟨?_, EntityType.deriveModel_of_refused⟩,
    fun _ => e.tableName_eq_iff options, fun _ _ => EntityType.columnName_eq_iff options⟩
  · rintro ⟨m, derived⟩
    rcases decided with consistent | ⟨err, refused⟩
    · exact consistent
    · have failed := EntityType.deriveModel_of_refused refused
      cases derived.symm.trans failed
  · intro consistent
    exact ⟨_, EntityType.deriveModel_of_consistent consistent⟩
  · intro m derived
    have indexed : m.Indexed := (EntityType.derivedFrom derived).indexed
    rcases decided with consistent | ⟨err, refused⟩
    · have model := EntityType.deriveModel_of_consistent consistent
      cases derived.symm.trans model
      exact ⟨rfl, rfl, rfl, indexed⟩
    · have failed := EntityType.deriveModel_of_refused refused
      cases derived.symm.trans failed
  · intro failed
    rcases decided with consistent | ⟨err', refused⟩
    · have model := EntityType.deriveModel_of_consistent consistent
      cases failed.symm.trans model
    · have first := EntityType.deriveModel_of_refused refused
      cases failed.symm.trans first
      exact refused

namespace Sample

/-- A type in which the columns of two fields would be the same, but for an option. -/
def ticket : EntityType where
  home := ""
  shortName := "Ticket"
  typeName := "Ticket"
  table? := some "tickets"
  fields := [⟨"id", none, ⟨.int64, false⟩, 0⟩, ⟨"seatRow", none, ⟨.int32, true⟩, 8⟩,
    ⟨"seatNumber", some "seat_row", ⟨.int32, true⟩, 16⟩]
  unmapped := []
  size := 24

/-- Options of which the last one for a field or for the table counts. -/
def ticketOptions : List ModelOption :=
  [.table "entries", .column "seatNumber" "id", .table "passes", .column "seatNumber" "place"]

def ticketModel : TableModel where
  entity := ticket
  table := "passes"
  fields := [⟨"id", "id", ⟨.int64, false⟩, 0, 0⟩, ⟨"seatRow", "seat_row", ⟨.int32, true⟩, 8, 1⟩,
    ⟨"seatNumber", "place", ⟨.int32, true⟩, 16, 2⟩]

/-- A ticket with a field so far off that its end would wrap around to the start of a record. -/
def farTicket : EntityType :=
  { ticket with fields := [⟨"id", none, ⟨.int64, false⟩, 0xFFFFFFFFFFFFFFF8⟩] }

theorem deriveModel_ticket : ticket.deriveModel ticketOptions = .ok ticketModel := by
  decide +kernel

end Sample

theorem sample_models :
    Sample.ticket.deriveModel Sample.ticketOptions = .ok Sample.ticketModel ∧
      Sample.ticket.Consistent Sample.ticketOptions ∧
      Sample.ticketModel.Indexed ∧
      NameChosen (ModelOption.TableLast Sample.ticketOptions) (some "tickets") "ticket" "passes" ∧
      Sample.ticket.Refused (Sample.ticketOptions.take 3)
        (.invalidModel "Ticket" (.duplicateColumn "id")) ∧
      Sample.ticket.Refused [] (.invalidModel "Ticket" (.duplicateColumn "seat_row")) ∧
      Sample.ticket.Refused [.column "seat" "place"] (.unknownField "seat") ∧
      Sample.farTicket.Refused [] (.invalidModel "Ticket"
        (.misplacedField "id" ⟨.int64, false⟩ 0xFFFFFFFFFFFFFFF8)) := by
  have refused (e : EntityType) (options : List ModelOption) :=
    (consistent_types_have_models e options).2.2.1
  obtain ⟨consistent, model, -, table, -⟩ :=
    consistent_types_have_models Sample.ticket Sample.ticketOptions
  obtain ⟨-, -, -, indexed⟩ := model _ Sample.deriveModel_ticket
  refine ⟨Sample.deriveModel_ticket, consistent.1 ⟨_, Sample.deriveModel_ticket⟩, indexed,
    ?_, (refused _ _ _).1 ?_, (refused _ _ _).1 ?_, (refused _ _ _).1 ?_, (refused _ _ _).1 ?_⟩
  · have snake : Text.snakeCase "Ticket" = "ticket" := by
      decide +kernel
    rw [← snake]
    exact (table _).1 rfl
  all_goals decide +kernel

end EntitySql
