import EntitySql.Proofs.Arguments
import EntitySql.Proofs.Memory
import Mathlib.Data.List.Perm.Basic

/-!
# Partial updates

An update of the fields that are not zero sets some columns to what a record holds in them. When
these columns come back as a row, in whatever order, they fill a fresh record up to the one that was
written (`partial_update_fills`): the fields left out of the update hold in a fresh record what they
held in the one written.
-/

namespace EntitySql

open Sql (commaSeparated)

/-! ### Zeros -/

/-- A zero with a minus sign, which counts as zero and is still another number. -/
def Value.IsNegativeZero (v : Value) : Prop :=
  v = .float32 ⟨0x80000000⟩ ∨ v = .float64 ⟨0x8000000000000000⟩

theorem Binary32.eq_zero_of_isZero {x : Binary32} (h : x.isZero = true) :
    x = ⟨0⟩ ∨ x = ⟨0x80000000⟩ := by
  obtain ⟨bits⟩ := x
  simp only [isZero, exponent, fraction, decide_eq_true_eq, Nat.shiftRight_eq_div_pow] at h
  obtain ⟨exponent, fraction⟩ := h
  have bound := bits.toNat_lt
  have value : bits.toNat = 0 ∨ bits.toNat = 0x80000000 := by
    have fraction' : bits.toNat % 8388608 = 0 := fraction
    omega
  rcases value with value | value
  · exact .inl (congrArg _ (UInt32.toNat_inj.1 value))
  · exact .inr (congrArg _ (UInt32.toNat_inj.1 value))

theorem Binary64.eq_zero_of_isZero {x : Binary64} (h : x.isZero = true) :
    x = ⟨0⟩ ∨ x = ⟨0x8000000000000000⟩ := by
  obtain ⟨bits⟩ := x
  simp only [isZero, exponent, fraction, decide_eq_true_eq, Nat.shiftRight_eq_div_pow] at h
  obtain ⟨exponent, fraction⟩ := h
  have bound := bits.toNat_lt
  have value : bits.toNat = 0 ∨ bits.toNat = 0x8000000000000000 := by
    have fraction' : bits.toNat % 4503599627370496 = 0 := fraction
    omega
  rcases value with value | value
  · exact .inl (congrArg _ (UInt64.toNat_inj.1 value))
  · exact .inr (congrArg _ (UInt64.toNat_inj.1 value))

/-- A scalar that counts as zero is the zero of its kind, or a negative zero. -/
theorem Kind.eq_zero_of_isZero {k : Kind} {x : k.Scalar} (h : (k.toValue x).isZero = true)
    (hn : ¬(k.toValue x).IsNegativeZero) : x = k.zero := by
  cases k with
  | bool => cases x <;> first | rfl | cases h
  | int16 => exact @eq_of_beq Int16 _ _ x 0 h
  | int32 => exact @eq_of_beq Int32 _ _ x 0 h
  | int64 => exact @eq_of_beq Int64 _ _ x 0 h
  | float32 =>
    rcases Binary32.eq_zero_of_isZero h with rfl | rfl
    · rfl
    · exact absurd (.inl rfl) hn
  | float64 =>
    rcases Binary64.eq_zero_of_isZero h with rfl | rfl
    · rfl
    · exact absurd (.inr rfl) hn
  | text => exact String.isEmpty_iff.1 h
  | bytes => exact List.isEmpty_iff.1 h
  | timestamp =>
    obtain ⟨n⟩ := x
    exact congrArg Timestamp.mk (eq_of_beq h)
  | uuid =>
    obtain ⟨bits⟩ := x
    exact congrArg Uuid.mk (eq_of_beq h)

/-- A field that counts as unset holds what a fresh one holds. -/
theorem FieldType.eq_zero_of_isZero {t : FieldType} {content : t.Content}
    (h : t.isZero (t.toValue content) = true)
    (hn : t.nullable = false → ¬(t.toValue content).IsNegativeZero) : content = t.zero := by
  obtain ⟨k, _ | _⟩ := t
  · exact Kind.eq_zero_of_isZero h (hn rfl)
  · cases content with
    | none => rfl
    | some x => cases k <;> cases h

/-! ### What a partial update is written as -/

/-- The update that sets the columns of `r` that are not zero, in all rows. -/
def EntityType.partialUpdate (e : EntityType) (r : Record) : Update :=
  { e.update with value? := some r, assignments := .nonZeroFields }

/-- The columns whose fields hold something other than the zero of their type, in order, with what
these hold. -/
def TableModel.nonZeroColumns (m : TableModel) (r : Record) : List (String × Value) :=
  m.fields.filterMap fun f => do
    let v ← r.get? f.field
    if f.type.isZero v then none else some (f.column, v)

/-- One change of a column to the argument number `k`. -/
def Dialect.changeText (d : Dialect) (column : String) (k : Nat) : List Char :=
  d.quote column ++ (" = ".toList ++ (d.placeholder k).toList)

/-- An update of some columns, each to an argument of its own, without a filter. -/
def Dialect.updateText (d : Dialect) (table : String) (columns : List String) : String :=
  String.ofList ("UPDATE ".toList ++ (d.quote table ++ (" SET ".toList ++
    ([','].intercalate ((columns.zipIdx 1).map fun (column, k) => d.changeText column k) ++ [';']))))

theorem Dialect.write_changes (d : Dialect) (n : Nat) (changes : List (String × Value)) :
    d.write n (commaSeparated (changes.map fun (column, v) =>
        [.name column, .word .assign, .value v])) =
      [','].intercalate (((changes.map (·.1)).zipIdx (n + 1)).map fun (column, k) =>
        d.changeText column k) := by
  induction changes generalizing n with
  | nil => rfl
  | cons change rest ih =>
    obtain ⟨column, v⟩ := change
    cases rest with
    | nil => simp [commaSeparated, write, changeText, Sql.Word.text]
    | cons next rest =>
      have more := ih (n + 1)
      simp only [List.map_cons, List.zipIdx_cons] at more ⊢
      rw [commaSeparated, List.intercalate_cons_cons, ← more]
      · simp [write, changeText, Sql.Word.text]
      · simp

/-- The statement of an update that sets columns to literals and has no filter. -/
theorem Dialect.query_changes (d : Dialect) (table : String) (changes : List (String × Value)) :
    d.query (Sql.Update.lexemes
        ⟨table, changes.map fun (column, v) => (column, .literal v), .all⟩) =
      ⟨d.updateText table (changes.map (·.1)), changes.map (·.2)⟩ := by
  have lexemes : Sql.Update.lexemes
      ⟨table, changes.map fun (column, v) => (column, .literal v), .all⟩ =
      .word .update :: .name table :: .word .set :: commaSeparated (changes.map fun (column, v) =>
        [.name column, .word .assign, .value v]) := by
    simp [Sql.Update.lexemes, Sql.Expr.lexemes, Sql.Filter.lexemes, Function.comp_def]
  have args : Sql.boundValues (commaSeparated (changes.map fun (column, v) =>
      [.name column, .word .assign, .value v])) = changes.map (·.2) := by
    rw [Sql.boundValues_commaSeparated, List.flatMap_map, List.map_eq_flatMap]
    rfl
  have text := d.write_changes 0 changes
  rw [Nat.zero_add] at text
  rw [lexemes]
  unfold query updateText
  refine congrArg₂ Query.mk (congrArg String.ofList ?_) args
  simp only [List.cons_append, write, write_append, text, List.append_nil]
  rfl

/-! ### What a partial update sets -/

section Building

variable {m : TableModel} {e : EntityType} {r : Record} {f : FieldModel}
  (models : EntityType → Except Error TableModel)

/-- What a field holds is read from a record, by either strategy. -/
theorem Accessor.get_field (hm : m.DerivedFrom e) (he : e.LaidOut) (hr : r.IsOf e)
    (s : AccessorStrategy) (hf : f ∈ m.fields) {v : Value} (hv : r.get? f.field = some v) :
    Accessor.get ⟨s, m⟩ r f.field = .ok v := by
  have byName : Accessor.get ⟨.reflective, m⟩ r f.field = .ok v := by
    rw [Accessor.get, hm.resolve?_field hf]
    simp only [hv]
  cases s with
  | reflective => exact byName
  | direct => rw [Accessor.get_direct hr hm he, byName]

/-- A column that takes its value from a record drops out while its field is zero, and else is set
to what the field holds. -/
theorem resolve_fromEntity (hm : m.DerivedFrom e) (he : e.LaidOut) (hr : r.IsOf e)
    (s : AccessorStrategy) (c : Column) (admitted : (c.checkOwn m).answer models = .ok ())
    (resolved : m.resolve? c.name = some f) {v : Value} (hv : r.get? f.field = some v) :
    ((Assignment.fromEntity c).resolve m ⟨s, m⟩ (some r)).answer models =
      .ok (if f.type.isZero v then none else some (f.column, .literal v)) := by
  have value : Accessor.get ⟨s, m⟩ r f.field = .ok v :=
    Accessor.get_field hm he hr s (TableModel.mem_of_resolve? resolved) hv
  simp only [Assignment.resolve, Inquiry.answer_bind_eq_ok]
  exact ⟨(), admitted, r, rfl, f, Inquiry.answer_require_eq_ok.2 resolved, v, value, rfl⟩

/-- The bare columns of all fields come to the columns that are not zero. -/
theorem resolveAssignments_bare (hm : m.DerivedFrom e) (he : e.LaidOut) (hr : r.IsOf e)
    (s : AccessorStrategy) :
    (resolveAssignments m ⟨s, m⟩ (some r)
        (Assignments.nonZeroFields.entries m)).answer models =
      .ok ((m.nonZeroColumns r).map fun (column, v) => (column, .literal v)) := by
  have some_fields : ∀ fields ⊆ m.fields,
      (resolveAssignments m ⟨s, m⟩ (some r)
        (fields.map fun f => .fromEntity (.bare f.field))).answer models =
      .ok ((fields.filterMap fun f => do
          let v ← r.get? f.field
          if f.type.isZero v then none else some (f.column, v)).map
        fun (column, v) => (column, .literal v)) := by
    intro fields
    induction fields with
    | nil => exact fun _ => rfl
    | cons f rest ih =>
      intro hsub
      obtain ⟨hf, hrest⟩ := List.cons_subset.1 hsub
      obtain ⟨c, -, -, value⟩ := hr.get?_field hm hf
      have first := resolve_fromEntity models hm he hr s (.bare f.field) rfl (hm.resolve?_field hf)
        value
      have more := ih hrest
      rw [List.map_cons, resolveAssignments, Inquiry.answer_bind_eq_ok]
      refine ⟨_, first, Inquiry.answer_bind_eq_ok.2 ⟨_, more, ?_⟩⟩
      rw [Inquiry.answer_pure, List.filterMap_cons]
      by_cases zero : f.type.isZero c.value = true
      · simp [value, zero]
      · simp [value, zero]
  exact some_fields m.fields (List.Subset.refl _)

/-- An update of the fields that are not zero sets the columns of these fields. -/
theorem resolve_nonZeroFields (hm : m.DerivedFrom e) (he : e.LaidOut) (hr : r.IsOf e)
    (s : AccessorStrategy) (hmodel : models e = .ok m) (hn : m.nonZeroColumns r ≠ []) :
    ((e.partialUpdate r).resolve s).answer models =
      .ok ⟨m.table, (m.nonZeroColumns r).map fun (column, v) => (column, .literal v), .all⟩ := by
  have accessor : s.accessor e m = .ok ⟨s, m⟩ := by
    rw [hm.accessor_eq, if_pos rfl]
  have assignments := resolveAssignments_bare models hm he hr s
  simp only [Update.resolve, EntityType.partialUpdate, Inquiry.answer_bind_eq_ok]
  refine ⟨m, Inquiry.answer_model_eq_ok.2 hmodel, ⟨s, m⟩, accessor, _, assignments, ?_⟩
  obtain ⟨column, rest, columns⟩ := List.exists_cons_of_ne_nil hn
  rw [columns]
  rfl

theorem mem_nonZeroColumns {x : String × Value} :
    x ∈ m.nonZeroColumns r ↔ ∃ f ∈ m.fields, f.column = x.1 ∧ r.get? f.field = some x.2 ∧
      f.type.isZero x.2 = false := by
  obtain ⟨column, v⟩ := x
  rw [TableModel.nonZeroColumns, List.mem_filterMap]
  refine exists_congr fun f => and_congr_right fun _ => ?_
  cases r.get? f.field with
  | none => simp
  | some w =>
    by_cases zero : f.type.isZero w = true
    · simp only [Option.bind_eq_bind, Option.bind_some, zero, if_true]
      constructor
      · intro absent
        cases absent
      · rintro ⟨-, value, nonZero⟩
        cases value
        cases zero.symm.trans nonZero
    · simp only [Option.bind_eq_bind, Option.bind_some, zero]
      constructor
      · intro pair
        cases pair
        exact ⟨rfl, rfl, Bool.eq_false_iff.2 zero⟩
      · rintro ⟨rfl, value, -⟩
        cases value
        rfl

/-- Some column is set if some field is not zero. -/
theorem nonZeroColumns_ne_nil (hm : m.DerivedFrom e) (hr : r.IsOf e)
    (h : ∃ c ∈ r.cells, c.type.isZero c.value = false) : m.nonZeroColumns r ≠ [] := by
  obtain ⟨c, hc, nonZero⟩ := h
  obtain ⟨f, hf, place⟩ := hr.exists_field hm hc
  have name : c.name = f.field := (congrArg Place.name place).symm
  have type : c.type = f.type := (congrArg Place.type place).symm
  have value : r.get? f.field = some c.value := by
    rw [Record.get?, ← name, find?_key (hr.cell_names_nodup hm) hc]
    rfl
  have member : (f.column, c.value) ∈ m.nonZeroColumns r :=
    mem_nonZeroColumns.2 ⟨f, hf, rfl, value, type ▸ nonZero⟩
  exact List.ne_nil_of_mem member

end Building

/-! ### Filling a row -/

section Filling

variable {m : TableModel} {e : EntityType} {r row : Record} {f : FieldModel}

/-- What one instance of a type holds in a member, another one takes. -/
theorem set_value (hm : m.DerivedFrom e) (hr : r.IsOf e) (hrow : row.IsOf e) (hf : f ∈ m.fields)
    {v : Value} (hv : r.get? f.field = some v) :
    ∃ row', row.set f.field v = .ok row' ∧ row'.IsOf e ∧
      ∀ n, row'.get? n = if n = f.field then some v else row.get? n := by
  obtain ⟨c, hc, place⟩ := hr.find?_name hm hf
  obtain ⟨c', hc', place'⟩ := hrow.find?_name hm hf
  have value : c.value = v := by
    rw [Record.get?, hc] at hv
    exact Option.some.inj hv
  have taken : ∃ content, c'.type.ofValue? v = some content ∧ c'.type.toValue content = v := by
    have type : c.type = c'.type := congrArg Place.type (place.trans place'.symm)
    rw [← type, ← value]
    exact ⟨c.content, c.type.ofValue?_toValue c.content, rfl⟩
  obtain ⟨content, takes, reads⟩ := taken
  cases hs : row.set f.field v with
  | error err =>
    rw [Record.set, hc'] at hs
    simp only [FieldType.ofValue, takes] at hs
    cases hs
  | ok row' =>
    refine ⟨row', rfl, hrow.set hs, fun n => ?_⟩
    obtain ⟨d, content', hd, takes', get⟩ := Record.get?_of_set hs
    rw [hc'] at hd
    cases hd
    rw [takes] at takes'
    cases takes'
    rw [get, reads]

/-- The column of a field reaches it, by either strategy. -/
theorem setColumn_column (hm : m.DerivedFrom e) (he : e.LaidOut) (hrow : row.IsOf e)
    (s : AccessorStrategy) (hf : f ∈ m.fields) (v : Value) :
    Mapping.setColumn ⟨⟨s, m⟩⟩ row f.column v = row.set f.field v := by
  have column : m.column? f.column = some f := hm.column?_column hf
  have byName : Accessor.set ⟨.reflective, m⟩ row f.field v = row.set f.field v := by
    rw [Accessor.set, hm.resolve?_field hf]
  rw [Mapping.setColumn, Mapping.model, column]
  cases s with
  | reflective => exact byName
  | direct => exact (Accessor.set_direct hrow hm he f.field v).trans byName

/-- Columns that hold what `r` holds make a record hold the same in their fields, and leave the
other fields alone. -/
theorem setColumns_of_values (hm : m.DerivedFrom e) (he : e.LaidOut) (hr : r.IsOf e)
    (s : AccessorStrategy) {columns : List (String × Value)}
    (hc : ∀ x ∈ columns, ∃ f ∈ m.fields, f.column = x.1 ∧ r.get? f.field = some x.2)
    (hrow : row.IsOf e) :
    ∃ row', Mapping.setColumns ⟨⟨s, m⟩⟩ row columns = .ok row' ∧ row'.IsOf e ∧
      ∀ f ∈ m.fields, row'.get? f.field =
        if f.column ∈ columns.map (·.1) then r.get? f.field else row.get? f.field := by
  induction columns generalizing row with
  | nil => exact ⟨row, rfl, hrow, fun f _ => by simp⟩
  | cons x rest ih =>
    obtain ⟨g, hg, column, value⟩ := hc x List.mem_cons_self
    obtain ⟨row₁, set, hrow₁, get₁⟩ := set_value hm hr hrow hg value
    obtain ⟨row', fill, hrow', get⟩ := ih (fun y hy => hc y (List.mem_cons_of_mem _ hy)) hrow₁
    refine ⟨row', ?_, hrow', fun f hf => ?_⟩
    · rw [Mapping.setColumns, ← column, setColumn_column hm he hrow s hg, set]
      exact fill
    · have mem : f.column ∈ (x :: rest).map (·.1) ↔
          f.column = g.column ∨ f.column ∈ rest.map (·.1) := by
        rw [List.map_cons, List.mem_cons, column]
      rw [get f hf, get₁]
      by_cases later : f.column ∈ rest.map (·.1)
      · rw [if_pos later, if_pos (mem.2 (.inr later))]
      · rw [if_neg later]
        by_cases here : f.column = g.column
        · obtain rfl : f = g := List.inj_on_of_nodup_map hm.columns_nodup hf hg here
          rw [if_pos rfl, if_pos (mem.2 (.inl rfl)), value]
        · have other : f.field ≠ g.field := by
            intro names
            exact here (congrArg _ (List.inj_on_of_nodup_map hm.fields_nodup hf hg names))
          rw [if_neg other, if_neg (mt mem.1 (not_or.2 ⟨here, later⟩))]

/-- A field that is left out of a partial update holds in a fresh record what it holds in the one
written. -/
theorem get?_of_left_out {fresh : Record} (hm : m.DerivedFrom e) (hr : r.IsOf e)
    (hz : ∀ c ∈ r.cells, c.type.nullable = false → ¬c.value.IsNegativeZero) (hfresh : fresh.IsOf e)
    (hzero : ∀ c ∈ fresh.cells, c.content = c.type.zero) (hf : f ∈ m.fields)
    (h : f.column ∉ (m.nonZeroColumns r).map (·.1)) : fresh.get? f.field = r.get? f.field := by
  obtain ⟨c, hc, place, value⟩ := hr.get?_field hm hf
  obtain ⟨c', hc', place', value'⟩ := hfresh.get?_field hm hf
  have type : c.type = f.type := congrArg Place.type place
  have type' : c'.type = f.type := congrArg Place.type place'
  have isZero : c.type.isZero c.value = true := by
    by_contra nonZero
    have set : (f.column, c.value) ∈ m.nonZeroColumns r :=
      mem_nonZeroColumns.2 ⟨f, hf, rfl, value, type ▸ Bool.eq_false_iff.2 nonZero⟩
    exact h (List.mem_map_of_mem set)
  have zero : c.value = f.type.toValue f.type.zero := by
    rw [Cell.value, FieldType.eq_zero_of_isZero isZero (hz c hc), type]
  have zero' : c'.value = f.type.toValue f.type.zero := by
    rw [Cell.value, hzero c' hc', type']
  rw [value, value', zero, zero']

end Filling

/-- **Partial updates read back.** An update of the fields of a record that are not zero sets their
columns, each to its own argument. Stored in a fresh record in any order, these arguments fill it up
to the record that was written. A negative zero would be left out and come back as a positive one;
in a field that may be null it counts as set. -/
theorem partial_update_fills (db : Database) (store : Store) {e : EntityType}
    {options : List ModelOption} {m : TableModel} (hm : e.deriveModel options = .ok m)
    (he : e.LaidOut) (hs : store.registry.effective e = .ok m) {r : Record} (hr : r.IsOf e)
    (hn : ∃ c ∈ r.cells, c.type.isZero c.value = false)
    (hz : ∀ c ∈ r.cells, c.type.nullable = false → ¬c.value.IsNegativeZero) :
    ((db.buildUpdate (e.partialUpdate r)).exec store).1 =
      .ok ⟨db.dialect.updateText m.table ((m.nonZeroColumns r).map (·.1)),
        (m.nonZeroColumns r).map (·.2)⟩ ∧
    ∀ s : AccessorStrategy, ∃ a, s.accessor e m = .ok a ∧
      ∀ fresh : Record, fresh.IsOf e → (∀ c ∈ fresh.cells, c.content = c.type.zero) →
        ∀ columns : List (String × Value), columns.Perm (m.nonZeroColumns r) →
          ∃ row, Mapping.setColumns ⟨a⟩ fresh columns = .ok row ∧ row.cells = r.cells := by
  have derived := EntityType.derivedFrom hm
  have some_column := nonZeroColumns_ne_nil derived hr hn
  refine ⟨?_, fun s => ⟨⟨s, m⟩, ?_, ?_⟩⟩
  · rw [Database.buildUpdate_result,
      resolve_nonZeroFields _ derived he hr db.config.accessor hs some_column]
    exact congrArg Except.ok (db.dialect.query_changes m.table (m.nonZeroColumns r))
  · rw [derived.accessor_eq, if_pos rfl]
  intro fresh hfresh hzero columns perm
  have values : ∀ x ∈ columns, ∃ f ∈ m.fields, f.column = x.1 ∧ r.get? f.field = some x.2 := by
    intro x hx
    obtain ⟨f, hf, column, value, -⟩ := mem_nonZeroColumns.1 (perm.mem_iff.1 hx)
    exact ⟨f, hf, column, value⟩
  obtain ⟨row, fill, hrow, get⟩ := setColumns_of_values derived he hr s values hfresh
  refine ⟨row, fill, ?_⟩
  have same_places : row.places = r.places := hrow.places.trans hr.places.symm
  have same_values : ∀ f ∈ m.fields, row.get? f.field = r.get? f.field := by
    intro f hf
    rw [get f hf]
    by_cases set : f.column ∈ columns.map (·.1)
    · rw [if_pos set]
    · rw [if_neg set]
      have left_out := mt (perm.map (·.1)).mem_iff.2 set
      exact get?_of_left_out derived hr hz hfresh hzero hf left_out
  refine Record.cells_eq_of_get? same_places (hrow.names_nodup derived) fun n => ?_
  by_cases named : n ∈ m.fields.map (·.field)
  · obtain ⟨f, hf, rfl⟩ := List.mem_map.1 named
    exact same_values f hf
  · rw [hrow.get?_eq_none derived named, hr.get?_eq_none derived named]

namespace Sample

/-- A parcel with something in both fields. -/
def fullParcel : Record where
  cells := [⟨"weight", 0, ⟨.int64, false⟩, (5 : Int64)⟩, ⟨"label", 32, ⟨.text, true⟩, some "left"⟩]
  unmapped := [⟨"stops", 8, List.replicate 24 1⟩]

/-- A store in which parcels are registered. -/
def parcelStore : Store :=
  ⟨⟨[(parcel, parcelModel)]⟩, []⟩

theorem effective_parcel : parcelStore.registry.effective parcel = .ok parcelModel := by
  decide +kernel

end Sample

theorem sample_partial_update :
    Sample.parcel.deriveModel Sample.parcelOptions = .ok Sample.parcelModel ∧
      Sample.parcelStore.registry.effective Sample.parcel = .ok Sample.parcelModel ∧
      Sample.parcel.LaidOut ∧ Sample.fullParcel.IsOf Sample.parcel ∧
      ((Sample.database.buildUpdate (Sample.parcel.partialUpdate Sample.fullParcel)).exec
          Sample.parcelStore).1 =
        .ok ⟨"UPDATE \"parcels\" SET \"label\" = $1,\"note\" = $2;",
          [.int64 5, .text "left"]⟩ ∧
      ∀ s : AccessorStrategy, ∃ a, s.accessor Sample.parcel Sample.parcelModel = .ok a ∧
        ∃ row, Mapping.setColumns ⟨a⟩ Sample.parcel.zero
            [("note", .text "left"), ("label", .int64 5)] = .ok row ∧
          row.cells = Sample.fullParcel.cells := by
  have full : Sample.fullParcel.IsOf Sample.parcel := ⟨by decide +kernel, by decide +kernel⟩
  have nonZero : ∃ c ∈ Sample.fullParcel.cells, c.type.isZero c.value = false :=
    ⟨_, List.mem_cons_self, by decide⟩
  have positive : ∀ c ∈ Sample.fullParcel.cells,
      c.type.nullable = false → ¬c.value.IsNegativeZero := by
    simp [Sample.fullParcel, Value.IsNegativeZero, Cell.value, FieldType.toValue, Kind.toValue]
  obtain ⟨built, fills⟩ := partial_update_fills Sample.database Sample.parcelStore
    Sample.deriveModel_parcel Sample.laidOut_parcel Sample.effective_parcel full nonZero positive
  refine ⟨Sample.deriveModel_parcel, Sample.effective_parcel, Sample.laidOut_parcel, full, ?_, fun s => ?_⟩
  · rw [built]
    decide +kernel
  · obtain ⟨a, accessor, fill⟩ := fills s
    have fresh : ∀ c ∈ Sample.parcel.zero.cells, c.content = c.type.zero := by
      simp [Sample.parcel, EntityType.zero]
    have backwards : [("note", Value.text "left"), ("label", .int64 5)].Perm
        (Sample.parcelModel.nonZeroColumns Sample.fullParcel) := by
      decide +kernel
    exact ⟨a, accessor, fill _ (Record.isOf_zero _) fresh _ backwards⟩

end EntitySql
