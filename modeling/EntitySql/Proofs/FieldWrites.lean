import EntitySql.Proofs.Consistency
import EntitySql.Proofs.Memory
import EntitySql.Proofs.Widening
import EntitySql.Record.Mapping

/-!
# Writing one field

A value is written to a member either through an accessor, where field names go first, or as a
column of a row, where column names do. Both come to storing it in the field that the name stands
for (`Accessor.set_eq`, `Mapping.setColumn_eq`). A field that takes the value holds it afterwards,
nothing else changes, and a field that does not take it stays what it was (`field_writes_exact`).
-/

namespace EntitySql

/-! ### What names stand for -/

/-- The field that has the name in the first place, or in the second place if no field has it in the
first. -/
structure TableModel.StandsFor (m : TableModel) (first second : FieldModel → String) (name : String)
    (f : FieldModel) : Prop where
  mem : f ∈ m.fields
  named : first f = name ∨ second f = name ∧ ∀ g ∈ m.fields, first g ≠ name

namespace TableModel

variable {m : TableModel} {first second : FieldModel → String} {name : String} {f : FieldModel}

/-- Looking a name up in the first place and then in the second finds what it stands for. -/
theorem find?_orElse (hfirst : (m.fields.map first).Nodup) (hsecond : (m.fields.map second).Nodup) :
    ((m.fields.find? (first · == name)) <|> m.fields.find? (second · == name)) = some f ↔
      m.StandsFor first second name f := by
  cases found : m.fields.find? (first · == name) with
  | some g =>
    obtain ⟨mem, named⟩ := (find?_key_eq_some hfirst).1 found
    constructor
    · intro same
      cases same
      exact ⟨mem, .inl named⟩
    · rintro ⟨mem', here | ⟨-, free⟩⟩
      · exact congrArg some (List.inj_on_of_nodup_map hfirst mem mem' (named.trans here.symm))
      · exact absurd named (free g mem)
  | none =>
    have free := find?_key_eq_none.1 found
    constructor
    · intro later
      obtain ⟨mem, named⟩ := (find?_key_eq_some hsecond).1 later
      exact ⟨mem, .inr ⟨named, free⟩⟩
    · rintro ⟨mem, here | ⟨there, -⟩⟩
      · exact absurd here (free f mem)
      · exact (find?_key_eq_some hsecond).2 ⟨mem, there⟩

variable {e : EntityType} (hm : m.DerivedFrom e)
include hm

theorem DerivedFrom.resolve?_eq_some :
    m.resolve? name = some f ↔ m.StandsFor (·.field) (·.column) name f :=
  find?_orElse hm.fields_nodup hm.columns_nodup

theorem DerivedFrom.column?_orElse :
    (m.column? name <|> m.field? name) = some f ↔ m.StandsFor (·.column) (·.field) name f :=
  find?_orElse hm.columns_nodup hm.fields_nodup

end TableModel

/-! ### Storing in the field that is meant -/

section Storing

variable {m : TableModel} {e : EntityType} {r : Record} {f : FieldModel} {v : Value}

/-- There is an accessor of either strategy over a model of the type itself. -/
theorem TableModel.DerivedFrom.accessor_own (hm : m.DerivedFrom e) (s : AccessorStrategy) :
    s.accessor e m = .ok ⟨s, m⟩ :=
  (hm.accessor_eq s e).trans (if_pos rfl)

/-- Either strategy reads by name. -/
theorem Accessor.get_eq (hm : m.DerivedFrom e) (he : e.LaidOut) (hr : r.IsOf e)
    (s : AccessorStrategy) (name : String) :
    Accessor.get ⟨s, m⟩ r name = Accessor.get ⟨.reflective, m⟩ r name := by
  cases s with
  | reflective => rfl
  | direct => exact Accessor.get_direct hr hm he name

/-- Either strategy stores in the field that the name stands for. -/
theorem Accessor.set_eq (hm : m.DerivedFrom e) (he : e.LaidOut) (hr : r.IsOf e)
    (s : AccessorStrategy) (name : String) (v : Value) :
    Accessor.set ⟨s, m⟩ r name v =
      match m.resolve? name with
      | none => .error (.unknownField name)
      | some f => r.set f.field v := by
  cases s with
  | reflective => rfl
  | direct =>
    rw [Accessor.set_direct hr hm he]
    rfl

/-- A column is stored in the field that it stands for, which is the one that the accessor finds by
its field name. -/
theorem Mapping.setColumn_eq (hm : m.DerivedFrom e) (he : e.LaidOut) (hr : r.IsOf e)
    (s : AccessorStrategy) (column : String) (v : Value) :
    Mapping.setColumn ⟨⟨s, m⟩⟩ r column v =
      match m.column? column <|> m.field? column with
      | none => .error (.unknownColumn column)
      | some f => r.set f.field v := by
  unfold Mapping.setColumn Mapping.model
  cases found : (m.column? column <|> m.field? column) with
  | none => rfl
  | some f =>
    have mem : f ∈ m.fields := (hm.column?_orElse.1 found).mem
    show Accessor.set ⟨s, m⟩ r f.field v = r.set f.field v
    rw [Accessor.set_eq hm he hr, hm.resolve?_field mem]

namespace Record.IsOf

/-- A field that takes a value holds it afterwards, and it alone changes. -/
theorem set_of_taken (hr : r.IsOf e) (hm : m.DerivedFrom e) (hf : f ∈ m.fields)
    {content : f.type.Content} (taken : f.type.ofValue? v = some content) :
    ∃ r', r.set f.field v = .ok r' ∧ r'.IsOf e ∧ r'.unmapped = r.unmapped ∧
      ∀ n, r'.get? n = if n = f.field then some (f.type.toValue content) else r.get? n := by
  obtain ⟨c, found, place⟩ := hr.find?_name hm hf
  obtain ⟨field, column, type, offset, index⟩ := f
  obtain ⟨name, offset', type', content'⟩ := c
  cases place
  cases stored : r.set field v with
  | error err =>
    rw [Record.set, found] at stored
    simp only [FieldType.ofValue, taken] at stored
    cases stored
  | ok r' =>
    refine ⟨r', rfl, hr.set stored, Record.unmapped_of_set stored, ?_⟩
    obtain ⟨c, content', found', taken', get⟩ := Record.get?_of_set stored
    cases found.symm.trans found'
    cases taken.symm.trans taken'
    exact get

/-- A field that does not take a value tells so by its name, its type and the type of the value. -/
theorem set_of_refused (hr : r.IsOf e) (hm : m.DerivedFrom e) (hf : f ∈ m.fields)
    (refused : f.type.ofValue? v = none) :
    r.set f.field v = .error (.typeMismatch f.field ⟨f.type, v.typeName⟩) := by
  obtain ⟨c, found, place⟩ := hr.find?_name hm hf
  have type : c.type = f.type := congrArg Place.type place
  rw [Record.set, found]
  simp only [FieldType.ofValue, type ▸ refused, type]

end Record.IsOf

/-- Why `v` is not written to the field that is `meant`. -/
inductive WriteRefused (meant : FieldModel → Prop) (unknown : Error) (v : Value) : Error → Prop
  | unknown (nothing : ∀ f, ¬meant f) : WriteRefused meant unknown v unknown
  | mismatch {f : FieldModel} (here : meant f) (refused : ∀ w, ¬f.type.Takes v w) :
    WriteRefused meant unknown v (.typeMismatch f.field ⟨f.type, v.typeName⟩)

/-- What it comes to to write `v` to the field of `r` that is `meant`, if one is. -/
structure FieldWrite (e : EntityType) (a : Accessor) (r : Record) (meant : FieldModel → Prop)
    (unknown : Error) (v : Value) (result : Except Error Record) : Prop where
  succeeds : (∃ r', result = .ok r') ↔ ∃ f w, meant f ∧ f.type.Takes v w
  stored : ∀ r', result = .ok r' → r'.IsOf e ∧ r'.unmapped = r.unmapped ∧
    ∃ f w, meant f ∧ f.type.Takes v w ∧ ∀ name,
      (a.model.StandsFor (·.field) (·.column) name f → a.get r' name = .ok w) ∧
      (¬a.model.StandsFor (·.field) (·.column) name f → a.get r' name = a.get r name)
  refused : ∀ err, result = .error err ↔ WriteRefused meant unknown v err

namespace FieldWrite

section

variable {meant : FieldModel → Prop} {unknown : Error} {s : AccessorStrategy} {a : Accessor}
  (only : ∀ f g, meant f → meant g → f = g)
include only

theorem of_refused {err : Error} (why : WriteRefused meant unknown v err) :
    FieldWrite e a r meant unknown v (.error err) where
  succeeds := by
    constructor
    · rintro ⟨r', impossible⟩
      cases impossible
    · rintro ⟨f, w, here, takes⟩
      cases why with
      | unknown nothing => exact absurd here (nothing f)
      | mismatch there refused =>
        cases only _ _ here there
        exact absurd takes (refused w)
  stored := by
    intro r' impossible
    cases impossible
  refused := by
    intro err'
    constructor
    · intro same
      cases same
      exact why
    · intro why'
      cases why with
      | unknown nothing =>
        cases why' with
        | unknown => rfl
        | mismatch here => exact absurd here (nothing _)
      | mismatch here =>
        cases why' with
        | unknown nothing => exact absurd here (nothing _)
        | mismatch there =>
          cases only _ _ here there
          rfl

/-- The names that stand for the field read what it holds now, and the other names read other
fields. -/
theorem of_taken (hm : m.DerivedFrom e) (he : e.LaidOut) (hr : r.IsOf e) (here : meant f)
    (hf : f ∈ m.fields) {content : f.type.Content} (taken : f.type.ofValue? v = some content) :
    FieldWrite e ⟨s, m⟩ r meant unknown v (r.set f.field v) := by
  obtain ⟨r', stored, instance_, untouched, get⟩ := hr.set_of_taken hm hf taken
  have takes := FieldType.takes_of_ofValue? taken
  rw [stored]
  refine ⟨⟨fun _ => ⟨f, _, here, takes⟩, fun _ => ⟨r', rfl⟩⟩, ?_, fun err => ⟨?_, ?_⟩⟩
  · intro r'' same
    cases same
    refine ⟨instance_, untouched, f, _, here, takes, fun name => ⟨?_, ?_⟩⟩
    · intro stands
      rw [Accessor.get_eq hm he instance_, Accessor.get, hm.resolve?_eq_some.2 stands]
      simp only [get, if_true]
    · intro other
      rw [Accessor.get_eq hm he instance_, Accessor.get_eq hm he hr, Accessor.get, Accessor.get]
      cases found : m.resolve? name with
      | none => rfl
      | some g =>
        have different : g.field ≠ f.field := by
          intro names
          have mem := TableModel.mem_of_resolve? found
          cases List.inj_on_of_nodup_map hm.fields_nodup mem hf names
          exact other (hm.resolve?_eq_some.1 found)
        simp only [get, if_neg different]
  · intro impossible
    cases impossible
  · intro why
    cases why with
    | unknown nothing => exact absurd here (nothing f)
    | mismatch there refused =>
      cases only _ _ here there
      exact absurd takes (refused _)

end

/-- Whichever place of names goes first, writing comes down to storing in the field that is
found. -/
theorem of_found (hm : m.DerivedFrom e) (he : e.LaidOut) (hr : r.IsOf e) {s : AccessorStrategy}
    {first second : FieldModel → String} {name : String} {unknown : Error}
    {found? : Option FieldModel} {result : Except Error Record}
    (finds : ∀ f, found? = some f ↔ m.StandsFor first second name f)
    (absent : found? = none → result = .error unknown)
    (present : ∀ f, found? = some f → result = r.set f.field v) :
    FieldWrite e ⟨s, m⟩ r (m.StandsFor first second name) unknown v result := by
  have only (f g : FieldModel) (hf : m.StandsFor first second name f)
      (hg : m.StandsFor first second name g) : f = g :=
    Option.some.inj (((finds f).2 hf).symm.trans ((finds g).2 hg))
  cases found? with
  | none =>
    rw [absent rfl]
    refine of_refused only (.unknown fun f here => ?_)
    cases (finds f).2 here
  | some f =>
    have here := (finds f).1 rfl
    rw [present f rfl]
    cases taken : f.type.ofValue? v with
    | some content => exact of_taken only hm he hr here here.mem taken
    | none =>
      rw [hr.set_of_refused hm here.mem taken]
      refine of_refused only (.mismatch here fun w takes => ?_)
      obtain ⟨content, taken'⟩ := FieldType.exists_of_takes takes
      cases taken.symm.trans taken'

end FieldWrite

/-! ### The bytes behind a write -/

/-- A write to memory changes bytes of the field that the name stands for, and none where it
fails. -/
theorem Memory.Step.changed {mem mem' : Memory} {name : String}
    {result : Except Error (Option Value)} (hm : m.DerivedFrom e)
    (h : Memory.Step m mem (.write name v) result mem') :
    (∀ err, result = .error err → mem' = mem) ∧
      ∀ i, mem' i ≠ mem i → ∃ f, m.StandsFor (·.field) (·.column) name f ∧
        f.offset ≤ i ∧ i < f.offset + f.type.size := by
  cases h with
  | unknown | refused => exact ⟨fun _ _ => rfl, fun i changed => absurd rfl changed⟩
  | @written _ _ f content resolved taken =>
    refine ⟨fun err impossible => ?_, fun i changed => ?_⟩
    · cases impossible
    · refine ⟨f, hm.resolve?_eq_some.1 resolved, ?_⟩
      by_contra outside
      exact changed (if_neg outside)

/-- Either strategy does to a record what the direct one does. -/
theorem Accessor.perform_eq (hm : m.DerivedFrom e) (he : e.LaidOut) (hr : r.IsOf e)
    (s : AccessorStrategy) (access : Access) :
    Accessor.perform ⟨s, m⟩ r access = Accessor.perform ⟨.direct, m⟩ r access := by
  cases s with
  | reflective => exact (Accessor.perform_direct hr hm he access).symm
  | direct => rfl

/-- A write that fails leaves the record. -/
theorem Accessor.perform_of_error {a : Accessor} {name : String} {err : Error}
    (h : a.set r name v = .error err) : a.perform r (.write name v) = (.error err, r) := by
  rw [Accessor.perform, h]

end Storing

/-- **Field writes.** Over a model of the type of a record, a value is stored by any accessor if and
only if the name stands for a field that takes the value, where field names go before columns. Then
the names of the field read the value, in the kind of the field, and any other name reads what it
read before. Else the error tells the name that stands for nothing, or the field with its type and
the type of the value. A column of a row is stored in the same way, but that columns go before field
names. In memory a write changes bytes of that field only, and none at all if it fails. -/
theorem field_writes_exact {e : EntityType} {options : List ModelOption} {m : TableModel}
    (hm : e.deriveModel options = .ok m) (he : e.LaidOut) (s : AccessorStrategy) {r : Record}
    (hr : r.IsOf e) :
    ∃ a, s.accessor e m = .ok a ∧ a.model = m ∧ ∀ (name : String) (v : Value),
      FieldWrite e a r (m.StandsFor (·.field) (·.column) name) (.unknownField name) v
          (a.set r name v) ∧
        FieldWrite e a r (m.StandsFor (·.column) (·.field) name) (.unknownColumn name) v
          (Mapping.setColumn ⟨a⟩ r name v) ∧
        (∀ f, m.StandsFor (·.column) (·.field) name f →
          Mapping.setColumn ⟨a⟩ r name v = a.set r f.field v) ∧
        (∀ err, a.set r name v = .error err → (a.perform r (.write name v)).2 = r) ∧
        ∀ mem : Memory, mem.Holds r → ∃ mem' : Memory,
          Memory.Step m mem (.write name v) (a.perform r (.write name v)).1 mem' ∧
          mem'.Holds (a.perform r (.write name v)).2 ∧
          (∀ err, a.set r name v = .error err → mem' = mem) ∧
          ∀ i, mem' i ≠ mem i → ∃ f, m.StandsFor (·.field) (·.column) name f ∧
            f.offset ≤ i ∧ i < f.offset + f.type.size := by
  have derived := EntityType.derivedFrom hm
  refine ⟨⟨s, m⟩, derived.accessor_own s, rfl, fun name v => ?_⟩
  refine ⟨?_, ?_, fun f stands => ?_, fun err failed => ?_, fun mem holds => ?_⟩
  · have set := Accessor.set_eq derived he hr s name v
    refine .of_found derived he hr (fun f => derived.resolve?_eq_some) ?_ ?_
    · intro absent
      rw [set, absent]
    · intro f present
      rw [set, present]
  · have set := Mapping.setColumn_eq derived he hr s name v
    refine .of_found derived he hr (fun f => derived.column?_orElse) ?_ ?_
    · intro absent
      rw [set, absent]
    · intro f present
      rw [set, present]
  · rw [Mapping.setColumn_eq derived he hr, derived.column?_orElse.2 stands,
      Accessor.set_eq derived he hr, derived.resolve?_field stands.mem]
  · rw [Accessor.perform_of_error failed]
  · obtain ⟨mem', step, holds', -⟩ := holds.perform hr derived he (.write name v)
    rw [← Accessor.perform_eq derived he hr s] at step holds'
    obtain ⟨failing, within⟩ := step.changed derived
    refine ⟨mem', step, holds', fun err failed => failing err ?_, within⟩
    rw [Accessor.perform_of_error failed]

namespace Sample

/-- The weight of a parcel, whose column has the name of the other field. -/
def weight : FieldModel :=
  ⟨"weight", "label", ⟨.int64, false⟩, 0, 0⟩

/-- The label of a parcel. -/
def label : FieldModel :=
  ⟨"label", "note", ⟨.text, true⟩, 32, 1⟩

theorem standsFor_weight : parcelModel.StandsFor (·.field) (·.column) "weight" weight :=
  ⟨List.mem_cons_self, .inl rfl⟩

theorem standsFor_label : parcelModel.StandsFor (·.field) (·.column) "label" label :=
  ⟨List.mem_cons_of_mem _ List.mem_cons_self, .inl rfl⟩

/-- As a column the name of one field stands for the other. -/
theorem standsFor_labelColumn : parcelModel.StandsFor (·.column) (·.field) "label" weight :=
  ⟨List.mem_cons_self, .inl rfl⟩

theorem takes_weight : weight.type.Takes (.int32 7) (.int64 7) :=
  .scalar (.int32ToInt64 (by decide))

/-- The number that is written is the one that the weight has then. -/
theorem eq_of_takes_weight {w : Value} (h : weight.type.Takes (.int32 7) w) : w = .int64 7 := by
  cases h with
  | scalar widened =>
    cases widened with
    | same own => cases own
    | int32ToInt64 number => exact congrArg _ (Int64.toInt_inj.1 number)

end Sample

theorem sample_field_writes :
    Sample.parcel.deriveModel Sample.parcelOptions = .ok Sample.parcelModel ∧
      Sample.parcel.LaidOut ∧ Sample.parcel.zero.IsOf Sample.parcel ∧
      ∀ s : AccessorStrategy, ∃ a, s.accessor Sample.parcel Sample.parcelModel = .ok a ∧
        a.set Sample.parcel.zero "label" (.int32 7) =
          .error (.typeMismatch "label" ⟨⟨.text, true⟩, "i32"⟩) ∧
        a.set Sample.parcel.zero "stops" .null = .error (.unknownField "stops") ∧
        (∃ r', Mapping.setColumn ⟨a⟩ Sample.parcel.zero "label" (.int32 7) = .ok r' ∧
          a.get r' "weight" = .ok (.int64 7) ∧
          a.get r' "label" = a.get Sample.parcel.zero "label") ∧
        ∃ mem' : Memory,
          mem'.Holds (a.perform Sample.parcel.zero (.write "weight" (.int32 7))).2 ∧
          ∀ i, 8 ≤ i → mem' i = Sample.parcelMemory i := by
  refine ⟨Sample.deriveModel_parcel, Sample.laidOut_parcel, Record.isOf_zero _, fun s => ?_⟩
  obtain ⟨a, accessor, model, writes⟩ := field_writes_exact Sample.deriveModel_parcel
    Sample.laidOut_parcel s (Record.isOf_zero Sample.parcel)
  have derived := EntityType.derivedFrom Sample.deriveModel_parcel
  have meant {name : String} {f : FieldModel}
      (stands : Sample.parcelModel.StandsFor (·.field) (·.column) name f) :
      Sample.parcelModel.resolve? name = some f :=
    derived.resolve?_eq_some.2 stands
  refine ⟨a, accessor, ?_, ?_, ?_, ?_⟩
  · refine ((writes _ _).1.refused _).2 (.mismatch Sample.standsFor_label fun w takes => ?_)
    obtain ⟨content, impossible⟩ := FieldType.exists_of_takes takes
    cases impossible
  · refine ((writes _ _).1.refused _).2 (.unknown fun f stands => ?_)
    cases meant stands
  · obtain ⟨-, column, -⟩ := writes "label" (.int32 7)
    obtain ⟨r', stored⟩ := column.succeeds.2
      ⟨_, _, Sample.standsFor_labelColumn, Sample.takes_weight⟩
    obtain ⟨-, -, f, w, stands, takes, reads⟩ := column.stored r' stored
    cases derived.column?_orElse.2 stands
    cases Sample.eq_of_takes_weight takes
    rw [model] at reads
    refine ⟨r', stored, (reads "weight").1 Sample.standsFor_weight, (reads "label").2 ?_⟩
    intro other
    exact absurd (meant other) (by decide)
  · obtain ⟨-, -, -, -, bytes⟩ := writes "weight" (.int32 7)
    obtain ⟨mem', -, holds, -, within⟩ := bytes _ Sample.holds_parcelMemory
    refine ⟨mem', holds, fun i behind => ?_⟩
    by_contra changed
    obtain ⟨f, stands, -, inside⟩ := within i changed
    cases meant stands
    exact absurd inside (not_lt.2 behind)

end EntitySql
