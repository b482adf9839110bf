import EntitySql.Proofs.Records
import EntitySql.Record.Accessor
import Mathlib.Data.List.Find
import Mathlib.Data.List.Pairwise

/-!
# Access by name and by place

The two strategies of accessors come to the same (`strategies_agree`). A name finds the one cell of
its field because no two fields share a name, and an offset finds it because no two fields share a
byte. So one access agrees, whatever it is, and with it any run of accesses.
-/

namespace EntitySql

/-! ### Layouts -/

/-- Stretches of bytes, each given by its start and its length, that do not overlap. -/
def Apart (start length start' length' : Nat) : Prop :=
  start + length ≤ start' ∨ start' + length' ≤ start

/-- What entity types promise: a mapped member shares no byte with another member. -/
structure EntityType.LaidOut (e : EntityType) : Prop where
  fields : e.fields.Pairwise fun f g => Apart f.offset f.type.size g.offset g.type.size
  unmapped : ∀ f ∈ e.fields, ∀ u ∈ e.unmapped, Apart f.offset f.type.size u.offset u.size

theorem FieldType.size_pos (t : FieldType) : 0 < t.size := by
  obtain ⟨kind, nullable⟩ := t
  cases kind <;> cases nullable <;> decide

/-- Mapped members lie apart unless they are the same. -/
theorem EntityType.LaidOut.apart {e : EntityType} (he : e.LaidOut) {f g : Field}
    (hf : f ∈ e.fields) (hg : g ∈ e.fields) (h : f ≠ g) :
    Apart f.offset f.type.size g.offset g.type.size := by
  have symm : Std.Symm fun f g : Field => Apart f.offset f.type.size g.offset g.type.size :=
    ⟨fun _ _ => Or.symm⟩
  exact he.fields.forall hf hg h

/-! ### Making accessors -/

/-- There are accessors over a model just to records of the type that it was derived from. -/
theorem TableModel.DerivedFrom.accessor_eq {m : TableModel} {e : EntityType} (hm : m.DerivedFrom e)
    (s : AccessorStrategy) (e' : EntityType) :
    s.accessor e' m =
      if e' = e then .ok ⟨s, m⟩ else .error (.modelMismatch e.typeName e'.shortName) := by
  unfold AccessorStrategy.accessor TableModel.isFor TableModel.typeName
  rw [hm.entity]
  by_cases h : e' = e
  · rw [if_pos h, h]
    have none_misplaced : m.fields.find? (fun f => !EntitySql.fits f.type f.offset e.size) = none := by
      rw [List.find?_eq_none]
      intro f hf
      simp [hm.fits f hf]
    cases s with
    | reflective => simp
    | direct => simp [none_misplaced]
  · rw [if_neg h]
    simp [Ne.symm h]

/-! ### One access -/

namespace Record.IsOf

variable {r : Record} {m : TableModel} {e : EntityType} {f : FieldModel}

/-- Every field has its cell. -/
theorem exists_cell (hr : r.IsOf e) (hm : m.DerivedFrom e) (hf : f ∈ m.fields) :
    ∃ c ∈ r.cells, c.place = f.place := by
  have place : f.place ∈ r.places := by
    rw [hr.places, ← hm.places]
    exact List.mem_map_of_mem hf
  exact List.mem_map.1 place

/-- Every cell has its field. -/
theorem exists_field (hr : r.IsOf e) (hm : m.DerivedFrom e) {c : Cell} (hc : c ∈ r.cells) :
    ∃ f ∈ m.fields, f.place = c.place := by
  have place : c.place ∈ m.fields.map FieldModel.place := by
    rw [hm.places, ← hr.places]
    exact List.mem_map_of_mem hc
  exact List.mem_map.1 place

theorem names_eq (hr : r.IsOf e) (hm : m.DerivedFrom e) :
    r.places.map (·.name) = m.fields.map (·.field) := by
  rw [hr.places, ← hm.places, List.map_map]
  rfl

theorem names_nodup (hr : r.IsOf e) (hm : m.DerivedFrom e) : (r.places.map (·.name)).Nodup := by
  rw [hr.names_eq hm]
  exact hm.fields_nodup

theorem cell_names_nodup (hr : r.IsOf e) (hm : m.DerivedFrom e) :
    (r.cells.map (·.name)).Nodup := by
  rw [← names_places]
  exact hr.names_nodup hm

/-- The name of a field finds its cell. -/
theorem find?_name (hr : r.IsOf e) (hm : m.DerivedFrom e) (hf : f ∈ m.fields) :
    ∃ c, r.cells.find? (·.name == f.field) = some c ∧ c.place = f.place := by
  obtain ⟨c, hc, place⟩ := hr.exists_cell hm hf
  have name : c.name = f.field := congrArg Place.name place
  exact ⟨c, name ▸ find?_key (hr.cell_names_nodup hm) hc, place⟩

/-- What is read by the name of a field is what its cell holds. -/
theorem get?_field (hr : r.IsOf e) (hm : m.DerivedFrom e) (hf : f ∈ m.fields) :
    ∃ c ∈ r.cells, c.place = f.place ∧ r.get? f.field = some c.value := by
  obtain ⟨c, hc, place⟩ := hr.find?_name hm hf
  refine ⟨c, List.mem_of_find?_eq_some hc, place, ?_⟩
  rw [Record.get?, hc]
  rfl

/-- There is no cell of any other name. -/
theorem get?_eq_none (hr : r.IsOf e) (hm : m.DerivedFrom e) {n : String}
    (h : n ∉ m.fields.map (·.field)) : r.get? n = none := by
  have names : r.cells.map (·.name) = m.fields.map (·.field) := by
    rw [← names_places]
    exact hr.names_eq hm
  rw [Record.get?, find?_name_eq_none (names ▸ h)]
  rfl

/-- The cell of a field lies where the field does. -/
theorem place_of_name (hr : r.IsOf e) (hm : m.DerivedFrom e) (hf : f ∈ m.fields) {c : Cell}
    (hc : c ∈ r.cells) (named : c.name = f.field) : c.place = f.place := by
  obtain ⟨g, hg, place⟩ := hr.exists_field hm hc
  have names : g.field = f.field := (congrArg Place.name place).trans named
  have fields : g = f := List.inj_on_of_nodup_map hm.fields_nodup hg hf names
  rw [← place, fields]

/-- A cell shares no byte with the fields of other names. -/
theorem apart_of_name_ne (hr : r.IsOf e) (hm : m.DerivedFrom e) (he : e.LaidOut)
    (hf : f ∈ m.fields) {c : Cell} (hc : c ∈ r.cells) (hn : c.name ≠ f.field) :
    Apart f.offset f.type.size c.offset c.type.size := by
  have field : f.place ∈ e.fields.map Field.place := hm.places ▸ List.mem_map_of_mem hf
  have cell : c.place ∈ e.fields.map Field.place := hr.places ▸ List.mem_map_of_mem hc
  obtain ⟨g, hg, hgf⟩ := List.mem_map.1 field
  obtain ⟨g', hg', hgc⟩ := List.mem_map.1 cell
  have other : g ≠ g' := by
    intro same
    have places : c.place = f.place := by rw [← hgf, ← hgc, same]
    exact hn (congrArg Place.name places)
  have apart := he.apart hg hg' other
  rw [show g.offset = f.offset from congrArg Place.offset hgf,
    show g.type = f.type from congrArg Place.type hgf,
    show g'.offset = c.offset from congrArg Place.offset hgc,
    show g'.type = c.type from congrArg Place.type hgc] at apart
  exact apart

/-- A cell has the name of a field if it has its offset and type. -/
theorem name_iff_place (hr : r.IsOf e) (hm : m.DerivedFrom e) (he : e.LaidOut) (hf : f ∈ m.fields)
    {c : Cell} (hc : c ∈ r.cells) :
    (c.name == f.field) = (c.offset == f.offset && c.type == f.type) := by
  rw [Bool.eq_iff_iff, Bool.and_eq_true, beq_iff_eq, beq_iff_eq, beq_iff_eq]
  constructor
  · intro named
    have place := hr.place_of_name hm hf hc named
    exact ⟨congrArg Place.offset place, congrArg Place.type place⟩
  · rintro ⟨starts, -⟩
    -- Members that start at one byte share it.
    by_contra hn
    have apart := hr.apart_of_name_ne hm he hf hc hn
    have sizes := And.intro c.type.size_pos f.type.size_pos
    unfold Apart at apart
    omega

/-- Reading by name is reading by place. -/
theorem get?_eq_load? (hr : r.IsOf e) (hm : m.DerivedFrom e) (he : e.LaidOut) (hf : f ∈ m.fields) :
    r.get? f.field = r.load? f.type f.offset := by
  rw [Record.get?, Record.load?]
  exact congrArg _ (List.find?_congr fun c hc => hr.name_iff_place hm he hf hc)

/-- Storing by name is storing by place, where the field takes the value. -/
theorem set_eq_store (hr : r.IsOf e) (hm : m.DerivedFrom e) (he : e.LaidOut) (hf : f ∈ m.fields)
    (v : Value) :
    r.set f.field v =
      match f.type.ofValue v with
      | .error mismatch => .error (.typeMismatch f.field mismatch)
      | .ok content => .ok (r.store f.type f.offset content) := by
  obtain ⟨c, hc, place⟩ := hr.find?_name hm hf
  have same := fun c' hc' => hr.name_iff_place hm he hf (c := c') hc'
  obtain ⟨field, column, type, offset, index⟩ := f
  have type_eq : type = c.type := congrArg Place.type place.symm
  subst type_eq
  simp only [Record.set, hc]
  cases c.type.ofValue v with
  | error mismatch => rfl
  | ok content =>
    have cells := Record.replaceFirst_congr (f := fun c' => ⟨c'.name, c'.offset, c.type, content⟩)
      same fun _ _ => rfl
    exact congrArg (fun cells => Except.ok (Record.mk cells r.unmapped)) cells

/-- Storing by place replaces the cell of the field. -/
theorem cells_store (hr : r.IsOf e) (hm : m.DerivedFrom e) (he : e.LaidOut) (hf : f ∈ m.fields)
    (content : f.type.Content) :
    (r.store f.type f.offset content).cells =
      r.cells.map fun c => if c.name = f.field then ⟨c.name, c.offset, f.type, content⟩ else c := by
  rw [← replaceFirst_name (hr.cell_names_nodup hm)]
  exact (Record.replaceFirst_congr (fun c hc => hr.name_iff_place hm he hf hc) fun _ _ => rfl).symm

/-- A field shares no byte with the members that are not mapped. -/
theorem apart_unmapped (hr : r.IsOf e) (hm : m.DerivedFrom e) (he : e.LaidOut) (hf : f ∈ m.fields)
    {u : Opaque} (hu : u ∈ r.unmapped) :
    Apart f.offset f.type.size u.offset u.bytes.length := by
  have field : f.place ∈ e.fields.map Field.place := hm.places ▸ List.mem_map_of_mem hf
  obtain ⟨g, hg, hgf⟩ := List.mem_map.1 field
  have member := List.mem_map_of_mem (f := fun u => (u.name, u.offset, u.bytes.length)) hu
  rw [hr.unmapped] at member
  obtain ⟨u', hu', hgu⟩ := List.mem_map.1 member
  have apart := he.unmapped g hg u' hu'
  rw [show g.offset = f.offset from congrArg Place.offset hgf,
    show g.type = f.type from congrArg Place.type hgf,
    show u'.offset = u.offset from congrArg (·.2.1) hgu,
    show u'.size = u.bytes.length from congrArg (·.2.2) hgu] at apart
  exact apart

end Record.IsOf

namespace Accessor

variable {r : Record} {m : TableModel} {e : EntityType}

/-- Reading comes to the same by name and by place. -/
theorem get_direct (hr : r.IsOf e) (hm : m.DerivedFrom e) (he : e.LaidOut) (name : String) :
    get ⟨.direct, m⟩ r name = get ⟨.reflective, m⟩ r name := by
  unfold get
  cases hf : m.resolve? name with
  | none => rfl
  | some f => simp only [hr.get?_eq_load? hm he (TableModel.mem_of_resolve? hf)]

/-- So does writing. -/
theorem set_direct (hr : r.IsOf e) (hm : m.DerivedFrom e) (he : e.LaidOut) (name : String)
    (v : Value) : set ⟨.direct, m⟩ r name v = set ⟨.reflective, m⟩ r name v := by
  unfold set
  cases hf : m.resolve? name with
  | none => rfl
  | some f => exact (hr.set_eq_store hm he (TableModel.mem_of_resolve? hf) v).symm

end Accessor

/-! ### Runs of accesses -/

/-- A read or a write of a member, given by field name or column. -/
inductive Access
  | read (name : String)
  | write (name : String) (v : Value)
  deriving DecidableEq, Repr

/-- The name that an access gives. -/
def Access.name : Access → String
  | read name | write name _ => name

namespace Accessor

/-- Makes an access: its result, which is a value where it reads, and the record afterwards. -/
def perform (a : Accessor) (r : Record) : Access → Except Error (Option Value) × Record
  | .read name => ((a.get r name).map some, r)
  | .write name v =>
    match a.set r name v with
    | .ok r' => (.ok none, r')
    | .error err => (.error err, r)

/-- Makes accesses one after the other: their results, and the record at the end. -/
def run (a : Accessor) (r : Record) : List Access → List (Except Error (Option Value)) × Record
  | [] => ([], r)
  | access :: rest =>
    let (result, r') := a.perform r access
    let (results, final) := a.run r' rest
    (result :: results, final)

variable {r : Record} {m : TableModel} {e : EntityType}

theorem perform_direct (hr : r.IsOf e) (hm : m.DerivedFrom e) (he : e.LaidOut) (access : Access) :
    perform ⟨.direct, m⟩ r access = perform ⟨.reflective, m⟩ r access := by
  cases access with
  | read name => rw [perform, get_direct hr hm he, perform]
  | write name v => rw [perform, set_direct hr hm he, perform]

/-- An access by name leaves an instance of the same type, and what is not mapped as it was. -/
theorem perform_keeps (hr : r.IsOf e) (access : Access) :
    (perform ⟨.reflective, m⟩ r access).2.IsOf e ∧
      (perform ⟨.reflective, m⟩ r access).2.unmapped = r.unmapped := by
  cases access with
  | read name => exact ⟨hr, rfl⟩
  | write name v =>
    rw [perform]
    cases hs : set ⟨.reflective, m⟩ r name v with
    | error err => exact ⟨hr, rfl⟩
    | ok r' =>
      unfold set at hs
      split at hs
      · cases hs
      · exact ⟨hr.set hs, Record.unmapped_of_set hs⟩

theorem run_direct (hr : r.IsOf e) (hm : m.DerivedFrom e) (he : e.LaidOut)
    (accesses : List Access) :
    run ⟨.direct, m⟩ r accesses = run ⟨.reflective, m⟩ r accesses := by
  induction accesses generalizing r with
  | nil => rfl
  | cons access rest ih =>
    rw [run, run, perform_direct hr hm he]
    dsimp only
    rw [ih (perform_keeps hr access).1]

theorem run_keeps (hr : r.IsOf e) (accesses : List Access) :
    (run ⟨.reflective, m⟩ r accesses).2.IsOf e ∧
      (run ⟨.reflective, m⟩ r accesses).2.unmapped = r.unmapped := by
  induction accesses generalizing r with
  | nil => exact ⟨hr, rfl⟩
  | cons access rest ih =>
    obtain ⟨instance_, untouched⟩ := perform_keeps (m := m) hr access
    obtain ⟨final, kept⟩ := ih instance_
    exact ⟨final, kept.trans untouched⟩

end Accessor

end EntitySql
