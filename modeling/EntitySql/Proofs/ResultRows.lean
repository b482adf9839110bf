import EntitySql.Postgres.Server
import EntitySql.Proofs.FieldWrites
import EntitySql.Proofs.PartialUpdate

/-!
# Result rows as records

A row of a result fills a record cell by cell. A cell fits if its column is one of the model, it can
be read as the kind of the field, and it is not null in a field without null; then it changes that
field and nothing else (`Server.fill_cons_of_fits`). The first cell that does not fit is the end of
its row, and its row the end of the result (`result_rows_fill_records`).
-/

namespace EntitySql

/-! ### Going through lists -/

section Lists

variable {α β ε : Type}

/-- All of a list is as wanted, or there is a first entry that is not; what is wrong with it may
have to do with its place. -/
theorem forall_or_first {P : α → Prop} {Q : Nat → α → Prop} (decided : ∀ n a, P a ∨ Q n a)
    (l : List α) : (∀ a ∈ l, P a) ∨
      ∃ before a after, l = before ++ a :: after ∧ (∀ b ∈ before, P b) ∧ Q before.length a := by
  induction l generalizing Q with
  | nil => exact .inl fun a ha => absurd ha List.not_mem_nil
  | cons a rest ih =>
    rcases decided 0 a with here | bad
    · rcases ih fun n => decided (n + 1) with all | ⟨before, b, after, rfl, front, bad⟩
      · exact .inl (List.forall_mem_cons.2 ⟨here, all⟩)
      · exact .inr ⟨a :: before, b, after, rfl, List.forall_mem_cons.2 ⟨here, front⟩, bad⟩
    · exact .inr ⟨[], a, rest, rfl, fun b hb => absurd hb List.not_mem_nil, bad⟩

variable {f : α → Except ε β}

/-- Where every step succeeds, so do all, with the results of the steps in order. -/
theorem mapM_of_forall {R : α → β → Prop} {l : List α} (h : ∀ a ∈ l, ∃ b, f a = .ok b ∧ R a b) :
    ∃ bs, l.mapM f = .ok bs ∧ List.Forall₂ R l bs := by
  induction l with
  | nil => exact ⟨[], rfl, .nil⟩
  | cons a rest ih =>
    obtain ⟨⟨b, first, related⟩, later⟩ := List.forall_mem_cons.1 h
    obtain ⟨bs, more, all⟩ := ih later
    refine ⟨b :: bs, ?_, .cons related all⟩
    rw [List.mapM_cons, first, more]
    rfl

/-- The first step that fails is the end. -/
theorem mapM_of_first {before after : List α} {a : α} {err : ε}
    (front : ∀ b ∈ before, ∃ c, f b = .ok c) (failed : f a = .error err) :
    (before ++ a :: after).mapM f = .error err := by
  induction before with
  | nil =>
    rw [List.nil_append, List.mapM_cons, failed]
    rfl
  | cons b rest ih =>
    obtain ⟨⟨c, first⟩, later⟩ := List.forall_mem_cons.1 front
    rw [List.cons_append, List.mapM_cons, first, ih later]
    rfl

end Lists

namespace Postgres

/-- The bytes of a cell; a null has none. -/
abbrev CellBytes : Type :=
  Option (List UInt8)

/-- A cell of a result under the name and the type of its column. -/
abbrev ResultCell : Type :=
  (String × WireType) × CellBytes

/-! ### One cell -/

/-- The cell belongs to the field `f` and is read as the value `v`. -/
structure ResultCell.Reads (m : TableModel) (x : ResultCell) (f : FieldModel) (v : Value) :
    Prop where
  mem : f ∈ m.fields
  column : f.column = x.1.1
  decoded : decodeAs? f.type.kind x.1.2 x.2 = some v

/-- The cell belongs to a field that takes what is read. -/
def ResultCell.Fits (m : TableModel) (x : ResultCell) : Prop :=
  ∃ f v, x.Reads m f v ∧ (v = .null → f.type.nullable = true)

/-- What stands in the way of cell number `index`. -/
inductive ResultCell.Refused (m : TableModel) (index : Nat) (x : ResultCell) : Error → Prop
  | unknownColumn (unknown : ∀ f ∈ m.fields, f.column ≠ x.1.1) :
    Refused m index x (.unknownColumn x.1.1)
  | decode {f : FieldModel} (mem : f ∈ m.fields) (column : f.column = x.1.1)
      (undecoded : decodeAs? f.type.kind x.1.2 x.2 = none) :
    Refused m index x (.decode x.1.1 (.cell index))
  | null {f : FieldModel} (reads : x.Reads m f .null) (required : f.type.nullable = false) :
    Refused m index x (.typeMismatch f.field ⟨f.type, "null"⟩)

/-- A field holds the value of the last cell of its column, or `old` where no cell is of its
column. -/
def Filled (cells : List ResultCell) (f : FieldModel) (old v : Value) : Prop :=
  (∃ before x after, cells = before ++ x :: after ∧ f.column = x.1.1 ∧
      decodeAs? f.type.kind x.1.2 x.2 = some v ∧ ∀ y ∈ after, f.column ≠ y.1.1) ∨
    (∀ x ∈ cells, f.column ≠ x.1.1) ∧ v = old

section Filled

variable {x : ResultCell} {rest : List ResultCell} {f : FieldModel} {old v w : Value}

theorem filled_nil : Filled [] f old v ↔ v = old := by
  constructor
  · rintro (⟨before, x, after, impossible, -⟩ | ⟨-, same⟩)
    · cases before <;> cases impossible
    · exact same
  · rintro rfl
    exact .inr ⟨fun x hx => absurd hx List.not_mem_nil, rfl⟩

/-- What a cell of the column holds counts unless a later one does. -/
theorem filled_cons_of_eq (here : f.column = x.1.1)
    (decoded : decodeAs? f.type.kind x.1.2 x.2 = some w) :
    Filled (x :: rest) f old v ↔ Filled rest f w v := by
  constructor
  · rintro (⟨_ | ⟨y, before⟩, z, after, cells, column, decoded', last⟩ | ⟨absent, -⟩)
    · cases cells
      cases decoded.symm.trans decoded'
      exact .inr ⟨last, rfl⟩
    · cases cells
      exact .inl ⟨before, z, after, rfl, column, decoded', last⟩
    · exact absurd here (absent x List.mem_cons_self)
  · rintro (⟨before, z, after, rfl, column, decoded', last⟩ | ⟨last, rfl⟩)
    · exact .inl ⟨x :: before, z, after, rfl, column, decoded', last⟩
    · exact .inl ⟨[], x, rest, rfl, here, decoded, last⟩

theorem filled_cons_of_ne (other : f.column ≠ x.1.1) :
    Filled (x :: rest) f old v ↔ Filled rest f old v := by
  constructor
  · rintro (⟨_ | ⟨y, before⟩, z, after, cells, column, decoded, last⟩ | ⟨absent, same⟩)
    · cases cells
      exact absurd column other
    · cases cells
      exact .inl ⟨before, z, after, rfl, column, decoded, last⟩
    · exact .inr ⟨(List.forall_mem_cons.1 absent).2, same⟩
  · rintro (⟨before, z, after, rfl, column, decoded, last⟩ | ⟨absent, same⟩)
    · exact .inl ⟨x :: before, z, after, rfl, column, decoded, last⟩
    · exact .inr ⟨List.forall_mem_cons.2 ⟨other, absent⟩, same⟩

end Filled

theorem kind_of_decodeScalar? {kind : Kind} {bytes : List UInt8} {v : Value}
    (h : decodeScalar? kind bytes = some v) : v.kind? = some kind := by
  unfold decodeScalar? at h
  dsimp only at h
  split at h
  case h_7 | h_9 =>
    obtain ⟨scalar, -, rfl⟩ := Option.map_eq_some_iff.1 h
    rfl
  case h_11 => cases h
  all_goals
    cases h
    rfl

/-- A cell is read as a scalar of the kind that is asked for, or as null. -/
theorem kind_of_decodeAs? {kind : Kind} {type : WireType} {cell : CellBytes} {v : Value}
    (h : decodeAs? kind type cell = some v) : v = .null ∨ v.kind? = some kind := by
  unfold decodeAs? at h
  split at h
  · cases h
  · cases cell with
    | none =>
      cases h
      exact .inl rfl
    | some bytes => exact .inr (kind_of_decodeScalar? h)

/-- What a field of some kind takes a scalar of that kind for is the scalar itself. -/
theorem eq_of_takes_own {t : FieldType} {v w : Value} (own : v = .null ∨ v.kind? = some t.kind)
    (takes : t.Takes v w) : w = v := by
  cases takes with
  | null => rfl
  | scalar widened =>
    obtain ⟨kind, nullable⟩ := t
    cases widened with
    | same => rfl
    | int16ToInt32 | int16ToInt64 | int32ToInt64 | float32ToFloat64 =>
      rcases own with null | other
      · cases null
      · cases other

theorem takes_own {t : FieldType} {v : Value} (own : v = .null ∨ v.kind? = some t.kind)
    (nullable : v = .null → t.nullable = true) : t.Takes v v := by
  rcases own with rfl | own
  · exact .null (nullable rfl)
  · exact .scalar (.same own)

section Filling

variable {m : TableModel} {e : EntityType} {r : Record} {x : ResultCell} {index : Nat}

theorem ResultCell.fits_or_refused (m : TableModel) (index : Nat) (x : ResultCell) :
    x.Fits m ∨ ∃ err, x.Refused m index err := by
  by_cases known : ∃ f ∈ m.fields, f.column = x.1.1
  · obtain ⟨f, mem, column⟩ := known
    cases decoded : decodeAs? f.type.kind x.1.2 x.2 with
    | none => exact .inr ⟨_, .decode mem column decoded⟩
    | some v =>
      have reads : x.Reads m f v := ⟨mem, column, decoded⟩
      by_cases nullable : v = .null → f.type.nullable = true
      · exact .inl ⟨f, v, reads, nullable⟩
      · obtain ⟨rfl, required⟩ := Classical.not_imp.1 nullable
        exact .inr ⟨_, .null reads (Bool.eq_false_iff.2 required)⟩
  · refine .inr ⟨_, .unknownColumn fun f mem column => known ⟨f, mem, column⟩⟩

namespace Server

variable (hm : m.DerivedFrom e) (he : e.LaidOut) (hr : r.IsOf e) (s : AccessorStrategy)
include hm

/-- A cell whose field takes a value is stored there, or else is the end of its row. -/
theorem fill_cons {f : FieldModel} {v : Value} (reads : x.Reads m f v)
    (rest : List ResultCell) :
    fill ⟨⟨s, m⟩⟩ r index (x :: rest) = (do
      fill ⟨⟨s, m⟩⟩ (← Mapping.setColumn ⟨⟨s, m⟩⟩ r x.1.1 v) (index + 1) rest) := by
  obtain ⟨⟨name, type⟩, cell⟩ := x
  obtain ⟨mem, rfl, decoded⟩ := reads
  rw [fill, Mapping.model, hm.column?_column mem]
  dsimp only
  rw [decoded]

include he hr

/-- A cell that fits is what its field holds then, and the other fields hold what they held. -/
theorem fill_cons_of_fits (fits : x.Fits m) (rest : List ResultCell) :
    ∃ f v r', x.Reads m f v ∧
      fill ⟨⟨s, m⟩⟩ r index (x :: rest) = fill ⟨⟨s, m⟩⟩ r' (index + 1) rest ∧
      r'.IsOf e ∧ ∀ n, r'.get? n = if n = f.field then some v else r.get? n := by
  obtain ⟨f, v, reads, nullable⟩ := fits
  have own := kind_of_decodeAs? reads.decoded
  obtain ⟨content, taken⟩ := FieldType.exists_of_takes (takes_own own nullable)
  obtain ⟨r', stored, instance_, -, get⟩ := hr.set_of_taken hm reads.mem taken
  rw [eq_of_takes_own own (FieldType.takes_of_ofValue? taken)] at get
  refine ⟨f, v, r', reads, ?_, instance_, get⟩
  rw [fill_cons hm s reads, ← reads.column, setColumn_column hm he hr s reads.mem, stored]
  rfl

theorem fill_cons_of_refused {err : Error} (refused : x.Refused m index err)
    (rest : List ResultCell) : fill ⟨⟨s, m⟩⟩ r index (x :: rest) = .error err := by
  cases refused with
  | unknownColumn unknown =>
    have absent : m.column? x.1.1 = none := find?_key_eq_none.2 unknown
    rw [fill, Mapping.model, absent]
  | @decode f mem column undecoded =>
    rw [fill, Mapping.model, ← column, hm.column?_column mem]
    dsimp only
    rw [undecoded]
  | @null f reads required =>
    have refused : f.type.ofValue? .null = none := by
      obtain ⟨field, column, ⟨kind, nullable⟩, offset, number⟩ := f
      cases required
      cases kind <;> rfl
    rw [fill_cons hm s reads, ← reads.column, setColumn_column hm he hr s reads.mem,
      hr.set_of_refused hm reads.mem refused]
    rfl

/-! ### One row -/

/-- Cells that fit fill the record. By induction from the front, where what a field holds after the
first cell is what it holds on before the other ones. -/
theorem fill_of_fits {cells : List ResultCell} (fits : ∀ x ∈ cells, x.Fits m) :
    ∃ r', fill ⟨⟨s, m⟩⟩ r index cells = .ok r' ∧ r'.IsOf e ∧
      ∀ f ∈ m.fields, ∀ old, r.get? f.field = some old →
        ∃ v, r'.get? f.field = some v ∧ Filled cells f old v := by
  induction cells generalizing r index with
  | nil => exact ⟨r, rfl, hr, fun f mem old held => ⟨old, held, filled_nil.2 rfl⟩⟩
  | cons x rest ih =>
    obtain ⟨first, later⟩ := List.forall_mem_cons.1 fits
    obtain ⟨g, w, r₁, reads, step, instance_, get⟩ := fill_cons_of_fits hm he hr s first rest
    obtain ⟨r', run, instance', filled⟩ := ih instance_ later
    refine ⟨r', step.trans run, instance', fun f mem old held => ?_⟩
    by_cases here : f.column = x.1.1
    · have same : f = g :=
        List.inj_on_of_nodup_map hm.columns_nodup mem reads.mem (here.trans reads.column.symm)
      subst same
      obtain ⟨v, holds, filled⟩ := filled f mem w (by rw [get, if_pos rfl])
      exact ⟨v, holds, (filled_cons_of_eq here reads.decoded).2 filled⟩
    · have other : f.field ≠ g.field := by
        intro names
        have same := List.inj_on_of_nodup_map hm.fields_nodup mem reads.mem names
        exact here (same ▸ reads.column)
      obtain ⟨v, holds, filled⟩ := filled f mem old (by rw [get, if_neg other, held])
      exact ⟨v, holds, (filled_cons_of_ne here).2 filled⟩

/-- The first cell that does not fit is the end of its row. -/
theorem fill_of_refused {before after : List ResultCell} {err : Error}
    (front : ∀ y ∈ before, y.Fits m) (refused : x.Refused m (index + before.length) err) :
    fill ⟨⟨s, m⟩⟩ r index (before ++ x :: after) = .error err := by
  induction before generalizing r index with
  | nil => exact fill_cons_of_refused hm he hr s refused after
  | cons y rest ih =>
    obtain ⟨first, later⟩ := List.forall_mem_cons.1 front
    obtain ⟨g, w, r₁, -, step, instance_, -⟩ := fill_cons_of_fits hm he hr s first
      (rest ++ x :: after)
    rw [List.cons_append, step]
    refine ih instance_ later ?_
    rw [List.length_cons] at refused
    rwa [Nat.add_assoc, Nat.add_comm 1]

end Server

end Filling

/-! ### Rows -/

namespace Server

/-- The statement can be sent, and what comes back has a cell for every column in each row. -/
structure Delivers (s : Server) (q : Query) : Prop where
  sent : ∃ parameters, s.send q = .ok parameters
  whole : ∀ row ∈ s.rows, row.length = s.columns.length

def RowFits (s : Server) (m : TableModel) (row : List CellBytes) : Prop :=
  ∀ x ∈ s.columns.zip row, ResultCell.Fits m x

/-- What stands in the way of the first cell of a row that does not fit. -/
def RowRefused (s : Server) (m : TableModel) (row : List CellBytes) (err : Error) : Prop :=
  ∃ before x after, s.columns.zip row = before ++ x :: after ∧
    (∀ y ∈ before, ResultCell.Fits m y) ∧ ResultCell.Refused m before.length x err

/-- The record has in each field the last value of its column, or else the zero of its type. -/
structure Materializes (s : Server) (a : Accessor) (row : List CellBytes) (record : Record) :
    Prop where
  isOf : record.IsOf a.model.entity
  fields : ∀ f ∈ a.model.fields, ∃ v, a.get record f.field = .ok v ∧
    Filled (s.columns.zip row) f (f.type.toValue f.type.zero) v

theorem rowFits_or_refused (s : Server) (m : TableModel) (row : List CellBytes) :
    s.RowFits m row ∨ ∃ err, s.RowRefused m row err := by
  rcases forall_or_first (ResultCell.fits_or_refused m) (s.columns.zip row) with
    fits | ⟨before, x, after, cells, front, err, refused⟩
  · exact .inl fits
  · exact .inr ⟨err, before, x, after, cells, front, refused⟩

variable {m : TableModel} {e : EntityType} (hm : m.DerivedFrom e) (he : e.LaidOut)
  (strategy : AccessorStrategy) {s : Server} {row : List CellBytes} {q : Query}
include hm he

omit he in
/-- A fresh record has zeros. -/
theorem get?_zero {f : FieldModel} (hf : f ∈ m.fields) :
    e.zero.get? f.field = some (f.type.toValue f.type.zero) := by
  obtain ⟨c, hc, place, value⟩ := (Record.isOf_zero e).get?_field hm hf
  obtain ⟨g, -, rfl⟩ := List.mem_map.1 hc
  have type : g.type = f.type := congrArg Place.type place
  rw [value, Cell.value, type]

theorem recordOf_of_fits (fits : s.RowFits m row) :
    ∃ record, s.recordOf ⟨⟨strategy, m⟩⟩ row = .ok record ∧
      s.Materializes ⟨strategy, m⟩ row record := by
  have fresh := Record.isOf_zero e
  obtain ⟨record, run, instance_, filled⟩ := fill_of_fits hm he fresh strategy fits
  refine ⟨record, ?_, ⟨hm.entity ▸ instance_, fun f mem => ?_⟩⟩
  · rw [recordOf, Mapping.newRow, Mapping.model, hm.entity]
    exact run
  · obtain ⟨v, holds, last⟩ := filled f mem _ (get?_zero hm mem)
    exact ⟨v, Accessor.get_field hm he instance_ strategy mem holds, last⟩

theorem recordOf_of_refused {err : Error} (refused : s.RowRefused m row err) :
    s.recordOf ⟨⟨strategy, m⟩⟩ row = .error err := by
  obtain ⟨before, x, after, cells, front, refused⟩ := refused
  rw [recordOf, Mapping.newRow, Mapping.model, hm.entity, cells]
  rw [← Nat.zero_add before.length] at refused
  exact fill_of_refused hm he (Record.isOf_zero e) strategy front refused

omit hm he

theorem receive_eq : s.receive =
    if ∀ row ∈ s.rows, row.length = s.columns.length then .ok s.rows else .error .unreadable := by
  rw [receive]
  simp only [List.all_eq_true, beq_iff_eq]

theorem query_of_delivers (delivers : s.Delivers q) (mapping : Mapping) :
    s.executor.query q mapping = s.rows.mapM (s.recordOf mapping) := by
  obtain ⟨parameters, sent⟩ := delivers.sent
  have received : s.receive = .ok s.rows := receive_eq.trans (if_pos delivers.whole)
  show (do
    let _ ← answer (s.send q)
    let rows ← answer s.receive
    rows.mapM (s.recordOf mapping)) = _
  rw [sent, received]
  rfl

theorem query_of_not_delivers (failed : ¬s.Delivers q) (mapping : Mapping) :
    ∃ fault, s.executor.query q mapping = .error (.query fault) := by
  show ∃ fault, (do
    let _ ← answer (s.send q)
    let rows ← answer s.receive
    rows.mapM (s.recordOf mapping)) = .error (.query fault)
  cases sent : s.send q with
  | error fault => exact ⟨fault, rfl⟩
  | ok parameters =>
    have broken : ¬∀ row ∈ s.rows, row.length = s.columns.length := fun whole =>
      failed ⟨⟨_, sent⟩, whole⟩
    rw [receive_eq, if_neg broken]
    exact ⟨.unreadable, rfl⟩

theorem rowsFit_or_refused (s : Server) (m : TableModel) : (∀ row ∈ s.rows, s.RowFits m row) ∨
    ∃ before row after err, s.rows = before ++ row :: after ∧
      (∀ row' ∈ before, s.RowFits m row') ∧ s.RowRefused m row err := by
  rcases forall_or_first (fun _ => s.rowFits_or_refused m) s.rows with
    fits | ⟨before, row, after, rows, front, err, refused⟩
  · exact .inl fits
  · exact .inr ⟨before, row, after, err, rows, front, refused⟩

include hm he

theorem query_of_fits (delivers : s.Delivers q) (fits : ∀ row ∈ s.rows, s.RowFits m row) :
    ∃ records, s.executor.query q ⟨⟨strategy, m⟩⟩ = .ok records ∧
      List.Forall₂ (s.Materializes ⟨strategy, m⟩) s.rows records := by
  rw [query_of_delivers delivers]
  exact mapM_of_forall fun row hrow => recordOf_of_fits hm he strategy (fits row hrow)

theorem query_of_refused (delivers : s.Delivers q) {before after : List (List CellBytes)}
    {err : Error} (rows : s.rows = before ++ row :: after)
    (front : ∀ row' ∈ before, s.RowFits m row') (refused : s.RowRefused m row err) :
    s.executor.query q ⟨⟨strategy, m⟩⟩ = .error err := by
  rw [query_of_delivers delivers, rows]
  refine mapM_of_first (fun row' hrow => ?_) (recordOf_of_refused hm he strategy refused)
  obtain ⟨record, filled, -⟩ := recordOf_of_fits hm he strategy (front row' hrow)
  exact ⟨record, filled⟩

/-- Only rows that fit have records. -/
theorem fits_of_query {records : List Record}
    (succeeded : s.executor.query q ⟨⟨strategy, m⟩⟩ = .ok records) :
    s.Delivers q ∧ ∀ row ∈ s.rows, s.RowFits m row := by
  have delivers : s.Delivers q := by
    by_contra failed
    obtain ⟨fault, broken⟩ := query_of_not_delivers failed ⟨⟨strategy, m⟩⟩
    cases succeeded.symm.trans broken
  rcases s.rowsFit_or_refused m with fits | ⟨before, row, after, err, rows, front, refused⟩
  · exact ⟨delivers, fits⟩
  · have failed := query_of_refused hm he strategy delivers rows front refused
    cases succeeded.symm.trans failed

end Server

/-- **Result rows fill records.** A statement whose answer arrives has records if and only if every
cell of every row belongs to a column of the model, can be read as the kind of the field, and is not
null unless the field may be. There is a record for each row, in order, and its fields hold the last
value of their columns, or their zeros where the result has no such column. Otherwise the first such
cell of the first such row tells what stood in the way. -/
theorem result_rows_fill_records {e : EntityType} {options : List ModelOption} {m : TableModel}
    (hm : e.deriveModel options = .ok m) (he : e.LaidOut) (strategy : AccessorStrategy) (s : Server)
    (q : Query) :
    ∃ a, strategy.accessor e m = .ok a ∧ a.model = m ∧
      ((∃ records, s.executor.query q ⟨a⟩ = .ok records) ↔
        s.Delivers q ∧ ∀ row ∈ s.rows, s.RowFits m row) ∧
      (∀ records, s.executor.query q ⟨a⟩ = .ok records →
        List.Forall₂ (s.Materializes a) s.rows records) ∧
      (s.Delivers q → ∀ err, s.executor.query q ⟨a⟩ = .error err ↔
        ∃ before row after, s.rows = before ++ row :: after ∧
          (∀ row' ∈ before, s.RowFits m row') ∧ s.RowRefused m row err) ∧
      (¬s.Delivers q → ∃ fault, s.executor.query q ⟨a⟩ = .error (.query fault)) := by
  have derived := EntityType.derivedFrom hm
  refine ⟨⟨strategy, m⟩, derived.accessor_own strategy, rfl, ⟨?_, ?_⟩, ?_,
    fun delivers err => ⟨?_, ?_⟩, ?_⟩
  · rintro ⟨records, succeeded⟩
    exact Server.fits_of_query derived he strategy succeeded
  · rintro ⟨delivers, fits⟩
    obtain ⟨records, succeeded, -⟩ := Server.query_of_fits derived he strategy delivers fits
    exact ⟨records, succeeded⟩
  · intro records succeeded
    obtain ⟨delivers, fits⟩ := Server.fits_of_query derived he strategy succeeded
    obtain ⟨records', same, filled⟩ := Server.query_of_fits derived he strategy delivers fits
    cases succeeded.symm.trans same
    exact filled
  · intro failed
    rcases s.rowsFit_or_refused m with fits | ⟨before, row, after, err', rows, front, refused⟩
    · obtain ⟨records, succeeded, -⟩ := Server.query_of_fits derived he strategy delivers fits
      cases failed.symm.trans succeeded
    · have first := Server.query_of_refused derived he strategy delivers rows front refused
      cases failed.symm.trans first
      exact ⟨before, row, after, rows, front, refused⟩
  · rintro ⟨before, row, after, rows, front, refused⟩
    exact Server.query_of_refused derived he strategy delivers rows front refused
  · exact fun failed => Server.query_of_not_delivers failed _

namespace Sample

open EntitySql.Sample (parcel parcelModel parcelOptions weight label)

/-- A server that answers with the columns of parcels, the one of the weight twice. -/
def parcelServer (rows : List (List CellBytes)) : Server where
  parameters := []
  columns := [("label", .int8), ("note", .text), ("label", .int8)]
  rows := rows
  affected := 0

def parcelRow : List CellBytes :=
  [some [0, 0, 0, 0, 0, 0, 0, 5], none, some [0, 0, 0, 0, 0, 0, 0, 7]]

/-- A row in which the weight is null the second time. -/
def weightlessRow : List CellBytes :=
  [some [0, 0, 0, 0, 0, 0, 0, 5], none, none]

def parcelQuery : Query :=
  ⟨"SELECT", []⟩

theorem delivers_parcels (rows : List (List CellBytes))
    (whole : ∀ row ∈ rows, row.length = 3) : (parcelServer rows).Delivers parcelQuery where
  sent := ⟨[], rfl⟩
  whole := whole

theorem decode_five : decodeAs? .int64 .int8 (some [0, 0, 0, 0, 0, 0, 0, 5]) = some (.int64 5) := by
  decide +kernel

theorem decode_seven :
    decodeAs? .int64 .int8 (some [0, 0, 0, 0, 0, 0, 0, 7]) = some (.int64 7) := by
  decide +kernel

/-- A number fits the first column, which is that of the weight. -/
theorem fits_weight {cell : CellBytes} {n : Int64}
    (decoded : decodeAs? .int64 .int8 cell = some (.int64 n)) :
    ResultCell.Fits parcelModel (("label", .int8), cell) :=
  ⟨weight, _, ⟨List.mem_cons_self, rfl, decoded⟩, fun null => by cases null⟩

theorem fits_label : ResultCell.Fits parcelModel (("note", .text), none) :=
  ⟨label, .null, ⟨List.mem_cons_of_mem _ List.mem_cons_self, rfl, rfl⟩, fun _ => rfl⟩

theorem rowFits_parcel {rows : List (List CellBytes)} :
    (parcelServer rows).RowFits parcelModel parcelRow := by
  refine List.forall_mem_cons.2 ⟨fits_weight decode_five, ?_⟩
  refine List.forall_mem_cons.2 ⟨fits_label, ?_⟩
  exact List.forall_mem_cons.2 ⟨fits_weight decode_seven, fun x hx => absurd hx List.not_mem_nil⟩

theorem rowRefused_weightless {rows : List (List CellBytes)} :
    (parcelServer rows).RowRefused parcelModel weightlessRow
      (.typeMismatch "weight" ⟨⟨.int64, false⟩, "null"⟩) := by
  refine ⟨[(("label", .int8), _), (("note", .text), none)], _, [], rfl, ?_, ?_⟩
  · refine List.forall_mem_cons.2 ⟨fits_weight decode_five, ?_⟩
    exact List.forall_mem_cons.2 ⟨fits_label, fun x hx => absurd hx List.not_mem_nil⟩
  · exact .null (f := weight) ⟨List.mem_cons_self, rfl, rfl⟩ rfl

/-- The last column of the weight counts, and the one of the label is null. -/
theorem values_of_parcel {rows : List (List CellBytes)} {a : Accessor} {record : Record}
    (model : a.model = parcelModel) (filled : (parcelServer rows).Materializes a parcelRow record) :
    a.get record "weight" = .ok (.int64 7) ∧ a.get record "label" = .ok .null := by
  have fields := filled.fields
  rw [model] at fields
  constructor
  · obtain ⟨v, held, last⟩ := fields weight List.mem_cons_self
    have behind := (filled_cons_of_ne (by decide)).1 ((filled_cons_of_eq rfl decode_five).1 last)
    cases filled_nil.1 ((filled_cons_of_eq rfl decode_seven).1 behind)
    exact held
  · obtain ⟨v, held, last⟩ := fields label (List.mem_cons_of_mem _ List.mem_cons_self)
    have behind := (filled_cons_of_eq rfl rfl).1 ((filled_cons_of_ne (by decide)).1 last)
    cases filled_nil.1 ((filled_cons_of_ne (by decide)).1 behind)
    exact held

end Sample

theorem sample_result_rows :
    Sample.parcel.deriveModel Sample.parcelOptions = .ok Sample.parcelModel ∧
      Sample.parcel.LaidOut ∧ ∀ strategy : AccessorStrategy,
      ∃ a, strategy.accessor Sample.parcel Sample.parcelModel = .ok a ∧
        (∃ record, (Sample.parcelServer [Sample.parcelRow]).executor.query Sample.parcelQuery ⟨a⟩ =
            .ok [record] ∧
          a.get record "weight" = .ok (.int64 7) ∧ a.get record "label" = .ok .null) ∧
        (Sample.parcelServer [Sample.parcelRow, Sample.weightlessRow]).executor.query
            Sample.parcelQuery ⟨a⟩ =
          .error (.typeMismatch "weight" ⟨⟨.int64, false⟩, "null"⟩) := by
  refine ⟨Sample.deriveModel_parcel, Sample.laidOut_parcel, fun strategy => ?_⟩
  obtain ⟨a, accessor, model, succeeds, materialized, -⟩ := result_rows_fill_records
    Sample.deriveModel_parcel Sample.laidOut_parcel strategy
    (Sample.parcelServer [Sample.parcelRow]) Sample.parcelQuery
  obtain ⟨a', accessor', -, -, -, refused, -⟩ := result_rows_fill_records
    Sample.deriveModel_parcel Sample.laidOut_parcel strategy
    (Sample.parcelServer [Sample.parcelRow, Sample.weightlessRow]) Sample.parcelQuery
  cases accessor.symm.trans accessor'
  refine ⟨a, accessor, ?_, ?_⟩
  · have delivers := Sample.delivers_parcels [Sample.parcelRow] (by decide)
    obtain ⟨records, succeeded⟩ := succeeds.2
      ⟨delivers, List.forall_mem_singleton.2 Sample.rowFits_parcel⟩
    obtain ⟨record, rest, filled, no_more, rfl⟩ :=
      List.forall₂_cons_left_iff.1 (materialized records succeeded)
    cases no_more
    exact ⟨record, succeeded, Sample.values_of_parcel model filled⟩
  · have delivers := Sample.delivers_parcels [Sample.parcelRow, Sample.weightlessRow]
      (by decide)
    exact (refused delivers _).2 ⟨[Sample.parcelRow], Sample.weightlessRow, [], rfl,
      List.forall_mem_singleton.2 Sample.rowFits_parcel, Sample.rowRefused_weightless⟩

end Postgres

end EntitySql
