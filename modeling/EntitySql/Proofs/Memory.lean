import EntitySql.Proofs.Access

/-!
# Records in memory

The direct strategy does not see members. It reads and writes bytes, as many as the recorded type
takes up, from the recorded offset on. Where members lie apart this comes to reading and storing the
members of a record (`Memory.Holds.perform`), and so to access by name: `strategies_agree` compares
both strategies, and the bytes, over any run of accesses.
-/

namespace EntitySql

/-- A byte in memory: one by itself, or one of those that some content of a field is made of. Which
bytes make up which content is left open, but for their number. -/
inductive Fragment
  | raw (byte : UInt8)
  | part (type : FieldType) (content : type.Content) (index : Nat)

/-- The bytes from the start of a record on. -/
def Memory : Type :=
  Nat → Fragment

namespace Memory

/-- The bytes of `content` stand at `offset`. -/
def Reads (mem : Memory) (type : FieldType) (offset : Nat) (content : type.Content) : Prop :=
  ∀ i < type.size, mem (offset + i) = .part type content i

/-- Overwrites the bytes at `offset` by those of `content`. -/
def write (mem : Memory) (type : FieldType) (offset : Nat) (content : type.Content) : Memory :=
  fun a => if offset ≤ a ∧ a < offset + type.size then .part type content (a - offset) else mem a

/-- The members of a record stand in memory. -/
structure Holds (mem : Memory) (r : Record) : Prop where
  cells : ∀ c ∈ r.cells, mem.Reads c.type c.offset c.content
  unmapped : ∀ u ∈ r.unmapped, ∀ i (h : i < u.bytes.length), mem (u.offset + i) = .raw u.bytes[i]

/-- An access to bytes, at the offset and of the type that the model has for the name. -/
inductive Step (m : TableModel) (mem : Memory) :
    Access → Except Error (Option Value) → Memory → Prop
  | unknown {access : Access} (absent : m.resolve? access.name = none) :
    Step m mem access (.error (.unknownField access.name)) mem
  | read {name : String} {f : FieldModel} {content : f.type.Content}
      (resolved : m.resolve? name = some f) (reads : mem.Reads f.type f.offset content) :
    Step m mem (.read name) (.ok (some (f.type.toValue content))) mem
  | refused {name : String} {v : Value} {f : FieldModel} {mismatch : Mismatch}
      (resolved : m.resolve? name = some f) (refused : f.type.ofValue v = .error mismatch) :
    Step m mem (.write name v) (.error (.typeMismatch f.field mismatch)) mem
  | written {name : String} {v : Value} {f : FieldModel} {content : f.type.Content}
      (resolved : m.resolve? name = some f) (taken : f.type.ofValue v = .ok content) :
    Step m mem (.write name v) (.ok none) (mem.write f.type f.offset content)

/-- Accesses to bytes one after the other. -/
inductive Run (m : TableModel) :
    Memory → List Access → List (Except Error (Option Value)) → Memory → Prop
  | done (mem : Memory) : Run m mem [] [] mem
  | step {mem mem' final : Memory} {access : Access} {rest : List Access}
      {result : Except Error (Option Value)} {results : List (Except Error (Option Value))}
      (first : Step m mem access result mem') (more : Run m mem' rest results final) :
    Run m mem (access :: rest) (result :: results) final

variable {mem : Memory} {type : FieldType} {offset : Nat} {content : type.Content}

theorem reads_write : (mem.write type offset content).Reads type offset content := by
  intro i hi
  have inside : offset ≤ offset + i ∧ offset + i < offset + type.size := by omega
  rw [write, if_pos inside]
  congr 1
  omega

/-- Bytes that lie apart from those overwritten stay. -/
theorem write_of_apart {start length i : Nat} (h : Apart offset type.size start length)
    (hi : i < length) : mem.write type offset content (start + i) = mem (start + i) := by
  have outside : ¬(offset ≤ start + i ∧ start + i < offset + type.size) := by
    unfold Apart at h
    omega
  rw [write, if_neg outside]

/-- At one offset only one content stands. -/
theorem Reads.unique {content' : type.Content} (h : mem.Reads type offset content)
    (h' : mem.Reads type offset content') : content = content' := by
  have first := (h 0 type.size_pos).symm.trans (h' 0 type.size_pos)
  exact (Fragment.part.inj first).2.1 |> eq_of_heq

/-- An access has one outcome. -/
theorem Step.unique {m : TableModel} {access : Access} {result result' : Except Error (Option Value)}
    {mem' mem'' : Memory} (h : Step m mem access result mem') (h' : Step m mem access result' mem'') :
    result = result' ∧ mem' = mem'' := by
  cases h with
  | unknown absent =>
    cases h' with
    | unknown => exact ⟨rfl, rfl⟩
    | read resolved | refused resolved | written resolved => cases absent.symm.trans resolved
  | read resolved reads =>
    cases h' with
    | unknown absent => cases absent.symm.trans resolved
    | read resolved' reads' =>
      cases resolved.symm.trans resolved'
      rw [reads.unique reads']
      exact ⟨rfl, rfl⟩
  | refused resolved refused =>
    cases h' with
    | unknown absent => cases absent.symm.trans resolved
    | refused resolved' refused' =>
      cases resolved.symm.trans resolved'
      cases refused.symm.trans refused'
      exact ⟨rfl, rfl⟩
    | written resolved' taken =>
      cases resolved.symm.trans resolved'
      cases refused.symm.trans taken
  | written resolved taken =>
    cases h' with
    | unknown absent => cases absent.symm.trans resolved
    | refused resolved' refused =>
      cases resolved.symm.trans resolved'
      cases refused.symm.trans taken
    | written resolved' taken' =>
      cases resolved.symm.trans resolved'
      cases taken.symm.trans taken'
      exact ⟨rfl, rfl⟩

theorem Run.unique {m : TableModel} {accesses : List Access}
    {results results' : List (Except Error (Option Value))} {mem' mem'' : Memory}
    (h : Run m mem accesses results mem') (h' : Run m mem accesses results' mem'') :
    results = results' ∧ mem' = mem'' := by
  induction h generalizing results' with
  | done =>
    cases h'
    exact ⟨rfl, rfl⟩
  | step first more ih =>
    cases h' with
    | step first' more' =>
      obtain ⟨rfl, rfl⟩ := first.unique first'
      obtain ⟨rfl, rfl⟩ := ih more'
      exact ⟨rfl, rfl⟩

namespace Holds

variable {r : Record} {m : TableModel} {e : EntityType} {f : FieldModel}

/-- Writing the bytes of a field is storing in its member. -/
theorem write (h : mem.Holds r) (hr : r.IsOf e) (hm : m.DerivedFrom e) (he : e.LaidOut)
    (hf : f ∈ m.fields) (content : f.type.Content) :
    (mem.write f.type f.offset content).Holds (r.store f.type f.offset content) := by
  refine ⟨fun c hc => ?_, fun u hu i hi => ?_⟩
  · rw [hr.cells_store hm he hf, List.mem_map] at hc
    obtain ⟨c', hc', rfl⟩ := hc
    by_cases named : c'.name = f.field
    · rw [if_pos named]
      have offset : c'.offset = f.offset :=
        congrArg Place.offset (hr.place_of_name hm hf hc' named)
      intro i hi
      rw [offset]
      exact reads_write i hi
    · rw [if_neg named]
      have apart := hr.apart_of_name_ne hm he hf hc' named
      intro i hi
      rw [write_of_apart apart hi]
      exact h.cells c' hc' i hi
  · have apart := hr.apart_unmapped hm he hf hu
    rw [write_of_apart apart hi]
    exact h.unmapped u hu i hi

/-- The bytes of a field are those of what is read from its member. -/
theorem exists_reads (h : mem.Holds r) (hr : r.IsOf e) (hm : m.DerivedFrom e) (hf : f ∈ m.fields) :
    ∃ content, mem.Reads f.type f.offset content ∧
      r.get? f.field = some (f.type.toValue content) := by
  obtain ⟨c, hc, place, value⟩ := hr.get?_field hm hf
  have reads := h.cells c hc
  obtain ⟨field, column, type, offset, index⟩ := f
  obtain ⟨name, offset', type', content⟩ := c
  cases place
  exact ⟨content, reads, value⟩

/-- What an access to a record comes to, the access to its bytes comes to as well. It leaves the
bytes behind the record alone. -/
theorem perform (h : mem.Holds r) (hr : r.IsOf e) (hm : m.DerivedFrom e) (he : e.LaidOut)
    (access : Access) :
    ∃ mem', Step m mem access (Accessor.perform ⟨.direct, m⟩ r access).1 mem' ∧
      mem'.Holds (Accessor.perform ⟨.direct, m⟩ r access).2 ∧ ∀ a, e.size ≤ a → mem' a = mem a := by
  cases access with
  | read name =>
    refine ⟨mem, ?_, h, fun _ _ => rfl⟩
    rw [Accessor.perform, Accessor.get_direct hr hm he, Accessor.get]
    cases hf : m.resolve? name with
    | none => exact .unknown hf
    | some f =>
      obtain ⟨content, reads, value⟩ := h.exists_reads hr hm (TableModel.mem_of_resolve? hf)
      simp only [value]
      exact .read hf reads
  | write name v =>
    rw [Accessor.perform, Accessor.set]
    cases hf : m.resolve? name with
    | none => exact ⟨mem, .unknown hf, h, fun _ _ => rfl⟩
    | some f =>
      have member := TableModel.mem_of_resolve? hf
      cases ho : f.type.ofValue v with
      | error mismatch =>
        simp only [ho]
        exact ⟨mem, .refused hf ho, h, fun _ _ => rfl⟩
      | ok content =>
        simp only [ho]
        refine ⟨mem.write f.type f.offset content, .written hf ho, h.write hr hm he member content,
          fun a ha => ?_⟩
        have inside : f.offset + f.type.size ≤ e.size := by
          have fits := hm.fits f member
          simp only [EntitySql.fits, decide_eq_true_eq] at fits
          exact fits.1
        have outside : ¬(f.offset ≤ a ∧ a < f.offset + f.type.size) := by omega
        rw [Memory.write, if_neg outside]

/-- The same holds of runs of accesses. -/
theorem run (h : mem.Holds r) (hr : r.IsOf e) (hm : m.DerivedFrom e) (he : e.LaidOut)
    (accesses : List Access) :
    ∃ mem', Run m mem accesses (Accessor.run ⟨.direct, m⟩ r accesses).1 mem' ∧
      mem'.Holds (Accessor.run ⟨.direct, m⟩ r accesses).2 ∧ ∀ a, e.size ≤ a → mem' a = mem a := by
  induction accesses generalizing mem r with
  | nil => exact ⟨mem, .done mem, h, fun _ _ => rfl⟩
  | cons access rest ih =>
    obtain ⟨mem', first, holds, behind⟩ := h.perform hr hm he access
    have instance_ : (Accessor.perform ⟨.direct, m⟩ r access).2.IsOf e := by
      rw [Accessor.perform_direct hr hm he]
      exact (Accessor.perform_keeps hr access).1
    obtain ⟨final, more, holds', behind'⟩ := ih holds instance_
    exact ⟨final, .step first more, holds', fun a ha => (behind' a ha).trans (behind a ha)⟩

end Holds

end Memory

/-- **The strategies agree.** Over a model of the type of a record, any accesses have the same
results by name and by place, and leave the same record, in which nothing changes that is not mapped.
Done to the bytes of the record, they have these results and no other ones, leave the bytes of that
record, and touch no byte behind it. There are accessors of either strategy just to records of the
type that the model was derived from. -/
theorem strategies_agree {e : EntityType} {options : List ModelOption} {m : TableModel}
    (hm : e.deriveModel options = .ok m) (he : e.LaidOut) :
    (∀ (s : AccessorStrategy) (e' : EntityType), s.accessor e' m =
        if e' = e then .ok ⟨s, m⟩ else .error (.modelMismatch e.typeName e'.shortName)) ∧
      ∀ r : Record, r.IsOf e → ∀ accesses : List Access,
        let byName := Accessor.run ⟨.reflective, m⟩ r accesses
        Accessor.run ⟨.direct, m⟩ r accesses = byName ∧
          byName.2.IsOf e ∧ byName.2.unmapped = r.unmapped ∧
          ∀ mem : Memory, mem.Holds r → ∃ final : Memory,
            (∀ results mem', Memory.Run m mem accesses results mem' ↔
              results = byName.1 ∧ mem' = final) ∧
            final.Holds byName.2 ∧ ∀ a, e.size ≤ a → final a = mem a := by
  have derived := EntityType.derivedFrom hm
  refine ⟨derived.accessor_eq, fun r hr accesses => ?_⟩
  have same := Accessor.run_direct hr derived he accesses
  obtain ⟨instance_, untouched⟩ := Accessor.run_keeps (m := m) hr accesses
  refine ⟨same, instance_, untouched, fun mem holds => ?_⟩
  obtain ⟨final, run, holds', behind⟩ := holds.run hr derived he accesses
  rw [same] at run holds'
  refine ⟨final, fun results mem' => ⟨fun run' => run'.unique run, ?_⟩, holds', behind⟩
  rintro ⟨rfl, rfl⟩
  exact run

namespace Sample

/-- A type with a member between the mapped ones that is not mapped, and with a field that has the
name of the other one's column. -/
def parcel : EntityType where
  home := ""
  shortName := "Parcel"
  typeName := "Parcel"
  table? := none
  fields := [⟨"weight", some "label", ⟨.int64, false⟩, 0⟩, ⟨"label", none, ⟨.text, true⟩, 32⟩]
  unmapped := [⟨"stops", 8, 24⟩]
  size := 56

/-- The options that keep the columns of parcels apart. -/
def parcelOptions : List ModelOption :=
  [.table "parcels", .column "label" "note"]

def parcelModel : TableModel where
  entity := parcel
  table := "parcels"
  fields := [⟨"weight", "label", ⟨.int64, false⟩, 0, 0⟩, ⟨"label", "note", ⟨.text, true⟩, 32, 1⟩]

/-- The bytes of an empty parcel. -/
def parcelMemory : Memory := fun a =>
  if a < 8 then .part ⟨.int64, false⟩ (0 : Int64) a
  else if a < 32 then .raw 0
  else .part ⟨.text, true⟩ (none : Option String) (a - 32)

/-- Writes by name and by column, one that is refused, and reads. -/
def parcelAccesses : List Access :=
  [.write "weight" (.int16 5), .write "note" (.text "left"), .write "label" (.bool true),
    .read "label", .read "stops"]

theorem deriveModel_parcel : parcel.deriveModel parcelOptions = .ok parcelModel := by
  decide +kernel

theorem laidOut_parcel : parcel.LaidOut where
  fields := by simp [parcel, Apart, FieldType.size]
  unmapped := by simp [parcel, Apart, FieldType.size]

theorem holds_parcelMemory : parcelMemory.Holds parcel.zero where
  cells := by
    intro c hc i hi
    simp only [EntityType.zero, parcel, List.map_cons, List.map_nil, List.mem_cons,
      List.not_mem_nil, or_false] at hc
    rcases hc with rfl | rfl
    · have small : 0 + i < 8 := by simpa [FieldType.size] using hi
      rw [parcelMemory, if_pos small, Nat.zero_add]
      rfl
    · have large : ¬32 + i < 8 ∧ ¬32 + i < 32 := by omega
      rw [parcelMemory, if_neg large.1, if_neg large.2, Nat.add_sub_cancel_left]
      rfl
  unmapped := by
    intro u hu i hi
    simp only [EntityType.zero, parcel, List.map_cons, List.map_nil, List.mem_cons,
      List.not_mem_nil, or_false] at hu
    subst hu
    have between : ¬8 + i < 8 ∧ 8 + i < 32 := by
      rw [List.length_replicate] at hi
      omega
    rw [parcelMemory, if_neg between.1, if_pos between.2, List.getElem_replicate]

end Sample

theorem sample_strategies :
    Sample.parcel.deriveModel Sample.parcelOptions = .ok Sample.parcelModel ∧
      Sample.parcel.LaidOut ∧
      (∀ s : AccessorStrategy,
        s.accessor Sample.parcel Sample.parcelModel = .ok ⟨s, Sample.parcelModel⟩) ∧
      let byName := Accessor.run ⟨.reflective, Sample.parcelModel⟩ Sample.parcel.zero
        Sample.parcelAccesses
      byName.1 = [.ok none, .ok none, .error (.typeMismatch "label" ⟨⟨.text, true⟩, "bool"⟩),
          .ok (some (.text "left")), .error (.unknownField "stops")] ∧
        Accessor.run ⟨.direct, Sample.parcelModel⟩ Sample.parcel.zero Sample.parcelAccesses =
          byName ∧
        ∃ final : Memory, Memory.Run Sample.parcelModel Sample.parcelMemory Sample.parcelAccesses
          byName.1 final ∧ final.Holds byName.2 := by
  obtain ⟨accessors, agree⟩ := strategies_agree Sample.deriveModel_parcel Sample.laidOut_parcel
  obtain ⟨same, -, -, bytes⟩ := agree _ (Record.isOf_zero _) Sample.parcelAccesses
  obtain ⟨final, runs, holds, -⟩ := bytes _ Sample.holds_parcelMemory
  refine ⟨Sample.deriveModel_parcel, Sample.laidOut_parcel, fun s => ?_, by decide +kernel, same,
    final, (runs _ _).2 ⟨rfl, rfl⟩, holds⟩
  rw [accessors, if_pos rfl]

end EntitySql
