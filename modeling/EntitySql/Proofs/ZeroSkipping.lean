import EntitySql.Proofs.NameResolution
import EntitySql.Proofs.Noninterference

/-!
# Leaving out zeros

Changes that may be left out are short for others. Over a model and a record, a bare column stands
for an assignment of what the record holds in the field, and an assignment that leaves out zeros
for a plain one, unless a zero would be assigned: then they stand for nothing
(`Assignment.written`). An update comes to what it comes to with its changes written out
(`zero_skipping_writes_out`). Whatever is left out, in whatever place, leaves no trace, since each
change resolves to what it stands for (`Assignment.answer_resolve`).
-/

namespace EntitySql

/-- A field that may be null is unset while it is null, and any other one while it holds the zero of
its kind. -/
def FieldType.Unset (t : FieldType) (v : Value) : Prop :=
  if t.nullable then v = .null else v.isZero = true

instance (t : FieldType) (v : Value) : Decidable (t.Unset v) :=
  inferInstanceAs (Decidable (if t.nullable then v = .null else v.isZero = true))

/-- What a change of a record of `m` stands for: a plain assignment, or nothing. -/
def Assignment.written (m : TableModel) (r : Record) : Assignment → Option Assignment
  | .assign column value => some (.assign column value)
  | .assignNonZero column (.literal v) =>
    if v.isZero then none else some (.assign column (.literal v))
  | .assignNonZero column value => some (.assign column value)
  | .fromEntity c => do
    let f ← m.resolve? c.name
    let v ← r.get? f.field
    if f.type.Unset v then none else some (.assign c.name (.literal v))

/-- A column of the table of `e`, qualified by that table or not at all. -/
def Column.IsOwn (m : TableModel) (e : EntityType) : Column → Prop
  | .bare name => m.Knows name
  | .ofTable entity _ name => entity = e ∧ m.Knows name
  | .ofSubquery _ _ _ => False

theorem FieldType.isZero_iff {t : FieldType} {v : Value} : t.isZero v = true ↔ t.Unset v := by
  have null : v.isNull = true ↔ v = .null := by
    cases v <;> simp [Value.isNull]
  unfold isZero Unset
  by_cases nullable : t.nullable = true
  · rw [if_pos nullable, if_pos nullable, null]
  · rw [if_neg nullable, if_neg nullable]

section Resolving

variable {models : EntityType → Except Error TableModel} {e : EntityType} {m : TableModel}
  {r : Record} (hm : m.DerivedFrom e) (he : e.LaidOut) (hr : r.IsOf e) (known : models e = .ok m)
  (s : AccessorStrategy)
include hm he hr known

/-- A column of the updated entity stands for a field, and takes its value from it. -/
theorem answer_resolve_own {c : Column} (own : c.IsOwn m e) :
    ∃ f v, m.resolve? c.name = some f ∧ r.get? f.field = some v ∧
      ((Assignment.fromEntity c).resolve m ⟨s, m⟩ (some r)).answer models =
        .ok (if f.type.isZero v then none else some (f.column, .literal v)) := by
  have admitted : (c.checkOwn m).answer models = .ok () ∧ m.Knows c.name := by
    cases c with
    | bare name => exact ⟨rfl, own⟩
    | ofTable entity alias? name =>
      refine ⟨?_, own.2⟩
      rw [Column.checkOwn, own.1]
      refine Inquiry.answer_bind_eq_ok.2 ⟨m, Inquiry.answer_model_eq_ok.2 known, ?_⟩
      rw [if_pos rfl]
      rfl
    | ofSubquery query aliasName name => exact own.elim
  obtain ⟨f, resolved⟩ := Option.ne_none_iff_exists'.1 fun none =>
    TableModel.resolve?_eq_none.1 none admitted.2
  obtain ⟨cell, -, -, held⟩ := hr.get?_field hm (TableModel.mem_of_resolve? resolved)
  exact ⟨f, cell.value, resolved, held,
    resolve_fromEntity models hm he hr s c admitted.1 resolved held⟩

/-- A change resolves to what it stands for. -/
theorem Assignment.answer_resolve (change : Assignment)
    (own : ∀ c, change = .fromEntity c → c.IsOwn m e) :
    (change.resolve m ⟨s, m⟩ (some r)).answer models =
      match change.written m r with
      | none => .ok none
      | some written => (written.resolve m ⟨s, m⟩ (some r)).answer models := by
  cases change with
  | assign column value => rfl
  | assignNonZero column value =>
    cases value with
    | literal v =>
      rw [Assignment.resolve, Assignment.written, Expr.isLiteralZero]
      by_cases zero : v.isZero = true
      · rw [if_pos zero, if_pos zero]
        rfl
      · rw [if_neg zero, if_neg zero]
        rfl
    | term | predicate | subquery | quantified => rfl
  | fromEntity c =>
    obtain ⟨f, v, resolved, held, answer⟩ := answer_resolve_own hm he hr known s (own c rfl)
    have written : (Assignment.fromEntity c).written m r =
        if f.type.isZero v then none else some (.assign c.name (.literal v)) := by
      simp only [Assignment.written, resolved, held, Option.bind_eq_bind, Option.bind_some,
        ← FieldType.isZero_iff]
    rw [answer, written]
    by_cases zero : f.type.isZero v = true
    · rw [if_pos zero, if_pos zero]
    · rw [if_neg zero, if_neg zero]
      simp only [Assignment.resolve, assignedColumn, resolved]
      rfl

/-- Changes resolve to what they stand for, and those that stand for nothing leave no trace. -/
theorem answer_resolveAssignments {changes : List Assignment}
    (own : ∀ c, .fromEntity c ∈ changes → c.IsOwn m e) :
    (resolveAssignments m ⟨s, m⟩ (some r) changes).answer models =
      (resolveAssignments m ⟨s, m⟩ (some r)
        (changes.filterMap (Assignment.written m r))).answer models := by
  induction changes with
  | nil => rfl
  | cons first rest ih =>
    have here := first.answer_resolve hm he hr known s fun c hc =>
      own c (hc ▸ List.mem_cons_self)
    have later := ih fun c hc => own c (List.mem_cons_of_mem _ hc)
    rw [resolveAssignments, Inquiry.answer_bind, here, List.filterMap_cons]
    cases first.written m r with
    | none =>
      -- What is left of a change that stands for nothing is the empty list in front of the others.
      refine Eq.trans ?_ later
      show ((do
        let more ← resolveAssignments m ⟨s, m⟩ (some r) rest
        pure ([] ++ more) : Inquiry (List (String × Sql.Expr))).answer models) = _
      simp only [List.nil_append, bind_pure]
    | some written =>
      dsimp only
      rw [resolveAssignments, ← Inquiry.answer_bind]
      refine Inquiry.answer_bind_congr rfl fun _ _ => ?_
      exact Inquiry.answer_bind_congr later fun _ _ => rfl

end Resolving

/-- An update is resolved change by change. -/
theorem Update.answer_resolve {models : EntityType → Except Error TableModel} {e : EntityType}
    {m : TableModel} (hm : m.DerivedFrom e) (known : models e = .ok m) (s : AccessorStrategy)
    (value? : Option Record) (assignments : Assignments) (filter : List Predicate) :
    ((Update.mk e value? assignments filter).resolve s).answer models = (do
      let resolved ← (resolveAssignments m ⟨s, m⟩ value? (assignments.entries m)).answer models
      if resolved = [] then .error .noUpdatedColumns
      else do pure ⟨m.table, resolved, ← (resolveFilter m filter).answer models⟩) := by
  -- Without changes there is no need for the model, and the error is the same as if none were left.
  by_cases nothing : assignments = .list []
  · rw [nothing]
    rfl
  have model : (Inquiry.model e).answer models = .ok m := Inquiry.answer_model_eq_ok.2 known
  have accessor : s.accessor e m = .ok ⟨s, m⟩ := by
    rw [hm.accessor_eq, if_pos rfl]
  rw [Update.resolve_of_ne s nothing, Inquiry.answer_bind, model]
  show (Inquiry.done (s.accessor e m) >>= _).answer models = _
  rw [accessor]
  show (resolveAssignments m ⟨s, m⟩ value? (assignments.entries m) >>= _).answer models = _
  rw [Inquiry.answer_bind]
  refine congrArg (_ >>= ·) (funext fun resolved => ?_)
  cases resolved with
  | nil => rfl
  | cons change more =>
    rw [if_neg (List.cons_ne_nil change more)]
    exact Inquiry.answer_bind ..

/-! ### Where nothing is left -/

section Failing

variable {α β : Type} {models : EntityType → Except Error TableModel}

/-- An inquiry in two parts does not fail with an error that neither part fails with. -/
theorem Inquiry.answer_bind_ne {q : Inquiry α} {f : α → Inquiry β} {err : Error}
    (h : q.answer models ≠ .error err)
    (next : ∀ a, q.answer models = .ok a → (f a).answer models ≠ .error err) :
    (q >>= f).answer models ≠ .error err := by
  rw [answer_bind]
  cases answer : q.answer models with
  | error err' =>
    rw [answer] at h
    exact fun same => h (congrArg _ (Except.error.inj same))
  | ok a => exact next a answer

theorem Inquiry.answer_pure_ne (a : α) (err : Error) :
    (pure a : Inquiry α).answer models ≠ .error err :=
  nofun

theorem Inquiry.answer_require_ne (a? : Option α) {err err' : Error} (h : err ≠ err') :
    (Inquiry.require a? err).answer models ≠ .error err' := by
  cases a? with
  | none => exact fun same => h (Except.error.inj same)
  | some a => exact answer_pure_ne a err'

theorem assignedColumn_ne_noUpdatedColumns (m : TableModel) (name : String) :
    (assignedColumn m name).answer models ≠ .error .noUpdatedColumns :=
  Inquiry.answer_bind_ne (Inquiry.answer_require_ne _ nofun) fun _ _ => Inquiry.answer_pure_ne _ _

/-- What goes through references fails for a name or for a missing model only. -/
theorem Inquiry.Follows.ne_noUpdatedColumns {model : EntityType → TableModel} {q : Inquiry α}
    {refs : List Reference} {columns : α → List Sql.Column} (h : q.Follows model refs [] columns)
    (agrees : ∀ e m, models e = .ok m → model e = m) :
    q.answer models ≠ .error .noUpdatedColumns := by
  rcases q.confined_true.answer_given fun e _ m hm => agrees e m hm with
    same | ⟨e, cause, -, -, failed⟩
  · rw [same]
    rcases h with ⟨a, found, answer, -⟩ | ⟨err, answer, first⟩
    · rw [answer]
      nofun
    · obtain ⟨name, rfl⟩ := first.isUnknownColumn
      rw [answer]
      nofun
  · rw [failed]
    nofun

variable {e : EntityType} {m : TableModel} (known : models e = .ok m)
include known

/-- The models of types, with `m` in the place of those that are missing. -/
theorem exists_model : ∃ model : EntityType → TableModel, model e = m ∧
    ∀ e' m', models e' = .ok m' → model e' = m' := by
  refine ⟨fun e' => ((models e').toOption).getD m, ?_, fun e' m' known' => ?_⟩
  · simp only [known, Except.toOption, Option.getD_some]
  · simp only [known', Except.toOption, Option.getD_some]

theorem Expr.resolve_ne_noUpdatedColumns (value : Expr) :
    (value.resolve m).answer models ≠ .error .noUpdatedColumns := by
  obtain ⟨model, rfl, agrees⟩ := exists_model known
  exact (value.follows_resolve e).ne_noUpdatedColumns agrees

theorem resolveFilter_ne_noUpdatedColumns (predicates : List Predicate) :
    (resolveFilter m predicates).answer models ≠ .error .noUpdatedColumns := by
  obtain ⟨model, rfl, agrees⟩ := exists_model known
  refine Inquiry.answer_bind_ne ?_ fun _ _ => Inquiry.answer_pure_ne _ _
  exact (follows_resolvePredicates e predicates).ne_noUpdatedColumns agrees

/-- Plain assignments are all left, or one of them fails for another reason. -/
theorem resolveAssignments_plain (a : Accessor) (value? : Option Record)
    {changes : List Assignment} (plain : ∀ change ∈ changes, ∃ column value,
      change = .assign column value) :
    (resolveAssignments m a value? changes).answer models ≠ .error .noUpdatedColumns ∧
      ∀ resolved, (resolveAssignments m a value? changes).answer models = .ok resolved →
        resolved.length = changes.length := by
  induction changes with
  | nil => exact ⟨Inquiry.answer_pure_ne _ _, by rintro _ ⟨⟩; rfl⟩
  | cons first rest ih =>
    obtain ⟨fails, counts⟩ := ih fun change h => plain change (List.mem_cons_of_mem _ h)
    obtain ⟨column, value, rfl⟩ := plain first List.mem_cons_self
    rw [resolveAssignments]
    constructor
    · refine Inquiry.answer_bind_ne ?_ fun _ _ => ?_
      · rw [Assignment.resolve]
        refine Inquiry.answer_bind_ne (assignedColumn_ne_noUpdatedColumns m column) fun _ _ => ?_
        exact Inquiry.answer_bind_ne (value.resolve_ne_noUpdatedColumns known) fun _ _ =>
          Inquiry.answer_pure_ne _ _
      · exact Inquiry.answer_bind_ne fails fun _ _ => Inquiry.answer_pure_ne _ _
    · intro resolved answer
      obtain ⟨here, first, answer⟩ := Inquiry.answer_bind_eq_ok.1 answer
      obtain ⟨more, later, answer⟩ := Inquiry.answer_bind_eq_ok.1 answer
      rw [Assignment.resolve] at first
      obtain ⟨x, -, first⟩ := Inquiry.answer_bind_eq_ok.1 first
      obtain ⟨y, -, first⟩ := Inquiry.answer_bind_eq_ok.1 first
      cases first
      cases answer
      rw [List.length_append, counts more later, List.length_cons]
      exact Nat.add_comm _ _

end Failing

/-! ### Updates -/

/-- What is written out is a plain assignment. -/
theorem Assignment.plain_of_written {m : TableModel} {r : Record} {change written : Assignment}
    (h : change.written m r = some written) : ∃ column value, written = .assign column value := by
  cases change with
  | assign column value => exact ⟨column, value, (Option.some.inj h).symm⟩
  | assignNonZero column value =>
    cases value with
    | literal v =>
      rw [Assignment.written] at h
      split at h
      · cases h
      · exact ⟨_, _, (Option.some.inj h).symm⟩
    | term | predicate | subquery | quantified => exact ⟨_, _, (Option.some.inj h).symm⟩
  | fromEntity c =>
    obtain ⟨f, -, h⟩ := Option.bind_eq_some_iff.1 h
    obtain ⟨v, -, h⟩ := Option.bind_eq_some_iff.1 h
    split at h
    · cases h
    · exact ⟨_, _, (Option.some.inj h).symm⟩

/-- Plain assignments leave nothing to update only where there are none. -/
theorem Update.answer_plain_eq_noUpdatedColumns {models : EntityType → Except Error TableModel}
    {e : EntityType} {m : TableModel} (hm : m.DerivedFrom e) (known : models e = .ok m)
    (s : AccessorStrategy) (r : Record) {changes : List Assignment}
    (plain : ∀ change ∈ changes, ∃ column value, change = .assign column value)
    (filter : List Predicate) :
    ((Update.mk e (some r) (.list changes) filter).resolve s).answer models =
      .error .noUpdatedColumns ↔ changes = [] := by
  constructor
  · intro failed
    obtain ⟨fails, counts⟩ := resolveAssignments_plain known ⟨s, m⟩ (some r) plain
    rw [Update.answer_resolve hm known, Assignments.entries] at failed
    cases answer : (resolveAssignments m ⟨s, m⟩ (some r) changes).answer models with
    | error err =>
      rw [answer] at failed fails
      exact absurd (congrArg Except.error (Except.error.inj failed)) fails
    | ok resolved =>
      have count := counts resolved answer
      cases resolved with
      | nil => exact List.eq_nil_of_length_eq_zero count.symm
      | cons change more =>
        rw [answer] at failed
        have filters := resolveFilter_ne_noUpdatedColumns known filter
        cases found : (resolveFilter m filter).answer models with
        | error err =>
          rw [found] at failed filters
          exact absurd (congrArg Except.error (Except.error.inj failed)) filters
        | ok rows =>
          rw [found] at failed
          cases failed
  · rintro rfl
    rfl

/-- **Leaving out zeros is writing out the rest.** Take an update of a record of a type that has a
model, with any changes whose bare columns are fields of the type. It is built as the update with
its changes written out, or fails with the same error, and it has no columns to update just if none
is written out. To name no changes is to name every mapped field, in the order of declaration. No
update at all is built without assignments. -/
theorem zero_skipping_writes_out (db : Database) (store : Store) {e : EntityType}
    {options : List ModelOption} {m : TableModel} {r : Record}
    (derived : e.deriveModel options = .ok m) (laidOut : e.LaidOut)
    (effective : store.registry.effective e = .ok m) (hr : r.IsOf e) (filter : List Predicate) :
    (∀ changes : List Assignment, (∀ c, .fromEntity c ∈ changes → c.IsOwn m e) →
      ((db.buildUpdate ⟨e, some r, .list changes, filter⟩).exec store).1 =
          ((db.buildUpdate ⟨e, some r, .list (changes.filterMap (Assignment.written m r)),
            filter⟩).exec store).1 ∧
        (((db.buildUpdate ⟨e, some r, .list changes, filter⟩).exec store).1 =
            .error .noUpdatedColumns ↔ changes.filterMap (Assignment.written m r) = [])) ∧
      ((db.buildUpdate ⟨e, some r, .nonZeroFields, filter⟩).exec store).1 =
        ((db.buildUpdate ⟨e, some r,
          .list (e.fields.map fun f => .fromEntity (.bare f.name)), filter⟩).exec store).1 ∧
      ∀ u q, ((db.buildUpdate u).exec store).1 = .ok q →
        ∃ t : Sql.Update, t.assignments ≠ [] ∧ q = db.dialect.query t.lexemes := by
  have hm : m.DerivedFrom e := EntityType.derivedFrom derived
  refine ⟨fun changes own => ?_, ?_, fun u q built => ?_⟩
  · have same : ((db.buildUpdate ⟨e, some r, .list changes, filter⟩).exec store).1 =
        ((db.buildUpdate ⟨e, some r, .list (changes.filterMap (Assignment.written m r)),
          filter⟩).exec store).1 := by
      rw [Database.buildUpdate_result, Database.buildUpdate_result,
        Update.answer_resolve hm effective, Update.answer_resolve hm effective,
        Assignments.entries, Assignments.entries,
        answer_resolveAssignments hm laidOut hr effective _ own]
    have plain : ∀ change ∈ changes.filterMap (Assignment.written m r),
        ∃ column value, change = .assign column value := by
      intro written hw
      obtain ⟨change, -, h⟩ := List.mem_filterMap.1 hw
      exact Assignment.plain_of_written h
    refine ⟨same, ?_⟩
    rw [same, Database.buildUpdate_result,
      ← Update.answer_plain_eq_noUpdatedColumns hm effective db.config.accessor r plain filter]
    cases ((Update.mk e (some r) (.list (changes.filterMap (Assignment.written m r)))
      filter).resolve db.config.accessor).answer store.registry.effective with
    | error err => simp only [Except.map, Except.error.injEq]
    | ok t => simp only [Except.map, reduceCtorEq]
  · have names : m.fields.map (·.field) = e.fields.map (·.name) := by
      have places := congrArg (List.map Place.name) hm.places
      rwa [List.map_map, List.map_map] at places
    have entries : Assignments.nonZeroFields.entries m =
        (e.fields.map fun f => .fromEntity (.bare f.name)) := by
      have both := congrArg (List.map fun name => Assignment.fromEntity (.bare name)) names
      rwa [List.map_map, List.map_map] at both
    rw [Database.buildUpdate_result, Database.buildUpdate_result,
      Update.answer_resolve hm effective, Update.answer_resolve hm effective, entries,
      Assignments.entries]
  · obtain ⟨t, resolved, rfl⟩ := Database.buildUpdate_ok built
    obtain ⟨m', -, a, -, changes, -, some_left, rows, -, rfl⟩ := Update.resolve_eq_ok.1 resolved
    exact ⟨_, some_left, rfl⟩

namespace Sample

/-- A parcel with no weight, and with a label that is empty but not null. -/
def emptyParcel : Record :=
  { fullParcel with
    cells := [⟨"weight", 0, ⟨.int64, false⟩, (0 : Int64)⟩, ⟨"label", 32, ⟨.text, true⟩, some ""⟩] }

/-- Changes of which every other one is left out for that parcel. -/
def patches : List Assignment :=
  [.fromEntity (.bare "weight"), .fromEntity (.ofTable parcel (some "p") "note"),
    .assignNonZero "label" (.literal (.text "")), .assign "weight" (.literal (.int64 0))]

theorem isOwn_patches : ∀ c, .fromEntity c ∈ patches → c.IsOwn parcelModel parcel := by
  intro c hc
  have cases : c = .bare "weight" ∨ c = .ofTable parcel (some "p") "note" := by
    simpa [patches] using hc
  rcases cases with rfl | rfl
  · exact ⟨_, List.mem_cons_self, .inl rfl⟩
  · exact ⟨rfl, _, List.mem_cons_of_mem _ List.mem_cons_self, .inr rfl⟩

end Sample

theorem sample_zero_skipping :
    Sample.parcel.deriveModel Sample.parcelOptions = .ok Sample.parcelModel ∧
      Sample.parcel.LaidOut ∧
      Sample.parcelStore.registry.effective Sample.parcel = .ok Sample.parcelModel ∧
      Sample.emptyParcel.IsOf Sample.parcel ∧
      (∀ c, .fromEntity c ∈ Sample.patches → c.IsOwn Sample.parcelModel Sample.parcel) ∧
      ((Sample.database.buildUpdate
          ⟨Sample.parcel, some Sample.emptyParcel, .list Sample.patches, []⟩).exec
          Sample.parcelStore).1 =
        .ok ⟨"UPDATE \"parcels\" SET \"note\" = $1,\"label\" = $2;", [.text "", .int64 0]⟩ ∧
      ((Sample.database.buildUpdate
          ⟨Sample.parcel, some Sample.emptyParcel, .list (Sample.patches.take 1), []⟩).exec
          Sample.parcelStore).1 = .error .noUpdatedColumns := by
  have empty : Sample.emptyParcel.IsOf Sample.parcel := ⟨by decide +kernel, by decide +kernel⟩
  obtain ⟨skips, -, -⟩ := zero_skipping_writes_out Sample.database Sample.parcelStore
    Sample.deriveModel_parcel Sample.laidOut_parcel Sample.effective_parcel empty []
  refine ⟨Sample.deriveModel_parcel, Sample.laidOut_parcel, Sample.effective_parcel, empty,
    Sample.isOwn_patches, ?_, ?_⟩
  · rw [(skips _ Sample.isOwn_patches).1]
    decide +kernel
  · refine ((skips _ fun c hc => Sample.isOwn_patches c (List.mem_of_mem_take hc)).2).2 ?_
    rfl

end EntitySql
