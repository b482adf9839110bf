import EntitySql.Proofs.ZeroSkipping

/-!
# Unknown columns in updates

An update that changes a column which its table does not have is refused, whatever the change is and
whatever the values are. There is one exception: an assignment that leaves out zeros drops out for a
literal zero before its column is looked up, and then nothing is asked about the column
(`unknown_columns_refused`).
-/

namespace EntitySql

namespace Assignment

/-- The name of the column that is changed. -/
def target : Assignment → String
  | assign column _ | assignNonZero column _ => column
  | fromEntity c => c.name

/-- Whether the change drops out at sight: it leaves out zeros, and its value is a literal zero. -/
def isDropped : Assignment → Bool
  | assignNonZero _ value => value.isLiteralZero
  | assign _ _ | fromEntity _ => false

variable {models : EntityType → Except Error TableModel} {m : TableModel} {a : Accessor}
  {value? : Option Record} {change : Assignment}

/-- A change that drops out comes to nothing, without a look at its column. -/
theorem resolve_of_isDropped (h : change.isDropped = true) :
    change.resolve m a value? = pure none := by
  cases change with
  | assignNonZero column value => exact if_pos h
  | assign column value => cases h
  | fromEntity c => cases h

/-- What a name in an update stands for is the column of a field. -/
theorem knows_of_assignedColumn {name x : String}
    (h : (assignedColumn m name).answer models = .ok x) : m.Knows name := by
  obtain ⟨f, found, -⟩ := Inquiry.answer_bind_eq_ok.1 h
  exact TableModel.knows_of_resolve? (Inquiry.answer_require_eq_ok.1 found)

/-- Any other change comes to something only if there is such a column. By cases on the change,
since each kind of change looks its column up at another point. -/
theorem knows_of_resolve (kept : change.isDropped = false) {found : Option (String × Sql.Expr)}
    (h : (change.resolve m a value?).answer models = .ok found) : m.Knows change.target := by
  cases change with
  | assign column value =>
    obtain ⟨x, answer, -⟩ := Inquiry.answer_bind_eq_ok.1 h
    exact knows_of_assignedColumn answer
  | assignNonZero column value =>
    have nonzero : ¬value.isLiteralZero = true := Bool.eq_false_iff.1 kept
    rw [resolve, if_neg nonzero] at h
    obtain ⟨x, answer, -⟩ := Inquiry.answer_bind_eq_ok.1 h
    exact knows_of_assignedColumn answer
  | fromEntity c =>
    obtain ⟨-, -, h⟩ := Inquiry.answer_bind_eq_ok.1 h
    obtain ⟨r, -, h⟩ := Inquiry.answer_bind_eq_ok.1 h
    obtain ⟨f, answer, -⟩ := Inquiry.answer_bind_eq_ok.1 h
    exact TableModel.knows_of_resolve? (Inquiry.answer_require_eq_ok.1 answer)

end Assignment

/-! ### Lists of changes -/

section Changes

variable {models : EntityType → Except Error TableModel} {m : TableModel} {a : Accessor}
  {value? : Option Record} {changes : List Assignment}

/-- If a list of changes resolves, so does each of them. -/
theorem exists_resolved_of_mem {resolved : List (String × Sql.Expr)}
    (h : (resolveAssignments m a value? changes).answer models = .ok resolved)
    {change : Assignment} (mem : change ∈ changes) :
    ∃ found, (change.resolve m a value?).answer models = .ok found := by
  induction changes generalizing resolved with
  | nil => cases mem
  | cons first rest ih =>
    obtain ⟨found, here, h⟩ := Inquiry.answer_bind_eq_ok.1 h
    obtain ⟨more, later, -⟩ := Inquiry.answer_bind_eq_ok.1 h
    rcases List.mem_cons.1 mem with rfl | mem
    · exact ⟨found, here⟩
    · exact ih later mem

/-- Changes that drop out leave no trace. -/
theorem resolveAssignments_dropped (m : TableModel) (a : Accessor) (value? : Option Record)
    (changes : List Assignment) :
    resolveAssignments m a value? changes =
      resolveAssignments m a value? (changes.filter fun change => !change.isDropped) := by
  induction changes with
  | nil => rfl
  | cons first rest ih =>
    cases dropped : first.isDropped with
    | true =>
      rw [List.filter_cons_of_neg (by simp [dropped]), ← ih, resolveAssignments,
        Assignment.resolve_of_isDropped dropped, pure_bind]
      simp
    | false =>
      rw [List.filter_cons_of_pos (by simp [dropped]), resolveAssignments, resolveAssignments, ih]

end Changes

/-- **Unknown columns.** An update of a type that has a model is not built if one of its changes is
of a column that the model does not know, unless this is an assignment of a literal zero that leaves
out zeros. As for those, the update is built as if they were not there, or fails with the same
error, whatever columns they name. -/
theorem unknown_columns_refused (db : Database) (store : Store) {e : EntityType}
    {options : List ModelOption} {m : TableModel} (derived : e.deriveModel options = .ok m)
    (effective : store.registry.effective e = .ok m) (value? : Option Record)
    (changes : List Assignment) (filter : List Predicate) :
    ((∃ change ∈ changes, ¬m.Knows change.target ∧ change.isDropped = false) →
      ∀ q, ((db.buildUpdate ⟨e, value?, .list changes, filter⟩).exec store).1 ≠ .ok q) ∧
    ((db.buildUpdate ⟨e, value?, .list changes, filter⟩).exec store).1 =
      ((db.buildUpdate ⟨e, value?, .list (changes.filter fun change => !change.isDropped),
        filter⟩).exec store).1 := by
  constructor
  · rintro ⟨change, mem, unknown, kept⟩ q built
    obtain ⟨t, resolved, -⟩ := Database.buildUpdate_ok built
    obtain ⟨m', known, a, -, resolved, answer, -⟩ := Update.resolve_eq_ok.1 resolved
    cases effective.symm.trans known
    obtain ⟨found, here⟩ := exists_resolved_of_mem answer mem
    exact unknown (Assignment.knows_of_resolve kept here)
  · have hm := EntityType.derivedFrom derived
    rw [Database.buildUpdate_result, Database.buildUpdate_result,
      Update.answer_resolve hm effective, Update.answer_resolve hm effective, Assignments.entries,
      Assignments.entries, resolveAssignments_dropped]

namespace Sample

/-- Changes of persons, the second of a column that they do not have. -/
def misnamed : List Assignment :=
  [.assign "age" (.literal (.int32 40)), .fromEntity (.bare "size")]

/-- Changes of the same columns, the first of which may be left out. -/
def resized (size : Int32) : List Assignment :=
  [.assignNonZero "size" (.literal (.int32 size)), .assign "age" (.literal (.int32 40))]

theorem not_knows_size : ¬(models person).Knows "size" :=
  TableModel.resolve?_eq_none.1 (by decide +kernel)

end Sample

theorem sample_unknown_columns :
    Sample.person.deriveModel [] = .ok (Sample.models Sample.person) ∧
      Registry.empty.effective Sample.person = .ok (Sample.models Sample.person) ∧
      (∃ change ∈ Sample.misnamed,
        ¬(Sample.models Sample.person).Knows change.target ∧ change.isDropped = false) ∧
      (∀ q, ((Sample.database.buildUpdate
          ⟨Sample.person, none, .list Sample.misnamed, []⟩).exec .empty).1 ≠ .ok q) ∧
      ((Sample.database.buildUpdate
          ⟨Sample.person, none, .list ((Sample.resized 0).take 1), []⟩).exec .empty).1 =
        .error .noUpdatedColumns := by
  have derived : Sample.person.deriveModel [] = .ok (Sample.models Sample.person) := by
    decide +kernel
  have effective : Registry.empty.effective Sample.person = .ok (Sample.models Sample.person) := by
    decide +kernel
  have refused (changes : List Assignment) :=
    unknown_columns_refused Sample.database .empty derived effective none changes []
  have unknown : ∃ change ∈ Sample.misnamed,
      ¬(Sample.models Sample.person).Knows change.target ∧ change.isDropped = false :=
    ⟨_, List.mem_cons_of_mem _ List.mem_cons_self, Sample.not_knows_size, rfl⟩
  refine ⟨derived, effective, unknown, (refused _).1 unknown, ?_⟩
  rw [(refused _).2]
  rfl

/-- With a zero for its value, a change of a column that does not exist is accepted. With any other
value it is refused. -/
theorem zero_hides_unknown_column :
    ¬(Sample.models Sample.person).Knows "size" ∧
      ((Sample.database.buildUpdate ⟨Sample.person, none, .list (Sample.resized 0), []⟩).exec
          .empty).1 = .ok ⟨"UPDATE \"pe?ople;\" SET \"a\"\"ge$1\" = $1;", [.int32 40]⟩ ∧
      ((Sample.database.buildUpdate ⟨Sample.person, none, .list (Sample.resized 5), []⟩).exec
          .empty).1 = .error (.unknownColumn "size") := by
  refine ⟨Sample.not_knows_size, ?_, ?_⟩
  all_goals decide +kernel

end EntitySql
