import EntitySql.Proofs.Derivation
import EntitySql.Proofs.References
import EntitySql.Proofs.Writing

/-!
# Unresolved names

A query is turned down for a name that stands for nothing, and for no other reason as long as every
type that it mentions has a model. Resolution goes through the references of the query in the order
in which they are written (`Inquiry.Follows`): it comes to a column for each one, or stops at the
first one that does not resolve.
-/

namespace EntitySql

variable {model : EntityType → TableModel}

/-! ### The first reference that does not resolve -/

/-- The error is that the name of the first reference that does not resolve is unknown. -/
def FirstUnresolved (model : EntityType → TableModel) : List Reference → Error → Prop
  | [], _ => False
  | ref :: rest, err =>
    ¬ref.Resolves model ∧ err = .unknownColumn ref.name ∨
      ref.Resolves model ∧ FirstUnresolved model rest err

theorem firstUnresolved_append {left right : List Reference} {err : Error} :
    FirstUnresolved model (left ++ right) err ↔
      FirstUnresolved model left err ∨
        (∀ ref ∈ left, ref.Resolves model) ∧ FirstUnresolved model right err := by
  induction left with
  | nil => simp [FirstUnresolved]
  | cons ref rest ih =>
    simp only [List.cons_append, FirstUnresolved, ih, List.forall_mem_cons, and_or_left, or_assoc,
      and_assoc]

/-- There is such an error if and only if some reference does not resolve. -/
theorem exists_firstUnresolved {refs : List Reference} :
    (∃ err, FirstUnresolved model refs err) ↔ ¬∀ ref ∈ refs, ref.Resolves model := by
  induction refs with
  | nil => simp [FirstUnresolved]
  | cons ref rest ih =>
    simp only [FirstUnresolved, exists_or, exists_and_left, exists_eq, and_true, ih,
      List.forall_mem_cons]
    tauto

theorem FirstUnresolved.unique {refs : List Reference} {err err' : Error}
    (h : FirstUnresolved model refs err) (h' : FirstUnresolved model refs err') : err = err' := by
  induction refs with
  | nil => exact h.elim
  | cons ref rest ih =>
    rcases h with ⟨fails, rfl⟩ | ⟨resolves, h⟩ <;> rcases h' with ⟨fails', rfl⟩ | ⟨resolves', h'⟩
    · rfl
    · exact absurd resolves' fails
    · exact absurd resolves fails'
    · exact ih h h'

theorem FirstUnresolved.isUnknownColumn {refs : List Reference} {err : Error}
    (h : FirstUnresolved model refs err) : ∃ name, err = .unknownColumn name := by
  induction refs with
  | nil => exact h.elim
  | cons ref rest ih =>
    rcases h with ⟨-, rfl⟩ | ⟨-, later⟩
    · exact ⟨ref.name, rfl⟩
    · exact ih later

theorem resolves_of_renders {refs : List Reference} {columns : List Sql.Column}
    (h : List.Forall₂ (Reference.Renders model) refs columns) :
    ∀ ref ∈ refs, ref.Resolves model := by
  induction h with
  | nil => nofun
  | cons renders _ ih =>
    exact List.forall_mem_cons.2 ⟨Reference.exists_renders.1 ⟨_, renders⟩, ih⟩

/-! ### Going through references -/

namespace Inquiry

variable {α β : Type} {refs refs' : List Reference} {before : List Sql.Column}
  {columns : α → List Sql.Column} {columns' : β → List Sql.Column}

/-- The inquiry goes through the references from left to right. It stops at the first one that does
not resolve, and else comes to a value with their columns, behind the columns from `before`. -/
def Follows (q : Inquiry α) (model : EntityType → TableModel) (refs : List Reference)
    (before : List Sql.Column) (columns : α → List Sql.Column) : Prop :=
  (∃ a found, q.answer (given model) = .ok a ∧ columns a = before ++ found ∧
      List.Forall₂ (Reference.Renders model) refs found) ∨
    ∃ err, q.answer (given model) = .error err ∧ FirstUnresolved model refs err

theorem follows_pure {a : α} (h : columns a = before) :
    (pure a : Inquiry α).Follows model [] before columns :=
  .inl ⟨a, [], rfl, by rw [h, List.append_nil], .nil⟩

theorem follows_model {e : EntityType} {next : TableModel → Inquiry α}
    (h : (next (model e)).Follows model refs before columns) :
    (Inquiry.model e >>= next).Follows model refs before columns := by
  have asked : (Inquiry.model e >>= next).answer (given model) =
      (next (model e)).answer (given model) := by
    rw [answer_bind]
    rfl
  rwa [Follows, asked]

theorem Follows.bind {q : Inquiry α} {f : α → Inquiry β} (h : q.Follows model refs [] columns)
    (h' : ∀ a, (f a).Follows model refs' (before ++ columns a) columns') :
    (q >>= f).Follows model (refs ++ refs') before columns' := by
  simp only [Follows, answer_bind]
  rcases h with ⟨a, found, answer, written, renders⟩ | ⟨err, answer, first⟩
  · rw [answer]
    rcases h' a with ⟨b, found', answer', written', renders'⟩ | ⟨err, answer', first⟩
    · refine .inl ⟨b, found ++ found', answer', ?_, List.rel_append renders renders'⟩
      rw [written', written, List.nil_append, List.append_assoc]
    · have resolve := resolves_of_renders renders
      exact .inr ⟨err, answer', firstUnresolved_append.2 (.inr ⟨resolve, first⟩)⟩
  · rw [answer]
    exact .inr ⟨err, rfl, firstUnresolved_append.2 (.inl first)⟩

/-- A last part, with no references behind it. -/
theorem Follows.last {q : Inquiry α} {f : α → Inquiry β} (h : q.Follows model refs [] columns)
    (h' : ∀ a, (f a).Follows model [] (before ++ columns a) columns') :
    (q >>= f).Follows model refs before columns' := by
  rw [← List.append_nil refs]
  exact h.bind h'

theorem follows_mapM {f : α → Inquiry β} {refs : α → List Reference}
    (h : ∀ a, (f a).Follows model (refs a) [] columns') (l : List α) :
    (l.mapM f).Follows model (l.flatMap refs) [] fun bs => bs.flatMap columns' := by
  induction l with
  | nil => exact follows_pure rfl
  | cons a rest ih =>
    rw [List.mapM_cons, List.flatMap_cons]
    exact (h a).bind fun b => ih.last fun bs => follows_pure (by simp)

end Inquiry

open Inquiry

/-! ### Single references -/

theorem Column.follows_resolve (e : EntityType) (c : Column) :
    (c.resolve (model e)).Follows model [.single e c] [] fun column => [column] := by
  rcases c.answer_resolve model (model e) with ⟨column, renders, answer⟩ | ⟨none, answer⟩
  · exact .inl ⟨column, [column], answer, rfl, .cons renders .nil⟩
  · have unresolved : ¬c.Resolves model (model e) := by
      rw [← Column.exists_renders]
      exact not_exists.2 none
    exact .inr ⟨_, answer, .inl ⟨unresolved, rfl⟩⟩

theorem firstRenders_singleton {scope : TableModel} {c : Column} {x : String} :
    FirstRenders model scope [c] x ↔ ∃ qualifier?, c.Renders model scope ⟨qualifier?, x⟩ := by
  simp [FirstRenders]

/-- Among the leaves of a source, the first one that has the column is found. -/
theorem Source.finds_column? (scope : TableModel) (name : String) : ∀ s : Source,
    (s.column? scope name).Finds model (FirstRenders model scope (s.leaves name))
  | .own => finds_pure fun x => by
    rw [TableModel.map_resolve?_eq_some, leaves, firstRenders_singleton]
    simp [Column.Renders]
  | .table entity alias? => finds_model <| finds_pure fun x => by
    rw [TableModel.map_resolve?_eq_some, leaves, firstRenders_singleton]
    simp [Column.Renders]
  | .joinWhere _ left right _ | .joinSharing _ left right _ => by
    rw [column?, leaves]
    exact ((left.finds_column? scope name).orElse (right.finds_column? scope name)).congr
      fun x => firstRenders_append.symm
  | .subquery query aliasName => (query.finds_exposed? name).congr fun x => by
    rw [leaves, firstRenders_singleton]
    simp [Column.Renders]

/-- A shared column is one that is looked for in the join. -/
theorem sharedColumn_eq (scope : TableModel) (left right : Source) (name : String) :
    sharedColumn scope left right name = (do
      let column? ← (Source.joinSharing .inner left right []).column? scope name
      Inquiry.require column? (.unknownColumn name)) := by
  rw [sharedColumn, Source.column?, bind_assoc]
  refine bind_congr fun column? => ?_
  cases column? <;> rfl

/-- A shared column is that of the first leaf of the join that has one, or its name is unknown. -/
theorem answer_sharedColumn (scope : TableModel) (left right : Source) (name : String) :
    (∃ x, FirstRenders model scope (left.leaves name ++ right.leaves name) x ∧
        (sharedColumn scope left right name).answer (given model) = .ok x) ∨
      (∀ x, ¬FirstRenders model scope (left.leaves name ++ right.leaves name) x) ∧
        (sharedColumn scope left right name).answer (given model) =
          .error (.unknownColumn name) := by
  have finds : ((Source.joinSharing .inner left right []).column? scope name).Finds model
      (FirstRenders model scope (left.leaves name ++ right.leaves name)) :=
    Source.finds_column? scope name _
  rw [sharedColumn_eq]
  exact finds.require (.unknownColumn name)

theorem follows_sharedColumn (e : EntityType) (left right : Source) (name : String) :
    (sharedColumn (model e) left right name).Follows model
      [.shared e (left.leaves name ++ right.leaves name) name] [] fun x => [⟨none, x⟩] := by
  rcases answer_sharedColumn (model e) left right name with
    ⟨x, renders, answer⟩ | ⟨none, answer⟩
  · exact .inl ⟨x, _, answer, rfl, .cons ⟨rfl, renders⟩ .nil⟩
  · have unresolved : ¬∃ leaf ∈ left.leaves name ++ right.leaves name,
        leaf.Resolves model (model e) := by
      rw [← exists_firstRenders]
      exact not_exists.2 none
    exact .inr ⟨_, answer, .inl ⟨unresolved, rfl⟩⟩

theorem Term.follows_resolve (e : EntityType) (t : Term) :
    (t.resolve (model e)).Follows model (t.references e) [] Sql.Term.columns := by
  cases t with
  | column c => exact (c.follows_resolve e).last fun _ => follows_pure rfl
  | aggregate fn argument => exact (argument.follows_resolve e).last fun _ => follows_pure rfl
  | countAll => exact follows_pure rfl

theorem Selection.follows_resolve (e : EntityType) (s : Selection) :
    (s.resolve (model e)).Follows model (s.term.references e) [] fun t => t.term.columns :=
  (s.term.follows_resolve e).last fun _ => follows_pure rfl

/-! ### Whole queries -/

mutual

/-- Resolving a query goes through its references. By induction on the tree: each part adds the
columns of its references to those of the parts before it. -/
theorem Select.follows_resolve : ∀ s : Select,
    s.resolve.Follows model s.references [] Sql.Select.columns
  | ⟨entity, selections, source, filter, groupBy, having, limit, offset⟩ => by
    simp only [Select.resolve, Select.references, List.append_assoc, List.map_eq_flatMap]
    refine follows_model ?_
    refine (follows_mapM (Selection.follows_resolve entity) selections).bind fun _ => ?_
    refine (source.follows_resolve entity).bind fun _ => ?_
    refine (follows_resolvePredicates entity filter).bind fun _ => ?_
    refine (follows_mapM (Column.follows_resolve entity) groupBy).bind fun _ => ?_
    exact (follows_resolvePredicates entity having).last fun _ => follows_pure <| by
      simp [Sql.Select.columns, Sql.Filter.columns_conjunction]

theorem Source.follows_resolve (e : EntityType) : ∀ s : Source,
    (s.resolve (model e)).Follows model (s.references e) [] Sql.Source.columns
  | .own => follows_pure rfl
  | .table _ _ => follows_model (follows_pure rfl)
  | .joinWhere kind left right predicates => by
    simp only [Source.resolve, Source.references, List.append_assoc]
    refine (left.follows_resolve e).bind fun _ => ?_
    refine (right.follows_resolve e).bind fun _ => ?_
    refine (follows_resolvePredicates e predicates).last fun ps => ?_
    -- Without predicates the join has no condition, and there are no columns to write.
    rw [← Sql.Filter.columns_conjunction]
    cases Sql.Filter.conjunction ps with
    | all => exact follows_pure (by simp [Sql.Source.columns, Sql.Filter.columns,
        Sql.JoinCondition.columns])
    | only p => exact follows_pure (by simp [Sql.Source.columns, Sql.Filter.columns,
        Sql.JoinCondition.columns])
  | .joinSharing kind left right columns => by
    simp only [Source.resolve, Source.references, List.append_assoc, List.map_eq_flatMap]
    refine (left.follows_resolve e).bind fun _ => ?_
    refine (right.follows_resolve e).bind fun _ => ?_
    refine (follows_mapM (follows_sharedColumn e left right) columns).last fun shared => ?_
    cases shared with
    | nil => exact follows_pure (by simp [Sql.Source.columns, Sql.JoinCondition.columns])
    | cons first rest => exact follows_pure (by
        simp [Sql.Source.columns, Sql.JoinCondition.columns, List.map_eq_flatMap])
  | .subquery query _ => query.follows_resolve.last fun _ => follows_pure rfl

theorem follows_resolvePredicates (e : EntityType) : ∀ predicates : List Predicate,
    (resolvePredicates (model e) predicates).Follows model (predicateReferences e predicates) []
      fun ps => ps.flatMap Sql.Predicate.columns
  | [] => follows_pure rfl
  | p :: rest => by
    rw [resolvePredicates, predicateReferences]
    refine (p.follows_resolve e).bind fun _ => ?_
    exact (follows_resolvePredicates e rest).last fun _ => follows_pure rfl

theorem Predicate.follows_resolve (e : EntityType) : ∀ p : Predicate,
    (p.resolve (model e)).Follows model (p.references e) [] Sql.Predicate.columns
  | .compare _ left right => by
    rw [Predicate.resolve, Predicate.references]
    exact (left.follows_resolve e).bind fun _ =>
      (right.follows_resolve e).last fun _ => follows_pure rfl
  | .member left query => by
    rw [Predicate.resolve, Predicate.references]
    exact (left.follows_resolve e).bind fun _ =>
      query.follows_resolve.last fun _ => follows_pure rfl
  | .not p => by
    rw [Predicate.resolve, Predicate.references]
    exact (p.follows_resolve e).last fun _ => follows_pure rfl
  | .exists query => by
    rw [Predicate.resolve, Predicate.references]
    exact query.follows_resolve.last fun _ => follows_pure rfl
  | .and p q | .or p q => by
    rw [Predicate.resolve, Predicate.references]
    exact (p.follows_resolve e).bind fun _ => (q.follows_resolve e).last fun _ => follows_pure rfl

theorem Expr.follows_resolve (e : EntityType) : ∀ value : Expr,
    (value.resolve (model e)).Follows model (value.references e) [] Sql.Expr.columns
  | .term t => by
    rw [Expr.resolve, Expr.references]
    exact (t.follows_resolve e).last fun _ => follows_pure rfl
  | .literal _ => follows_pure rfl
  | .predicate p => by
    rw [Expr.resolve, Expr.references]
    exact (p.follows_resolve e).last fun _ => follows_pure rfl
  | .subquery query | .quantified _ query => by
    rw [Expr.resolve, Expr.references]
    exact query.follows_resolve.last fun _ => follows_pure rfl

end

/-! ### Registries -/

/-- Put to a registry whose models are the ones given, an inquiry has the same outcome as if every
type had the model given for it, unless it asks for a model that is missing. -/
theorem Inquiry.Confined.answer_given {α : Type} {P : EntityType → Prop} {q : Inquiry α}
    (h : q.Confined P) {models : EntityType → Except Error TableModel}
    (agrees : ∀ e, P e → ∀ m, models e = .ok m → model e = m) :
    q.answer models = q.answer (given model) ∨
      ∃ e cause, P e ∧ models e = .error cause ∧
        q.answer models = .error (.modelNotFound e.shortName cause) := by
  induction q with
  | done result => exact .inl rfl
  | ask e next ih =>
    simp only [answer, given]
    cases hm : models e with
    | ok m =>
      rw [agrees e h.1 m hm]
      exact ih m (h.2 m)
    | error cause => exact .inr ⟨e, cause, h.1, hm, rfl⟩

/-- A type has no model because it has no members or because they make up no table. -/
theorem Registry.error_of_effective {r : Registry} {e : EntityType} {cause : Error}
    (h : r.effective e = .error cause) :
    cause = .unsupportedType e.typeName ∨ ∃ fault, cause = .invalidModel e.typeName fault := by
  unfold effective at h
  cases hf : r.find? e with
  | some m =>
    rw [hf] at h
    cases h
  | none =>
    rw [hf] at h
    rcases EntityType.error_of_deriveModel h with unmapped | ⟨field, stray, -⟩ | fault
    · exact .inl unmapped
    · cases stray
    · exact .inr fault

/-- A query is built from the columns of its references, or its first reference that does not resolve
is in the way, or a type that it mentions has no model. -/
theorem Database.buildSelect_cases (db : Database) (store : Store) (s : Select)
    (agrees : ∀ e ∈ s.mentions, ∀ m, store.registry.effective e = .ok m → model e = m) :
    (∃ t : Sql.Select, ((db.buildSelect s).exec store).1 = .ok (db.dialect.query t.lexemes) ∧
        List.Forall₂ (Reference.Renders model) s.references t.columns) ∨
      (∃ err, ((db.buildSelect s).exec store).1 = .error err ∧
        FirstUnresolved model s.references err) ∨
      ∃ e ∈ s.mentions, ∃ cause, store.registry.effective e = .error cause ∧
        ((db.buildSelect s).exec store).1 = .error (.modelNotFound e.shortName cause) := by
  rw [buildSelect_result]
  rcases (s.confined_resolve fun _ he => he).answer_given agrees with
    same | ⟨e, cause, mentioned, missing, answer⟩
  · rw [same]
    rcases s.follows_resolve with ⟨t, found, answer, written, renders⟩ | ⟨err, answer, first⟩
    · exact .inl ⟨t, by rw [answer]; rfl, written ▸ renders⟩
    · exact .inr (.inl ⟨err, by rw [answer]; rfl, first⟩)
  · exact .inr (.inr ⟨e, mentioned, cause, missing, by rw [answer]; rfl⟩)

/-- **Unresolved names.** Where all types that a query mentions have models, it is built if and only
if all of its references resolve, and else the error is that the name of the first one that does not
is unknown. A query that is built has the columns of its references in their places. The only other
error is that a type which is mentioned has no model. -/
theorem select_fails_on_unresolved_name (db : Database) (store : Store) (s : Select)
    (model : EntityType → TableModel)
    (agrees : ∀ e ∈ s.mentions, ∀ m, store.registry.effective e = .ok m → model e = m) :
    ((∀ e ∈ s.mentions, ∃ m, store.registry.effective e = .ok m) →
      ((∃ q, ((db.buildSelect s).exec store).1 = .ok q) ↔
        ∀ ref ∈ s.references, ref.Resolves model) ∧
      ∀ err, ((db.buildSelect s).exec store).1 = .error err ↔
        FirstUnresolved model s.references err) ∧
    (∀ q, ((db.buildSelect s).exec store).1 = .ok q → ∃ t : Sql.Select,
      q = db.dialect.query t.lexemes ∧ (Sql.columnLexemes t.columns).Sublist t.lexemes ∧
        List.Forall₂ (Reference.Renders model) s.references t.columns) ∧
    ∀ err, ((db.buildSelect s).exec store).1 = .error err →
      FirstUnresolved model s.references err ∨
        ∃ e ∈ s.mentions, ∃ cause, store.registry.effective e = .error cause ∧
          err = .modelNotFound e.shortName cause ∧
            (cause = .unsupportedType e.typeName ∨
              ∃ fault, cause = .invalidModel e.typeName fault) := by
  rcases db.buildSelect_cases store s agrees with
    ⟨t, built, renders⟩ | ⟨err, failed, first⟩ | ⟨e, mentioned, cause, missing, failed⟩
  · have resolve := resolves_of_renders renders
    rw [built]
    refine ⟨fun _ => ⟨iff_of_true ⟨_, rfl⟩ resolve, fun err => iff_of_false nofun ?_⟩, ?_, nofun⟩
    · exact fun first => exists_firstUnresolved.1 ⟨err, first⟩ resolve
    · rintro q ⟨⟩
      exact ⟨t, rfl, t.sublist_lexemes, renders⟩
  · rw [failed]
    refine ⟨fun _ => ⟨iff_of_false ?_ ?_, fun err' => ?_⟩, nofun, ?_⟩
    · rintro ⟨q, ⟨⟩⟩
    · exact exists_firstUnresolved.1 ⟨err, first⟩
    · rw [Except.error.injEq]
      exact ⟨fun same => same ▸ first, first.unique⟩
    · rintro _ ⟨⟩
      exact .inl first
  · rw [failed]
    refine ⟨fun known => ?_, nofun, ?_⟩
    · obtain ⟨m, found⟩ := known e mentioned
      rw [missing] at found
      cases found
    · rintro _ ⟨⟩
      exact .inr ⟨e, mentioned, cause, missing, rfl, Registry.error_of_effective missing⟩

namespace Sample

theorem models_eq {e : EntityType} {m : TableModel} (h : Registry.empty.effective e = .ok m) :
    models e = m := by
  rw [models, h]
  rfl

/-- A type without members. -/
def nothing : EntityType :=
  { person with shortName := "Nothing", typeName := "Nothing", fields := [] }

/-- People joined with a subquery by a column that goes by `name`, where `wanted` is equal to a column
of the subquery. -/
def matching (name : String) (wanted : Column) : Select :=
  { person.rows with
    source := .joinSharing .inner .own (.subquery crossing "c") [name]
    filter := [.compare .eq (.column wanted) (.term (.column (.ofSubquery crossing "c" "right")))] }

end Sample

theorem sample_rejections :
    (∀ e ∈ (Sample.matching "left" (.bare "age")).mentions,
        ∃ m, Registry.empty.effective e = .ok m) ∧
      (∀ ref ∈ (Sample.matching "left" (.bare "age")).references, ref.Resolves Sample.models) ∧
      (∀ e ∈ (Sample.matching "weight" (.bare "size")).mentions,
        ∃ m, Registry.empty.effective e = .ok m) ∧
      FirstUnresolved Sample.models (Sample.matching "weight" (.bare "size")).references
        (.unknownColumn "weight") ∧
      ∃ e ∈ (Sample.matching "left" (.ofTable Sample.nothing none "size")).mentions, ∃ cause,
        Registry.empty.effective e = .error cause ∧ ((Sample.database.buildSelect
          (Sample.matching "left" (.ofTable Sample.nothing none "size"))).exec .empty).1 =
            .error (.modelNotFound e.shortName cause) := by
  have rejects (s : Select) := select_fails_on_unresolved_name Sample.database .empty s
    Sample.models fun _ _ _ h => Sample.models_eq h
  have known : ∀ e ∈ (Sample.matching "left" (.bare "age")).mentions,
      Registry.empty.effective e = .ok (Sample.models e) := by
    decide +kernel
  have built : ((Sample.database.buildSelect (Sample.matching "left" (.bare "age"))).exec
      .empty).1 = .ok ⟨"SELECT * FROM (\"pe?ople;\" JOIN (SELECT \"left\" FROM \"swapped\") AS " ++
        "\"c\" USING (\"left\")) WHERE \"a\"\"ge$1\" = \"c\".\"left\";", []⟩ := by
    decide +kernel
  have known' : ∀ e ∈ (Sample.matching "weight" (.bare "size")).mentions,
      Registry.empty.effective e = .ok (Sample.models e) := by
    decide +kernel
  have failed : ((Sample.database.buildSelect (Sample.matching "weight" (.bare "size"))).exec
      .empty).1 = .error (.unknownColumn "weight") := by
    decide +kernel
  have missing : ((Sample.database.buildSelect
      (Sample.matching "left" (.ofTable Sample.nothing none "size"))).exec .empty).1 =
        .error (.modelNotFound "Nothing" (.unsupportedType "Nothing")) := by
    decide +kernel
  refine ⟨fun e he => ⟨_, known e he⟩, ?_, fun e he => ⟨_, known' e he⟩, ?_, ?_⟩
  · exact ((rejects _).1 fun e he => ⟨_, known e he⟩).1.1 ⟨_, built⟩
  · exact (((rejects _).1 fun e he => ⟨_, known' e he⟩).2 _).1 failed
  · rcases (rejects _).2.2 _ missing with first | ⟨e, mentioned, cause, lacks, same, -⟩
    · obtain ⟨name, unknown⟩ := first.isUnknownColumn
      cases unknown
    · exact ⟨e, mentioned, cause, lacks, same ▸ missing⟩

end EntitySql
