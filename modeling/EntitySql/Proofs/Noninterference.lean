import EntitySql.Proofs.Anonymity
import EntitySql.Proofs.PartialUpdate
import EntitySql.Proofs.ReadBack

/-!
# Values and texts

Values do not get into the text of a statement. The text, and the number of arguments, depend only
on what the lexemes show, and these show nothing but a hole where a value stands. So statements that
are equal with holes in them are built alike (`values_stay_arguments`), whatever their literals are
and whatever an updated record holds. Only a change that leaves out zeros goes by its value, and of
that by no more than whether it is zero.

For queries this follows from what resolution does to holes. For updates two resolutions are
followed step by step, and after each step their results look alike (`Alike.bind`).
-/

namespace EntitySql

open Sql (boundValues commaSeparated parenthesized Lexeme Word)

/-! ### What texts depend on -/

theorem Dialect.write_shown (d : Dialect) (n : Nat) (lexemes : List Lexeme) :
    d.write n (lexemes.map Lexeme.shown) = d.write n lexemes := by
  induction lexemes generalizing n with
  | nil => rfl
  | cons first rest ih =>
    cases first with
    | word w =>
      by_cases h : w = .assign
      · rw [h, List.map_cons, Lexeme.shown, write, write, ih]
        rfl
      · rw [List.map_cons, Lexeme.shown_word h, write, write, ih]
    | name s => rw [List.map_cons, Lexeme.shown_name, write, write, ih]
    | value v => rw [List.map_cons, Lexeme.shown_value, write, write, ih]

theorem length_boundValues_shown (lexemes : List Lexeme) :
    (boundValues (lexemes.map Lexeme.shown)).length = (boundValues lexemes).length := by
  induction lexemes with
  | nil => rfl
  | cons first rest ih =>
    cases first with
    | word w =>
      by_cases h : w = .assign
      · rw [h, List.map_cons, Lexeme.shown]
        exact ih
      · rw [List.map_cons, Lexeme.shown_word h]
        exact ih
    | name s => exact ih
    | value v => exact congrArg (· + 1) ih

/-- Statements whose lexemes show the same have one text, and as many arguments. -/
theorem Dialect.query_of_shown (d : Dialect) {left right : List Lexeme}
    (h : left.map Lexeme.shown = right.map Lexeme.shown) :
    (d.query left).sql = (d.query right).sql ∧
      (d.query left).args.length = (d.query right).args.length := by
  constructor
  · rw [← String.toList_inj, query_sql, query_sql, ← d.write_shown 0 left, h, d.write_shown]
  · show (boundValues left).length = (boundValues right).length
    rw [← length_boundValues_shown left, h, length_boundValues_shown]

/-! ### What holes show -/

namespace Sql

theorem shown_rowCountLexemes (w : Word) (n : Nat) :
    (rowCountLexemes w (min n 1)).map Lexeme.shown = (rowCountLexemes w n).map Lexeme.shown := by
  by_cases h : n = 0
  · rw [h]
    rfl
  · have some_rows : ¬min n 1 = 0 := by omega
    rw [rowCountLexemes, rowCountLexemes, if_neg h, if_neg some_rows]
    rfl

mutual

theorem Source.shown_anonymous (s : Source) :
    s.anonymous.lexemes.map Lexeme.shown = s.lexemes.map Lexeme.shown := by
  cases s with
  | table name alias? => rfl
  | join kind left right condition =>
    simp only [Source.anonymous, Source.lexemes, map_shown_parenthesized, List.map_append,
      List.map_cons, left.shown_anonymous, right.shown_anonymous, condition.shown_anonymous]
  | subquery query aliasName =>
    simp only [Source.anonymous, Source.lexemes, map_shown_parenthesized, List.map_append,
      query.shown_anonymous]

theorem JoinCondition.shown_anonymous (c : JoinCondition) :
    c.anonymous.lexemes.map Lexeme.shown = c.lexemes.map Lexeme.shown := by
  cases c with
  | unconditional => rfl
  | holds p =>
    simp only [JoinCondition.anonymous, JoinCondition.lexemes, List.map_cons, p.shown_anonymous]
  | sharing columns => rfl

/-- The lexemes of a query show the same with holes. -/
theorem Select.shown_anonymous (s : Select) :
    s.anonymous.lexemes.map Lexeme.shown = s.lexemes.map Lexeme.shown := by
  obtain ⟨selections, source, filter, groupBy, having, limit, offset⟩ := s
  simp only [Select.anonymous, Select.lexemes, List.map_append, List.map_cons,
    source.shown_anonymous, filter.shown_anonymous, having.shown_anonymous, shown_rowCountLexemes]

theorem Filter.shown_anonymous (w : Word) (f : Filter) :
    (f.anonymous.lexemes w).map Lexeme.shown = (f.lexemes w).map Lexeme.shown := by
  cases f with
  | all => rfl
  | only p => simp only [Filter.anonymous, Filter.lexemes, List.map_cons, p.shown_anonymous]

theorem Predicate.shown_anonymous (p : Predicate) :
    p.anonymous.lexemes.map Lexeme.shown = p.lexemes.map Lexeme.shown := by
  cases p with
  | compare op left right =>
    simp only [Predicate.anonymous, Predicate.lexemes, List.map_append, List.map_cons,
      right.shown_operand]
  | member left query =>
    simp only [Predicate.anonymous, Predicate.lexemes, map_shown_parenthesized, List.map_append,
      List.map_cons, query.shown_anonymous]
  | not p =>
    simp only [Predicate.anonymous, Predicate.lexemes, map_shown_parenthesized, List.map_cons,
      p.shown_anonymous]
  | «exists» query =>
    simp only [Predicate.anonymous, Predicate.lexemes, map_shown_parenthesized, List.map_cons,
      query.shown_anonymous]
  | and p q | or p q =>
    simp only [Predicate.anonymous, Predicate.lexemes, map_shown_parenthesized, List.map_append,
      List.map_cons, p.shown_anonymous, q.shown_anonymous]

theorem Expr.shown_anonymous (e : Expr) :
    e.anonymous.lexemes.map Lexeme.shown = e.lexemes.map Lexeme.shown := by
  cases e with
  | term t => rfl
  | literal v => rfl
  | predicate p => exact p.shown_anonymous
  | subquery query =>
    simp only [Expr.anonymous, Expr.lexemes, map_shown_parenthesized, query.shown_anonymous]
  | quantified q query =>
    simp only [Expr.anonymous, Expr.lexemes, map_shown_parenthesized, List.map_cons,
      query.shown_anonymous]

theorem Expr.shown_operand (e : Expr) :
    e.anonymous.operandLexemes.map Lexeme.shown = e.operandLexemes.map Lexeme.shown := by
  cases e with
  | term t => rfl
  | literal v => rfl
  | predicate p =>
    simp only [Expr.anonymous, Expr.operandLexemes, map_shown_parenthesized, p.shown_anonymous]
  | subquery query =>
    simp only [Expr.anonymous, Expr.operandLexemes, map_shown_parenthesized,
      query.shown_anonymous]
  | quantified q query =>
    simp only [Expr.anonymous, Expr.operandLexemes, map_shown_parenthesized, List.map_cons,
      query.shown_anonymous]

end

/-- So do the lexemes of an update. -/
theorem Update.shown_anonymous (u : Update) :
    u.anonymous.lexemes.map Lexeme.shown = u.lexemes.map Lexeme.shown := by
  have change : ∀ (column : String) (value : Expr),
      (Lexeme.name column :: .word .assign :: value.anonymous.lexemes).map Lexeme.shown =
        (Lexeme.name column :: .word .assign :: value.lexemes).map Lexeme.shown := by
    intro column value
    rw [List.map_cons, List.map_cons, value.shown_anonymous, List.map_cons, List.map_cons]
  simp only [Update.anonymous, Update.lexemes, List.map_cons, List.map_append,
    map_shown_commaSeparated, List.map_map, u.filter.shown_anonymous .filter]
  refine congrArg (fun changes => _ :: _ :: _ :: (commaSeparated changes ++ _)) ?_
  exact List.map_congr_left fun x _ => change x.1 x.2

end Sql

/-! ### Results that look alike -/

section Alike

variable {ε α β γ δ : Type} {x y : Except ε α} {v : α → γ}

/-- Both results are the same error, or values that are equal in a view of them. -/
def Alike (v : α → γ) (x y : Except ε α) : Prop :=
  x.map v = y.map v

theorem Alike.refl (x : Except ε α) : Alike id x x :=
  rfl

theorem Alike.cases (h : Alike v x y) :
    (∃ err, x = .error err ∧ y = .error err) ∨ ∃ a b, x = .ok a ∧ y = .ok b ∧ v a = v b := by
  cases x with
  | error err =>
    cases y with
    | error err' =>
      cases h
      exact .inl ⟨err, rfl, rfl⟩
    | ok b => cases h
  | ok a =>
    cases y with
    | error err' => cases h
    | ok b => exact .inr ⟨a, b, rfl, rfl, Except.ok.inj h⟩

/-- Computations in two parts look alike if what looks alike after the first part does so after the
second one. -/
theorem Alike.bind {f g : α → Except ε β} {w : β → δ} (h : Alike v x y)
    (more : ∀ a b, x = .ok a → y = .ok b → v a = v b → Alike w (f a) (g b)) :
    Alike w (x >>= f) (y >>= g) := by
  rcases h.cases with ⟨err, rfl, rfl⟩ | ⟨a, b, rfl, rfl, same⟩
  · rfl
  · exact more a b rfl rfl same

theorem Inquiry.answer_map (models : EntityType → Except Error TableModel) (f : α → β)
    (q : Inquiry α) : (f <$> q).answer models = (q.answer models).map f := by
  rw [map_eq_pure_bind, answer_bind]
  cases q.answer models <;> rfl

/-- Inquiries that are the same in a view of their results have answers that look alike. -/
theorem Alike.answer {q q' : Inquiry α} (models : EntityType → Except Error TableModel)
    (h : v <$> q = v <$> q') : Alike v (q.answer models) (q'.answer models) := by
  rw [Alike, ← Inquiry.answer_map, ← Inquiry.answer_map, h]

end Alike

/-! ### What becomes of an update -/

/-- A change with holes. -/
def Assignment.anonymous : Assignment → Assignment
  | .assign column value => .assign column value.anonymous
  | .assignNonZero column value => .assignNonZero column value.anonymous
  | .fromEntity c => .fromEntity c.anonymous

def Assignments.anonymous : Assignments → Assignments
  | .list entries => .list (entries.map Assignment.anonymous)
  | .nonZeroFields => .nonZeroFields

/-- Whether a change leaves out a zero, which is a literal or in a field of the updated record. -/
def Assignment.isZero (m : TableModel) (a : Accessor) (value? : Option Record) :
    Assignment → Bool
  | .assign _ _ => false
  | .assignNonZero _ value => value.isLiteralZero
  | .fromEntity c =>
    match value?, m.resolve? c.name with
    | some r, some f => (a.get r f.field).toOption.any f.type.isZero
    | _, _ => false

/-- Updates that differ only in their literals and in what the updated records hold. -/
structure Update.SameShape (u u' : Update) : Prop where
  entity : u.entity = u'.entity
  /-- Either update takes values from a record of the same members, or neither takes any. -/
  places : u.value?.map Record.places = u'.value?.map Record.places
  assignments : u.assignments.anonymous = u'.assignments.anonymous
  filter : anonymousPredicates u.filter = anonymousPredicates u'.filter

/-- Updates that leave out zeros in the same changes, over a model and by an accessor. -/
def Update.SameZeros (u u' : Update) (m : TableModel) (a : Accessor) : Prop :=
  (u.assignments.entries m).map (·.isZero m a u.value?) =
    (u'.assignments.entries m).map (·.isZero m a u'.value?)

/-- Whether a member can be read depends on the places of the members alone. -/
theorem Accessor.get_places {r r' : Record} (h : r.places = r'.places) (a : Accessor)
    (name : String) : Alike (fun _ => ()) (a.get r name) (a.get r' name) := by
  have found : ∀ p : Place → Bool,
      ((r.cells.find? fun c => p c.place).map (·.value)).map (fun _ => ()) =
        ((r'.cells.find? fun c => p c.place).map (·.value)).map fun _ => () := by
    intro p
    have places := congrArg (fun places => (places.find? p).map fun _ => ()) h
    simp only [Record.places, List.find?_map, Option.map_map] at places ⊢
    exact places
  have byName : ∀ n, (r.get? n).map (fun _ => ()) = (r'.get? n).map fun _ => () :=
    fun n => found fun place => place.name == n
  have byPlace : ∀ type offset,
      (r.load? type offset).map (fun _ => ()) = (r'.load? type offset).map fun _ => () :=
    fun type offset => found fun place => place.offset == offset && place.type == type
  unfold get
  cases a.model.resolve? name with
  | none => rfl
  | some f =>
    cases a.strategy with
    | reflective =>
      have same := byName f.field
      dsimp only
      generalize r.get? f.field = value?, r'.get? f.field = value?' at same ⊢
      cases value? <;> cases value?' <;> first | rfl | cases same
    | direct =>
      have same := byPlace f.type f.offset
      dsimp only
      generalize r.load? f.type f.offset = value?, r'.load? f.type f.offset = value?' at same ⊢
      cases value? <;> cases value?' <;> first | rfl | cases same

theorem Column.name_anonymous (c : Column) : c.anonymous.name = c.name := by
  cases c <;> rfl

theorem Column.checkOwn_anonymous (m : TableModel) (c : Column) :
    c.anonymous.checkOwn m = c.checkOwn m := by
  cases c <;> rfl

theorem Assignments.entries_anonymous (m : TableModel) (assignments : Assignments) :
    assignments.anonymous.entries m = (assignments.entries m).map Assignment.anonymous := by
  cases assignments with
  | list entries => rfl
  | nonZeroFields =>
    rw [anonymous, entries, List.map_map]
    rfl

theorem Assignments.eq_nil_of_anonymous {assignments : Assignments}
    (h : assignments.anonymous = .list []) : assignments = .list [] := by
  cases assignments with
  | list entries =>
    have none_left : entries.map Assignment.anonymous = [] := Assignments.list.inj h
    rw [List.map_eq_nil_iff.1 none_left]
  | nonZeroFields => cases h

/-- An assignment with a hole for each literal. -/
def Sql.anonymousChange (change : String × Sql.Expr) : String × Sql.Expr :=
  (change.1, change.2.anonymous)

section Resolving

open Sql (anonymousChange)

variable {m : TableModel} {a : Accessor} {value? value?' : Option Record}
  (models : EntityType → Except Error TableModel)

/-- A column is set to expressions that are the same but for literals. -/
theorem resolve_assign_alike (a : Accessor) (value? value?' : Option Record) (column : String)
    {value value' : Expr} (h : value.anonymous = value'.anonymous) :
    Alike (Option.map anonymousChange)
      (((Assignment.assign column value).resolve m a value?).answer models)
      (((Assignment.assign column value').resolve m a value?').answer models) := by
  have holes : Alike Sql.Expr.anonymous ((value.resolve m).answer models)
      ((value'.resolve m).answer models) := by
    refine Alike.answer models ?_
    rw [← value.resolve_anonymous, h, value'.resolve_anonymous]
  simp only [Assignment.resolve, Inquiry.answer_bind]
  refine (Alike.refl _).bind fun column column' _ _ hc => ?_
  refine holes.bind fun expr expr' _ _ he => ?_
  cases hc
  exact congrArg (fun expr => Except.ok (some (column, expr))) he

/-- A column is set to whatever two records hold in a member, unless that is zero. -/
theorem resolve_fromEntity_alike {c c' : Column} (hc : c.anonymous = c'.anonymous)
    (hp : value?.map Record.places = value?'.map Record.places)
    (hz : (Assignment.fromEntity c).isZero m a value? =
      (Assignment.fromEntity c').isZero m a value?') :
    Alike (Option.map anonymousChange)
      (((Assignment.fromEntity c).resolve m a value?).answer models)
      (((Assignment.fromEntity c').resolve m a value?').answer models) := by
  have name : c.name = c'.name := by rw [← c.name_anonymous, hc, c'.name_anonymous]
  have check : c.checkOwn m = c'.checkOwn m := by
    rw [← c.checkOwn_anonymous, hc, c'.checkOwn_anonymous]
  have records : ∀ err, Alike Record.places ((Inquiry.require value? err).answer models)
      ((Inquiry.require value?' err).answer models) := by
    intro err
    cases value? with
    | none =>
      cases value?' with
      | none => rfl
      | some r' => cases hp
    | some r =>
      cases value?' with
      | none => cases hp
      | some r' => exact congrArg Except.ok (Option.some.inj hp)
  simp only [Assignment.resolve, Inquiry.answer_bind, name, check]
  refine (Alike.refl _).bind fun _ _ _ _ _ => ?_
  refine (records _).bind fun r r' hr hr' places => ?_
  refine (Alike.refl _).bind fun f f' hf _ same => ?_
  cases same
  refine (Accessor.get_places places a f.field).bind fun v v' hv hv' _ => ?_
  have zero : f.type.isZero v = f.type.isZero v' := by
    simpa only [Assignment.isZero, Inquiry.answer_require_eq_ok.1 hr,
      Inquiry.answer_require_eq_ok.1 hr', name, Inquiry.answer_require_eq_ok.1 hf,
      show a.get r f.field = .ok v from hv, show a.get r' f.field = .ok v' from hv',
      Except.toOption, Option.any_some] using hz
  rw [zero]
  cases f.type.isZero v' <;> rfl

/-- A change comes to the same, but for literals. -/
theorem resolve_change_alike {change change' : Assignment}
    (hs : change.anonymous = change'.anonymous)
    (hp : value?.map Record.places = value?'.map Record.places)
    (hz : change.isZero m a value? = change'.isZero m a value?') :
    Alike (Option.map anonymousChange) ((change.resolve m a value?).answer models)
      ((change'.resolve m a value?').answer models) := by
  cases change with
  | assign column value =>
    cases change' with
    | assign column' value' =>
      obtain ⟨rfl, holes⟩ := Assignment.assign.inj hs
      exact resolve_assign_alike models a value? value?' column holes
    | assignNonZero | fromEntity => cases hs
  | assignNonZero column value =>
    cases change' with
    | assignNonZero column' value' =>
      obtain ⟨rfl, holes⟩ := Assignment.assignNonZero.inj hs
      have zero : value.isLiteralZero = value'.isLiteralZero := hz
      rw [Assignment.resolve, Assignment.resolve, zero]
      by_cases left_out : value'.isLiteralZero = true
      · rw [if_pos left_out, if_pos left_out]
        rfl
      · rw [if_neg left_out, if_neg left_out]
        exact resolve_assign_alike models a value? value?' column holes
    | assign | fromEntity => cases hs
  | fromEntity c =>
    cases change' with
    | fromEntity c' => exact resolve_fromEntity_alike models (Assignment.fromEntity.inj hs) hp hz
    | assign | assignNonZero => cases hs

theorem resolveAssignments_alike {changes changes' : List Assignment}
    (hs : changes.map Assignment.anonymous = changes'.map Assignment.anonymous)
    (hp : value?.map Record.places = value?'.map Record.places)
    (hz : changes.map (·.isZero m a value?) = changes'.map (·.isZero m a value?')) :
    Alike (List.map anonymousChange) ((resolveAssignments m a value? changes).answer models)
      ((resolveAssignments m a value?' changes').answer models) := by
  induction changes generalizing changes' with
  | nil =>
    rw [List.map_eq_nil_iff.1 hs.symm]
    rfl
  | cons first rest ih =>
    cases changes' with
    | nil => cases hs
    | cons first' rest' =>
      obtain ⟨shape, shapes⟩ := List.cons.inj hs
      obtain ⟨zero, zeros⟩ := List.cons.inj hz
      simp only [resolveAssignments, Inquiry.answer_bind]
      refine (resolve_change_alike models shape hp zero).bind fun x x' _ _ hx => ?_
      refine (ih shapes zeros).bind fun xs xs' _ _ hxs => ?_
      have first_change : x.toList.map anonymousChange = x'.toList.map anonymousChange := by
        rw [← Option.toList_map, hx, Option.toList_map]
      rw [Inquiry.answer_pure, Inquiry.answer_pure]
      show Except.ok _ = Except.ok _
      rw [List.map_append, List.map_append, first_change, hxs]

/-- Unless nothing is to be changed to begin with, an update is resolved step by step. -/
theorem Update.resolve_of_ne (s : AccessorStrategy) {u : Update} (h : u.assignments ≠ .list []) :
    u.resolve s = (do
      let model ← Inquiry.model u.entity
      let accessor ← Inquiry.done (s.accessor u.entity model)
      match ← resolveAssignments model accessor u.value? (u.assignments.entries model) with
      | [] => .fail .noUpdatedColumns
      | resolved => do pure ⟨model.table, resolved, ← resolveFilter model u.filter⟩) := by
  unfold resolve
  split
  · contradiction
  · rfl

/-- Updates of one shape that leave out the same zeros come to the same, but for literals. -/
theorem Update.resolve_alike (s : AccessorStrategy) {u u' : Update} (h : u.SameShape u')
    (hz : ∀ m a, models u.entity = .ok m → s.accessor u.entity m = .ok a → u.SameZeros u' m a) :
    Alike Sql.Update.anonymous ((u.resolve s).answer models)
      ((u'.resolve s).answer models) := by
  by_cases nothing : u.assignments = .list []
  · have nothing' : u'.assignments = .list [] := by
      have shape := h.assignments
      rw [nothing] at shape
      exact Assignments.eq_nil_of_anonymous shape.symm
    rw [resolve, resolve, nothing, nothing']
    rfl
  have something' : u'.assignments ≠ .list [] := by
    intro nothing'
    have shape := h.assignments
    rw [nothing'] at shape
    exact nothing (Assignments.eq_nil_of_anonymous shape)
  rw [resolve_of_ne s nothing, resolve_of_ne s something', ← h.entity]
  simp only [Inquiry.answer_bind]
  refine (Alike.refl _).bind fun m m' hm _ same => ?_
  cases same
  refine (Alike.refl _).bind fun a a' ha _ same => ?_
  cases same
  have zeros := hz m a (Inquiry.answer_model_eq_ok.1 hm) ha
  have shapes : (u.assignments.entries m).map Assignment.anonymous =
      (u'.assignments.entries m).map Assignment.anonymous := by
    rw [← Assignments.entries_anonymous, h.assignments, Assignments.entries_anonymous]
  refine (resolveAssignments_alike models shapes h.places zeros).bind
    fun changes changes' _ _ hc => ?_
  cases changes with
  | nil =>
    rw [List.map_eq_nil_iff.1 hc.symm]
    rfl
  | cons first rest =>
    cases changes' with
    | nil => cases hc
    | cons first' rest' =>
      have filters : Alike Sql.Filter.anonymous ((resolveFilter m u.filter).answer models)
          ((resolveFilter m u'.filter).answer models) := by
        refine Alike.answer models ?_
        rw [← resolveFilter_anonymous, h.filter, resolveFilter_anonymous]
      simp only [Inquiry.answer_bind]
      refine filters.bind fun filter filter' _ _ hf => ?_
      exact congrArg₂ (fun changes filter => Except.ok (Sql.Update.mk m.table changes filter)) hc hf

end Resolving

/-! ### Statements that are built -/

/-- Both results are the same error, or statements of the same text with as many arguments. -/
inductive SameText : Except Error Query → Except Error Query → Prop
  | failed (err : Error) : SameText (.error err) (.error err)
  | built {q q' : Query} (sql : q.sql = q'.sql) (args : q.args.length = q'.args.length) :
    SameText (.ok q) (.ok q')

/-- Trees that are equal with holes are written as the same text. -/
theorem SameText.of_alike {α β : Type} (d : Dialect) {x y : Except Error α} {v : α → β}
    {f : α → List Lexeme} (h : Alike v x y)
    (shown : ∀ a b, v a = v b → (f a).map Lexeme.shown = (f b).map Lexeme.shown) :
    SameText (x.map fun a => d.query (f a)) (y.map fun a => d.query (f a)) := by
  rcases h.cases with ⟨err, rfl, rfl⟩ | ⟨a, b, rfl, rfl, same⟩
  · exact .failed err
  · obtain ⟨sql, args⟩ := d.query_of_shown (shown a b same)
    exact .built sql args

/-- **Values stay arguments.** Queries that differ only in their literals and row counts fail alike
or have the same text, and as many arguments. So do updates that differ only in their literals and
in what the updated records hold, if they leave out the same zeros. -/
theorem values_stay_arguments (db : Database) (store : Store) :
    (∀ s s' : Select, s.anonymous = s'.anonymous →
        SameText ((db.buildSelect s).exec store).1 ((db.buildSelect s').exec store).1) ∧
      ∀ u u' : Update, u.SameShape u' →
        (∀ m a, store.registry.effective u.entity = .ok m →
          db.config.accessor.accessor u.entity m = .ok a → u.SameZeros u' m a) →
        SameText ((db.buildUpdate u).exec store).1 ((db.buildUpdate u').exec store).1 := by
  constructor
  · intro s s' h
    rw [Database.buildSelect_result, Database.buildSelect_result]
    have alike : Alike Sql.Select.anonymous (s.resolve.answer store.registry.effective)
        (s'.resolve.answer store.registry.effective) := by
      refine Alike.answer _ ?_
      rw [← s.resolve_anonymous, h, s'.resolve_anonymous]
    refine SameText.of_alike db.dialect alike fun t t' ht => ?_
    rw [← t.shown_anonymous, ht, t'.shown_anonymous]
  · intro u u' h hz
    rw [Database.buildUpdate_result, Database.buildUpdate_result]
    have alike := Update.resolve_alike store.registry.effective db.config.accessor h hz
    refine SameText.of_alike db.dialect alike fun t t' ht => ?_
    rw [← t.shown_anonymous, ht, t'.shown_anonymous]

namespace Sample

/-- The sample query with other ages and another limit. -/
def otherNamesakes : Select :=
  { namesakes with
    filter := [.compare .ge (.column (.bare "age")) (.literal (.int64 21)),
      .member (.bare "name") { children with
        filter := [.compare .lt (.column (.bare "age")) (.literal (.text "21"))] }]
    limit := 9 }

/-- Sets the weight of parcels to a literal, and the note on them to that on a parcel. -/
def relabel (weight : Int64) (r : Record) : Update :=
  { parcel.update with
    value? := some r
    assignments := .list [.assignNonZero "weight" (.literal (.int64 weight)),
      .fromEntity (.bare "note")] }

/-- A parcel with another note. -/
def otherParcel : Record :=
  { fullParcel with
    cells := [⟨"weight", 0, ⟨.int64, false⟩, (0 : Int64)⟩,
      ⟨"label", 32, ⟨.text, true⟩, some "?; right"⟩] }

theorem sameShape_relabel : (relabel 5 fullParcel).SameShape (relabel 7 otherParcel) :=
  ⟨rfl, rfl, rfl, rfl⟩

theorem sameZeros_relabel {m : TableModel} {a : Accessor}
    (hm : parcelStore.registry.effective parcel = .ok m)
    (ha : database.config.accessor.accessor parcel m = .ok a) :
    (relabel 5 fullParcel).SameZeros (relabel 7 otherParcel) m a := by
  have model : m = parcelModel := Except.ok.inj (hm.symm.trans effective_parcel)
  have accessor : a = ⟨database.config.accessor, parcelModel⟩ := by
    rw [model, (EntityType.derivedFrom deriveModel_parcel).accessor_eq, if_pos rfl] at ha
    exact (Except.ok.inj ha).symm
  rw [model, accessor]
  unfold Update.SameZeros
  decide +kernel

end Sample

theorem sample_values :
    Sample.namesakes.anonymous = Sample.otherNamesakes.anonymous ∧
      SameText (.ok Sample.namesakesQuery)
        ((Sample.database.buildSelect Sample.otherNamesakes).exec .empty).1 ∧
      (Sample.relabel 5 Sample.fullParcel).SameShape (Sample.relabel 7 Sample.otherParcel) ∧
      SameText (.ok ⟨"UPDATE \"parcels\" SET \"label\" = $1,\"note\" = $2;",
          [.int64 5, .text "left"]⟩)
        ((Sample.database.buildUpdate (Sample.relabel 7 Sample.otherParcel)).exec
          Sample.parcelStore).1 := by
  have holes : Sample.namesakes.anonymous = Sample.otherNamesakes.anonymous := rfl
  have select := (values_stay_arguments Sample.database .empty).1 _ _ holes
  have update := (values_stay_arguments Sample.database Sample.parcelStore).2 _ _
    Sample.sameShape_relabel fun _ _ => Sample.sameZeros_relabel
  have built : ((Sample.database.buildUpdate (Sample.relabel 5 Sample.fullParcel)).exec
      Sample.parcelStore).1 = .ok ⟨"UPDATE \"parcels\" SET \"label\" = $1,\"note\" = $2;",
        [.int64 5, .text "left"]⟩ := by
    decide +kernel
  rw [Sample.buildSelect_namesakes] at select
  rw [built] at update
  exact ⟨holes, select, Sample.sameShape_relabel, update⟩

end EntitySql
