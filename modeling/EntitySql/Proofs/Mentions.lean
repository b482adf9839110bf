import EntitySql.Proofs.Growth
import EntitySql.Resolution.Update

/-!
# Mentioned types

A statement mentions entity types: its own, those of its tables and qualifiers, and those of the
queries inside it and in its qualifiers. Resolution asks for the models of no others
(`Select.confined_resolve`, `Update.confined_resolve`). So what becomes of a statement depends on
the models of mentioned types only (`Inquiry.Confined.answer_congr`), and these are the only ones
that a registry comes to keep on its behalf (`Inquiry.Confined.grows`).
-/

namespace EntitySql

/-! ### What an inquiry asks for -/

namespace Inquiry

variable {α β : Type} {P : EntityType → Prop}

/-- Whatever it learns, the inquiry asks only for models of types that meet `P`. -/
def Confined (P : EntityType → Prop) : Inquiry α → Prop
  | done _ => True
  | ask e next => P e ∧ ∀ model, (next model).Confined P

theorem confined_done (result : Except Error α) : (done result).Confined P :=
  True.intro

theorem confined_pure (a : α) : (pure a : Inquiry α).Confined P :=
  True.intro

theorem confined_model {e : EntityType} (h : P e) : (model e).Confined P :=
  ⟨h, fun _ => True.intro⟩

theorem confined_require (value : Option α) (err : Error) : (require value err).Confined P := by
  cases value <;> exact True.intro

theorem Confined.bind {q : Inquiry α} {f : α → Inquiry β} (hq : q.Confined P)
    (hf : ∀ a, (f a).Confined P) : (q >>= f).Confined P := by
  induction q with
  | done result =>
    cases result with
    | ok a => exact hf a
    | error err => exact confined_done _
  | ask e next ih => exact ⟨hq.1, fun model => ih model (hq.2 model)⟩

theorem confined_mapM {f : α → Inquiry β} {l : List α} (h : ∀ a ∈ l, (f a).Confined P) :
    (l.mapM f).Confined P := by
  induction l with
  | nil => exact confined_pure []
  | cons a l ih =>
    rw [List.mapM_cons]
    refine (h a List.mem_cons_self).bind fun b => ?_
    exact (ih fun a ha => h a (List.mem_cons_of_mem _ ha)).bind fun bs => confined_pure _

/-- There may be types of all kinds among those that it asks for. -/
theorem confined_true (q : Inquiry α) : q.Confined fun _ => True := by
  induction q with
  | done result => exact confined_done result
  | ask e next ih => exact ⟨True.intro, ih⟩

namespace Confined

variable {q : Inquiry α} (h : q.Confined P)
include h

/-- Only the models of the types asked for matter. -/
theorem answer_congr {models models' : EntityType → Except Error TableModel}
    (hm : ∀ e, P e → models e = models' e) : q.answer models = q.answer models' := by
  induction q with
  | done result => rfl
  | ask e next ih =>
    simp only [answer, ← hm e h.1]
    cases models e with
    | error err => rfl
    | ok model => exact ih model (h.2 model)

/-- A registry comes to keep models of the types asked for, as they are derived without options. -/
theorem grows (r : Registry) :
    r.Grows (fun e m => P e ∧ e.deriveModel [] = .ok m) (q.run r).registry := by
  induction q generalizing r with
  | done result => exact .refl r
  | ask e next ih =>
    simp only [run, Registry.get]
    cases hf : r.find? e with
    | some model => exact ih model (h.2 model) r
    | none =>
      cases hd : e.deriveModel [] with
      | error err => exact .refl r
      | ok model => exact (Registry.Grows.insert hf ⟨h.1, hd⟩).trans (ih model (h.2 model) _)

end Confined

end Inquiry

/-! ### What a statement mentions -/

mutual

def Column.mentions : Column → List EntityType
  | .bare _ => []
  | .ofTable entity _ _ => [entity]
  | .ofSubquery query _ _ => query.mentions

def Term.mentions : Term → List EntityType
  | .column c => c.mentions
  | .aggregate _ argument => argument.mentions
  | .countAll => []

def Selection.mentions : Selection → List EntityType
  | ⟨term, _⟩ => term.mentions

def Source.mentions : Source → List EntityType
  | .own => []
  | .table entity _ => [entity]
  | .joinWhere _ left right predicates =>
    left.mentions ++ right.mentions ++ predicateMentions predicates
  | .joinSharing _ left right _ => left.mentions ++ right.mentions
  | .subquery query _ => query.mentions

/-- The entity types of a query and of all its parts, qualifiers included. -/
def Select.mentions : Select → List EntityType
  | ⟨entity, selections, source, filter, groupBy, having, _, _⟩ =>
    entity :: (selectionMentions selections ++ source.mentions ++ predicateMentions filter
      ++ columnMentions groupBy ++ predicateMentions having)

def Predicate.mentions : Predicate → List EntityType
  | .compare _ left right => left.mentions ++ right.mentions
  | .member left query => left.mentions ++ query.mentions
  | .not p => p.mentions
  | .exists query => query.mentions
  | .and p q | .or p q => p.mentions ++ q.mentions

def Expr.mentions : Expr → List EntityType
  | .term t => t.mentions
  | .literal _ => []
  | .predicate p => p.mentions
  | .subquery query | .quantified _ query => query.mentions

def columnMentions : List Column → List EntityType
  | [] => []
  | c :: rest => c.mentions ++ columnMentions rest

def selectionMentions : List Selection → List EntityType
  | [] => []
  | s :: rest => s.mentions ++ selectionMentions rest

def predicateMentions : List Predicate → List EntityType
  | [] => []
  | p :: rest => p.mentions ++ predicateMentions rest

end

def Assignment.mentions : Assignment → List EntityType
  | .assign _ value | .assignNonZero _ value => value.mentions
  | .fromEntity c => c.mentions

/-- The entity types of the entries. All mapped fields are those of the updated type. -/
def Assignments.mentions : Assignments → List EntityType
  | .list entries => entries.flatMap Assignment.mentions
  | .nonZeroFields => []

/-- The entity types of an update and of all its parts. -/
def Update.mentions (u : Update) : List EntityType :=
  u.entity :: (u.assignments.mentions ++ predicateMentions u.filter)

theorem mem_columnMentions {columns : List Column} {c : Column} (hc : c ∈ columns)
    {e : EntityType} (he : e ∈ c.mentions) : e ∈ columnMentions columns := by
  induction columns with
  | nil => cases hc
  | cons first rest ih =>
    rw [columnMentions, List.mem_append]
    rcases List.mem_cons.1 hc with rfl | hc
    · exact .inl he
    · exact .inr (ih hc)

theorem mem_selectionMentions {selections : List Selection} {s : Selection} (hs : s ∈ selections)
    {e : EntityType} (he : e ∈ s.mentions) : e ∈ selectionMentions selections := by
  induction selections with
  | nil => cases hs
  | cons first rest ih =>
    rw [selectionMentions, List.mem_append]
    rcases List.mem_cons.1 hs with rfl | hs
    · exact .inl he
    · exact .inr (ih hs)

/-! ### Resolution asks for what is mentioned -/

/-- The column that a select list entry goes by, if it has no other name. -/
def Selection.column? : Selection → Option Column
  | ⟨.column c, none⟩ => some c
  | _ => none

theorem Selection.eq_of_column? {s : Selection} {c : Column} (h : s.column? = some c) :
    s = ⟨.column c, none⟩ := by
  obtain ⟨_ | _ | _, _ | _⟩ := s
  · cases h
    rfl
  all_goals cases h

/-- Any other entry goes by its alias, if it has one. -/
theorem firstExposed?_of_named {model : TableModel} {name : String} {s : Selection}
    {rest : List Selection} (h : s.column? = none) :
    firstExposed? model name (s :: rest) =
      if s.alias? = some name then pure (some name) else firstExposed? model name rest := by
  obtain ⟨_ | _ | _, _ | _⟩ := s
  · cases h
  all_goals rfl

variable {P : EntityType → Prop}

open Inquiry

mutual

theorem Select.confined_exposed? (name : String) : ∀ query : Select,
    (∀ e ∈ query.mentions, P e) → (query.exposed? name).Confined P
  | ⟨entity, selections, source, filter, groupBy, having, limit, offset⟩, h => by
    have entries := confined_firstExposed? name selections fun e he =>
      h e (by simp [Select.mentions, he])
    rw [Select.exposed?]
    refine (confined_model (h entity (by simp [Select.mentions]))).bind fun model => ?_
    cases selections with
    | nil => exact confined_pure _
    | cons first rest => exact entries model

theorem confined_firstExposed? (name : String) : ∀ selections : List Selection,
    (∀ e ∈ selectionMentions selections, P e) →
      ∀ model, (firstExposed? model name selections).Confined P
  | [], _, _ => confined_pure none
  | ⟨.column c, none⟩ :: rest, h, model => by
    have answer := Column.confined_answering? name c fun e he =>
      h e (by simp [selectionMentions, Selection.mentions, Term.mentions, he])
    have more := confined_firstExposed? name rest fun e he =>
      h e (by simp [selectionMentions, he])
    rw [firstExposed?]
    refine (answer model).bind fun column? => ?_
    cases column? with
    | none => exact more model
    | some column => exact confined_pure _
  | ⟨.column _, some _⟩ :: rest, h, model | ⟨.aggregate _ _, _⟩ :: rest, h, model
  | ⟨.countAll, _⟩ :: rest, h, model => by
    have more := confined_firstExposed? name rest fun e he =>
      h e (by simp [selectionMentions, he])
    rw [firstExposed?_of_named rfl]
    split
    · exact confined_pure _
    · exact more model

theorem Column.confined_answering? (name : String) : ∀ c : Column,
    (∀ e ∈ c.mentions, P e) → ∀ model, (c.answering? model name).Confined P
  | .bare own, _, model => confined_pure _
  | .ofTable entity _ own, h, model => by
    rw [Column.answering?]
    exact (confined_model (h entity (by simp [Column.mentions]))).bind fun _ => confined_pure _
  | .ofSubquery query _ own, h, model => by
    have exposed := fun name => Select.confined_exposed? name query h
    rw [Column.answering?]
    refine (exposed own).bind fun column? => ?_
    cases column? with
    | none => exact confined_pure _
    | some column =>
      dsimp only
      split
      · exact confined_pure _
      · exact (exposed name).bind fun _ => confined_pure _

end

theorem Column.confined_resolve (scope : TableModel) (c : Column) (h : ∀ e ∈ c.mentions, P e) :
    (c.resolve scope).Confined P := by
  cases c with
  | bare name => exact (confined_require _ _).bind fun _ => confined_pure _
  | ofTable entity alias? name =>
    refine (confined_model (h entity (by simp [Column.mentions]))).bind fun model => ?_
    exact (confined_require _ _).bind fun _ => confined_pure _
  | ofSubquery query aliasName name =>
    refine (query.confined_exposed? name h).bind fun column? => ?_
    exact (confined_require _ _).bind fun _ => confined_pure _

theorem Term.confined_resolve (scope : TableModel) (t : Term) (h : ∀ e ∈ t.mentions, P e) :
    (t.resolve scope).Confined P := by
  cases t with
  | column c => exact (c.confined_resolve scope h).bind fun _ => confined_pure _
  | aggregate fn argument => exact (argument.confined_resolve scope h).bind fun _ => confined_pure _
  | countAll => exact confined_pure _

theorem confined_selections (scope : TableModel) (selections : List Selection)
    (h : ∀ e ∈ selectionMentions selections, P e) :
    (selections.mapM (Selection.resolve scope)).Confined P := by
  refine confined_mapM fun ⟨term, alias?⟩ hs => ?_
  exact (term.confined_resolve scope fun e he => h e (mem_selectionMentions hs he)).bind fun _ =>
    confined_pure _

theorem confined_columns (scope : TableModel) (columns : List Column)
    (h : ∀ e ∈ columnMentions columns, P e) :
    (columns.mapM (Column.resolve scope)).Confined P :=
  confined_mapM fun c hc => c.confined_resolve scope fun e he => h e (mem_columnMentions hc he)

theorem Source.confined_column? (scope : TableModel) (name : String) : ∀ s : Source,
    (∀ e ∈ s.mentions, P e) → (s.column? scope name).Confined P
  | .own, _ => confined_pure _
  | .table entity _, h =>
    (confined_model (h entity (by simp [Source.mentions]))).bind fun _ => confined_pure _
  | .joinWhere _ left right _, h | .joinSharing _ left right _, h => by
    have leftSide :=
      left.confined_column? scope name fun e he => h e (by simp [Source.mentions, he])
    have rightSide :=
      right.confined_column? scope name fun e he => h e (by simp [Source.mentions, he])
    rw [Source.column?]
    refine leftSide.bind fun column? => ?_
    cases column? with
    | some column => exact confined_pure _
    | none => exact rightSide
  | .subquery query _, h => query.confined_exposed? name h

theorem confined_sharedColumn (scope : TableModel) {left right : Source}
    (hl : ∀ e ∈ left.mentions, P e) (hr : ∀ e ∈ right.mentions, P e) (name : String) :
    (sharedColumn scope left right name).Confined P := by
  rw [sharedColumn]
  refine (left.confined_column? scope name hl).bind fun column? => ?_
  cases column? with
  | some column => exact confined_pure _
  | none => exact (right.confined_column? scope name hr).bind fun _ => confined_require _ _

mutual

/-- Resolving a query asks for the models of types that it mentions. -/
theorem Select.confined_resolve : ∀ s : Select,
    (∀ e ∈ s.mentions, P e) → s.resolve.Confined P
  | ⟨entity, selections, source, filter, groupBy, having, limit, offset⟩, h => by
    simp only [Select.mentions, List.mem_cons, List.mem_append] at h
    rw [Select.resolve]
    refine (confined_model (h entity (.inl rfl))).bind fun scope => ?_
    refine (confined_selections scope selections fun e he => h e (by simp [he])).bind fun _ => ?_
    refine (source.confined_resolve scope fun e he => h e (by simp [he])).bind fun _ => ?_
    refine (confined_resolvePredicates scope filter fun e he => h e (by simp [he])).bind fun _ => ?_
    refine (confined_columns scope groupBy fun e he => h e (by simp [he])).bind fun _ => ?_
    exact (confined_resolvePredicates scope having fun e he => h e (by simp [he])).bind fun _ =>
      confined_pure _

theorem Source.confined_resolve (scope : TableModel) : ∀ s : Source,
    (∀ e ∈ s.mentions, P e) → (s.resolve scope).Confined P
  | .own, _ => confined_pure _
  | .table entity _, h =>
    (confined_model (h entity (by simp [Source.mentions]))).bind fun _ => confined_pure _
  | .joinWhere _ left right predicates, h => by
    simp only [Source.mentions, List.mem_append] at h
    rw [Source.resolve]
    refine (left.confined_resolve scope fun e he => h e (by simp [he])).bind fun _ => ?_
    refine (right.confined_resolve scope fun e he => h e (by simp [he])).bind fun _ => ?_
    refine (confined_resolvePredicates scope predicates fun e he => h e (by simp [he])).bind
      fun _ => ?_
    split <;> exact confined_pure _
  | .joinSharing _ left right columns, h => by
    simp only [Source.mentions, List.mem_append] at h
    rw [Source.resolve]
    refine (left.confined_resolve scope fun e he => h e (by simp [he])).bind fun _ => ?_
    refine (right.confined_resolve scope fun e he => h e (by simp [he])).bind fun _ => ?_
    refine Confined.bind (confined_mapM fun name _ => ?_) fun _ => ?_
    · exact confined_sharedColumn scope (fun e he => h e (.inl he)) (fun e he => h e (.inr he)) name
    · split <;> exact confined_pure _
  | .subquery query _, h => (query.confined_resolve h).bind fun _ => confined_pure _

theorem confined_resolvePredicates (scope : TableModel) : ∀ predicates : List Predicate,
    (∀ e ∈ predicateMentions predicates, P e) →
      (resolvePredicates scope predicates).Confined P
  | [], _ => confined_pure _
  | p :: rest, h => by
    simp only [predicateMentions, List.mem_append] at h
    rw [resolvePredicates]
    refine (p.confined_resolve scope fun e he => h e (.inl he)).bind fun _ => ?_
    exact (confined_resolvePredicates scope rest fun e he => h e (.inr he)).bind fun _ =>
      confined_pure _

theorem Predicate.confined_resolve (scope : TableModel) : ∀ p : Predicate,
    (∀ e ∈ p.mentions, P e) → (p.resolve scope).Confined P
  | .compare _ left right, h => by
    simp only [Predicate.mentions, List.mem_append] at h
    rw [Predicate.resolve]
    refine (left.confined_resolve scope fun e he => h e (.inl he)).bind fun _ => ?_
    exact (right.confined_resolve scope fun e he => h e (.inr he)).bind fun _ => confined_pure _
  | .member left query, h => by
    simp only [Predicate.mentions, List.mem_append] at h
    rw [Predicate.resolve]
    refine (left.confined_resolve scope fun e he => h e (.inl he)).bind fun _ => ?_
    exact (query.confined_resolve fun e he => h e (.inr he)).bind fun _ => confined_pure _
  | .not p, h => by
    rw [Predicate.resolve]
    exact (p.confined_resolve scope h).bind fun _ => confined_pure _
  | .exists query, h => by
    rw [Predicate.resolve]
    exact (query.confined_resolve h).bind fun _ => confined_pure _
  | .and p q, h | .or p q, h => by
    simp only [Predicate.mentions, List.mem_append] at h
    rw [Predicate.resolve]
    refine (p.confined_resolve scope fun e he => h e (.inl he)).bind fun _ => ?_
    exact (q.confined_resolve scope fun e he => h e (.inr he)).bind fun _ => confined_pure _

theorem Expr.confined_resolve (scope : TableModel) : ∀ e : Expr,
    (∀ t ∈ e.mentions, P t) → (e.resolve scope).Confined P
  | .term t, h => by
    rw [Expr.resolve]
    exact (t.confined_resolve scope h).bind fun _ => confined_pure _
  | .literal _, _ => confined_pure _
  | .predicate p, h => by
    rw [Expr.resolve]
    exact (p.confined_resolve scope h).bind fun _ => confined_pure _
  | .subquery query, h | .quantified _ query, h => by
    rw [Expr.resolve]
    exact (query.confined_resolve h).bind fun _ => confined_pure _

end

variable (model : TableModel) (accessor : Accessor) (record? : Option Record)

theorem confined_assignedColumn (name : String) : (assignedColumn model name).Confined P :=
  (confined_require _ _).bind fun _ => confined_pure _

theorem Assignment.confined_resolve (entry : Assignment) (h : ∀ e ∈ entry.mentions, P e) :
    (entry.resolve model accessor record?).Confined P := by
  have set (column : String) {value : Expr} (hv : ∀ e ∈ value.mentions, P e) :
      (do let column ← assignedColumn model column
          pure (some (column, ← value.resolve model)) : Inquiry _).Confined P :=
    (confined_assignedColumn model column).bind fun _ =>
      (value.confined_resolve model hv).bind fun _ => confined_pure _
  cases entry with
  | assign column value => exact set column h
  | assignNonZero column value =>
    rw [Assignment.resolve]
    split
    · exact confined_pure _
    · exact set column h
  | fromEntity c =>
    have own : (c.checkOwn model).Confined P := by
      cases c with
      | bare name => exact confined_pure _
      | ofTable entity alias? name =>
        refine (confined_model (h entity (by simp [mentions, Column.mentions]))).bind fun _ => ?_
        split <;> exact confined_done _
      | ofSubquery query aliasName name => exact confined_done _
    refine own.bind fun _ => (confined_require _ _).bind fun record => ?_
    refine (confined_require _ _).bind fun field => ?_
    exact (confined_done _).bind fun _ => confined_pure _

theorem confined_resolveAssignments (entries : List Assignment)
    (h : ∀ entry ∈ entries, ∀ e ∈ entry.mentions, P e) :
    (resolveAssignments model accessor record? entries).Confined P := by
  induction entries with
  | nil => exact confined_pure _
  | cons entry rest ih =>
    rw [resolveAssignments]
    refine (entry.confined_resolve model accessor record? (h entry List.mem_cons_self)).bind
      fun _ => ?_
    exact (ih fun entry he => h entry (List.mem_cons_of_mem _ he)).bind fun _ => confined_pure _

/-- The entries of a list of changes mention no type that the list does not mention. -/
theorem Assignments.mem_mentions {assignments : Assignments} {entry : Assignment}
    (hn : entry ∈ assignments.entries model) {e : EntityType} (he : e ∈ entry.mentions) :
    e ∈ assignments.mentions := by
  cases assignments with
  | list entries => exact List.mem_flatMap.2 ⟨entry, hn, he⟩
  | nonZeroFields =>
    obtain ⟨f, -, rfl⟩ := List.mem_map.1 hn
    cases he

/-- Resolving an update asks for the models of types that it mentions. -/
theorem Update.confined_resolve (strategy : AccessorStrategy) (u : Update)
    (h : ∀ e ∈ u.mentions, P e) : (u.resolve strategy).Confined P := by
  simp only [Update.mentions, List.mem_cons, List.mem_append] at h
  rw [Update.resolve]
  split
  · exact confined_done _
  · refine (confined_model (h u.entity (.inl rfl))).bind fun model => ?_
    refine (confined_done _).bind fun accessor => ?_
    refine (confined_resolveAssignments model accessor u.value? _ fun entry hn e he =>
      h e (.inr (.inl (Assignments.mem_mentions model hn he)))).bind fun changes => ?_
    cases changes with
    | nil => exact confined_done _
    | cons first rest =>
      have filter := confined_resolvePredicates model u.filter fun e he => h e (.inr (.inr he))
      exact (filter.bind fun _ => confined_pure _).bind fun _ => confined_pure _

end EntitySql
