import EntitySql.Database.Basic
import Mathlib.Control.Monad.Basic
import Mathlib.Data.List.Forall2

/-!
# Written statements

What `Dialect.write` and `Sql.boundValues` do to lexemes that are put together, and what the text
and the arguments of a statement that was built are in terms of its lexemes.
-/

namespace EntitySql

open Sql (boundValues Lexeme Word)

namespace Sql

@[simp] theorem boundValues_nil : boundValues [] = [] := rfl

@[simp] theorem boundValues_word (w : Word) (rest : List Lexeme) :
    boundValues (.word w :: rest) = boundValues rest := rfl

@[simp] theorem boundValues_name (s : String) (rest : List Lexeme) :
    boundValues (.name s :: rest) = boundValues rest := rfl

@[simp] theorem boundValues_value (v : Value) (rest : List Lexeme) :
    boundValues (.value v :: rest) = v :: boundValues rest := rfl

@[simp] theorem boundValues_append (left right : List Lexeme) :
    boundValues (left ++ right) = boundValues left ++ boundValues right :=
  List.filterMap_append ..

@[simp] theorem boundValues_parenthesized (part : List Lexeme) :
    boundValues (parenthesized part) = boundValues part := by
  simp [parenthesized]

end Sql

namespace Dialect

variable (d : Dialect)

/-- Lexemes are numbered on from the values before them. -/
theorem write_append (n : Nat) (left right : List Lexeme) :
    d.write n (left ++ right) =
      d.write n left ++ d.write (n + (boundValues left).length) right := by
  induction left generalizing n with
  | nil => rfl
  | cons first rest ih =>
    cases first with
    | word w => simp [write, ih]
    | name s => simp [write, ih]
    | value v => simp [write, ih, Nat.add_assoc, Nat.add_comm 1]

/-- Without numbers, it does not matter how many values went before. -/
theorem write_question (h : d.placeholderStyle = .question) (m n : Nat) (lexemes : List Lexeme) :
    d.write m lexemes = d.write n lexemes := by
  induction lexemes generalizing m n with
  | nil => rfl
  | cons first rest ih =>
    cases first with
    | word w => simp only [write]; rw [ih m n]
    | name s => simp only [write]; rw [ih m n]
    | value v => simp only [write, placeholder, h]; rw [ih (m + 1) (n + 1)]

/-- The text of a statement: its lexemes, and a semicolon. -/
theorem query_sql (lexemes : List Lexeme) :
    (d.query lexemes).sql.toList = d.write 0 lexemes ++ [';'] := by
  rw [query, String.toList_ofList, write_append]
  rfl

end Dialect

/-! ### Answers of inquiries piece by piece -/

namespace Inquiry

variable {α β : Type} {models : EntityType → Except Error TableModel}

theorem answer_pure (a : α) : (pure a : Inquiry α).answer models = .ok a := rfl

/-- An inquiry in two parts succeeds if both do. -/
theorem answer_bind_eq_ok {q : Inquiry α} {f : α → Inquiry β} {b : β} :
    (q >>= f).answer models = .ok b ↔
      ∃ a, q.answer models = .ok a ∧ (f a).answer models = .ok b := by
  rw [answer_bind]
  cases q.answer models <;> simp [Bind.bind, Except.bind]

/-- Inquiries with the same answer go on to the same answer. -/
theorem answer_bind_congr {q q' : Inquiry α} {f f' : α → Inquiry β}
    (h : q.answer models = q'.answer models)
    (next : ∀ a, q.answer models = .ok a → (f a).answer models = (f' a).answer models) :
    (q >>= f).answer models = (q' >>= f').answer models := by
  rw [answer_bind, answer_bind, ← h]
  cases answer : q.answer models with
  | error err => rfl
  | ok a => exact next a answer

theorem answer_require_eq_ok {value : Option α} {err : Error} {a : α} :
    (require value err).answer models = .ok a ↔ value = some a := by
  cases value with
  | none => simp [require, fail, answer]
  | some b => simp [require, answer_pure]

theorem answer_model_eq_ok {e : EntityType} {m : TableModel} :
    (model e).answer models = .ok m ↔ models e = .ok m := by
  simp only [model, answer]
  cases models e <;> simp

/-- One inquiry for each entry of a list succeeds if all of them do. -/
theorem answer_mapM_eq_ok {f : α → Inquiry β} {l : List α} {bs : List β} :
    (l.mapM f).answer models = .ok bs ↔
      List.Forall₂ (fun a b => (f a).answer models = .ok b) l bs := by
  induction l generalizing bs with
  | nil => simp [answer_pure, eq_comm]
  | cons a rest ih =>
    simp only [List.mapM_cons, answer_bind_eq_ok, answer_pure, Except.ok.injEq, ih]
    constructor
    · rintro ⟨b, first, more, others, rfl⟩
      exact .cons first others
    · rintro (_ | ⟨first, others⟩)
      exact ⟨_, first, _, others, rfl⟩

end Inquiry

/-- An update resolves if its changes do, some of them are left, and its filter resolves. -/
theorem Update.resolve_eq_ok {models : EntityType → Except Error TableModel}
    {s : AccessorStrategy} {u : Update} {t : Sql.Update} :
    (u.resolve s).answer models = .ok t ↔
      ∃ m, models u.entity = .ok m ∧ ∃ a, s.accessor u.entity m = .ok a ∧
        ∃ changes, (resolveAssignments m a u.value? (u.assignments.entries m)).answer models =
            .ok changes ∧ changes ≠ [] ∧
          ∃ filter, (resolveFilter m u.filter).answer models = .ok filter ∧
            t = ⟨m.table, changes, filter⟩ := by
  unfold Update.resolve
  split
  · rename_i nothing
    simp [nothing, Inquiry.fail, Inquiry.answer, Assignments.entries, resolveAssignments,
      Inquiry.answer_pure]
  · simp only [Inquiry.answer_bind_eq_ok, Inquiry.answer_model_eq_ok]
    refine exists_congr fun m => and_congr_right fun _ => ?_
    refine exists_congr fun a => and_congr_right fun _ => ?_
    refine exists_congr fun changes => and_congr_right fun _ => ?_
    cases changes with
    | nil => simp [Inquiry.fail, Inquiry.answer]
    | cons first rest =>
      rw [Inquiry.answer_bind_eq_ok, and_iff_right (List.cons_ne_nil first rest)]
      refine exists_congr fun filter => and_congr_right fun _ => ?_
      rw [Inquiry.answer_pure, Except.ok.injEq, eq_comm]

/-- An action that puts an inquiry to the registry and makes something of its result. -/
theorem Action.inquire_result {α β : Type} (q : Inquiry α) (f : α → β) (store : Store) :
    ((do pure (f (← Action.inquire q)) : Action β).exec store).1 =
      (q.answer store.registry.effective).map f := by
  rw [← Inquiry.run_result]
  -- The action goes on only where the inquiry has come to a value.
  have step : ∀ (result : Except Error α) (after : Store),
      (ExceptT.bindCont (fun a => (pure (f a) : Action β)) result after).1 = result.map f := by
    intro result after
    cases result <;> rfl
  exact step _ _

namespace Database

variable {db : Database} {store : Store} {q : Query}

/-- A SELECT statement is built from the lexemes of what the query resolves to. -/
theorem buildSelect_result (db : Database) (s : Select) (store : Store) :
    ((db.buildSelect s).exec store).1 =
      (s.resolve.answer store.registry.effective).map fun t => db.dialect.query t.lexemes :=
  Action.inquire_result s.resolve _ store

/-- An UPDATE statement is built from the lexemes of what the update resolves to. -/
theorem buildUpdate_result (db : Database) (u : Update) (store : Store) :
    ((db.buildUpdate u).exec store).1 =
      ((u.resolve db.config.accessor).answer store.registry.effective).map fun t =>
        db.dialect.query t.lexemes :=
  Action.inquire_result (u.resolve db.config.accessor) _ store

theorem buildSelect_ok {s : Select} (h : ((db.buildSelect s).exec store).1 = .ok q) :
    ∃ t, s.resolve.answer store.registry.effective = .ok t ∧ q = db.dialect.query t.lexemes := by
  rw [buildSelect_result] at h
  cases hr : s.resolve.answer store.registry.effective with
  | error err => simp [hr, Except.map] at h
  | ok t => exact ⟨t, rfl, by simpa [hr, Except.map] using h.symm⟩

theorem buildUpdate_ok {u : Update} (h : ((db.buildUpdate u).exec store).1 = .ok q) :
    ∃ t, (u.resolve db.config.accessor).answer store.registry.effective = .ok t ∧
      q = db.dialect.query t.lexemes := by
  rw [buildUpdate_result] at h
  cases hr : (u.resolve db.config.accessor).answer store.registry.effective with
  | error err => simp [hr, Except.map] at h
  | ok t => exact ⟨t, rfl, by simpa [hr, Except.map] using h.symm⟩

end Database

/-! ### Sample statements -/

namespace Sample

/-- A type whose table and columns hold signs that mean something elsewhere in a statement. -/
def person : EntityType where
  home := ""
  shortName := "Person"
  typeName := "Person"
  table? := some "pe?ople;"
  fields := [⟨"name", none, ⟨.text, false⟩, 0⟩, ⟨"age", some "a\"ge$1", ⟨.int32, false⟩, 24⟩]
  unmapped := []
  size := 32

/-- The names of children. -/
def children : Select :=
  { person.rows with
    selections := [⟨.column (.bare "name"), none⟩]
    filter := [.compare .lt (.column (.bare "age")) (.literal (.int32 18))] }

/-- Grown-ups with the name of a child. -/
def namesakes : Select :=
  { person.rows with
    filter := [.compare .ge (.column (.bare "age")) (.literal (.int32 18)),
      .member (.bare "name") children]
    limit := 5 }

/-- A birthday of those people. -/
def birthday : Update :=
  { person.update with
    assignments := .list [.assign "age" (.literal (.int32 40))]
    filter := [.member (.bare "name") children] }

/-- A handle that numbers the placeholders. -/
def database : Database :=
  ⟨.postgres, .default⟩

def namesakesQuery : Query where
  sql := "SELECT * FROM \"pe?ople;\" WHERE (\"a\"\"ge$1\" >= $1) AND (\"name\" IN " ++
    "(SELECT \"name\" FROM \"pe?ople;\" WHERE \"a\"\"ge$1\" < $2)) LIMIT $3;"
  args := [.int32 18, .int32 18, .int64 5]

def birthdayQuery : Query where
  sql := "UPDATE \"pe?ople;\" SET \"a\"\"ge$1\" = $1 WHERE \"name\" IN " ++
    "(SELECT \"name\" FROM \"pe?ople;\" WHERE \"a\"\"ge$1\" < $2);"
  args := [.int32 40, .int32 18]

theorem buildSelect_namesakes :
    ((database.buildSelect namesakes).exec .empty).1 = .ok namesakesQuery := by
  decide +kernel

theorem buildUpdate_birthday :
    ((database.buildUpdate birthday).exec .empty).1 = .ok birthdayQuery := by
  decide +kernel

end Sample

end EntitySql
