import EntitySql.Proofs.Placeholders
import EntitySql.Proofs.Surroundings

/-!
# Splicing subqueries

A subquery is written as it would be by itself, whatever statement it stands in. Only its
placeholders are numbered on from the values that were bound before it.
-/

namespace EntitySql

open Sql (Lexeme Separated Token boundValues parenthesized)

/-! ### Renumbering -/

namespace Dialect

variable {d : Dialect}

/-- A token when `n` more values are bound before it. -/
def shifted (d : Dialect) (n : Nat) : Token → List Char
  | .name s => d.quote s
  | .sign c => [c]
  | .placeholder text =>
    match text.toList with
    | '$' :: digits => '$' :: Nat.toDigits 10 (Nat.ofDigitChars 10 digits 0 + n)
    | mark => mark

/-- A text in which the numbers of the placeholders, outside of quoted names, are increased by
`n`. -/
def renumber (d : Dialect) (n : Nat) (text : List Char) : List Char :=
  (d.scan text).flatMap (d.shifted n)

theorem shifted_placeholder (k n : Nat) :
    d.shifted n (.placeholder (d.placeholder k)) = (d.placeholder (k + n)).toList := by
  cases hs : d.placeholderStyle with
  | question =>
    rw [placeholder_question hs, placeholder_question hs]
    rfl
  | numbered =>
    rw [placeholder_numbered hs, placeholder_numbered hs, shifted, String.toList_ofList,
      String.toList_ofList]
    simp only [Nat.ofDigitChars_ten_toDigits]

theorem flatMap_shifted_sign (n : Nat) (text : List Char) :
    (text.map Token.sign).flatMap (d.shifted n) = text := by
  induction text with
  | nil => rfl
  | cons c text ih => rw [List.map_cons, List.flatMap_cons, ih]; rfl

theorem flatMap_shifted_tokens (m n : Nat) (lexemes : List Lexeme) :
    (d.tokens m lexemes).flatMap (d.shifted n) = d.write (m + n) lexemes := by
  induction lexemes generalizing m with
  | nil => rfl
  | cons first rest ih =>
    cases first with
    | word w => rw [tokens, List.flatMap_append, flatMap_shifted_sign, ih, write]
    | name s => rw [tokens, List.flatMap_cons, ih, write]; rfl
    | value v =>
      rw [tokens, List.flatMap_cons, ih, write, shifted_placeholder, Nat.add_right_comm m 1 n]

/-- Renumbering a written text is the same as writing it behind more values. -/
theorem renumber_write (h : d.Legible) {lexemes : List Lexeme} (hs : Separated lexemes)
    (m n : Nat) : d.renumber n (d.write m lexemes) = d.write (m + n) lexemes := by
  have scanned := scan_write h hs m free_nil
  rw [List.append_nil, scan, List.append_nil] at scanned
  rw [renumber, scanned, flatMap_shifted_tokens]

end Dialect

/-! ### Splicing -/

/-- What a statement is written as, but for the semicolon, behind any number of values. -/
structure Query.WrittenBehind (d : Dialect) (q : Query) (text : Nat → List Char) : Prop where
  /-- By itself it stands behind none. -/
  alone : q.sql.toList = text 0 ++ [';']
  /-- It is made of the same lexemes each time. -/
  lexemes : ∃ lexemes, q.args = boundValues lexemes ∧ ∀ n, text n = d.write n lexemes
  question : d.placeholderStyle = .question → ∀ n, text n = text 0
  renumbered : d.Legible → ∀ n, text n = d.renumber n (text 0)

theorem Dialect.writtenBehind_query (d : Dialect) {lexemes : List Lexeme} (hs : Separated lexemes) :
    (d.query lexemes).WrittenBehind d fun n => d.write n lexemes where
  alone := d.query_sql lexemes
  lexemes := ⟨lexemes, rfl, fun _ => rfl⟩
  question h n := d.write_question h n 0 lexemes
  renumbered h n := by rw [renumber_write h hs, Nat.zero_add]

namespace Context

variable {k : Part}

/-- The statement that has a given text, with given arguments, in parentheses in its gap. -/
def splice (c : Context k) (db : Database) (models : EntityType → Except Error TableModel)
    (scope : k.Scope) (s : Select) (text : Nat → List Char) (args : List Value) :
    Except Error Query := do
  let front ← (c.before db.config.accessor scope).answer models
  let back ← (c.after db.config.accessor scope s).answer models
  let bound := (boundValues front).length
  pure {
    sql := String.ofList (db.dialect.write 0 front ++ '(' :: (text bound ++
      ')' :: (db.dialect.write (bound + args.length) back ++ [';'])))
    args := boundValues front ++ (args ++ boundValues back) }

/-- How a statement fails when the subquery in its gap does: with the same error, unless what stands
before the gap fails already. -/
def failing (c : Context k) (db : Database) (models : EntityType → Except Error TableModel)
    (scope : k.Scope) (err : Error) : Except Error Query := do
  let _ ← (c.before db.config.accessor scope).answer models
  .error err

end Context

theorem Dialect.query_splice (d : Dialect) (front lexemes back : List Lexeme) :
    d.query (front ++ (parenthesized lexemes ++ back)) = {
      sql := String.ofList (d.write 0 front ++ '(' :: (d.write (boundValues front).length lexemes ++
        ')' :: (d.write ((boundValues front).length + (boundValues lexemes).length) back ++ [';'])))
      args := boundValues front ++ (boundValues lexemes ++ boundValues back) } := by
  simp [query, write_append, parenthesized, write, Sql.Word.text]

theorem Part.answer_render_subquery {strategy : AccessorStrategy}
    {models : EntityType → Except Error TableModel} (s : Select) :
    (Part.subquery.render strategy () s).answer models =
      (s.resolve.answer models).map fun t => parenthesized t.lexemes := by
  rw [render, Inquiry.answer_bind]
  cases s.resolve.answer models <;> rfl

namespace Context

variable {k : Part} {db : Database} {models : EntityType → Except Error TableModel}

/-- A statement is written around a subquery that succeeds. -/
theorem query_render_plug (c : Context k) (scope : k.Scope) {s : Select} {t : Sql.Select}
    (h : s.resolve.answer models = .ok t) :
    ((k.render db.config.accessor scope (c.plug s)).answer models).map db.dialect.query =
      c.splice db models scope s (fun n => db.dialect.write n t.lexemes)
        (boundValues t.lexemes) := by
  rw [answer_render_plug, Part.answer_render_subquery, h, splice]
  cases (c.before db.config.accessor scope).answer models with
  | error err => rfl
  | ok front =>
    cases (c.after db.config.accessor scope s).answer models with
    | error err => rfl
    | ok back => exact congrArg Except.ok (db.dialect.query_splice front t.lexemes back)

/-- A statement fails with the error of its subquery, unless it fails before. -/
theorem query_render_plug_error (c : Context k) (scope : k.Scope) {s : Select} {err : Error}
    (h : s.resolve.answer models = .error err) :
    ((k.render db.config.accessor scope (c.plug s)).answer models).map db.dialect.query =
      c.failing db models scope err := by
  rw [answer_render_plug, Part.answer_render_subquery, h, failing]
  cases (c.before db.config.accessor scope).answer models <;> rfl

end Context

namespace Database

variable (db : Database) (store : Store)

theorem buildSelect_render (s : Select) :
    ((db.buildSelect s).exec store).1 =
      ((Part.select.render db.config.accessor () s).answer store.registry.effective).map
        db.dialect.query := by
  rw [buildSelect_result, Part.render, Inquiry.answer_bind]
  cases s.resolve.answer store.registry.effective <;> rfl

theorem buildUpdate_render (u : Update) :
    ((db.buildUpdate u).exec store).1 =
      ((Part.update.render db.config.accessor () u).answer store.registry.effective).map
        db.dialect.query := by
  rw [buildUpdate_result, Part.render, Inquiry.answer_bind]
  cases (u.resolve db.config.accessor).answer store.registry.effective <;> rfl

theorem buildSelect_error {s : Select} {err : Error}
    (h : ((db.buildSelect s).exec store).1 = .error err) :
    s.resolve.answer store.registry.effective = .error err := by
  rw [buildSelect_result] at h
  cases hr : s.resolve.answer store.registry.effective with
  | error err' => simpa [hr, Except.map] using h
  | ok t => simp [hr, Except.map] at h

end Database

/-- **Splicing is building by itself.** In the gap of any statement a query has the text that it has
alone, but for the numbers of the placeholders, in parentheses, and the same arguments. What the
statement has before and after it is settled in the scopes of that statement. A query that fails
alone fails there, with the same error. -/
theorem subquery_splices (db : Database) (store : Store) (s : Select) :
    (∀ q, ((db.buildSelect s).exec store).1 = .ok q →
      ∃ text, q.WrittenBehind db.dialect text ∧
        (∀ c : Context .select, ((db.buildSelect (c.plug s)).exec store).1 =
          c.splice db store.registry.effective () s text q.args) ∧
        ∀ c : Context .update, ((db.buildUpdate (c.plug s)).exec store).1 =
          c.splice db store.registry.effective () s text q.args) ∧
      ∀ err, ((db.buildSelect s).exec store).1 = .error err →
        (∀ c : Context .select, ((db.buildSelect (c.plug s)).exec store).1 =
          c.failing db store.registry.effective () err) ∧
        ∀ c : Context .update, ((db.buildUpdate (c.plug s)).exec store).1 =
          c.failing db store.registry.effective () err := by
  refine ⟨fun q hq => ?_, fun err he => ?_⟩
  · obtain ⟨t, ht, rfl⟩ := Database.buildSelect_ok hq
    refine ⟨fun n => db.dialect.write n t.lexemes,
      db.dialect.writtenBehind_query t.isPart.separated, fun c => ?_, fun c => ?_⟩
    · rw [db.buildSelect_render]
      exact c.query_render_plug () ht
    · rw [db.buildUpdate_render]
      exact c.query_render_plug () ht
  · have failed := db.buildSelect_error store he
    refine ⟨fun c => ?_, fun c => ?_⟩
    · rw [db.buildSelect_render]
      exact c.query_render_plug_error () failed
    · rw [db.buildUpdate_render]
      exact c.query_render_plug_error () failed

namespace Sample

def childrenQuery : Query where
  sql := "SELECT \"name\" FROM \"pe?ople;\" WHERE \"a\"\"ge$1\" < $1;"
  args := [.int32 18]

/-- The sample query without the one for the names of children. -/
def amongNamesakes : Context .select :=
  .within (.within (.within .gap (.member (.bare "name")))
      (.conjunct [.compare .ge (.column (.bare "age")) (.literal (.int32 18))] []))
    (.filter { person.rows with limit := 5 })

/-- The sample update without the one for the names of children. -/
def amongBirthdays : Context .update :=
  .within (.within (.within .gap (.member (.bare "name"))) (.conjunct [] []))
    (.updateFilter { person.update with
      assignments := .list [.assign "age" (.literal (.int32 40))] })

/-- The names of people of a height, which is not known. -/
def giants : Select :=
  { person.rows with
    selections := [⟨.column (.bare "name"), none⟩]
    filter := [.compare .gt (.column (.bare "height")) (.literal (.int32 2))] }

theorem buildSelect_children :
    ((database.buildSelect children).exec .empty).1 = .ok childrenQuery := by
  decide +kernel

theorem buildSelect_giants :
    ((database.buildSelect giants).exec .empty).1 = .error (.unknownColumn "height") := by
  decide +kernel

end Sample

theorem sample_splices :
    (((Sample.database.buildSelect Sample.children).exec .empty).1 = .ok Sample.childrenQuery ∧
      ∃ text, Sample.childrenQuery.WrittenBehind .postgres text ∧
        ((Sample.database.buildSelect Sample.namesakes).exec .empty).1 =
          Sample.amongNamesakes.splice Sample.database Registry.empty.effective ()
            Sample.children text [.int32 18] ∧
        ((Sample.database.buildUpdate Sample.birthday).exec .empty).1 =
          Sample.amongBirthdays.splice Sample.database Registry.empty.effective ()
            Sample.children text [.int32 18]) ∧
      ((Sample.database.buildSelect Sample.giants).exec .empty).1 =
        .error (.unknownColumn "height") ∧
      ((Sample.database.buildSelect (Sample.amongNamesakes.plug Sample.giants)).exec .empty).1 =
        Sample.amongNamesakes.failing Sample.database Registry.empty.effective ()
          (.unknownColumn "height") ∧
      ((Sample.database.buildUpdate (Sample.amongBirthdays.plug Sample.giants)).exec .empty).1 =
        Sample.amongBirthdays.failing Sample.database Registry.empty.effective ()
          (.unknownColumn "height") := by
  obtain ⟨text, written, select, update⟩ :=
    (subquery_splices Sample.database .empty Sample.children).1 _ Sample.buildSelect_children
  obtain ⟨select', update'⟩ :=
    (subquery_splices Sample.database .empty Sample.giants).2 _ Sample.buildSelect_giants
  exact ⟨⟨Sample.buildSelect_children, text, written, select Sample.amongNamesakes,
    update Sample.amongBirthdays⟩, Sample.buildSelect_giants, select' Sample.amongNamesakes,
    update' Sample.amongBirthdays⟩

end EntitySql
