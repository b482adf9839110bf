import EntitySql.Proofs.Scanning

/-!
# Placeholders and arguments

A database binds the arguments of a statement to its placeholders one after the other, or by their
numbers. Both come to the same (`select_update_binds`): outside of quoted names a statement has the
placeholders of its arguments, in their order, and one semicolon, which ends it.
-/

namespace EntitySql

open Sql (Lexeme Separated Token boundValues)

/-- The text of a placeholder. -/
def Sql.Token.placeholder? : Token → Option String
  | placeholder text => some text
  | name _ | sign _ => none

/-- The placeholders met in a text from left to right. -/
def Dialect.placeholders (d : Dialect) (text : List Char) : List String :=
  (d.scan text).filterMap Token.placeholder?

/-- A statement of which a database can bind the arguments. -/
structure Query.Binds (d : Dialect) (q : Query) : Prop where
  /-- There is one placeholder for each argument, and it has the number of that argument. -/
  placeholders : d.placeholders q.sql.toList =
    (List.range q.args.length).map fun k => d.placeholder (k + 1)
  /-- The last character, and no other one, is a semicolon outside of names. -/
  semicolon : ∃ body, q.sql.toList = body ++ [';'] ∧
    d.scan q.sql.toList = d.scan body ++ [.sign ';'] ∧ .sign ';' ∉ d.scan body

namespace Dialect

variable {d : Dialect}

theorem filterMap_placeholder?_sign (text : List Char) :
    (text.map Token.sign).filterMap Token.placeholder? = [] := by
  simp [Token.placeholder?]

/-- Lexemes have the placeholders of their values, numbered on from those before them. -/
theorem filterMap_placeholder?_tokens (n : Nat) (lexemes : List Lexeme) :
    (d.tokens n lexemes).filterMap Token.placeholder? =
      (List.range (boundValues lexemes).length).map fun k => d.placeholder (n + k + 1) := by
  induction lexemes generalizing n with
  | nil => rfl
  | cons first rest ih =>
    cases first with
    | word w =>
      rw [tokens, List.filterMap_append, filterMap_placeholder?_sign, ih]
      rfl
    | name s => exact ih n
    | value v =>
      simp only [tokens, Token.placeholder?, List.filterMap_cons, ih, Sql.boundValues_value,
        List.length_cons, List.range_succ_eq_map, List.map_cons, List.map_map]
      refine congrArg _ (List.map_congr_left fun k _ => ?_)
      simp only [Function.comp_apply, Nat.succ_eq_add_one]
      congr 1
      omega

/-- Separated lexemes have no semicolon. -/
theorem semicolon_notMem_tokens (n : Nat) {lexemes : List Lexeme} (h : Separated lexemes) :
    .sign ';' ∉ d.tokens n lexemes := by
  induction lexemes generalizing n with
  | nil => simp [tokens]
  | cons first rest ih =>
    cases first with
    | word w => simp [tokens, Sql.Word.semicolon_notMem h.1, ih n h.2]
    | name s => simp [tokens, ih n h.2]
    | value v => simp [tokens, ih (n + 1) h.2]

/-- The end of a text, and a semicolon, can stand behind anything. -/
theorem Legible.free_semicolon (h : d.Legible) : d.Free [';'] :=
  h.free_word .semicolon []

theorem free_nil : d.Free [] :=
  ⟨by simp, by simp⟩

/-- Separated lexemes make up a statement of which the arguments can be bound. -/
theorem query_binds (h : d.Legible) {lexemes : List Lexeme} (hs : Separated lexemes) :
    (d.query lexemes).Binds d := by
  have whole := scan_write h hs 0 h.free_semicolon
  have body := scan_write h hs 0 free_nil
  have mark : d.scan [';'] = [.sign ';'] := by
    rw [scan_sign h (by decide), scan]
  simp only [List.append_nil, scan] at body
  refine ⟨?_, d.write 0 lexemes, d.query_sql lexemes, ?_, ?_⟩
  · rw [placeholders, query_sql, whole, mark, List.filterMap_append, filterMap_placeholder?_tokens]
    simp [Token.placeholder?, query]
  · rw [query_sql, whole, body, mark]
  · rw [body]
    exact semicolon_notMem_tokens 0 hs

end Dialect

/-- **Placeholders and arguments agree** in every statement that is built. -/
theorem select_update_binds (db : Database) (h : db.dialect.Legible) (store : Store) :
    (∀ s q, ((db.buildSelect s).exec store).1 = .ok q → q.Binds db.dialect) ∧
      ∀ u q, ((db.buildUpdate u).exec store).1 = .ok q → q.Binds db.dialect := by
  refine ⟨fun s q hq => ?_, fun u q hq => ?_⟩
  · obtain ⟨t, -, rfl⟩ := Database.buildSelect_ok hq
    exact Dialect.query_binds h t.isPart.separated
  · obtain ⟨t, -, rfl⟩ := Database.buildUpdate_ok hq
    exact Dialect.query_binds h t.isPart.separated

theorem sample_binds :
    Dialect.postgres.Legible ∧
      (((Sample.database.buildSelect Sample.namesakes).exec .empty).1 = .ok Sample.namesakesQuery ∧
        Sample.namesakesQuery.Binds .postgres) ∧
      ((Sample.database.buildUpdate Sample.birthday).exec .empty).1 = .ok Sample.birthdayQuery ∧
        Sample.birthdayQuery.Binds .postgres := by
  have legible : Dialect.postgres.Legible := ⟨rfl, by decide⟩
  have binds := select_update_binds Sample.database legible .empty
  exact ⟨legible,
    ⟨Sample.buildSelect_namesakes, binds.1 _ _ Sample.buildSelect_namesakes⟩,
    Sample.buildUpdate_birthday, binds.2 _ _ Sample.buildUpdate_birthday⟩

end EntitySql
