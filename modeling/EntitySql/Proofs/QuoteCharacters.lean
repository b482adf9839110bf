import EntitySql.Proofs.Placeholders

/-!
# Quote characters

A custom dialect may quote names with any punctuation that is not refused: refused are the marks of
placeholders, of texts and of the end of a statement, and brackets but for the one that has its
counterpart. A statement can be taken apart into its names and what stands between them as long as
the quote occurs in no word (`Dialect.query_readable`). But words hold more signs than those that
are refused. Where names are quoted by `*`, `,`, `.`, `=` or `!`, there are statements that cannot
be taken apart, and with any other quote that is not refused there are none
(`readable_iff_quote_unused`).
-/

namespace EntitySql

open Sql (Lexeme Token)

/-- What a text is taken apart into. -/
inductive Sql.Part
  /-- A name between quotes. -/
  | name (s : String)
  /-- A character outside of names. -/
  | char (c : Char)
  deriving DecidableEq, Repr

open Sql (Part)

/-- A token in parts: outside of names there are only characters. -/
def Sql.Token.parts : Token → List Part
  | name s => [.name s]
  | placeholder text => text.toList.map .char
  | sign c => [.char c]

/-- Takes a text apart into names and characters outside of names. -/
def Dialect.split (d : Dialect) (text : List Char) : List Part :=
  (d.scan text).flatMap Token.parts

/-- The parts of lexemes, of which the first value is number `bound + 1`. -/
def Dialect.lexemeParts (d : Dialect) (bound : Nat) : List Lexeme → List Part
  | [] => []
  | .word w :: rest => w.text.toList.map .char ++ d.lexemeParts bound rest
  | .name s :: rest => .name s :: d.lexemeParts bound rest
  | .value _ :: rest =>
    (d.placeholder (bound + 1)).toList.map .char ++ d.lexemeParts (bound + 1) rest

/-- The statement of the lexemes is taken apart into their names and what is written in between. -/
structure Query.Readable (d : Dialect) (lexemes : List Lexeme) (q : Query) : Prop where
  written : q = d.query lexemes
  split : d.split q.sql.toList = d.lexemeParts 0 lexemes ++ [.char ';']

namespace Dialect

variable {d : Dialect}

theorem flatMap_parts_tokens (n : Nat) (lexemes : List Lexeme) :
    (d.tokens n lexemes).flatMap Token.parts = d.lexemeParts n lexemes := by
  induction lexemes generalizing n with
  | nil => rfl
  | cons first rest ih =>
    cases first with
    | word w =>
      have signs : (w.text.toList.map Token.sign).flatMap Token.parts =
          w.text.toList.map .char := by
        rw [List.flatMap_map, List.map_eq_flatMap]
        rfl
      rw [tokens, List.flatMap_append, signs, ih, lexemeParts]
    | name s => rw [tokens, List.flatMap_cons, ih, lexemeParts]; rfl
    | value v => rw [tokens, List.flatMap_cons, ih, lexemeParts]; rfl

/-- With quotes that occur in no word, what is written can be taken apart. -/
theorem query_readable (h : d.Legible) {lexemes : List Lexeme} (hs : Sql.Separated lexemes) :
    (d.query lexemes).Readable d lexemes where
  written := rfl
  split := by
    have mark : d.scan [';'] = [.sign ';'] := by
      rw [scan_sign h (by decide), scan]
    rw [split, query_sql, scan_write h hs 0 h.free_semicolon, mark, List.flatMap_append,
      flatMap_parts_tokens]
    rfl

end Dialect

/-- In this dialect every statement that is built can be taken apart. -/
def CustomDialect.IsReadable (c : CustomDialect) : Prop :=
  ∀ (db : Database) (store : Store), db.dialect = .custom c →
    (∀ s q, ((db.buildSelect s).exec store).1 = .ok q →
        ∃ t, s.resolve.answer store.registry.effective = .ok t ∧
          q.Readable (.custom c) t.lexemes) ∧
      ∀ u q, ((db.buildUpdate u).exec store).1 = .ok q →
        ∃ t, (u.resolve db.config.accessor).answer store.registry.effective = .ok t ∧
          q.Readable (.custom c) t.lexemes

namespace Sample

/-- A query that has all those signs among its words. -/
def signs : Select :=
  { person.rows with
    selections := [⟨.countAll, none⟩, ⟨.column (.ofTable person (some "p") "name"), none⟩]
    filter := [.compare .ne (.column (.bare "name")) (.term (.column (.bare "name")))] }

def signsSql : Sql.Select where
  selections := [⟨.countAll, none⟩, ⟨.column ⟨some "p", "name"⟩, none⟩]
  source := .table "pe?ople;" none
  filter := .only (.compare .ne (.column ⟨none, "name"⟩) (.term (.column ⟨none, "name"⟩)))
  groupBy := []
  having := .all
  limit := 0
  offset := 0

theorem resolve_signs : signs.resolve.answer Registry.empty.effective = .ok signsSql := rfl

/-- Where one of its signs quotes the names, that query cannot be taken apart. -/
theorem not_readable_signs {quote : Char} (h : quote ∈ ['*', ',', '.', '=', '!'])
    (style : PlaceholderStyle) :
    ¬((Dialect.custom ⟨quote, style⟩).query signsSql.lexemes).Readable (.custom ⟨quote, style⟩)
      signsSql.lexemes := by
  intro readable
  refine absurd readable.split ?_
  simp only [List.mem_cons, List.not_mem_nil, or_false] at h
  rcases h with rfl | rfl | rfl | rfl | rfl <;> cases style <;> decide +kernel

end Sample

/-- Signs that occur in words are no quotes that statements could be taken apart by. -/
theorem CustomDialect.not_isReadable {c : CustomDialect}
    (h : c.quote ∈ ['*', ',', '.', '=', '!']) : ¬c.IsReadable := by
  intro readable
  have built : (((Database.mk (.custom c) .default).buildSelect Sample.signs).exec .empty).1 =
      .ok ((Dialect.custom c).query Sample.signsSql.lexemes) := by
    rw [Database.buildSelect_result]
    exact congrArg (Except.map _) Sample.resolve_signs
  obtain ⟨t, resolved, parts⟩ := (readable _ .empty rfl).1 _ _ built
  have same : Sample.signsSql = t := Except.ok.inj (Sample.resolve_signs.symm.trans resolved)
  exact Sample.not_readable_signs h c.placeholder (same ▸ parts)

/-- **Readable quotes.** With a quote that is not refused, every statement can be taken apart into
its names and what is written in between, if and only if the quote is none of the signs in words. -/
theorem readable_iff_quote_unused {c : CustomDialect} (valid : c.validate = .ok ()) :
    c.IsReadable ↔ c.quote ∉ ['*', ',', '.', '=', '!'] := by
  constructor
  · intro readable used
    exact CustomDialect.not_isReadable used readable
  · rintro unused ⟨dialect, config⟩ store rfl
    have legible : (Dialect.custom c).Legible := ⟨valid, unused⟩
    constructor
    · intro s q built
      obtain ⟨t, resolved, rfl⟩ := Database.buildSelect_ok built
      exact ⟨t, resolved, Dialect.query_readable legible t.isPart.separated⟩
    · intro u q built
      obtain ⟨t, resolved, rfl⟩ := Database.buildUpdate_ok built
      exact ⟨t, resolved, Dialect.query_readable legible t.isPart.separated⟩

theorem sample_quotes :
    (CustomDialect.mk '|' .numbered).validate = .ok () ∧
      (CustomDialect.mk '|' .numbered).IsReadable := by
  have valid : (CustomDialect.mk '|' .numbered).validate = .ok () := rfl
  exact ⟨valid, (readable_iff_quote_unused valid).2 (by decide)⟩

/-- The names that a text is taken to hold. -/
def Dialect.names (d : Dialect) (text : List Char) : List String :=
  (d.split text).filterMap fun
    | .name s => some s
    | .char _ => none

/-- An equality sign is accepted for a quote, and then a placeholder ends up in what is read as a
name. -/
theorem equality_sign_hides_placeholder :
    (CustomDialect.mk '=' .numbered).validate = .ok () ∧
      (((Database.mk (.custom ⟨'=', .numbered⟩) .default).buildSelect
          { Sample.person.rows with
            filter := [.compare .eq (.column (.bare "name")) (.literal (.text "x")),
              .compare .eq (.column (.bare "name")) (.literal (.text "y"))] }).exec .empty).1 =
        .ok ⟨"SELECT * FROM =pe?ople;= WHERE (=name= = $1) AND (=name= = $2);",
          [.text "x", .text "y"]⟩ ∧
      (Dialect.custom ⟨'=', .numbered⟩).names
          "SELECT * FROM =pe?ople;= WHERE (=name= = $1) AND (=name= = $2);".toList =
        ["pe?ople;", "name", " $1) AND (", " "] ∧
      ¬(CustomDialect.mk '=' .numbered).IsReadable := by
  refine ⟨rfl, by decide +kernel, by decide +kernel, ?_⟩
  exact CustomDialect.not_isReadable (by decide)

end EntitySql
