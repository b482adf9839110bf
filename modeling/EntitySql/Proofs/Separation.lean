import EntitySql.Sql.Lexeme

/-!
# Separated lexemes

In the lexemes of a statement a word stands between any two names or values, and none of the words
is a semicolon. Therefore names and placeholders can be told apart in the text. A part of a
statement is separated together with what follows it, if that begins with a word.
-/

namespace EntitySql.Sql

/-- Whether lexemes begin with a word or are none. -/
def BeginsWithWord : List Lexeme → Prop
  | [] | .word _ :: _ => True
  | .name _ :: _ | .value _ :: _ => False

/-- Between any two names or values stands a word, and nowhere a semicolon. -/
def Separated : List Lexeme → Prop
  | [] => True
  | .word w :: rest => w ≠ .semicolon ∧ Separated rest
  | .name _ :: rest | .value _ :: rest => BeginsWithWord rest ∧ Separated rest

/-- Lexemes that can stand behind a name or a value. -/
structure Ready (rest : List Lexeme) : Prop where
  begins : BeginsWithWord rest
  separated : Separated rest

/-- A part of a statement. -/
def IsPart (part : List Lexeme) : Prop :=
  ∀ rest, Ready rest → Separated (part ++ rest)

/-- A part of a statement that can stand behind a name or a value, in that it begins with a word or
is absent. -/
def IsClause (clause : List Lexeme) : Prop :=
  ∀ rest, Ready rest → Ready (clause ++ rest)

theorem ready_nil : Ready [] :=
  ⟨trivial, trivial⟩

theorem ready_word {w : Word} {rest : List Lexeme} (hw : w ≠ .semicolon) (h : Separated rest) :
    Ready (.word w :: rest) :=
  ⟨trivial, hw, h⟩

theorem isPart_name (s : String) : IsPart [.name s] :=
  fun _ h => ⟨h.begins, h.separated⟩

theorem isPart_value (v : Value) : IsPart [.value v] :=
  fun _ h => ⟨h.begins, h.separated⟩

theorem isClause_nil : IsClause [] :=
  fun _ h => h

theorem IsPart.separated {part : List Lexeme} (h : IsPart part) : Separated part := by
  simpa using h [] ready_nil

theorem IsClause.isPart {clause : List Lexeme} (h : IsClause clause) : IsPart clause :=
  fun rest hr => (h rest hr).separated

theorem IsPart.append {part clause : List Lexeme} (hp : IsPart part) (hc : IsClause clause) :
    IsPart (part ++ clause) := by
  intro rest hr
  rw [List.append_assoc]
  exact hp _ (hc rest hr)

theorem IsClause.append {first second : List Lexeme} (h₁ : IsClause first) (h₂ : IsClause second) :
    IsClause (first ++ second) := by
  intro rest hr
  rw [List.append_assoc]
  exact h₁ _ (h₂ rest hr)

/-- A word in front makes a clause of a part. -/
theorem IsPart.after {w : Word} {part : List Lexeme} (hw : w ≠ .semicolon) (h : IsPart part) :
    IsClause (.word w :: part) :=
  fun rest hr => ready_word hw (h rest hr)

theorem isClause_word {w : Word} (hw : w ≠ .semicolon) : IsClause [.word w] :=
  isClause_nil.isPart.after hw

theorem IsPart.parenthesized {part : List Lexeme} (h : IsPart part) :
    IsClause (parenthesized part) :=
  (h.append (isClause_word (by simp))).after (by simp)

theorem isPart_commaSeparated {parts : List (List Lexeme)} (h : ∀ part ∈ parts, IsPart part) :
    IsPart (commaSeparated parts) := by
  fun_induction commaSeparated parts with
  | case1 => exact isClause_nil.isPart
  | case2 part => exact h part (by simp)
  | case3 part rest _ ih =>
    exact (h part (by simp)).append ((ih fun p hp => h p (by simp [hp])).after (by simp))

theorem Column.isPart (c : Column) : IsPart c.lexemes := by
  obtain ⟨qualifier?, name⟩ := c
  cases qualifier? with
  | none => exact isPart_name name
  | some qualifier => exact (isPart_name qualifier).append ((isPart_name name).after (by simp))

theorem Term.isPart (t : Term) : IsPart t.lexemes := by
  cases t with
  | column c => exact c.isPart
  | aggregate fn argument => exact (argument.isPart.parenthesized.isPart.after (by simp)).isPart
  | countAll =>
    exact ((isClause_word (by simp)).isPart.parenthesized.isPart.after (by simp)).isPart

theorem isClause_aliasLexemes (alias? : Option String) : IsClause (aliasLexemes alias?) := by
  cases alias? with
  | none => exact isClause_nil
  | some aliasName => exact (isPart_name aliasName).after (by simp)

theorem Selection.isPart (s : Selection) : IsPart s.lexemes :=
  s.term.isPart.append (isClause_aliasLexemes s.alias?)

theorem isPart_selectionLexemes (selections : List Selection) :
    IsPart (selectionLexemes selections) := by
  cases selections with
  | nil => exact (isClause_word (by simp)).isPart
  | cons first rest =>
    refine isPart_commaSeparated fun part hp => ?_
    obtain ⟨s, -, rfl⟩ := List.mem_map.1 hp
    exact s.isPart

theorem isClause_groupLexemes (columns : List Column) : IsClause (groupLexemes columns) := by
  cases columns with
  | nil => exact isClause_nil
  | cons first rest =>
    refine IsPart.after (by simp) (isPart_commaSeparated fun part hp => ?_)
    obtain ⟨c, -, rfl⟩ := List.mem_map.1 hp
    exact c.isPart

theorem isClause_rowCountLexemes {w : Word} (hw : w ≠ .semicolon) (n : Nat) :
    IsClause (rowCountLexemes w n) := by
  unfold rowCountLexemes
  split
  · exact isClause_nil
  · exact (isPart_value (rowCount n)).after hw

mutual

theorem Source.isPart : ∀ s : Source, IsPart s.lexemes
  | .table name alias? => (isPart_name name).append (isClause_aliasLexemes alias?)
  | .join _ left right condition =>
    (left.isPart.append
      ((right.isPart.append condition.isClause).after (by simp))).parenthesized.isPart
  | .subquery query aliasName =>
    query.isPart.parenthesized.isPart.append (isClause_aliasLexemes (some aliasName))

theorem JoinCondition.isClause : ∀ c : JoinCondition, IsClause c.lexemes
  | .unconditional => isClause_nil
  | .holds p => p.isPart.after (by simp)
  | .sharing columns => by
    refine IsPart.after (by simp) (IsPart.parenthesized ?_).isPart
    refine isPart_commaSeparated fun part hp => ?_
    obtain ⟨c, -, rfl⟩ := List.mem_map.1 hp
    exact isPart_name c

theorem Select.isPart : ∀ s : Select, IsPart s.lexemes
  | ⟨selections, source, filter, groupBy, having, limit, offset⟩ => by
    have from_ : IsClause (.word .from :: source.lexemes) := source.isPart.after (by simp)
    have where_ : IsClause (filter.lexemes .filter) := filter.isClause (by simp)
    have groups : IsClause (having.lexemes .having) := having.isClause (by simp)
    have most : IsClause (rowCountLexemes .limit limit) := isClause_rowCountLexemes (by simp) limit
    have skip : IsClause (rowCountLexemes .offset offset) :=
      isClause_rowCountLexemes (by simp) offset
    have body := (((((isPart_selectionLexemes selections).append from_).append where_).append
      (isClause_groupLexemes groupBy)).append groups).append most
    have select : Word.select ≠ .semicolon := by simp
    exact ((body.append skip).after select).isPart

theorem Filter.isClause {w : Word} (hw : w ≠ .semicolon) : ∀ f : Filter, IsClause (f.lexemes w)
  | .all => isClause_nil
  | .only p => p.isPart.after hw

theorem Predicate.isPart : ∀ p : Predicate, IsPart p.lexemes
  | .compare _ left right => left.isPart.append (right.operand_isPart.after (by simp))
  | .member left query =>
    left.isPart.append (query.isPart.parenthesized.isPart.after (by simp))
  | .not p => (p.isPart.parenthesized.isPart.after (by simp)).isPart
  | .exists query => (query.isPart.parenthesized.isPart.after (by simp)).isPart
  | .and p q => p.isPart.parenthesized.isPart.append (q.isPart.parenthesized.isPart.after (by simp))
  | .or p q => p.isPart.parenthesized.isPart.append (q.isPart.parenthesized.isPart.after (by simp))

theorem Expr.isPart : ∀ e : Expr, IsPart e.lexemes
  | .term t => t.isPart
  | .literal v => isPart_value v
  | .predicate p => p.isPart
  | .subquery query => query.isPart.parenthesized.isPart
  | .quantified _ query => (query.isPart.parenthesized.isPart.after (by simp)).isPart

theorem Expr.operand_isPart : ∀ e : Expr, IsPart e.operandLexemes
  | .term t => t.isPart
  | .literal v => isPart_value v
  | .predicate p => p.isPart.parenthesized.isPart
  | .subquery query => query.isPart.parenthesized.isPart
  | .quantified _ query => (query.isPart.parenthesized.isPart.after (by simp)).isPart

end

/-- One entry of what an update sets. -/
def changeLexemes : String × Expr → List Lexeme
  | (column, value) => .name column :: .word .assign :: value.lexemes

theorem Update.lexemes_eq (u : Update) :
    u.lexemes = .word .update :: .name u.table :: .word .set ::
      (commaSeparated (u.assignments.map changeLexemes) ++ u.filter.lexemes .filter) :=
  rfl

theorem isPart_changeLexemes (change : String × Expr) : IsPart (changeLexemes change) :=
  (isPart_name change.1).append (change.2.isPart.after (by simp))

theorem Update.isPart (u : Update) : IsPart u.lexemes := by
  have changes : IsPart (commaSeparated (u.assignments.map changeLexemes)) := by
    refine isPart_commaSeparated fun part hp => ?_
    obtain ⟨change, -, rfl⟩ := List.mem_map.1 hp
    exact isPart_changeLexemes change
  have where_ : IsClause (u.filter.lexemes .filter) := u.filter.isClause (by simp)
  have body : IsClause (.word .set :: _) := (changes.append where_).after (by simp)
  have update : Word.update ≠ .semicolon := by simp
  exact (((isPart_name u.table).append body).after update).isPart

end EntitySql.Sql
