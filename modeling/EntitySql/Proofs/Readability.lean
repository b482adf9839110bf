import EntitySql.Proofs.Placeholders
import EntitySql.Proofs.ReadBack
import EntitySql.Proofs.SyntaxTrees

/-!
# Unique readability

The text of a statement shows its structure (`select_update_structure`). The tokens that scanning
finds in it show the lexemes, because no word begins another one, and the lexemes show the tree,
because a reader gets it back from them. That tree is the one that the statement has by its own
operators and names (`EntitySql.Proofs.SyntaxTrees`), and not just what it happens to be resolved
to.
-/

namespace EntitySql

open Sql (Lexeme Word Token)

/-! ### Words -/

/-- Every word. -/
def Sql.Word.all : List Word :=
  [[.select, .star, .comma, .dot, .openParen, .closeParen, .aliased, .from, .filter, .groupBy,
      .having, .limit, .offset, .condition, .sharing, .update, .set, .assign, .member, .not,
      .exists, .and, .or, .semicolon],
    [.compare .eq, .compare .ne, .compare .lt, .compare .le, .compare .gt, .compare .ge,
      .compare .like],
    [.quantifier .any, .quantifier .all, .quantifier .some],
    [.aggregate .avg, .aggregate .sum, .aggregate .count, .aggregate .max, .aggregate .min],
    [.join .inner, .join .left, .join .right]].flatten

theorem Sql.Word.mem_all (w : Word) : w ∈ all := by
  cases w with
  | compare op => cases op <;> decide
  | quantifier q => cases q <;> decide
  | aggregate fn => cases fn <;> decide
  | join kind => cases kind <;> decide
  | _ => decide

/-- Words that begin one another look alike. -/
theorem Sql.Word.shown_of_isPrefix (w w' : Word) (h : w.text.toList <+: w'.text.toList) :
    (Lexeme.word w).shown = (Lexeme.word w').shown ∧ w.text = w'.text := by
  have pairs : (all.all fun w => all.all fun w' => !w.text.toList.isPrefixOf w'.text.toList ||
      ((Lexeme.word w).shown == (Lexeme.word w').shown && w.text == w'.text)) = true := by
    decide +kernel
  have pair := List.all_eq_true.1 (List.all_eq_true.1 pairs w w.mem_all) w' w'.mem_all
  simpa [List.isPrefixOf_iff_prefix.2 h] using pair

/-- The signs of a word, with anything behind them, show which word it is. -/
theorem Sql.Word.shown_of_signs {w w' : Word} {rest rest' : List Token}
    (h : w.text.toList.map Token.sign ++ rest = w'.text.toList.map Token.sign ++ rest') :
    (Lexeme.word w).shown = (Lexeme.word w').shown ∧ rest = rest' := by
  have signs : Function.Injective Token.sign := fun _ _ he => Token.sign.inj he
  have same : (Lexeme.word w).shown = (Lexeme.word w').shown ∧ w.text = w'.text := by
    rcases List.prefix_or_prefix_of_prefix ⟨rest, rfl⟩ ⟨rest', h.symm⟩ with hp | hp
    · exact shown_of_isPrefix w w' ((List.prefix_map_iff_of_injective signs).1 hp)
    · obtain ⟨shown, text⟩ :=
        shown_of_isPrefix w' w ((List.prefix_map_iff_of_injective signs).1 hp)
      exact ⟨shown.symm, text.symm⟩
  refine ⟨same.1, ?_⟩
  rw [same.2] at h
  exact List.append_cancel_left h

namespace Dialect

variable {d : Dialect}

/-- The tokens of a word begin with a character. -/
theorem exists_tokens_word (n : Nat) (w : Word) (rest : List Lexeme) :
    ∃ c more, d.tokens n (.word w :: rest) = .sign c :: more := by
  obtain ⟨c, text, hw⟩ := List.exists_cons_of_ne_nil w.text_ne_nil
  exact ⟨c, text.map .sign ++ d.tokens n rest, by rw [tokens, hw]; rfl⟩

/-- Tokens show the lexemes that they are of. -/
theorem shown_of_tokens {n : Nat} {left right : List Lexeme}
    (h : d.tokens n left = d.tokens n right) :
    left.map Lexeme.shown = right.map Lexeme.shown := by
  induction left generalizing n right with
  | nil =>
    rcases right with _ | ⟨w | s | v, more⟩
    · rfl
    · obtain ⟨c, signs, hw⟩ := d.exists_tokens_word n w more
      rw [hw] at h
      simp [tokens] at h
    · simp [tokens] at h
    · simp [tokens] at h
  | cons first rest ih =>
    cases first with
    | word w =>
      obtain ⟨c, signs, hw⟩ := d.exists_tokens_word n w rest
      rcases right with _ | ⟨w' | s | v, more⟩
      · rw [hw] at h
        simp [tokens] at h
      · obtain ⟨same, others⟩ := Sql.Word.shown_of_signs h
        rw [List.map_cons, List.map_cons, same, ih others]
      · rw [hw] at h
        simp [tokens] at h
      · rw [hw] at h
        simp [tokens] at h
    | name s =>
      rcases right with _ | ⟨w | s' | v, more⟩
      · simp [tokens] at h
      · obtain ⟨c, signs, hw⟩ := d.exists_tokens_word n w more
        rw [hw] at h
        simp [tokens] at h
      · simp only [tokens, List.cons.injEq, Token.name.injEq] at h
        rw [List.map_cons, List.map_cons, h.1, ih h.2]
      · simp [tokens] at h
    | value v =>
      rcases right with _ | ⟨w | s | v', more⟩
      · simp [tokens] at h
      · obtain ⟨c, signs, hw⟩ := d.exists_tokens_word n w more
        rw [hw] at h
        simp [tokens] at h
      · simp [tokens] at h
      · simp only [tokens, List.cons.injEq, true_and] at h
        rw [List.map_cons, List.map_cons, ih h]
        rfl

/-- The text of a statement shows its lexemes. -/
theorem shown_of_query (h : d.Legible) {left right : List Lexeme} (hl : Sql.Separated left)
    (hr : Sql.Separated right) (he : (d.query left).sql = (d.query right).sql) :
    left.map Lexeme.shown = right.map Lexeme.shown := by
  have text : d.write 0 left ++ [';'] = d.write 0 right ++ [';'] := by
    rw [← query_sql, ← query_sql, he]
  have scanned := congrArg d.scan text
  rw [scan_write h hl 0 h.free_semicolon, scan_write h hr 0 h.free_semicolon] at scanned
  exact shown_of_tokens (List.append_cancel_right scanned)

end Dialect

/-- **Statements are uniquely readable**: each statement that is built has one syntax tree, and
statements of the same text have the same one, but for literals and the numbers of rows. -/
theorem select_update_structure (db : Database) (h : db.dialect.Legible) (store₁ store₂ : Store)
    (model₁ model₂ : EntityType → TableModel)
    (agrees₁ : ∀ e m, store₁.registry.effective e = .ok m → model₁ e = m)
    (agrees₂ : ∀ e m, store₂.registry.effective e = .ok m → model₂ e = m) :
    (∀ s₁ s₂ q₁ q₂, ((db.buildSelect s₁).exec store₁).1 = .ok q₁ →
        ((db.buildSelect s₂).exec store₂).1 = .ok q₂ → q₁.sql = q₂.sql →
        ∃ t₁ t₂, (∀ t, s₁.HasTree model₁ t ↔ t = t₁) ∧ (∀ t, s₂.HasTree model₂ t ↔ t = t₂) ∧
          t₁.anonymous = t₂.anonymous) ∧
      ∀ u₁ u₂ q₁ q₂, ((db.buildUpdate u₁).exec store₁).1 = .ok q₁ →
        ((db.buildUpdate u₂).exec store₂).1 = .ok q₂ → q₁.sql = q₂.sql →
        ∃ t₁ t₂, (∀ t, u₁.HasTree model₁ db.config.accessor t ↔ t = t₁) ∧
          (∀ t, u₂.HasTree model₂ db.config.accessor t ↔ t = t₂) ∧
          t₁.anonymous = t₂.anonymous := by
  refine ⟨fun s₁ s₂ q₁ q₂ h₁ h₂ he => ?_, fun u₁ u₂ q₁ q₂ h₁ h₂ he => ?_⟩
  · obtain ⟨t₁, tree₁, rfl⟩ := Database.hasTree_of_buildSelect agrees₁ h₁
    obtain ⟨t₂, tree₂, rfl⟩ := Database.hasTree_of_buildSelect agrees₂ h₂
    have shown := Dialect.shown_of_query h t₁.isPart.separated t₂.isPart.separated he
    exact ⟨t₁, t₂, tree₁, tree₂, Sql.Select.anonymous_eq shown⟩
  · obtain ⟨t₁, tree₁, rfl⟩ := Database.hasTree_of_buildUpdate agrees₁ h₁
    obtain ⟨t₂, tree₂, rfl⟩ := Database.hasTree_of_buildUpdate agrees₂ h₂
    have shown := Dialect.shown_of_query h t₁.isPart.separated t₂.isPart.separated he
    exact ⟨t₁, t₂, tree₁, tree₂, Sql.Update.anonymous_eq shown⟩

/-- The sample query with another limit. -/
def Sample.moreNamesakes : Select :=
  { namesakes with limit := 9 }

def Sample.moreNamesakesQuery : Query :=
  { namesakesQuery with args := [.int32 18, .int32 18, .int64 9] }

/-- The sample update with another age. -/
def Sample.laterBirthday : Update :=
  { birthday with assignments := .list [.assign "age" (.literal (.int32 41))] }

def Sample.laterBirthdayQuery : Query :=
  { birthdayQuery with args := [.int32 41, .int32 18] }

theorem Sample.buildSelect_moreNamesakes :
    ((database.buildSelect moreNamesakes).exec .empty).1 = .ok moreNamesakesQuery := by
  decide +kernel

theorem Sample.buildUpdate_laterBirthday :
    ((database.buildUpdate laterBirthday).exec .empty).1 = .ok laterBirthdayQuery := by
  decide +kernel

theorem sample_structure :
    Dialect.postgres.Legible ∧
      (∀ e m, Registry.empty.effective e = .ok m → Sample.models e = m) ∧
      (∃ t₁ t₂, (∀ t, Sample.namesakes.HasTree Sample.models t ↔ t = t₁) ∧
        (∀ t, Sample.moreNamesakes.HasTree Sample.models t ↔ t = t₂) ∧
        t₁.anonymous = t₂.anonymous) ∧
      ∃ t₁ t₂,
        (∀ t, Sample.birthday.HasTree Sample.models Sample.database.config.accessor t ↔ t = t₁) ∧
        (∀ t, Sample.laterBirthday.HasTree Sample.models Sample.database.config.accessor t ↔
          t = t₂) ∧
        t₁.anonymous = t₂.anonymous := by
  have legible : Dialect.postgres.Legible := ⟨rfl, by decide⟩
  have agrees : ∀ e m, Registry.empty.effective e = .ok m → Sample.models e = m :=
    fun _ _ => Sample.models_eq
  have structure_ := select_update_structure Sample.database legible .empty .empty Sample.models
    Sample.models agrees agrees
  exact ⟨legible, agrees,
    structure_.1 _ _ _ _ Sample.buildSelect_namesakes Sample.buildSelect_moreNamesakes rfl,
    structure_.2 _ _ _ _ Sample.buildUpdate_birthday Sample.buildUpdate_laterBirthday rfl⟩

end EntitySql
