import EntitySql.Proofs.Reading
import EntitySql.Proofs.Separation

/-!
# Statements read back

`Reads read k part a` says that a reader takes a part for `a`, provided that what follows begins
with a word of a rank above `k`: ranks follow the order in which clauses can come. Each constructor
of a statement is read back if its components are (`Source.IsRead`, `Predicate.IsRead`, …), and so
statements that look alike are alike but for their literals (`Select.anonymous_eq`,
`Update.anonymous_eq`).
-/

namespace EntitySql.Sql

/-! ### What a text shows of lexemes that are put together -/

theorem Lexeme.shown_word {w : Word} (h : w ≠ .assign) : (Lexeme.word w).shown = .word w := by
  unfold shown
  split
  · contradiction
  · simp_all
  · rfl

@[simp] theorem Lexeme.shown_name (s : String) : (Lexeme.name s).shown = .name s := rfl

@[simp] theorem Lexeme.shown_value (v : Value) : (Lexeme.value v).shown = .value .null := rfl

@[simp] theorem map_shown_commaSeparated (parts : List (List Lexeme)) :
    (commaSeparated parts).map Lexeme.shown =
      commaSeparated (parts.map (List.map Lexeme.shown)) := by
  fun_induction commaSeparated parts with
  | case1 => rfl
  | case2 part => rfl
  | case3 part rest hr ih =>
    rw [List.map_append, List.map_cons, ih, List.map_cons, commaSeparated]
    · rfl
    · simpa using hr

@[simp] theorem map_shown_parenthesized (part : List Lexeme) :
    (parenthesized part).map Lexeme.shown = parenthesized (part.map Lexeme.shown) := by
  simp [parenthesized, Lexeme.shown_word]

/-! ### What may follow -/

/-- The place of a word in the order in which words can follow a part. -/
def Word.rank : Word → Nat
  | .dot => 0
  | .compare _ | .member => 1
  | .aliased => 2
  | .comma => 3
  | .condition | .sharing => 4
  | .filter => 5
  | .groupBy => 6
  | .having => 7
  | .limit => 8
  | .offset => 9
  | _ => 10

/-- Lexemes that begin with a word of a higher rank or are none. -/
def Above (k : Nat) : List Lexeme → Prop
  | [] => True
  | .word w :: _ => k < w.rank
  | .name _ :: _ | .value _ :: _ => False

section Reads

variable {α : Type} {read : Reader α} {j k : Nat} {w : Word} {part rest : List Lexeme} {a : α}

theorem above_nil : Above k [] :=
  trivial

theorem above_word (h : k < w.rank) : Above k (.word w :: rest) :=
  h

theorem Above.mono (h : Above k rest) (hj : j ≤ k) : Above j rest := by
  match rest, h with
  | [], _ => trivial
  | .word w :: _, h => exact Nat.lt_of_le_of_lt hj h

/-- A word that is not above cannot be taken. -/
theorem Above.take (h : Above k rest) (hw : w.rank ≤ k) : take w rest = none := by
  match rest, h with
  | [], _ => rfl
  | .word w' :: _, h =>
    refine if_neg ?_
    rintro rfl
    exact Nat.not_lt.2 hw h

theorem Above.readName (h : Above k rest) : readName rest = none := by
  match rest, h with
  | [], _ => rfl
  | .word _ :: _, _ => rfl

@[simp] theorem take_cons_self : take w (.word w :: rest) = some rest := by
  simp [take]

/-- A reader reads a part as something, whatever comes after it above a rank. -/
def Reads (read : Reader α) (k : Nat) (part : List Lexeme) (a : α) : Prop :=
  ∀ rest, Above k rest → read (part ++ rest) = some (a, rest)

theorem Reads.mono (h : Reads read k part a) (hj : k ≤ j) : Reads read j part a :=
  fun rest hr => h rest (hr.mono hj)

theorem Reads.inParens (h : Reads read k part a) (hk : k < 10) :
    Reads (inParens read) j (parenthesized part) a := by
  intro rest _
  have inner := h (.word .closeParen :: rest) (above_word hk)
  simp [Sql.inParens, parenthesized, inner]

theorem Reads.optional (h : Reads read k part a) :
    Reads (optional w read) k (.word w :: part) (some a) := by
  intro rest hr
  simp [Sql.optional, h rest hr]

theorem reads_optional_nil : Reads (optional w read) w.rank [] none := by
  intro rest hr
  simp [optional, hr.take (Nat.le_refl _)]

theorem reads_name (s : String) : Reads readName k [.name s] s :=
  fun _ _ => rfl

theorem length_le_commaSeparated {parts : List (List Lexeme)} (h : ∀ part ∈ parts, part ≠ []) :
    parts.length ≤ (commaSeparated parts).length := by
  fun_induction commaSeparated parts with
  | case1 => simp
  | case2 part => simpa [Nat.one_le_iff_ne_zero] using h part
  | case3 part rest _ ih =>
    have := ih fun p hp => h p (by simp [hp])
    simp only [List.length_cons, List.length_append]
    omega

theorem reads_entries {β : Type} {xs : List β} {parts : β → List Lexeme} {f : β → α} {fuel : Nat}
    (h : ∀ x ∈ xs, Reads read 2 (parts x) (f x)) (hf : xs.length ≤ fuel)
    (he : xs = [] → ∀ rest, Above 3 rest → read rest = none) :
    Reads (readEntries read fuel) 3 (commaSeparated (xs.map parts)) (xs.map f) := by
  intro rest hr
  induction xs generalizing fuel with
  | nil =>
    cases fuel with
    | zero => rfl
    | succ fuel => simp [readEntries, commaSeparated, he rfl rest hr]
  | cons x xs ih =>
    obtain ⟨fuel, rfl⟩ : ∃ n, fuel = n + 1 := ⟨fuel - 1, by simp at hf; omega⟩
    have first := h x (by simp)
    cases xs with
    | nil =>
      have last : take .comma rest = none := hr.take (Nat.le_refl _)
      simp [readEntries, commaSeparated, first rest (hr.mono (by decide)), last]
    | cons y ys =>
      have more := ih (fun x hx => h x (by simp [hx])) (by simpa using hf) (by simp)
      have step := first (.word .comma :: (commaSeparated ((y :: ys).map parts) ++ rest))
        (above_word (by decide))
      simp only [List.map_cons] at more step ⊢
      simp [commaSeparated, readEntries, step, more]

/-- A list is read where its entries are, if nothing that follows an empty list looks like one. -/
theorem reads_list {β : Type} {xs : List β} (parts : β → List Lexeme) {f : β → α}
    (h : ∀ x ∈ xs, Reads read 2 (parts x) (f x)) (hp : ∀ x ∈ xs, parts x ≠ [])
    (he : xs = [] → ∀ rest, Above 3 rest → read rest = none) :
    Reads (readList read) 3 (commaSeparated (xs.map parts)) (xs.map f) := by
  intro rest hr
  refine reads_entries h ?_ he rest hr
  have : (xs.map parts).length ≤ (commaSeparated (xs.map parts)).length :=
    length_le_commaSeparated (by simpa using hp)
  simp only [List.length_map, List.length_append] at this ⊢
  omega

end Reads

/-! ### Reading the parts of a query -/

theorem Column.reads (c : Column) : Reads readColumn 0 (c.lexemes.map Lexeme.shown) c := by
  obtain ⟨qualifier?, name⟩ := c
  intro rest hr
  cases qualifier? with
  | none =>
    have last : take .dot rest = none := hr.take (Nat.le_refl _)
    simp [lexemes, readColumn, readName, optional, last]
  | some qualifier => simp [lexemes, readColumn, readName, optional, Lexeme.shown_word]

theorem Term.reads (t : Term) : Reads readTerm 0 (t.lexemes.map Lexeme.shown) t := by
  intro rest hr
  cases t with
  | column c =>
    have := c.reads rest hr
    obtain ⟨_ | qualifier, name⟩ := c <;>
      simp_all [lexemes, Column.lexemes, readTerm]
  | aggregate fn argument =>
    have inner := (argument.reads.inParens (j := 0) (by decide)) rest hr
    obtain ⟨_ | qualifier, name⟩ := argument <;>
      simp_all [lexemes, Column.lexemes, readTerm, Lexeme.shown_word, parenthesized]
  | countAll => simp [lexemes, readTerm, Lexeme.shown_word, parenthesized]

theorem reads_alias (alias? : Option String) :
    Reads (optional .aliased readName) 2 ((aliasLexemes alias?).map Lexeme.shown) alias? := by
  cases alias? with
  | none => exact reads_optional_nil
  | some aliasName => exact (reads_name aliasName).optional

theorem Above.alias (hr : Above k rest) (hk : k < 2) (alias? : Option String) :
    Above k ((aliasLexemes alias?).map Lexeme.shown ++ rest) := by
  cases alias? with
  | none => exact hr
  | some aliasName => exact above_word hk

theorem Selection.reads (s : Selection) :
    Reads readSelection 2 (s.lexemes.map Lexeme.shown) s := by
  intro rest hr
  have term := s.term.reads _ ((hr.mono (by decide)).alias (by decide) s.alias?)
  have alias_ := reads_alias s.alias? rest hr
  simp [lexemes, readSelection, term, alias_]

theorem Column.lexemes_ne_nil (c : Column) : c.lexemes ≠ [] := by
  unfold lexemes
  split <;> simp

theorem Term.lexemes_ne_nil (t : Term) : t.lexemes ≠ [] := by
  cases t <;> simp [lexemes, Column.lexemes_ne_nil]

theorem Selection.lexemes_ne_nil (s : Selection) : s.lexemes ≠ [] := by
  simp [lexemes, s.term.lexemes_ne_nil]

theorem commaSeparated_cons (first : List Lexeme) (rest : List (List Lexeme)) :
    ∃ more, commaSeparated (first :: rest) = first ++ more := by
  cases rest with
  | nil => exact ⟨[], by simp [commaSeparated]⟩
  | cons second rest => exact ⟨_, rfl⟩

theorem Selection.take_star (s : Selection) (more : List Lexeme) :
    take .star (s.lexemes.map Lexeme.shown ++ more) = none := by
  obtain ⟨⟨_ | _, _⟩ | _ | _, alias?⟩ := s <;>
    simp [lexemes, Term.lexemes, Column.lexemes, take, Lexeme.shown_word]

theorem reads_selections (selections : List Selection) :
    Reads readSelections 3 ((selectionLexemes selections).map Lexeme.shown) selections := by
  cases selections with
  | nil =>
    intro rest _
    simp [selectionLexemes, readSelections, Lexeme.shown_word]
  | cons first others =>
    intro rest hr
    have list : Reads (readList readSelection) 3 _ ((first :: others).map id) :=
      reads_list (fun s => s.lexemes.map Lexeme.shown) (fun s _ => s.reads)
        (fun s _ => by simpa using s.lexemes_ne_nil) (by simp)
    have whole := list rest hr
    obtain ⟨more, hm⟩ := commaSeparated_cons (first.lexemes.map Lexeme.shown)
      (others.map fun s => s.lexemes.map Lexeme.shown)
    have start := first.take_star (more ++ rest)
    rw [← List.append_assoc, ← hm] at start
    simp only [List.map_id] at whole
    simp [selectionLexemes, readSelections, Function.comp_def, start] at whole ⊢
    exact whole

theorem reads_groups (columns : List Column) :
    Reads readGroups 6 ((groupLexemes columns).map Lexeme.shown) columns := by
  intro rest hr
  cases columns with
  | nil =>
    have last : take .groupBy rest = none := hr.take (Nat.le_refl _)
    simp [groupLexemes, readGroups, optional, last]
  | cons first others =>
    have list : Reads (readList readColumn) 3 _ ((first :: others).map id) :=
      reads_list (fun c => c.lexemes.map Lexeme.shown)
        (fun c _ => c.reads.mono (by decide)) (fun c _ => by simpa using c.lexemes_ne_nil) (by simp)
    have whole := list.optional (w := .groupBy) rest (hr.mono (by decide))
    simp only [List.map_id] at whole
    simp [groupLexemes, readGroups, Function.comp_def, Lexeme.shown_word] at whole ⊢
    simp [whole]

theorem reads_rowCount {w : Word} (hw : w ≠ .assign) (n : Nat) :
    Reads (readRowCount w) w.rank ((rowCountLexemes w n).map Lexeme.shown) (min n 1) := by
  intro rest hr
  unfold rowCountLexemes
  split
  · have last : take w rest = none := hr.take (Nat.le_refl _)
    simp_all [readRowCount, optional]
  · have : min n 1 = 1 := by omega
    simp [readRowCount, optional, readHole, Lexeme.shown_word hw, this]

/-! ### Reading queries -/

theorem Above.groups {k : Nat} {rest : List Lexeme} (hr : Above k rest) (hk : k < 6)
    (columns : List Column) : Above k ((groupLexemes columns).map Lexeme.shown ++ rest) := by
  cases columns with
  | nil => exact hr
  | cons first others => exact above_word hk

theorem Above.rowCount {k : Nat} {rest : List Lexeme} (hr : Above k rest) {w : Word}
    (hw : w ≠ .assign) (hk : k < w.rank) (n : Nat) :
    Above k ((rowCountLexemes w n).map Lexeme.shown ++ rest) := by
  unfold rowCountLexemes
  split
  · exact hr
  · rw [List.map_cons, Lexeme.shown_word hw]
    exact above_word hk

theorem Above.filter {k : Nat} {rest : List Lexeme} (hr : Above k rest) {w : Word}
    (hw : w ≠ .assign) (hk : k < w.rank) (f : Filter) :
    Above k ((f.lexemes w).map Lexeme.shown ++ rest) := by
  cases f with
  | all => exact hr
  | only p =>
    rw [Filter.lexemes, List.map_cons, Lexeme.shown_word hw]
    exact above_word hk

theorem Above.condition {k : Nat} {rest : List Lexeme} (hr : Above k rest) (hk : k < 4)
    (c : JoinCondition) : Above k (c.lexemes.map Lexeme.shown ++ rest) := by
  cases c with
  | unconditional => exact hr
  | holds p => exact above_word hk
  | sharing columns => exact above_word hk

theorem Term.take_select (t : Term) (more : List Lexeme) :
    take .select (t.lexemes.map Lexeme.shown ++ more) = none := by
  obtain ⟨_ | _, _⟩ | _ | _ := t <;>
    simp [lexemes, Column.lexemes, take, Lexeme.shown_word]

theorem Predicate.take_select (p : Predicate) (more : List Lexeme) :
    take .select (p.lexemes.map Lexeme.shown ++ more) = none := by
  cases p with
  | compare op left right => simpa [lexemes] using left.take_select _
  | member left query => simpa [lexemes, Term.lexemes] using (Term.column left).take_select _
  | _ => rfl

theorem Source.take_select (s : Source) (more : List Lexeme) :
    take .select (s.lexemes.map Lexeme.shown ++ more) = none := by
  cases s <;> rfl

theorem Select.opensQuery (q : Select) (more : List Lexeme) :
    opensQuery (parenthesized (q.lexemes.map Lexeme.shown) ++ more) = true := by
  cases q
  rfl

theorem Predicate.opensQuery (p : Predicate) (more : List Lexeme) :
    opensQuery (parenthesized (p.lexemes.map Lexeme.shown) ++ more) = false := by
  simp [Sql.opensQuery, parenthesized, p.take_select]

section IsRead

variable {fuel : Nat}

-- With fuel left, a reader goes on to its cases.
attribute [local simp] readSource readSelect readPredicate readOperand

/-- A source is read back, whatever comes after an alias. -/
def Source.IsRead (fuel : Nat) (s : Source) : Prop :=
  Reads (readSource fuel) 2 (s.lexemes.map Lexeme.shown) s.anonymous

def JoinCondition.IsRead (fuel : Nat) (c : JoinCondition) : Prop :=
  Reads (readJoinCondition (readPredicate fuel)) 4 (c.lexemes.map Lexeme.shown) c.anonymous

def Select.IsRead (fuel : Nat) (q : Select) : Prop :=
  Reads (readSelect fuel) 9 (q.lexemes.map Lexeme.shown) q.anonymous

def Filter.IsRead (fuel : Nat) (w : Word) (f : Filter) : Prop :=
  Reads (readFilter w (readPredicate fuel)) w.rank ((f.lexemes w).map Lexeme.shown) f.anonymous

def Predicate.IsRead (fuel : Nat) (p : Predicate) : Prop :=
  Reads (readPredicate fuel) 0 (p.lexemes.map Lexeme.shown) p.anonymous

/-- An operand is read back. -/
def Expr.IsRead (fuel : Nat) (e : Expr) : Prop :=
  Reads (readOperand fuel) 0 (e.operandLexemes.map Lexeme.shown) e.anonymous

theorem Source.IsRead.table (name : String) (alias? : Option String) :
    (Source.table name alias?).IsRead (fuel + 1) := by
  intro rest hr
  have alias_ := reads_alias alias? rest hr
  simp [lexemes, readName, alias_, anonymous]

theorem Source.IsRead.join (kind : JoinKind) {left right : Source} {condition : JoinCondition}
    (hl : left.IsRead fuel) (hr : right.IsRead fuel) (hc : condition.IsRead fuel) :
    (Source.join kind left right condition).IsRead (fuel + 1) := by
  intro rest _
  have close : Above 9 (.word .closeParen :: rest) := above_word (by decide)
  have third := hc _ (close.mono (by decide))
  have second := hr _ ((close.mono (by decide)).condition (by decide) condition)
  have first := fun more => hl (.word (.join kind) :: more) (above_word (by simp [Word.rank]))
  simp [lexemes, parenthesized, readName, opensQuery, take_select, inParens, first,
    second, third, readJoinKind, anonymous, Lexeme.shown_word]

theorem Source.IsRead.subquery {query : Select} (aliasName : String) (h : query.IsRead fuel) :
    (Source.subquery query aliasName).IsRead (fuel + 1) := by
  intro rest _
  have inner := h.inParens (j := 0) (by decide) (.word .aliased :: .name aliasName :: rest)
    (above_word (by decide))
  have opens := query.opensQuery (.word .aliased :: .name aliasName :: rest)
  simp [parenthesized] at inner opens
  simp [lexemes, parenthesized, readName, aliasLexemes, Lexeme.shown_word, inner, opens,
    anonymous]

theorem JoinCondition.IsRead.unconditional : JoinCondition.unconditional.IsRead fuel := by
  intro rest hr
  have noCondition : take .condition rest = none := hr.take (Nat.le_refl _)
  have noSharing : take .sharing rest = none := hr.take (Nat.le_refl _)
  simp [lexemes, readJoinCondition, optional, noCondition, noSharing, anonymous]

theorem JoinCondition.IsRead.holds {p : Predicate} (h : p.IsRead fuel) :
    (JoinCondition.holds p).IsRead fuel := by
  intro rest hr
  have predicate := h.optional (w := .condition) rest (hr.mono (by decide))
  simp at predicate
  simp [lexemes, readJoinCondition, predicate, anonymous, Lexeme.shown_word]

theorem JoinCondition.IsRead.sharing (columns : List String) :
    (JoinCondition.sharing columns).IsRead fuel := by
  intro rest hr
  have list : Reads (readList readName) 3 _ (columns.map id) :=
    reads_list (fun c => [.name c]) (fun c _ => reads_name c) (by simp)
      fun _ _ hr => hr.readName
  have names := list.inParens (j := 4) (by decide) rest hr
  simp at names
  simp [lexemes, readJoinCondition, optional, take, Function.comp_def, names, anonymous,
    Lexeme.shown_word]

theorem Select.IsRead.mk {selections : List Selection} {source : Source} {filter having : Filter}
    {groupBy : List Column} {limit offset : Nat} (hs : source.IsRead fuel)
    (hf : filter.IsRead fuel .filter) (hh : having.IsRead fuel .having) :
    Select.IsRead (fuel + 1) ⟨selections, source, filter, groupBy, having, limit, offset⟩ := by
  intro rest hr
  -- What follows each clause begins with one of the later clauses or is `rest`.
  have afterLimit := (hr.mono (j := 8) (by decide)).rowCount (w := .offset) (by simp)
    (by decide) offset
  have afterHaving := (afterLimit.mono (j := 7) (by decide)).rowCount (w := .limit) (by simp)
    (by decide) limit
  have afterGroups := (afterHaving.mono (j := 6) (by decide)).filter (w := .having) (by simp)
    (by decide) having
  have afterFilter := (afterGroups.mono (j := 5) (by decide)).groups (by decide) groupBy
  have afterSource := (afterFilter.mono (j := 2) (by decide)).filter (w := .filter) (by simp)
    (by decide) filter
  have readSelections := fun more =>
    reads_selections selections (.word .from :: more) (above_word (by decide))
  have readSource := hs _ afterSource
  have readFilter := hf _ afterFilter
  have readGroups := reads_groups groupBy _ afterGroups
  have readHaving := hh _ afterHaving
  have readLimit := reads_rowCount (w := .limit) (by simp) limit _ afterLimit
  have readOffset := reads_rowCount (w := .offset) (by simp) offset _ hr
  simp only [lexemes, List.map_cons, List.map_append, List.append_assoc, List.cons_append,
    Lexeme.shown_word (w := .select) (by simp), Lexeme.shown_word (w := .from) (by simp)]
  simp only [readSelect, take_cons_self, readSelections, readSource, readFilter, readGroups,
    readHaving, readLimit, readOffset, anonymous, Option.bind_eq_bind, Option.bind_some,
    Option.pure_def]

theorem Filter.IsRead.all {w : Word} : Filter.all.IsRead fuel w := by
  intro rest hr
  have last : take w rest = none := hr.take (Nat.le_refl _)
  simp [lexemes, readFilter, optional, last, anonymous]

theorem Filter.IsRead.only {w : Word} (hw : w ≠ .assign) {p : Predicate} (h : p.IsRead fuel) :
    (Filter.only p).IsRead fuel w := by
  intro rest hr
  have predicate := h.optional (w := w) rest (hr.mono (Nat.zero_le _))
  simp at predicate
  simp [lexemes, readFilter, predicate, anonymous, Lexeme.shown_word hw]

theorem Predicate.IsRead.compare (op : Comparison) (left : Term) {right : Expr}
    (h : right.IsRead fuel) : (Predicate.compare op left right).IsRead (fuel + 1) := by
  intro rest hr
  have first := fun more =>
    left.reads (.word (.compare op) :: more) (above_word (by simp [Word.rank]))
  have second := h rest hr
  simp [lexemes, first, second, anonymous, Lexeme.shown_word]

theorem Predicate.IsRead.member (left : Column) {query : Select} (h : query.IsRead fuel) :
    (Predicate.member left query).IsRead (fuel + 1) := by
  intro rest hr
  have first := fun more =>
    (Term.column left).reads (.word .member :: more) (above_word (by simp [Word.rank]))
  have second := h.inParens (j := 0) (by decide) rest hr
  rw [Term.lexemes] at first
  simp [lexemes, first, second, anonymous, Lexeme.shown_word]

theorem Predicate.IsRead.not {p : Predicate} (h : p.IsRead fuel) :
    (Predicate.not p).IsRead (fuel + 1) := by
  intro rest hr
  have inner := h.inParens (j := 0) (by decide) rest hr
  simp [lexemes, readTerm, readColumn, readName, inner, anonymous,
    Lexeme.shown_word]

theorem Predicate.IsRead.exists {query : Select} (h : query.IsRead fuel) :
    (Predicate.exists query).IsRead (fuel + 1) := by
  intro rest hr
  have inner := h.inParens (j := 0) (by decide) rest hr
  simp [lexemes, readTerm, readColumn, readName, inner, anonymous,
    Lexeme.shown_word]

theorem Predicate.IsRead.and {p q : Predicate} (hp : p.IsRead fuel) (hq : q.IsRead fuel) :
    (Predicate.and p q).IsRead (fuel + 1) := by
  intro rest hr
  have first := fun more =>
    hp.inParens (j := 0) (by decide) (.word .and :: more) (above_word (by decide))
  have second := hq.inParens (j := 0) (by decide) rest hr
  simp [parenthesized] at first second
  simp [lexemes, parenthesized, readTerm, readColumn, readName, first, second,
    anonymous, Lexeme.shown_word]

theorem Predicate.IsRead.or {p q : Predicate} (hp : p.IsRead fuel) (hq : q.IsRead fuel) :
    (Predicate.or p q).IsRead (fuel + 1) := by
  intro rest hr
  have first := fun more =>
    hp.inParens (j := 0) (by decide) (.word .or :: more) (above_word (by decide))
  have second := hq.inParens (j := 0) (by decide) rest hr
  simp [parenthesized] at first second
  simp [lexemes, parenthesized, readTerm, readColumn, readName, first, second,
    anonymous, Lexeme.shown_word]

theorem Expr.IsRead.term (t : Term) : (Expr.term t).IsRead (fuel + 1) := by
  intro rest hr
  have := t.reads rest hr
  simp [operandLexemes, this, anonymous]

theorem Expr.IsRead.literal (v : Value) : (Expr.literal v).IsRead (fuel + 1) := by
  intro rest hr
  simp [operandLexemes, readTerm, readColumn, readName, anonymous]

theorem Expr.IsRead.predicate {p : Predicate} (h : p.IsRead fuel) :
    (Expr.predicate p).IsRead (fuel + 1) := by
  intro rest hr
  have inner := h.inParens (j := 0) (by decide) rest hr
  have opens := p.opensQuery rest
  simp [parenthesized] at inner opens
  simp [operandLexemes, parenthesized, readTerm, readColumn, readName, inner, opens,
    anonymous, Lexeme.shown_word]

theorem Expr.IsRead.subquery {query : Select} (h : query.IsRead fuel) :
    (Expr.subquery query).IsRead (fuel + 1) := by
  intro rest hr
  have inner := h.inParens (j := 0) (by decide) rest hr
  have opens := query.opensQuery rest
  simp [parenthesized] at inner opens
  simp [operandLexemes, parenthesized, readTerm, readColumn, readName, inner, opens,
    anonymous, Lexeme.shown_word]

theorem Expr.IsRead.quantified (q : Quantifier) {query : Select} (h : query.IsRead fuel) :
    (Expr.quantified q query).IsRead (fuel + 1) := by
  intro rest hr
  have inner := h.inParens (j := 0) (by decide) rest hr
  simp [operandLexemes, readTerm, readColumn, readName, inner, anonymous,
    Lexeme.shown_word]

end IsRead

mutual

theorem Source.isRead : ∀ (s : Source) {fuel : Nat}, s.lexemes.length ≤ fuel → s.IsRead fuel
  | .table name alias?, 0, hf | .join _ _ _ _, 0, hf | .subquery _ _, 0, hf => by
    simp [Source.lexemes, parenthesized] at hf
  | .table name alias?, fuel + 1, _ => .table name alias?
  | .join kind left right condition, fuel + 1, hf => by
    simp only [Source.lexemes, parenthesized, List.length_cons, List.length_append] at hf
    exact .join kind (left.isRead (by omega)) (right.isRead (by omega))
      (condition.isRead (by omega))
  | .subquery query aliasName, fuel + 1, hf => by
    simp only [Source.lexemes, parenthesized, List.length_cons, List.length_append] at hf
    exact .subquery aliasName (query.isRead (by omega))

theorem JoinCondition.isRead : ∀ (c : JoinCondition) {fuel : Nat}, c.lexemes.length ≤ fuel →
    c.IsRead fuel
  | .unconditional, _, _ => .unconditional
  | .holds p, _, hf => by
    simp only [JoinCondition.lexemes, List.length_cons] at hf
    exact .holds (p.isRead (by omega))
  | .sharing columns, _, _ => .sharing columns

theorem Select.isRead : ∀ (q : Select) {fuel : Nat}, q.lexemes.length ≤ fuel → q.IsRead fuel
  | ⟨_, _, _, _, _, _, _⟩, 0, hf => by simp [Select.lexemes] at hf
  | ⟨selections, source, filter, groupBy, having, limit, offset⟩, fuel + 1, hf => by
    simp only [Select.lexemes, List.length_cons, List.length_append] at hf
    exact .mk (source.isRead (by omega)) (filter.isRead (by simp) (by omega))
      (having.isRead (by simp) (by omega))

theorem Filter.isRead : ∀ (f : Filter) {w : Word} {fuel : Nat}, w ≠ .assign →
    (f.lexemes w).length ≤ fuel → f.IsRead fuel w
  | .all, _, _, _, _ => .all
  | .only p, _, _, hw, hf => by
    simp only [Filter.lexemes, List.length_cons] at hf
    exact .only hw (p.isRead (by omega))

theorem Predicate.isRead : ∀ (p : Predicate) {fuel : Nat}, p.lexemes.length ≤ fuel →
    p.IsRead fuel
  | .compare _ _ _, 0, hf | .member _ _, 0, hf | .not _, 0, hf | .exists _, 0, hf
  | .and _ _, 0, hf | .or _ _, 0, hf => by simp [Predicate.lexemes, parenthesized] at hf
  | .compare op left right, fuel + 1, hf => by
    simp only [Predicate.lexemes, List.length_cons, List.length_append] at hf
    exact .compare op left (right.isRead (by omega))
  | .member left query, fuel + 1, hf => by
    simp only [Predicate.lexemes, parenthesized, List.length_cons, List.length_append] at hf
    exact .member left (query.isRead (by omega))
  | .not p, fuel + 1, hf => by
    simp only [Predicate.lexemes, parenthesized, List.length_cons, List.length_append] at hf
    exact .not (p.isRead (by omega))
  | .exists query, fuel + 1, hf => by
    simp only [Predicate.lexemes, parenthesized, List.length_cons, List.length_append] at hf
    exact .exists (query.isRead (by omega))
  | .and p q, fuel + 1, hf => by
    simp only [Predicate.lexemes, parenthesized, List.length_cons, List.length_append] at hf
    exact .and (p.isRead (by omega)) (q.isRead (by omega))
  | .or p q, fuel + 1, hf => by
    simp only [Predicate.lexemes, parenthesized, List.length_cons, List.length_append] at hf
    exact .or (p.isRead (by omega)) (q.isRead (by omega))

theorem Expr.isRead : ∀ (e : Expr) {fuel : Nat}, e.operandLexemes.length ≤ fuel →
    e.IsRead fuel
  | .term t, 0, hf => by
    simp [Expr.operandLexemes, t.lexemes_ne_nil] at hf
  | .literal _, 0, hf | .predicate _, 0, hf | .subquery _, 0, hf | .quantified _ _, 0, hf => by
    simp [Expr.operandLexemes, parenthesized] at hf
  | .term t, fuel + 1, _ => .term t
  | .literal v, fuel + 1, _ => .literal v
  | .predicate p, fuel + 1, hf => by
    simp only [Expr.operandLexemes, parenthesized, List.length_cons, List.length_append] at hf
    exact .predicate (p.isRead (by omega))
  | .subquery query, fuel + 1, hf => by
    simp only [Expr.operandLexemes, parenthesized, List.length_cons, List.length_append] at hf
    exact .subquery (query.isRead (by omega))
  | .quantified q query, fuel + 1, hf => by
    simp only [Expr.operandLexemes, parenthesized, List.length_cons, List.length_append] at hf
    exact .quantified q (query.isRead (by omega))

end

/-! ### Reading updates -/

theorem continuesPredicate_of_above {rest : List Lexeme} (hr : Above 1 rest) :
    continuesPredicate rest = false := by
  unfold continuesPredicate
  split <;> simp_all [Above, Word.rank]

theorem Predicate.readExpr {fuel : Nat} {p : Predicate} {rest : List Lexeme}
    (h : readPredicate fuel (p.lexemes.map Lexeme.shown ++ rest) = some (p.anonymous, rest)) :
    readExpr fuel (p.lexemes.map Lexeme.shown ++ rest) = some (.predicate p.anonymous, rest) := by
  cases p with
  | compare op left right =>
    have first := fun more =>
      left.reads (.word (.compare op) :: more) (above_word (by simp [Word.rank]))
    simp [lexemes, Lexeme.shown_word] at h
    simp [lexemes, Sql.readExpr, Lexeme.shown_word, first, continuesPredicate, h]
  | member left query =>
    have first := fun more =>
      (Term.column left).reads (.word .member :: more) (above_word (by simp [Word.rank]))
    simp [lexemes, Lexeme.shown_word] at h
    rw [Term.lexemes] at first
    simp [lexemes, Sql.readExpr, Lexeme.shown_word, first, continuesPredicate, h]
  | not _ | «exists» _ =>
    simp [lexemes, Lexeme.shown_word] at h
    simp [lexemes, Sql.readExpr, Lexeme.shown_word, readTerm, readColumn, readName, Sql.opensQuery,
      take, h]
  | and p q | or p q =>
    have opens := p.opensQuery
    simp [parenthesized] at opens
    simp [lexemes, parenthesized, Lexeme.shown_word] at h
    simp [lexemes, Sql.readExpr, Lexeme.shown_word, readTerm, readColumn, readName, parenthesized,
      opens, h]

theorem Expr.reads (e : Expr) {fuel : Nat} (hf : e.lexemes.length ≤ fuel) :
    Reads (readExpr fuel) 1 (e.lexemes.map Lexeme.shown) e.anonymous := by
  intro rest hr
  cases e with
  | term t =>
    have first := t.reads rest (hr.mono (by decide))
    simp [lexemes, readExpr, first, continuesPredicate_of_above hr, anonymous]
  | literal v => simp [lexemes, readExpr, readTerm, readColumn, readName, anonymous]
  | predicate p => exact Predicate.readExpr (p.isRead hf rest (hr.mono (by decide)))
  | subquery query =>
    simp only [lexemes, parenthesized, List.length_cons, List.length_append] at hf
    have bound : query.lexemes.length ≤ fuel := by omega
    have inner := (query.isRead bound).inParens (j := 1) (by decide) rest hr
    have opens := query.opensQuery rest
    simp [parenthesized] at inner opens
    simp [lexemes, parenthesized, readExpr, readTerm, readColumn, readName, inner, opens, anonymous,
      Lexeme.shown_word]
  | quantified q query =>
    simp only [lexemes, parenthesized, List.length_cons, List.length_append] at hf
    have bound : query.lexemes.length ≤ fuel := by omega
    have inner := (query.isRead bound).inParens (j := 1) (by decide) rest hr
    simp [lexemes, readExpr, readTerm, readColumn, readName, inner, anonymous, Lexeme.shown_word]

theorem length_le_commaSeparated_of_mem {parts : List (List Lexeme)} {part : List Lexeme}
    (h : part ∈ parts) : part.length ≤ (commaSeparated parts).length := by
  fun_induction commaSeparated parts with
  | case1 => cases h
  | case2 => simp_all
  | case3 first rest _ ih =>
    simp only [List.length_append, List.length_cons]
    rcases List.mem_cons.1 h with rfl | hm
    · omega
    · have := ih hm
      omega

theorem reads_change (change : String × Expr) {fuel : Nat}
    (hf : (changeLexemes change).length ≤ fuel) :
    Reads (readAssignment fuel) 2 ((changeLexemes change).map Lexeme.shown)
      (change.1, change.2.anonymous) := by
  intro rest hr
  simp only [changeLexemes, List.length_cons] at hf
  have bound : change.2.lexemes.length ≤ fuel := by omega
  have second := change.2.reads bound rest (hr.mono (by decide))
  simp [changeLexemes, readAssignment, readName, Lexeme.shown, second]

theorem reads_changes {changes : List (String × Expr)} {fuel : Nat}
    (hf : (commaSeparated (changes.map changeLexemes)).length ≤ fuel) :
    Reads (readList (readAssignment fuel)) 3
      ((commaSeparated (changes.map changeLexemes)).map Lexeme.shown)
      (changes.map fun (column, value) => (column, value.anonymous)) := by
  rw [map_shown_commaSeparated, List.map_map]
  have noEntry : changes = [] → ∀ rest, Above 3 rest → readAssignment fuel rest = none :=
    fun _ rest hr => by simp [readAssignment, hr.readName]
  refine reads_list _ (fun change hm => ?_) (by simp [changeLexemes]) noEntry
  have part := length_le_commaSeparated_of_mem (List.mem_map_of_mem (f := changeLexemes) hm)
  exact reads_change change (by omega)

theorem Select.read_shown (q : Select) :
    readSelect q.lexemes.length (q.lexemes.map Lexeme.shown) = some (q.anonymous, []) := by
  simpa using q.isRead (Nat.le_refl _) [] above_nil

theorem Update.read_shown (u : Update) :
    readUpdate u.lexemes.length (u.lexemes.map Lexeme.shown) = some (u.anonymous, []) := by
  obtain ⟨table, assignments, filter⟩ := u
  generalize hf : (Update.lexemes ⟨table, assignments, filter⟩).length = fuel
  simp only [lexemes_eq, List.length_cons, List.length_append] at hf
  have enough : (commaSeparated (assignments.map changeLexemes)).length ≤ fuel := by omega
  have changes := reads_changes enough
  have first := changes _ (above_nil.filter (w := .filter) (by simp) (by decide) filter)
  have left : (filter.lexemes .filter).length ≤ fuel := by omega
  have second := filter.isRead (by simp) left [] above_nil
  simp at first second
  simp [lexemes_eq, readUpdate, readName, Lexeme.shown_word, first, second, anonymous]

/-- Queries that look alike are alike but for their literals. -/
theorem Select.anonymous_eq {q r : Select}
    (h : q.lexemes.map Lexeme.shown = r.lexemes.map Lexeme.shown) :
    q.anonymous = r.anonymous := by
  have length : q.lexemes.length = r.lexemes.length := by simpa using congrArg List.length h
  have read := q.read_shown
  rw [h, length, r.read_shown] at read
  simpa using read.symm

/-- Updates that look alike are alike but for their literals. -/
theorem Update.anonymous_eq {u v : Update}
    (h : u.lexemes.map Lexeme.shown = v.lexemes.map Lexeme.shown) :
    u.anonymous = v.anonymous := by
  have length : u.lexemes.length = v.lexemes.length := by simpa using congrArg List.length h
  have read := u.read_shown
  rw [h, length, v.read_shown] at read
  simpa using read.symm

end EntitySql.Sql
