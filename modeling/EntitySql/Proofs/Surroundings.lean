import EntitySql.Proofs.Separation
import EntitySql.Proofs.Writing

/-!
# The surroundings of a subquery

A statement with a subquery in it is taken apart into the subquery and the frames around it, from
the inside to the outside. A `Frame` is a part of a statement with a gap for a smaller part. What it
comes to in SQL is settled in two steps: what stands before the gap (`Frame.before`) and what stands
after it (`Frame.after`), both in the same scopes. They are written around whatever fills the gap
(`Frame.render_plug`). In a `Context` the gap is for a subquery at any depth, and the same holds
(`Context.answer_render_plug`).
-/

namespace EntitySql

open Sql (Lexeme JoinKind Comparison Quantifier commaSeparated parenthesized selectionLexemes
  groupLexemes rowCountLexemes aliasLexemes changeLexemes)

/-- The kinds of parts of statements that subqueries occur in. -/
inductive Part
  /-- A query in parentheses. -/
  | subquery
  /-- A query as it stands by itself. -/
  | select
  | source
  /-- Predicates that all have to hold. -/
  | conjunction
  | predicate
  /-- An expression, either an operand of a predicate or a value that is assigned. -/
  | expr (operand : Bool)
  | update

/-- The parts of a kind. -/
abbrev Part.Syntax : Part → Type
  | subquery | select => Select
  | source => Source
  | conjunction => { predicates : List Predicate // predicates ≠ [] }
  | predicate => Predicate
  | expr _ => { e : Expr // e.isLiteralZero = false }
  | update => Update

/-- What bare columns in a part are looked up in. Whole statements bring their own model. -/
abbrev Part.Scope : Part → Type
  | subquery | select | update => Unit
  | source | conjunction | predicate | expr _ => TableModel

/-- The lexemes of the conjunction of some predicates. -/
def conjunctionLexemes : List Sql.Predicate → List Lexeme
  | [] => []
  | p :: rest => (rest.foldl .and p).lexemes

/-- What stands before a predicate in a conjunction, after some others and before `count` more. -/
def conjunctionFront (earlier : List Sql.Predicate) (count : Nat) : List Lexeme :=
  let parens : List Lexeme := List.replicate count (.word .openParen)
  if earlier.isEmpty then parens
  else parens ++ parenthesized (conjunctionLexemes earlier) ++ [.word .and, .word .openParen]

/-- What stands after a predicate in a conjunction, the first one or not. -/
def conjunctionBack (first : Bool) (later : List Sql.Predicate) : List Lexeme :=
  let more : List Lexeme :=
    later.flatMap fun q => .word .closeParen :: .word .and :: parenthesized q.lexemes
  if first then more else .word .closeParen :: more

/-- The lexemes of the columns that both sides of a join share. -/
def sharingLexemes : List String → List Lexeme
  | [] => []
  | columns => (Sql.JoinCondition.sharing columns).lexemes

/-- The lexemes that a part comes to. -/
def Part.render (strategy : AccessorStrategy) :
    (k : Part) → k.Scope → k.Syntax → Inquiry (List Lexeme)
  | subquery, _, s => do pure (parenthesized (← s.resolve).lexemes)
  | select, _, s => do pure (← s.resolve).lexemes
  | source, scope, s => do pure (← s.resolve scope).lexemes
  | conjunction, scope, predicates => do
    pure (conjunctionLexemes (← resolvePredicates scope predicates.1))
  | predicate, scope, p => do pure (← p.resolve scope).lexemes
  | expr true, scope, e => do pure (← e.1.resolve scope).operandLexemes
  | expr false, scope, e => do pure (← e.1.resolve scope).lexemes
  | update, _, u => do pure (← u.resolve strategy).lexemes

/-- The model of an update that changes something. -/
def Update.model (u : Update) : Inquiry TableModel :=
  match u.assignments with
  | .list [] => .fail .noUpdatedColumns
  | _ => Inquiry.model u.entity

/-- A part with a gap for a part inside it. What an outer statement has in the place of the gap does
not count. -/
inductive Frame : Part → Part → Type
  | parens : Frame .select .subquery
  | source (outer : Select) : Frame .source .select
  | filter (outer : Select) : Frame .conjunction .select
  | having (outer : Select) : Frame .conjunction .select
  | derived (aliasName : String) : Frame .subquery .source
  | joinWhereLeft (kind : JoinKind) (right : Source) (predicates : List Predicate) :
    Frame .source .source
  | joinWhereRight (kind : JoinKind) (left : Source) (predicates : List Predicate) :
    Frame .source .source
  | joinWhereOn (kind : JoinKind) (left right : Source) : Frame .conjunction .source
  | joinSharingLeft (kind : JoinKind) (right : Source) (columns : List String) :
    Frame .source .source
  | joinSharingRight (kind : JoinKind) (left : Source) (columns : List String) :
    Frame .source .source
  | conjunct (earlier later : List Predicate) : Frame .predicate .conjunction
  | compare (op : Comparison) (left : Term) : Frame (.expr true) .predicate
  | member (left : Column) : Frame .subquery .predicate
  | not : Frame .predicate .predicate
  | exists : Frame .subquery .predicate
  | andLeft (q : Predicate) : Frame .predicate .predicate
  | andRight (p : Predicate) : Frame .predicate .predicate
  | orLeft (q : Predicate) : Frame .predicate .predicate
  | orRight (p : Predicate) : Frame .predicate .predicate
  | predicate (operand : Bool) : Frame .predicate (.expr operand)
  | subquery (operand : Bool) : Frame .subquery (.expr operand)
  | quantified (operand : Bool) (q : Quantifier) : Frame .subquery (.expr operand)
  | change (outer : Update) (earlier : List Assignment) (nonZero : Bool) (column : String)
    (later : List Assignment) : Frame (.expr false) .update
  | updateFilter (outer : Update) : Frame .conjunction .update

namespace Frame

variable {k k' : Part}

/-- Fills the gap. -/
def plug : Frame k k' → k.Syntax → k'.Syntax
  | parens, s => s
  | source outer, s => { outer with source := s }
  | filter outer, predicates => { outer with filter := predicates.1 }
  | having outer, predicates => { outer with having := predicates.1 }
  | derived aliasName, s => .subquery s aliasName
  | joinWhereLeft kind right predicates, left => .joinWhere kind left right predicates
  | joinWhereRight kind left predicates, right => .joinWhere kind left right predicates
  | joinWhereOn kind left right, predicates => .joinWhere kind left right predicates.1
  | joinSharingLeft kind right columns, left => .joinSharing kind left right columns
  | joinSharingRight kind left columns, right => .joinSharing kind left right columns
  | conjunct earlier later, p => ⟨earlier ++ p :: later, by simp⟩
  | compare op left, e => .compare op left e.1
  | member left, s => .member left s
  | not, p => .not p
  | .exists, s => .exists s
  | andLeft q, p => .and p q
  | andRight p, q => .and p q
  | orLeft q, p => .or p q
  | orRight p, q => .or p q
  | predicate _, p => ⟨.predicate p, rfl⟩
  | subquery _, s => ⟨.subquery s, rfl⟩
  | quantified _ q, s => ⟨.quantified q s, rfl⟩
  | change outer earlier nonZero column later, e =>
    let entry := if nonZero then .assignNonZero column e.1 else .assign column e.1
    { outer with assignments := .list (earlier ++ entry :: later) }
  | updateFilter outer, predicates => { outer with filter := predicates.1 }

/-- The scope of the gap. -/
def enter : Frame k k' → k'.Scope → Inquiry k.Scope
  | source outer, _ | filter outer, _ | having outer, _ => Inquiry.model outer.entity
  | change outer _ _ _ _, _ => Inquiry.model outer.entity
  | updateFilter outer, _ => outer.model
  | joinWhereLeft _ _ _, scope | joinWhereRight _ _ _, scope | joinWhereOn _ _ _, scope
  | joinSharingLeft _ _ _, scope | joinSharingRight _ _ _, scope => pure scope
  | conjunct _ _, scope | compare _ _, scope | not, scope => pure scope
  | andLeft _, scope | andRight _, scope | orLeft _, scope | orRight _, scope => pure scope
  | predicate _, scope => pure scope
  | parens, _ | derived _, _ | member _, _ | .exists, _ | subquery _, _ | quantified _ _, _ =>
    pure ()

/-- What stands before the gap, given the scopes of the part and of the gap. -/
def before (strategy : AccessorStrategy) :
    Frame k k' → k'.Scope → k.Scope → Inquiry (List Lexeme)
  | parens, _, _ => pure [.word .openParen]
  | source outer, _, scope => do
    let selections ← outer.selections.mapM (Selection.resolve scope)
    pure (.word .select :: (selectionLexemes selections ++ [.word .from]))
  | filter outer, _, scope => do
    let selections ← outer.selections.mapM (Selection.resolve scope)
    let source ← outer.source.resolve scope
    pure (.word .select :: (selectionLexemes selections ++ .word .from :: source.lexemes
      ++ [.word .filter]))
  | having outer, _, scope => do
    let selections ← outer.selections.mapM (Selection.resolve scope)
    let source ← outer.source.resolve scope
    let filter ← resolveFilter scope outer.filter
    let groupBy ← outer.groupBy.mapM (Column.resolve scope)
    pure (.word .select :: (selectionLexemes selections ++ .word .from :: source.lexemes
      ++ filter.lexemes .filter ++ groupLexemes groupBy ++ [.word .having]))
  | derived _, _, _ => pure []
  | joinWhereLeft _ _ _, _, _ | joinSharingLeft _ _ _, _, _ => pure [.word .openParen]
  | joinWhereRight kind left _, scope, _ | joinSharingRight kind left _, scope, _ => do
    let left ← left.resolve scope
    pure (.word .openParen :: (left.lexemes ++ [.word (.join kind)]))
  | joinWhereOn kind left right, scope, _ => do
    let left ← left.resolve scope
    let right ← right.resolve scope
    pure (.word .openParen :: (left.lexemes ++ .word (.join kind) :: (right.lexemes
      ++ [.word .condition])))
  | conjunct earlier later, scope, _ => do
    let resolved ← resolvePredicates scope earlier
    pure (conjunctionFront resolved later.length)
  | compare op left, scope, _ => do
    let left ← left.resolve scope
    pure (left.lexemes ++ [.word (.compare op)])
  | member left, scope, _ => do
    let left ← left.resolve scope
    pure (left.lexemes ++ [.word .member])
  | not, _, _ => pure [.word .not, .word .openParen]
  | .exists, _, _ => pure [.word .exists]
  | andLeft _, _, _ | orLeft _, _, _ => pure [.word .openParen]
  | andRight p, scope, _ => do
    let p ← p.resolve scope
    pure (parenthesized p.lexemes ++ [.word .and, .word .openParen])
  | orRight p, scope, _ => do
    let p ← p.resolve scope
    pure (parenthesized p.lexemes ++ [.word .or, .word .openParen])
  | predicate operand, _, _ => pure (if operand then [.word .openParen] else [])
  | subquery _, _, _ => pure []
  | quantified _ q, _, _ => pure [.word (.quantifier q)]
  | change outer earlier _ column _, _, model => do
    let accessor ← Inquiry.done (strategy.accessor outer.entity model)
    let earlier ← resolveAssignments model accessor outer.value? earlier
    let column ← assignedColumn model column
    pure (.word .update :: .name model.table :: .word .set ::
      (earlier.flatMap (fun c => changeLexemes c ++ [.word .comma])
        ++ [.name column, .word .assign]))
  | updateFilter outer, _, model => do
    let accessor ← Inquiry.done (strategy.accessor outer.entity model)
    match ← resolveAssignments model accessor outer.value? (outer.assignments.entries model) with
    | [] => .fail .noUpdatedColumns
    | changes =>
      pure (.word .update :: .name model.table :: .word .set ::
        (commaSeparated (changes.map changeLexemes) ++ [.word .filter]))

/-- What stands after the gap when it is filled, in the scopes that went for what stands before. -/
def after (strategy : AccessorStrategy) :
    Frame k k' → k'.Scope → k.Scope → k.Syntax → Inquiry (List Lexeme)
  | parens, _, _, _ => pure [.word .closeParen]
  | source outer, _, scope, _ => do
    let filter ← resolveFilter scope outer.filter
    let groupBy ← outer.groupBy.mapM (Column.resolve scope)
    let having ← resolveFilter scope outer.having
    pure (filter.lexemes .filter ++ groupLexemes groupBy ++ having.lexemes .having
      ++ rowCountLexemes .limit outer.limit ++ rowCountLexemes .offset outer.offset)
  | filter outer, _, scope, _ => do
    let groupBy ← outer.groupBy.mapM (Column.resolve scope)
    let having ← resolveFilter scope outer.having
    pure (groupLexemes groupBy ++ having.lexemes .having
      ++ rowCountLexemes .limit outer.limit ++ rowCountLexemes .offset outer.offset)
  | having outer, _, _, _ =>
    pure (rowCountLexemes .limit outer.limit ++ rowCountLexemes .offset outer.offset)
  | derived aliasName, _, _, _ => pure (aliasLexemes (some aliasName))
  | joinWhereLeft kind right predicates, scope, _, _ => do
    let right ← right.resolve scope
    let condition ← resolveFilter scope predicates
    pure (.word (.join kind) :: (right.lexemes ++ condition.lexemes .condition
      ++ [.word .closeParen]))
  | joinWhereRight _ _ predicates, scope, _, _ => do
    let condition ← resolveFilter scope predicates
    pure (condition.lexemes .condition ++ [.word .closeParen])
  | joinWhereOn _ _ _, _, _, _ => pure [.word .closeParen]
  | joinSharingLeft kind right columns, scope, _, left => do
    let right' ← right.resolve scope
    let columns ← columns.mapM (sharedColumn scope left right)
    pure (.word (.join kind) :: (right'.lexemes ++ sharingLexemes columns ++ [.word .closeParen]))
  | joinSharingRight _ left columns, scope, _, right => do
    let columns ← columns.mapM (sharedColumn scope left right)
    pure (sharingLexemes columns ++ [.word .closeParen])
  | conjunct earlier later, scope, _, _ => do
    let later ← resolvePredicates scope later
    pure (conjunctionBack earlier.isEmpty later)
  | compare _ _, _, _, _ | member _, _, _, _ | .exists, _, _, _ => pure []
  | not, _, _, _ | andRight _, _, _, _ | orRight _, _, _, _ => pure [.word .closeParen]
  | andLeft q, scope, _, _ => do
    let q ← q.resolve scope
    pure (.word .closeParen :: .word .and :: parenthesized q.lexemes)
  | orLeft q, scope, _, _ => do
    let q ← q.resolve scope
    pure (.word .closeParen :: .word .or :: parenthesized q.lexemes)
  | predicate operand, _, _, _ => pure (if operand then [.word .closeParen] else [])
  | subquery _, _, _, _ | quantified _ _, _, _, _ => pure []
  | change outer _ _ _ later, _, model, _ => do
    let accessor ← Inquiry.done (strategy.accessor outer.entity model)
    let later ← resolveAssignments model accessor outer.value? later
    let filter ← resolveFilter model outer.filter
    pure (later.flatMap (fun c => .word .comma :: changeLexemes c) ++ filter.lexemes .filter)
  | updateFilter _, _, _, _ => pure []

end Frame

/-! ### Lists with a gap -/

theorem lexemes_foldl_and (p : Sql.Predicate) (rest : List Sql.Predicate) :
    (rest.foldl .and p).lexemes = List.replicate rest.length (.word .openParen) ++ (p.lexemes
      ++ rest.flatMap fun q => .word .closeParen :: .word .and :: parenthesized q.lexemes) := by
  induction rest generalizing p with
  | nil => simp
  | cons q rest ih =>
    simp [ih, Sql.Predicate.lexemes, parenthesized, List.replicate_succ']

/-- What comes before an `AND` stands in parentheses, and so does what comes after it. -/
theorem conjunctionLexemes_append (earlier : List Sql.Predicate) (p : Sql.Predicate)
    (later : List Sql.Predicate) :
    conjunctionLexemes (earlier ++ p :: later) =
      conjunctionFront earlier later.length ++ (p.lexemes
        ++ conjunctionBack earlier.isEmpty later) := by
  cases earlier with
  | nil => simp [conjunctionLexemes, conjunctionFront, conjunctionBack, lexemes_foldl_and]
  | cons first rest =>
    rw [List.cons_append, conjunctionLexemes, List.foldl_append, List.foldl_cons,
      lexemes_foldl_and]
    simp [Sql.Predicate.lexemes, conjunctionLexemes, conjunctionFront, conjunctionBack,
      parenthesized]

theorem resolvePredicates_append (scope : TableModel) (earlier later : List Predicate) :
    resolvePredicates scope (earlier ++ later) = (do
      let first ← resolvePredicates scope earlier
      let second ← resolvePredicates scope later
      pure (first ++ second)) := by
  induction earlier with
  | nil => simp [resolvePredicates]
  | cons p earlier ih =>
    simp only [List.cons_append, resolvePredicates, ih, bind_assoc, pure_bind]

/-- There are as many resolved predicates as there were before. -/
theorem resolvePredicates_congr {β : Type} {scope : TableModel} {predicates : List Predicate}
    {f g : List Sql.Predicate → Inquiry β}
    (h : ∀ resolved, resolved.length = predicates.length → f resolved = g resolved) :
    (resolvePredicates scope predicates >>= f) = resolvePredicates scope predicates >>= g := by
  induction predicates generalizing f g with
  | nil => simpa [resolvePredicates] using h []
  | cons p rest ih =>
    simp only [resolvePredicates, bind_assoc, pure_bind]
    exact bind_congr fun first => ih fun more hm => h (first :: more) (by simp [hm])

theorem resolveAssignments_append (model : TableModel) (accessor : Accessor)
    (record? : Option Record) (earlier later : List Assignment) :
    resolveAssignments model accessor record? (earlier ++ later) = (do
      let first ← resolveAssignments model accessor record? earlier
      let second ← resolveAssignments model accessor record? later
      pure (first ++ second)) := by
  induction earlier with
  | nil => simp [resolveAssignments]
  | cons entry earlier ih =>
    simp only [List.cons_append, resolveAssignments, ih, bind_assoc, pure_bind, List.append_assoc]

theorem commaSeparated_append (earlier : List (List Lexeme)) (part : List Lexeme)
    (later : List (List Lexeme)) :
    commaSeparated (earlier ++ part :: later) =
      earlier.flatMap (· ++ [.word .comma]) ++ (part ++ later.flatMap (.word .comma :: ·)) := by
  induction earlier with
  | nil =>
    induction later generalizing part with
    | nil => simp [commaSeparated]
    | cons next later ih => simpa [commaSeparated] using ih next
  | cons first earlier ih =>
    cases earlier <;> simp_all [commaSeparated]

/-! ### Parts step by step -/

namespace Part

variable {strategy : AccessorStrategy}

theorem render_joinWhere (scope : TableModel) (kind : JoinKind) (left right : Source)
    (predicates : List Predicate) :
    source.render strategy scope (.joinWhere kind left right predicates) = (do
      let left ← left.resolve scope
      let right ← right.resolve scope
      let condition ← resolveFilter scope predicates
      pure (.word .openParen :: (left.lexemes ++ .word (.join kind) :: (right.lexemes
        ++ (condition.lexemes .condition ++ [.word .closeParen]))))) := by
  simp only [render, Source.resolve, resolveFilter, bind_assoc, pure_bind]
  refine bind_congr fun left => bind_congr fun right => bind_congr fun predicates => ?_
  cases Sql.Filter.conjunction predicates <;>
    simp [Sql.Source.lexemes, Sql.JoinCondition.lexemes, Sql.Filter.lexemes, parenthesized]

theorem render_joinSharing (scope : TableModel) (kind : JoinKind) (left right : Source)
    (columns : List String) :
    source.render strategy scope (.joinSharing kind left right columns) = (do
      let left' ← left.resolve scope
      let right' ← right.resolve scope
      let shared ← columns.mapM (sharedColumn scope left right)
      pure (.word .openParen :: (left'.lexemes ++ .word (.join kind) :: (right'.lexemes
        ++ (sharingLexemes shared ++ [.word .closeParen]))))) := by
  simp only [render, Source.resolve, bind_assoc]
  refine bind_congr fun left' => bind_congr fun right' => bind_congr fun shared => ?_
  cases shared <;>
    simp [Sql.Source.lexemes, Sql.JoinCondition.lexemes, sharingLexemes, parenthesized]

theorem render_conjunction (scope : TableModel) (earlier : List Predicate) (p : Predicate)
    (later : List Predicate) (h : earlier ++ p :: later ≠ []) :
    conjunction.render strategy scope ⟨earlier ++ p :: later, h⟩ = (do
      let resolved ← resolvePredicates scope earlier
      let p ← p.resolve scope
      let more ← resolvePredicates scope later
      pure (conjunctionFront resolved later.length ++ (p.lexemes
        ++ conjunctionBack earlier.isEmpty more))) := by
  simp only [render, resolvePredicates_append, resolvePredicates, bind_assoc, pure_bind,
    conjunctionLexemes_append]
  refine resolvePredicates_congr fun resolved hr => bind_congr fun p =>
    resolvePredicates_congr fun more hm => ?_
  have first : resolved.isEmpty = earlier.isEmpty := by
    rw [Bool.eq_iff_iff, List.isEmpty_iff_length_eq_zero, List.isEmpty_iff_length_eq_zero, hr]
  rw [hm, first]

/-- The changes of an update are settled once its model is known. -/
theorem render_update (u : Update) :
    update.render strategy () u = (do
      let model ← u.model
      let accessor ← Inquiry.done (strategy.accessor u.entity model)
      match ← resolveAssignments model accessor u.value? (u.assignments.entries model) with
      | [] => .fail .noUpdatedColumns
      | changes => do
        let filter ← resolveFilter model u.filter
        pure (Sql.Update.lexemes ⟨model.table, changes, filter⟩)) := by
  obtain ⟨entity, value?, (_ | ⟨first, rest⟩) | _, filter⟩ := u
  · rfl
  all_goals
    simp only [render, Update.resolve, Update.model, bind_assoc]
    refine bind_congr fun model => bind_congr fun accessor => bind_congr fun changes => ?_
    cases changes with
    | nil => rfl
    | cons first others => simp only [bind_assoc, pure_bind]

/-- An entry sets its column to an expression that is no literal zero in either case. -/
theorem resolve_entry {model : TableModel} {accessor : Accessor} {record? : Option Record}
    (nonZero : Bool) (column : String) {e : Expr} (h : e.isLiteralZero = false) :
    Assignment.resolve model accessor record?
        (if nonZero then .assignNonZero column e else .assign column e) = (do
      let column ← assignedColumn model column
      let value ← e.resolve model
      pure (some (column, value))) := by
  cases nonZero <;> simp [Assignment.resolve, h]

/-- An update with an entry that does not drop out. -/
theorem render_change (u : Update) (earlier : List Assignment) (nonZero : Bool) (column : String)
    {e : Expr} (h : e.isLiteralZero = false) (later : List Assignment) :
    update.render strategy () { u with assignments := .list (earlier ++
        (if nonZero then .assignNonZero column e else .assign column e) :: later) } = (do
      let model ← Inquiry.model u.entity
      let accessor ← Inquiry.done (strategy.accessor u.entity model)
      let before ← resolveAssignments model accessor u.value? earlier
      let column ← assignedColumn model column
      let value ← e.resolve model
      let after ← resolveAssignments model accessor u.value? later
      let filter ← resolveFilter model u.filter
      pure (.word .update :: .name model.table :: .word .set ::
        (before.flatMap (fun c => changeLexemes c ++ [.word .comma])
          ++ (.name column :: .word .assign :: (value.lexemes
          ++ (after.flatMap (fun c => .word .comma :: changeLexemes c)
          ++ filter.lexemes .filter)))))) := by
  have model (entry : Assignment) : Update.model { u with
      assignments := .list (earlier ++ entry :: later) } = Inquiry.model u.entity := by
    cases earlier <;> rfl
  simp only [render_update, model, Assignments.entries, resolveAssignments_append,
    resolveAssignments, resolve_entry _ _ h, bind_assoc, pure_bind, Option.toList_some,
    List.cons_append, List.nil_append]
  refine bind_congr fun model => bind_congr fun accessor => bind_congr fun before =>
    bind_congr fun column => bind_congr fun value => bind_congr fun after => ?_
  split
  · simp_all
  · simp [Sql.Update.lexemes_eq, commaSeparated_append, List.flatMap_map, changeLexemes]

end Part

/-! ### Frames -/

theorem Inquiry.done_bind_congr {α β : Type} {result : Except Error α} {f g : α → Inquiry β}
    (h : ∀ a, result = .ok a → f a = g a) : (done result >>= f) = done result >>= g := by
  cases result with
  | error err => rfl
  | ok a => exact h a rfl

/-- A part with its gap filled is written as what stands before the gap, what fills it, and what
stands after it, one after the other. -/
theorem Frame.render_plug {k k' : Part} {strategy : AccessorStrategy} (f : Frame k k')
    (outer : k'.Scope) (x : k.Syntax) :
    k'.render strategy outer (f.plug x) = (do
      let inner ← f.enter outer
      let front ← f.before strategy outer inner
      let middle ← k.render strategy inner x
      let back ← f.after strategy outer inner x
      pure (front ++ (middle ++ back))) := by
  cases f with
  | parens => simp [plug, enter, before, after, Part.render, parenthesized]
  | source s =>
    simp [plug, enter, before, after, Part.render, Select.resolve, Sql.Select.lexemes,
      resolveFilter]
  | filter s | having s =>
    obtain ⟨_ | ⟨p, rest⟩, hp⟩ := x
    · exact absurd rfl hp
    · simp [plug, enter, before, after, Part.render, Select.resolve, Sql.Select.lexemes,
        resolveFilter, resolvePredicates, Sql.Filter.conjunction, Sql.Filter.lexemes,
        conjunctionLexemes]
  | derived aliasName =>
    simp [plug, enter, before, after, Part.render, Source.resolve, Sql.Source.lexemes]
  | joinWhereLeft kind _ predicates | joinWhereRight kind _ predicates =>
    rw [plug, Part.render_joinWhere]
    simp [enter, before, after, Part.render]
  | joinWhereOn kind left right =>
    obtain ⟨_ | ⟨p, rest⟩, hp⟩ := x
    · exact absurd rfl hp
    · rw [plug, Part.render_joinWhere]
      simp [enter, before, after, Part.render, resolveFilter, resolvePredicates,
        Sql.Filter.conjunction, Sql.Filter.lexemes, conjunctionLexemes]
  | joinSharingLeft kind _ columns | joinSharingRight kind _ columns =>
    rw [plug, Part.render_joinSharing]
    simp [enter, before, after, Part.render]
  | conjunct earlier later =>
    rw [plug, Part.render_conjunction]
    simp [enter, before, after, Part.render]
  | compare | member | not | «exists» | andLeft | andRight | orLeft | orRight =>
    simp [plug, enter, before, after, Part.render, Predicate.resolve, Sql.Predicate.lexemes,
      parenthesized]
  | predicate operand | subquery operand | quantified operand q =>
    cases operand <;>
      simp [plug, enter, before, after, Part.render, Expr.resolve, Sql.Expr.lexemes,
        Sql.Expr.operandLexemes, parenthesized]
  | change u earlier nonZero column later =>
    obtain ⟨e, he⟩ := x
    rw [plug, Part.render_change u earlier nonZero column he later]
    simp only [enter, before, after, Part.render, bind_assoc, pure_bind]
    -- The accessor that serves the earlier entries serves the later ones as well.
    refine bind_congr fun model => Inquiry.done_bind_congr fun accessor ha => ?_
    have known : (Inquiry.done (.ok accessor) : Inquiry Accessor) = pure accessor := rfl
    simp [ha, known]
  | updateFilter u =>
    obtain ⟨_ | ⟨p, rest⟩, hp⟩ := x
    · exact absurd rfl hp
    · rw [plug, Part.render_update]
      simp only [enter, before, after, Part.render, bind_assoc, pure_bind]
      refine bind_congr fun model => bind_congr fun accessor => bind_congr fun changes => ?_
      cases changes with
      | nil => rfl
      | cons first others =>
        simp [resolveFilter, resolvePredicates, Sql.Update.lexemes_eq, Sql.Filter.conjunction,
          Sql.Filter.lexemes, conjunctionLexemes]

/-! ### Contexts -/

/-- A part with a gap for a subquery anywhere inside it. -/
inductive Context : Part → Type
  | gap : Context .subquery
  | within {k k' : Part} (c : Context k) (f : Frame k k') : Context k'

namespace Context

/-- Fills the gap. -/
def plug : {k : Part} → Context k → Select → k.Syntax
  | _, gap, s => s
  | _, within c f, s => f.plug (c.plug s)

/-- What stands before the gap: of each frame in turn, from the outside to the inside. -/
def before (strategy : AccessorStrategy) :
    {k : Part} → Context k → k.Scope → Inquiry (List Lexeme)
  | _, gap, _ => pure []
  | _, within c f, outer => do
    let inner ← f.enter outer
    let front ← f.before strategy outer inner
    let more ← c.before strategy inner
    pure (front ++ more)

/-- What stands after the gap: of each frame in turn, from the inside to the outside. The scopes are
those that went for what stands before. -/
def after (strategy : AccessorStrategy) :
    {k : Part} → Context k → k.Scope → Select → Inquiry (List Lexeme)
  | _, gap, _, _ => pure []
  | _, within c f, outer, s => do
    let inner ← f.enter outer
    let more ← c.after strategy inner s
    let back ← f.after strategy outer inner (c.plug s)
    pure (more ++ back)

variable {k : Part} {strategy : AccessorStrategy} {models : EntityType → Except Error TableModel}

/-- A subquery is settled between what stands before it and what stands after it, at any depth. -/
theorem answer_render_plug (c : Context k) (scope : k.Scope) (s : Select) :
    (k.render strategy scope (c.plug s)).answer models = (do
      let front ← (c.before strategy scope).answer models
      let middle ← (Part.subquery.render strategy () s).answer models
      let back ← (c.after strategy scope s).answer models
      pure (front ++ (middle ++ back))) := by
  have known {α : Type} (a : α) : (.ok a : Except Error α) = pure a := rfl
  induction c with
  | gap => simp [plug, before, after, Inquiry.answer_pure, known]
  | within c f ih =>
    rw [plug, f.render_plug, before, after]
    simp only [Inquiry.answer_bind, ih]
    -- The scope is asked for once more after the gap, and the answer is the same.
    cases (f.enter scope).answer models with
    | error err => rfl
    | ok inner =>
      simp only [Inquiry.answer_pure, known, bind_assoc, pure_bind, List.append_assoc]

end Context

end EntitySql
