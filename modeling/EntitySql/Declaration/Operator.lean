import EntitySql.Declaration.Reader

/-!
# Operators in expressions

Whether tokens are an expression depends little on how strongly its operators bind. What does is
kept while the operators are read: comparisons and ranges cannot follow one another.
-/

namespace EntitySql.Declaration

/-- The signs between two operands, longer ones first. -/
def operators : List (List Char) :=
  ["<<=", ">>=", "..=", "&&", "||", "==", "!=", "<=", ">=", "<<", ">>", "+=", "-=", "*=", "/=",
    "%=", "^=", "&=", "|=", "..", "+", "-", "*", "/", "%", "^", "&", "|", "<", ">", "="].map
      (·.toList)

/-- The operator that tokens begin with. An arrow is none. -/
def operatorAt? (tokens : List Token) : Option (List Char) :=
  if beginsSigns ['=', '>'] tokens then none else operators.find? (beginsSigns · tokens)

/-- Operators that compare: an operand cannot stand between two of them. -/
def comparisons : List (List Char) :=
  ["==", "!=", "<=", ">=", "<", ">"].map (·.toList)

/-- Operators that give a range: neither another one nor an assignment can follow. -/
def ranges : List (List Char) :=
  ["..=", ".."].map (·.toList)

/-- Operators that assign. -/
def assignments : List (List Char) :=
  ["<<=", ">>=", "+=", "-=", "*=", "/=", "%=", "^=", "&=", "|=", "="].map (·.toList)

/-- What was read of an expression, where that decides which operators may follow. -/
structure Operations where
  /-- Whether there is a comparison, with nothing that binds less after it. -/
  compared : Bool
  /-- Whether there is a range. -/
  ranged : Bool

/-- What was read after one more operator, if that may follow. -/
def Operations.add? (before : Operations) (operator : List Char) : Option Operations :=
  if comparisons.contains operator then
    if before.compared then none else some { before with compared := true }
  else if ranges.contains operator then
    if before.ranged then none else some ⟨false, true⟩
  else if assignments.contains operator then
    if before.ranged then none else some ⟨false, false⟩
  else if ["&&", "||"].contains (String.ofList operator) then
    some { before with compared := false }
  else some before

/-- Whether tokens go on with an operand; `structs` tells whether braces may begin one. -/
def beginsOperand (structs : Bool) : List Token → Bool
  | .name s :: _ => s ≠ "as" && s ≠ "else"
  | .group d _ :: _ => structs || d ≠ .braces
  | .sign c joint :: rest =>
    ['&', '*', '!', '-', '<', '|'].contains c || (c == ':' && beginsColons (.sign c joint :: rest))
  | _ :: _ => true
  | [] => false

end EntitySql.Declaration
