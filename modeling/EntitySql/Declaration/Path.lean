import EntitySql.Declaration.Reader

/-!
# Paths in types

A path is a list of names, each of which may have generic arguments. What follows a path depends on
how it is made up, so this is kept beside its tokens.
-/

namespace EntitySql.Declaration

/-- A path of names, as far as it was read. -/
structure PathReading where
  tokens : List Token
  /-- Whether it begins with a type in angle brackets. -/
  qualified : Bool
  /-- Whether it is a single name, with nothing in front of it and no call after it. -/
  single : Bool
  /-- Whether no name in it has arguments. -/
  plain : Bool
  /-- Whether the last name in it has no arguments. -/
  bare : Bool

/-- A generic argument, and whether a comma follows it. -/
structure Argument where
  isLifetime : Bool
  tokens : List Token
  comma : Bool

/-- Generic arguments in the order in which they are written: lifetimes first. Each keeps its comma,
and one is put in after a lifetime that was the last of all arguments. -/
def Argument.arrange (arguments : List Argument) : List Token :=
  let comma : Token := .sign ',' false
  let written (a : Argument) := a.tokens ++ if a.comma then [comma] else []
  let lifetimes := arguments.filter (·.isLifetime)
  let others := arguments.filter (!·.isLifetime)
  let between :=
    match lifetimes.getLast?, others with
    | some ⟨_, _, false⟩, _ :: _ => [comma]
    | _, _ => []
  lifetimes.flatMap written ++ between ++ others.flatMap written

/-- Whether tokens go on with a bound after a plus sign. -/
def beginsBound : List Token → Bool
  | .name _ :: _ | .lifetime _ :: _ | .sign '?' _ :: _ | .group .parentheses _ :: _ => true
  | tokens => beginsColons tokens

/-- Whether tokens go on with arguments in parentheses, with or without colons before them. -/
def beginsCall (tokens : List Token) : Bool :=
  beginsGroup .parentheses tokens
    || (beginsColons tokens && beginsGroup .parentheses (tokens.drop 2))

/-- Whether tokens go on with arguments in angle brackets. In an expression there have to be colons
before them. -/
def beginsArguments (expression : Bool) (tokens : List Token) : Bool :=
  (!expression && beginsSign '<' tokens && !beginsSigns ['<', '='] tokens)
    || (beginsColons tokens && beginsSign '<' (tokens.drop 2))

end EntitySql.Declaration
