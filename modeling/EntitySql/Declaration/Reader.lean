import EntitySql.Declaration.Token

/-!
# Readers of tokens

A reader takes tokens from the front of a list and fails where the list does not go on as it should.
What it gives back, beside a result of its own, are often the tokens that it took.
-/

namespace EntitySql.Declaration

/-- Whether tokens begin with a sign. -/
def beginsSign (c : Char) : List Token → Bool
  | .sign d _ :: _ => d == c
  | _ => false

/-- Whether tokens begin with signs that are written together. -/
def beginsSigns : List Char → List Token → Bool
  | [], _ => true
  | [c], tokens => beginsSign c tokens
  | c :: cs, .sign d true :: rest => d == c && beginsSigns cs rest
  | _, _ => false

/-- Whether tokens begin with the two colons that separate the names of a path. -/
def beginsColons (tokens : List Token) : Bool :=
  beginsSigns [':', ':'] tokens

/-- Whether tokens begin with the given name. -/
def beginsName (s : String) : List Token → Bool
  | .name t :: _ => t == s
  | _ => false

/-- Whether tokens begin with a group in the given brackets. -/
def beginsGroup (d : Delimiter) : List Token → Bool
  | .group e _ :: _ => e == d
  | _ => false

/-- Whether tokens begin with a literal, of which a negative number is one. -/
def beginsLiteral : List Token → Bool
  | .literal _ :: _ | .string _ _ :: _ | .sign '-' _ :: .literal _ :: _ => true
  | tokens => beginsName "true" tokens || beginsName "false" tokens

/-- Names with a meaning of their own, which nothing else can have. -/
def keywords : List String :=
  ["_", "abstract", "as", "async", "await", "become", "box", "break", "const", "continue", "crate",
    "do", "dyn", "else", "enum", "extern", "false", "final", "fn", "for", "if", "impl", "in", "let",
    "loop", "macro", "match", "mod", "move", "mut", "override", "priv", "pub", "ref", "return",
    "Self", "self", "static", "struct", "super", "trait", "true", "try", "type", "typeof", "unsafe",
    "unsized", "use", "virtual", "where", "while", "yield"]

/-- Whether a name may be given to something. -/
def isIdentifier (s : String) : Bool :=
  !keywords.contains s

/-- Whether a name may begin a path. -/
def beginsPath (s : String) : Bool :=
  isIdentifier s || ["super", "self", "Self", "crate"].contains s

/-- A reader of the tokens of a list. -/
abbrev Reader := StateT (List Token) Option

namespace Reader

/-- The next tokens, of which there are at least `count`. -/
def take (count : Nat) : Reader (List Token) :=
  fun tokens => some (tokens.take count, tokens.drop count)

/-- The next tokens, if they begin as they should. -/
def takeIf (begins : List Token → Bool) (count : Nat) : Reader (List Token) := do
  if begins (← get) then take count else failure

/-- The next tokens if they begin in a certain way, and none otherwise. -/
def takeWhen (begins : List Token → Bool) (count : Nat) : Reader (List Token) := do
  if begins (← get) then take count else pure []

/-- A single sign. -/
def sign (c : Char) : Reader (List Token) :=
  takeIf (beginsSign c) 1

/-- A certain name. -/
def name (s : String) : Reader (List Token) :=
  takeIf (beginsName s) 1

/-- A name that may be given to something. -/
def identifier : Reader String := do
  match ← get with
  | .name s :: rest =>
    set rest
    if isIdentifier s then pure s else failure
  | _ => failure

/-- What stands in a group in the given brackets. -/
def group (d : Delimiter) : Reader (List Token) := do
  match ← get with
  | .group e inner :: rest =>
    set rest
    if e = d then pure inner else failure
  | _ => failure

/-- Whether no token is left. -/
def atEnd : Reader Bool := do
  pure (← get).isEmpty

/-- Reads all of the given tokens, such as those of a group. -/
def within {α : Type} (reader : Reader α) (inner : List Token) : Reader α :=
  match reader.run inner with
  | some (a, []) => pure a
  | _ => failure

/-- The tokens that a reader takes. -/
def consumed {α : Type} (reader : Reader α) : Reader (List Token) := do
  let before ← get
  let _ ← reader
  let after ← get
  pure (before.take (before.length - after.length))

end Reader

/-- Steps enough to read tokens: between two tokens that are taken, a reader of this project calls
itself through fewer others than `16`. -/
def stepsFor (tokens : List Token) : Nat :=
  16 * (sizeOfTokens tokens + 1)

end EntitySql.Declaration
