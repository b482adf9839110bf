import EntitySql.Declaration.Type

/-!
# Attributes of a declaration

An attribute has a path and, after it, a group of tokens, an equals sign with an expression, or
nothing. An attribute `orm(...)` holds items: a key with nothing after it, or a key and a value.
Reading the items goes on to the first one that is badly formed, so that a fault in an item before
it is found first.
-/

namespace EntitySql.Declaration

open Reader

/-- What follows the key of an item. -/
inductive Tail
  | bare
  /-- A value that is a string literal. -/
  | string (s : String)
  /-- Something that is no value, or a value that is no string literal. -/
  | malformed
  deriving DecidableEq, Repr

/-- An item of an attribute. -/
inductive Item
  /-- The parts of the key, between double colons, and what follows it. -/
  | entry (key : List String) (tail : Tail)
  /-- Something that does not begin with a key. -/
  | malformed
  deriving DecidableEq, Repr

/-- An attribute of a type or of a member. -/
inductive Attribute
  | orm (items : List Item)
  /-- An `orm` attribute without a list of items. -/
  | malformed
  /-- An attribute of another name, which means nothing here. -/
  | foreign
  deriving DecidableEq, Repr

/-! ### Items -/

/-- The remaining parts of a key, and what follows it. -/
def readParts : List Token → Option (List String × List Token)
  | .sign ':' true :: .sign ':' _ :: .name s :: rest => do
    let (more, after) ← readParts rest
    pure (s :: more, after)
  | .sign ':' true :: .sign ':' _ :: _ => none
  | rest => some ([], rest)

/-- The key at the start of an item, and what follows it. A key that begins with colons has an empty
first part. -/
def readKey : List Token → Option (List String × List Token)
  | .name s :: rest => do
    let (more, after) ← readParts rest
    pure (s :: more, after)
  | .sign ':' true :: .sign ':' _ :: .name s :: rest => do
    let (more, after) ← readParts rest
    pure ("" :: s :: more, after)
  | _ => none

/-- The items that a key and the tokens after it make up. What is left over after a value makes an
item of its own, so that a fault in the value is found first. -/
def itemOf (key : List String) : List Token → List Item
  | [] => [.entry key .bare]
  | [.sign '=' _, .string s _] => [.entry key (.string s)]
  | .sign '=' _ :: .string s _ :: _ => [.entry key (.string s), .malformed]
  | _ => [.entry key .malformed]

/-- The tokens up to the first comma, and those after it if there is one. -/
def splitAtComma : List Token → List Token × Option (List Token)
  | [] => ([], none)
  | .sign ',' _ :: rest => ([], some rest)
  | token :: rest =>
    let (first, more) := splitAtComma rest
    (token :: first, more)

/-- The items of a list, of which at most `fuel` are read. A comma may end the list. -/
def itemsFrom : Nat → List Token → List Item
  | 0, _ | _, [] => []
  | fuel + 1, tokens =>
    let (first, more) := splitAtComma tokens
    match readKey first with
    | none => [.malformed]
    | some (key, rest) => itemOf key rest ++ itemsFrom fuel (more.getD [])

/-- The items of a list. -/
def items (tokens : List Token) : List Item :=
  itemsFrom tokens.length tokens

/-! ### Attributes -/

/-- The names of a path without arguments, and what follows them. No keyword can be among them, but
for those that begin paths. -/
def readNames : List Token → Option (List String × List Token)
  | .name s :: .sign ':' true :: .sign ':' _ :: rest => do
    if !beginsPath s then failure
    let (more, after) ← readNames rest
    pure (s :: more, after)
  | .name s :: rest => if beginsPath s then some ([s], rest) else none
  | _ => none

/-- The path that an attribute begins with, and what follows it. A path that begins with colons has
an empty first name. -/
def readAttributePath (tokens : List Token) : Option (List String × List Token) :=
  match tokens with
  | .name "unsafe" :: rest => some (["unsafe"], rest)
  | .sign ':' true :: .sign ':' _ :: rest =>
    (readNames rest).map fun (names, after) => ("" :: names, after)
  | tokens => readNames tokens

/-- Whether tokens are an expression. -/
def isExpression (tokens : List Token) : Bool :=
  (readExpression (stepsFor tokens) true).run tokens matches some (_, [])

/-- The attribute that tokens make up, if they are one. -/
def Attribute.ofTokens? (tokens : List Token) : Option Attribute := do
  let (path, rest) ← readAttributePath tokens
  match rest with
  | [] => pure (if path = ["orm"] then .malformed else .foreign)
  | [.group _ inner] => pure (if path = ["orm"] then .orm (items inner) else .foreign)
  | .sign '=' _ :: value =>
    if !beginsSigns ['=', '='] rest && !beginsSigns ['=', '>'] rest && isExpression value then
      pure (if path = ["orm"] then .malformed else .foreign)
    else none
  | _ => none

/-- The attributes in front of something, of which at most `n` are read. -/
def readAttributes : Nat → Reader (List Attribute)
  | 0 => failure
  | n + 1 => do
    match ← get with
    | .sign '#' _ :: .group .brackets inner :: rest =>
      set rest
      match Attribute.ofTokens? inner with
      | some first => pure (first :: (← readAttributes n))
      | none => failure
    | .sign '#' _ :: _ => failure
    | _ => pure []

end EntitySql.Declaration
