import EntitySql.Declaration.Generics
import EntitySql.Declaration.Lexer

/-!
# Declarations of types

A declaration has attributes, a name, parameters and members. It is read from source text, and only
what bears on entities is kept of it.
-/

namespace EntitySql.Declaration

open Reader

/-- A member of a declared type. The type of the member is kept as its text. -/
structure Member where
  name : String
  type : String
  attributes : List Attribute
  deriving DecidableEq, Repr

/-- What sort of type is declared. -/
inductive Shape
  /-- A struct whose members have names. -/
  | named (members : List Member)
  /-- A struct whose members are numbered. -/
  | tuple
  /-- A struct without a list of members. -/
  | unit
  | enumeration
  | union
  deriving DecidableEq, Repr

/-- The declaration of a type. -/
structure TypeDeclaration where
  name : String
  parameters : List Parameter
  attributes : List Attribute
  shape : Shape
  deriving DecidableEq, Repr

/-! ### Reading -/

/-- Who may use a member or a type. -/
def readVisibility : Reader Unit := do
  if beginsName "pub" (← get) then
    let _ ← take 1
    match ← get with
    | .group .parentheses [.name s] :: rest =>
      if ["crate", "self", "super"].contains s then set rest
    | .group .parentheses (.name "in" :: path) :: rest =>
      match readAttributePath path with
      | some (_, []) => set rest
      | _ => failure
    | _ => pure ()

/-- A member with a name. The name may be left out by an underscore. -/
def readMember (n : Nat) : Reader Member := do
  let attributes ← readAttributes n
  readVisibility
  let name ← if beginsName "_" (← get) then do pure (textOf (← take 1)) else identifier
  let _ ← sign ':'
  let (_, type) ← readType n true
  pure ⟨name, typeText type, attributes⟩

/-- A member without a name. -/
def readNumbered (n : Nat) : Reader Unit := do
  let _ ← readAttributes n
  readVisibility
  let _ ← readType n true

/-- What stands between commas, of which one may stand at the end. -/
def readAll {α : Type} (reader : Reader α) : Nat → Reader (List α)
  | 0 => failure
  | n + 1 => do
    if ← atEnd then pure []
    else
      let first ← reader
      if ← atEnd then pure [first]
      else
        let _ ← sign ','
        pure (first :: (← readAll reader n))

/-- The named members in braces. -/
def readMembers (n : Nat) : Reader (List Member) := do
  within (readAll (readMember n) n) (← group .braces)

/-- A struct after its parameters. What is required of them stands before the members in braces, and
after those in parentheses. -/
def readStruct (n : Nat) : Reader Shape := do
  match ← get with
  | .group .parentheses inner :: rest =>
    set rest
    let _ ← within (readAll (readNumbered n) n) inner
    readWhere n
    let _ ← sign ';'
    pure .tuple
  | _ =>
    readWhere n
    if beginsSign ';' (← get) then
      let _ ← take 1
      pure .unit
    else pure (.named (← readMembers n))

/-- What follows the parameters of a declaration that begins with the given word. The variants of an
enumeration are not looked at. -/
def readShape (word : String) (n : Nat) : Reader Shape :=
  match word with
  | "struct" => readStruct n
  | "enum" => do
    readWhere n
    let _ ← group .braces
    pure .enumeration
  | "union" => do
    readWhere n
    let _ ← readMembers n
    pure .union
  | _ => failure

/-- A declaration. -/
def readDeclaration (n : Nat) : Reader TypeDeclaration := do
  let attributes ← readAttributes n
  readVisibility
  match ← get with
  | .name word :: rest =>
    set rest
    let name ← identifier
    let parameters ← readParameters n
    let shape ← readShape word n
    pure ⟨name, parameters, attributes, shape⟩
  | _ => failure

/-- The declaration with the given text, if it is one. -/
def TypeDeclaration.ofText? (text : String) : Option TypeDeclaration := do
  let tokens ← tokens? text
  match (readDeclaration (stepsFor tokens)).run tokens with
  | some (d, []) => some d
  | _ => none

end EntitySql.Declaration
