import EntitySql.Declaration.Attribute

/-!
# Type parameters

A declared type is named with its parameters, which leave out bounds, kinds and defaults. Lifetimes
come first.
-/

namespace EntitySql.Declaration

open Reader

/-- A type parameter. -/
structure Parameter where
  name : String
  isLifetime : Bool
  /-- Whether a comma follows. -/
  comma : Bool
  deriving DecidableEq, Repr

/-- Lifetimes between plus signs. -/
def readLifetimeBounds : Nat → Reader Unit
  | 0 => failure
  | n + 1 => do
    match ← get with
    | .lifetime _ :: .sign '+' _ :: rest =>
      set rest
      readLifetimeBounds n
    | .lifetime _ :: rest => set rest
    | _ => pure ()

/-- A parameter with its bounds and its default: its name, and whether it is a lifetime. -/
def readParameter (n : Nat) : Reader (String × Bool) := do
  match ← get with
  | .lifetime s :: rest =>
    set rest
    if beginsSign ':' rest then
      let _ ← take 1
      readLifetimeBounds n
    pure (s, true)
  | .name "const" :: rest =>
    set rest
    let s ← identifier
    let _ ← sign ':'
    let _ ← readType n true
    if beginsSign '=' (← get) then
      let _ ← take 1
      match ← get with
      | .name s :: rest => if isIdentifier s then set rest else let _ ← readConstant
      | _ => let _ ← readConstant
    pure (s, false)
  | .name "_" :: rest =>
    set rest
    pure ("_", false)
  | _ =>
    let s ← identifier
    if beginsSign ':' (← get) then
      let _ ← take 1
      let _ ← readBounds n [',', '>', '=']
    if beginsSign '=' (← get) then
      let _ ← take 1
      let _ ← readType n true
    pure (s, false)

/-- The parameters up to a closing angle bracket. -/
def readParameterList (steps : Nat) : Nat → Reader (List Parameter)
  | 0 => failure
  | n + 1 => do
    if beginsSign '>' (← get) then pure []
    else
      let _ ← readAttributes steps
      let (name, isLifetime) ← readParameter steps
      if beginsSign '>' (← get) then pure [⟨name, isLifetime, false⟩]
      else
        let _ ← sign ','
        pure (⟨name, isLifetime, true⟩ :: (← readParameterList steps n))

/-- The parameters in angle brackets, if there are brackets. -/
def readParameters (n : Nat) : Reader (List Parameter) := do
  if beginsSign '<' (← get) then
    let _ ← take 1
    let parameters ← readParameterList n n
    let _ ← sign '>'
    pure parameters
  else pure []

/-- What is required of one type or lifetime. -/
def readRequirement (n : Nat) : Reader Unit := do
  match ← get with
  | .lifetime _ :: .sign ':' _ :: rest =>
    set rest
    readLifetimeBounds n
  | _ =>
    let _ ← readBinder n
    let _ ← readType n true
    let _ ← sign ':'
    let _ ← readBounds n [',', ';', ':', '=']

/-- Requirements between commas, up to a brace, a semicolon or the end. -/
def readRequirements (steps : Nat) : Nat → Reader Unit
  | 0 => failure
  | n + 1 => do
    let tokens ← get
    if tokens.isEmpty || beginsGroup .braces tokens
        || [',', ';', ':', '='].any (beginsSign · tokens) && !beginsColons tokens then
      pure ()
    else
      readRequirement steps
      if beginsSign ',' (← get) then
        let _ ← take 1
        readRequirements steps n

/-- What is required of the parameters, if anything. -/
def readWhere (n : Nat) : Reader Unit := do
  if beginsName "where" (← get) then
    let _ ← take 1
    readRequirements n n

/-- The parameters one after the other. Each keeps its comma, and one is put in where a parameter
has none and another follows. -/
def joinParameters : List Parameter → String
  | [] => ""
  | [p] => p.name ++ if p.comma then "," else ""
  | p :: rest => p.name ++ "," ++ joinParameters rest

/-- The name of a declared type with its parameters. -/
def appliedName (name : String) (parameters : List Parameter) : String :=
  if parameters.isEmpty then name
  else
    name ++ "<"
      ++ joinParameters (parameters.filter (·.isLifetime) ++ parameters.filter (!·.isLifetime))
      ++ ">"

end EntitySql.Declaration
