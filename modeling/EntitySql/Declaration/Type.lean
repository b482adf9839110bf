import EntitySql.Declaration.Operator
import EntitySql.Declaration.Path

/-!
# Types and expressions

The type of a member is kept as its tokens. To find where it ends, and whether it is a type at all,
it is read along its grammar; so are the expressions in it and in attributes, of which the contents
of blocks and the patterns are not looked at. A type is written with the lifetimes among generic
arguments first.
-/

namespace EntitySql.Declaration

open Reader

/-- What sort of type was read, where that decides what may follow. -/
inductive TypeSort
  /-- A single name, perhaps with arguments in angle brackets. -/
  | name
  /-- Any other path. -/
  | path
  /-- A single trait that speaks of lifetimes of its own. -/
  | bound
  /-- A type in parentheses. -/
  | parenthesized
  | other
  deriving DecidableEq, Repr

/-- The lifetimes of a binder and the bounds on them, up to the closing angle bracket. -/
def readLifetimes : Nat → Reader (List Token)
  | 0 => failure
  | n + 1 => do
    match ← get with
    | .lifetime _ :: _ | .sign ':' _ :: _ | .sign '+' _ :: _ | .sign ',' _ :: _ =>
      pure ((← take 1) ++ (← readLifetimes n))
    | _ => pure []

/-- The lifetimes that a type or a bound is said for. -/
def readBinder (n : Nat) : Reader (List Token) := do
  if beginsName "for" (← get) then
    pure ((← take 1) ++ (← sign '<') ++ (← readLifetimes n) ++ (← sign '>'))
  else pure []

/-- What follows the first occurrence of a name. -/
def afterWord (s : String) (tokens : List Token) : List Token :=
  (tokens.dropWhile fun token => !beginsName s [token]).drop 1

/-- What follows the first occurrence of a sign. -/
def afterSign (c : Char) (tokens : List Token) : List Token :=
  (tokens.dropWhile fun token => !beginsSign c [token]).drop 1

mutual

/-- A type: its sort and its tokens. `plus` tells whether bounds may be added to it. -/
def readType : Nat → Bool → Reader (TypeSort × List Token)
  | 0, _ => failure
  | n + 1, plus => do
    match ← get with
    | .group .parentheses inner :: rest =>
      set rest
      readParenthesized n plus inner
    | .group .brackets inner :: rest =>
      set rest
      pure (.other, [.group .brackets (← within (readArray n) inner)])
    | .lifetime _ :: _ => readObject n true []
    | .sign '*' _ :: _ =>
      let star ← take 1
      let access ← takeIf (fun tokens => beginsName "const" tokens || beginsName "mut" tokens) 1
      pure (.other, star ++ access ++ (← readType n false).2)
    | .sign '&' _ :: _ =>
      let ampersand ← take 1
      let lifetime ← takeWhen (fun tokens => tokens matches .lifetime _ :: _) 1
      let access ← takeWhen (beginsName "mut") 1
      pure (.other, ampersand ++ lifetime ++ access ++ (← readType n false).2)
    | .sign '!' _ :: _ => pure (.other, ← take 1)
    | .sign _ _ :: _ => readPathType n plus []
    | .name s :: _ =>
      if s = "_" then pure (.other, ← take 1)
      else if s = "dyn" then
        let first ← take 1
        readObject n plus (first ++ (← takeWhen (beginsSign '*') 1))
      else if s = "impl" then readObject n plus (← take 1)
      else if s = "for" then
        let binder ← readBinder n
        match ← get with
        | .name s :: _ =>
          if ["fn", "unsafe", "extern"].contains s then readFunction n binder
          else readPathType n plus binder
        | _ => failure
      else if ["fn", "unsafe", "extern"].contains s then readFunction n []
      else readPathType n plus []
    | _ => failure

/-- A type in parentheses, a tuple of types, or bounds of which the first is in parentheses. -/
def readParenthesized : Nat → Bool → List Token → Reader (TypeSort × List Token)
  | 0, _, _ => failure
  | n + 1, plus, inner => do
    match inner with
    | [] => pure (.other, [.group .parentheses []])
    | .lifetime _ :: _ =>
      let (_, tokens) ← within (readObject n true []) inner
      pure (.parenthesized, [.group .parentheses tokens])
    | .sign '?' _ :: _ =>
      let bound ← within (readTrait n) inner
      pure (.other, .group .parentheses bound :: (← readAddedBounds n))
    | _ =>
      let (sort, count, tokens) ← within (readElements n) inner
      let group := [Token.group .parentheses tokens]
      if count ≠ 1 then pure (.other, group)
      else if plus && beginsSign '+' (← get) && [.name, .path, .bound].contains sort then
        pure (.other, group ++ (← readAddedBounds n))
      else pure (.parenthesized, group)

/-- Types between commas: the sort of the first, their number, and the tokens. A comma after the
only type makes it count as more than one. -/
def readElements : Nat → Reader (TypeSort × Nat × List Token)
  | 0 => failure
  | n + 1 => do
    let (sort, first) ← readType n true
    if ← atEnd then pure (sort, 1, first)
    else
      let comma ← sign ','
      if ← atEnd then pure (sort, 2, first ++ comma)
      else
        let (_, count, more) ← readElements n
        pure (sort, count + 1, first ++ comma ++ more)

/-- What stands between the brackets of an array or a slice. -/
def readArray : Nat → Reader (List Token)
  | 0 => failure
  | n + 1 => do
    let (_, element) ← readType n true
    if beginsSign ';' (← get) then
      pure (element ++ (← take 1) ++ (← consumed (readExpression n true)))
    else pure element

/-- Bounds of which at least one is a trait, after the given tokens. -/
def readObject : Nat → Bool → List Token → Reader (TypeSort × List Token)
  | 0, _, _ => failure
  | n + 1, plus, before => do
    let (isTrait, first) ← readBound n
    let (areTraits, more) ← if plus then readMoreBounds n else pure (false, [])
    if isTrait || areTraits then pure (.other, before ++ first ++ more) else failure

/-- More bounds after plus signs, the last of which may have none after it, and whether there is a
trait among them. -/
def readMoreBounds : Nat → Reader (Bool × List Token)
  | 0 => failure
  | n + 1 => do
    if beginsSign '+' (← get) then
      let plus ← take 1
      if beginsBound (← get) then
        let (isTrait, bound) ← readBound n
        let (areTraits, more) ← readMoreBounds n
        pure (isTrait || areTraits, plus ++ bound ++ more)
      else pure (false, plus)
    else pure (false, [])

/-- More bounds after plus signs, each of which has one after it. -/
def readAddedBounds : Nat → Reader (List Token)
  | 0 => failure
  | n + 1 => do
    if beginsSign '+' (← get) then
      let plus ← take 1
      let (_, bound) ← readBound n
      pure (plus ++ bound ++ (← readAddedBounds n))
    else pure []

/-- A lifetime or a trait, and whether it is a trait. -/
def readBound : Nat → Reader (Bool × List Token)
  | 0 => failure
  | n + 1 => do
    match ← get with
    | .lifetime _ :: _ => pure (false, ← take 1)
    | .group .parentheses inner :: rest =>
      set rest
      pure (true, [.group .parentheses (← within (readTrait n) inner)])
    | _ => pure (true, ← readTrait n)

/-- A trait, with what may stand before it. -/
def readTrait : Nat → Reader (List Token)
  | 0 => failure
  | n + 1 => do
    let binder ← readBinder n
    let tilde ← takeWhen (beginsSign '~') 1
    let condition ← takeWhen (fun tokens => beginsName "const" tokens ||
      tokens matches .group .brackets [.name "const"] :: _) 1
    let maybe ← takeWhen (beginsSign '?') 1
    let inner ← if binder.isEmpty then readBinder n else pure []
    let path ← readPath n false
    let call ←
      if path.bare && beginsCall (← get) then do
        let _ ← takeWhen beginsColons 2
        pure (← readCall n).2
      else pure []
    pure (binder ++ tilde ++ condition ++ maybe ++ inner ++ path.tokens ++ call)

/-- A type that begins with a path, after the given binder. -/
def readPathType : Nat → Bool → List Token → Reader (TypeSort × List Token)
  | 0, _, _ => failure
  | n + 1, plus, binder => do
    let path ← readTypePath n
    let tokens ← get
    if path.qualified then pure (.other, binder ++ path.tokens)
    else if path.plain && beginsSign '!' tokens && !beginsSigns ['!', '='] tokens then
      let call ← takeIf (fun tokens => tokens.tail matches .group _ _ :: _) 2
      pure (.other, binder ++ path.tokens ++ call)
    else if plus && beginsSign '+' tokens then
      pure (.other, binder ++ path.tokens ++ (← readMoreBounds n).2)
    else if !binder.isEmpty then pure (.bound, binder ++ path.tokens)
    else pure (if path.single then .name else .path, path.tokens)

/-- A path in a type. A name in it may be called with arguments in parentheses. -/
def readTypePath : Nat → Reader PathReading
  | 0 => failure
  | n + 1 => do
    let path ← if beginsSign '<' (← get) then readQualified n false else readPath n false
    readCalls n path

/-- The rest of a path whose names may be called. -/
def readCalls : Nat → PathReading → Reader PathReading
  | 0, _ => failure
  | n + 1, path => do
    if path.bare && beginsCall (← get) then
      let _ ← takeWhen beginsColons 2
      let (goesOn, call) ← readCall n
      let path : PathReading := ⟨path.tokens ++ call, path.qualified, false, false, false⟩
      if goesOn then readCalls n (← readMoreNames n false path) else pure path
    else pure path

/-- A path that begins with a type in angle brackets, perhaps seen as a trait. -/
def readQualified : Nat → Bool → Reader PathReading
  | 0, _ => failure
  | n + 1, expression => do
    let opening ← sign '<'
    let (_, self) ← readType n true
    let view ←
      if beginsName "as" (← get) then do
        let word ← take 1
        pure (word ++ (← readPath n false).tokens)
      else pure []
    let closing ← sign '>'
    let colons ← takeIf beginsColons 2
    let (bare, first) ← readName n expression
    readMoreNames n expression
      ⟨opening ++ self ++ view ++ closing ++ colons ++ first, true, false, bare, bare⟩

/-- A path of names, which may begin with colons. -/
def readPath : Nat → Bool → Reader PathReading
  | 0, _ => failure
  | n + 1, expression => do
    let colons ← takeWhen beginsColons 2
    let (bare, first) ← readName n expression
    readMoreNames n expression ⟨colons ++ first, false, colons.isEmpty, bare, bare⟩

/-- The rest of a path. -/
def readMoreNames : Nat → Bool → PathReading → Reader PathReading
  | 0, _, _ => failure
  | n + 1, expression, path => do
    let tokens ← get
    if beginsColons tokens && !beginsGroup .parentheses (tokens.drop 2) then
      let colons ← take 2
      let (bare, next) ← readName n expression
      readMoreNames n expression
        ⟨path.tokens ++ colons ++ next, path.qualified, false, path.plain && bare, bare⟩
    else pure path

/-- A name in a path with its arguments, and whether there are none. -/
def readName : Nat → Bool → Reader (Bool × List Token)
  | 0, _ => failure
  | n + 1, expression => do
    match ← get with
    | .name s :: _ =>
      if ["super", "self", "crate", "try"].contains s then pure (true, ← take 1)
      else if s = "Self" || isIdentifier s then
        let name ← take 1
        if beginsArguments expression (← get) then pure (false, name ++ (← readArguments n))
        else pure (true, name)
      else failure
    | _ => failure

/-- Arguments in parentheses and the type of a result, and whether a path may go on after them. -/
def readCall : Nat → Reader (Bool × List Token)
  | 0 => failure
  | n + 1 => do
    let inner ← group .parentheses
    let arguments ←
      if inner.isEmpty then pure [] else pure (← within (readElements n) inner).2.2
    let (goesOn, result) ← readResult n
    pure (goesOn, .group .parentheses arguments :: result)

/-- The type of a result after an arrow, if there is one, and whether it is delimited by itself. -/
def readResult : Nat → Reader (Bool × List Token)
  | 0 => failure
  | n + 1 => do
    if beginsSigns ['-', '>'] (← get) then
      let arrow ← take 2
      let (sort, tokens) ← readType n false
      pure (sort = .parenthesized, arrow ++ tokens)
    else pure (true, [])

/-- Arguments in angle brackets. -/
def readArguments : Nat → Reader (List Token)
  | 0 => failure
  | n + 1 => do
    let colons ← takeWhen beginsColons 2
    let opening ← sign '<'
    let arguments ← readArgumentList n
    let closing ← sign '>'
    pure (colons ++ opening ++ Argument.arrange arguments ++ closing)

/-- The arguments up to a closing angle bracket. -/
def readArgumentList : Nat → Reader (List Argument)
  | 0 => failure
  | n + 1 => do
    if beginsSign '>' (← get) then pure []
    else
      let (isLifetime, tokens) ← readArgument n
      if beginsSign '>' (← get) then pure [⟨isLifetime, tokens, false⟩]
      else
        let _ ← sign ','
        pure (⟨isLifetime, tokens, true⟩ :: (← readArgumentList n))

/-- A generic argument, and whether it is a lifetime: a type, a constant, or what is said of a type
that belongs to another. -/
def readArgument : Nat → Reader (Bool × List Token)
  | 0 => failure
  | n + 1 => do
    match ← get with
    | .lifetime _ :: rest =>
      if beginsSign '+' rest then pure (false, (← readType n true).2)
      else pure (true, ← take 1)
    | tokens =>
      if beginsLiteral tokens || beginsGroup .braces tokens then pure (false, ← readConstant)
      else
        let (sort, type) ← readType n true
        let tokens ← get
        if sort = .name && beginsSign '=' tokens then
          let equals ← take 1
          let tokens ← get
          if beginsLiteral tokens || beginsGroup .braces tokens then
            pure (false, type ++ equals ++ (← readConstant))
          else pure (false, type ++ equals ++ (← readType n true).2)
        else if sort = .name && beginsSign ':' tokens then
          let colon ← take 1
          pure (false, type ++ colon ++ (← readBounds n [',', '>']))
        else pure (false, type)

/-- A literal or a block. -/
def readConstant : Reader (List Token) := do
  let tokens ← get
  if beginsLiteral tokens then
    let minus ← takeWhen (beginsSign '-') 1
    pure (minus ++ (← take 1))
  else takeIf (beginsGroup .braces) 1

/-- Bounds between plus signs, up to one of the given signs, an opening brace or the end. -/
def readBounds : Nat → List Char → Reader (List Token)
  | 0, _ => failure
  | n + 1, stops => do
    let tokens ← get
    if tokens.isEmpty || beginsGroup .braces tokens || stops.any (beginsSign · tokens)
        && !beginsColons tokens then
      pure []
    else
      let (_, bound) ← readBound n
      if beginsSign '+' (← get) then
        let plus ← take 1
        pure (bound ++ plus ++ (← readBounds n stops))
      else pure bound

/-- The type of a function, after the given binder. -/
def readFunction : Nat → List Token → Reader (TypeSort × List Token)
  | 0, _ => failure
  | n + 1, binder => do
    let safety ← takeWhen (beginsName "unsafe") 1
    let linkage ← takeWhen (beginsName "extern") 1
    let convention ←
      if linkage.isEmpty then pure []
      else takeWhen (fun tokens => tokens matches .string _ _ :: _) 1
    let word ← name "fn"
    let inner ← group .parentheses
    let parameters ← within (readFunctionParameters n) inner
    let (_, result) ← readResult n
    pure (.other, binder ++ safety ++ linkage ++ convention ++ word
      ++ .group .parentheses parameters :: result)

/-- The parameters of a function type, with or without names. -/
def readFunctionParameters : Nat → Reader (List Token)
  | 0 => failure
  | n + 1 => do
    if ← atEnd then pure []
    else
      let name ← takeWhen (fun
        | .name s :: rest =>
          (isIdentifier s || s == "_" || s == "self") && beginsSign ':' rest && !beginsColons rest
        | _ => false) 2
      if beginsSigns ['.', '.', '.'] (← get) then
        pure (name ++ (← take 3) ++ (← takeWhen (beginsSign ',') 1))
      else
        let (_, type) ← readType n true
        if ← atEnd then pure (name ++ type)
        else
          let comma ← sign ','
          pure (name ++ type ++ comma ++ (← readFunctionParameters n))

/-- An expression; `structs` tells whether braces may follow a name in it. -/
def readExpression : Nat → Bool → Reader Unit
  | 0, _ => failure
  | n + 1, structs => do
    if beginsSigns ['.', '.'] (← get) then
      let _ ← take 2
      let _ ← takeWhen (beginsSign '=') 1
      if beginsOperand structs (← get) then readOperand n structs
      readOperations n structs ⟨false, true⟩
    else
      readOperand n structs
      readOperations n structs ⟨false, false⟩

/-- Operators and the operands after them. A range may go without the second one. -/
def readOperations : Nat → Bool → Operations → Reader Unit
  | 0, _, _ => failure
  | n + 1, structs, before => do
    let tokens ← get
    match operatorAt? tokens with
    | some operator =>
      match before.add? operator with
      | some operations =>
        let _ ← take operator.length
        if operator ≠ ['.', '.'] || beginsOperand structs (← get) then readOperand n structs
        readOperations n structs operations
      | none => failure
    | none =>
      if beginsName "as" tokens then
        let _ ← take 1
        let _ ← readType n false
        readOperations n structs before

/-- An operand with the signs before it and what is done with it. -/
def readOperand : Nat → Bool → Reader Unit
  | 0, _ => failure
  | n + 1, structs => do
    match ← get with
    | .sign '&' _ :: _ =>
      let _ ← take 1
      let _ ← takeWhen (beginsName "mut") 1
      readOperand n structs
    | .sign '*' _ :: _ | .sign '!' _ :: _ | .sign '-' _ :: _ =>
      let _ ← take 1
      readOperand n structs
    | .sign '|' _ :: rest =>
      set (afterSign '|' rest)
      let _ ← takeWhen (beginsSigns ['-', '>']) 2
      readExpression n structs
    | .lifetime _ :: .sign ':' _ :: rest =>
      set rest
      readOperand n structs
    | .group d inner :: rest =>
      set rest
      if d ≠ .braces then within (readList n) inner
      readUses n
    | .name s :: rest =>
      if s = "true" || s = "false" then
        set rest
      else if s = "move" || s = "static" then
        set rest
        readOperand n structs
      else if ["return", "break", "continue"].contains s then
        set rest
        let _ ← takeWhen (fun tokens => tokens matches .lifetime _ :: _) 1
        if beginsOperand structs (← get) then readExpression n structs
      else if ["if", "match", "while", "for"].contains s then
        set (if s = "for" then afterWord "in" rest else rest)
        readExpression n false
        let _ ← group .braces
        if s = "if" && beginsName "else" (← get) then
          let _ ← take 1
          readOperand n false
      else if ["loop", "unsafe", "const", "async"].contains s then
        set rest
        let _ ← takeWhen (beginsName "move") 1
        let _ ← group .braces
      else readNamed n structs
      readUses n
    | .literal _ :: rest | .string _ _ :: rest =>
      set rest
      readUses n
    | _ =>
      readNamed n structs
      readUses n

/-- A path, a call of a path with an exclamation mark, or a path with members in braces. -/
def readNamed : Nat → Bool → Reader Unit
  | 0, _ => failure
  | n + 1, structs => do
    let path ← if beginsSign '<' (← get) then readQualified n true else readPath n true
    let tokens ← get
    if path.plain && beginsSign '!' tokens && !beginsSigns ['!', '='] tokens then
      let _ ← takeIf (fun tokens => tokens.tail matches .group _ _ :: _) 2
    else if structs then
      let _ ← takeWhen (beginsGroup .braces) 1

/-- What is done with an operand: calls, elements, members and questions. -/
def readUses : Nat → Reader Unit
  | 0 => failure
  | n + 1 => do
    match ← get with
    | .group .parentheses inner :: rest =>
      set rest
      within (readList n) inner
      readUses n
    | .group .brackets inner :: rest =>
      set rest
      within (readExpression n true) inner
      readUses n
    | .sign '?' _ :: rest =>
      set rest
      readUses n
    | .sign '.' false :: .name _ :: rest =>
      set rest
      if beginsColons rest then
        let _ ← readArguments n
      readUses n
    | .sign '.' false :: .literal _ :: rest =>
      set rest
      readUses n
    | _ => pure ()

/-- Expressions between commas, or one and the number of times that it is repeated. -/
def readList : Nat → Reader Unit
  | 0 => failure
  | n + 1 => do
    if ← atEnd then pure ()
    else
      readExpression n true
      if ← atEnd then pure ()
      else if beginsSign ';' (← get) then
        let _ ← take 1
        readExpression n true
      else
        let _ ← sign ','
        readList n

end

/-- A type as it is written, without blanks. -/
def typeText (tokens : List Token) : String :=
  String.ofList ((textOf tokens).toList.filter (· ≠ ' '))

end EntitySql.Declaration
