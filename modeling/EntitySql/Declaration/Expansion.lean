import EntitySql.Declaration.Basic

/-!
# Entities from declarations

A declaration of a struct with named members makes an entity type. Attributes may name its table
and the columns of its members, and leave members out. The result describes the type and says which
member is read and written under which name.
-/

namespace EntitySql.Declaration

/-- Why a declaration makes no entity type. -/
inductive Fault
  | unnamedMembers
  | notStruct
  | emptyTable
  | unsupportedOnStruct
  | emptyColumn
  | unsupportedOnMember
  /-- A declaration or an attribute that is badly formed. -/
  | malformed
  deriving DecidableEq, Repr

/-- The text of a fault; for what is badly formed there is none of our own. -/
def Fault.message? : Fault → Option String
  | unnamedMembers => some "Entity can only be derived for structs with named fields"
  | notStruct => some "Entity can only be derived for structs"
  | emptyTable => some "table name must not be empty"
  | unsupportedOnStruct => some "unsupported struct attribute, expected `table = \"...\"`"
  | emptyColumn => some "column name must not be empty"
  | unsupportedOnMember =>
    some "unsupported field attribute, expected `column = \"...\"` or `skip`"
  | malformed => none

/-- What the attributes of a member ask for. -/
structure MemberOptions where
  column? : Option String
  skip : Bool
  deriving DecidableEq, Repr

/-- A mapped member: its name, the column that it asks for, and the text of its type. -/
structure MappedMember where
  name : String
  column? : Option String
  type : String
  deriving DecidableEq, Repr

/-- Where a name leads: reading or writing the field `name` reads or writes `member`. -/
structure Access where
  name : String
  member : String
  deriving DecidableEq, Repr

/-- What a declaration comes to. -/
structure Expansion where
  /-- The type that becomes an entity type, with its parameters. -/
  self : String
  typeName : String
  table? : Option String
  fields : List MappedMember
  readers : List Access
  writers : List Access
  deriving DecidableEq, Repr

/-- The table named so far, after one more item on the type. -/
def tableItem (_ : Option String) : Item → Except Fault (Option String)
  | .entry ["table"] (.string s) => if s.isEmpty then .error .emptyTable else .ok (some s)
  | .entry ["table"] _ => .error .malformed
  | .entry _ _ => .error .unsupportedOnStruct
  | .malformed => .error .malformed

/-- The options given so far, after one more item on a member. -/
def memberItem (options : MemberOptions) : Item → Except Fault MemberOptions
  | .entry ["column"] (.string s) =>
    if s.isEmpty then .error .emptyColumn else .ok { options with column? := some s }
  | .entry ["column"] _ => .error .malformed
  | .entry ["skip"] .bare => .ok { options with skip := true }
  | .entry ["skip"] _ => .error .malformed
  | .entry _ _ => .error .unsupportedOnMember
  | .malformed => .error .malformed

/-- Goes through the items of all attributes in order; the first fault ends it. -/
def foldItems {α : Type} (step : α → Item → Except Fault α) (start : α) :
    List Attribute → Except Fault α
  | [] => .ok start
  | .foreign :: rest => foldItems step start rest
  | .malformed :: _ => .error .malformed
  | .orm items :: rest => do foldItems step (← items.foldlM step start) rest

/-- The mapped members, with what they ask for. -/
def mappedMembers : List Member → Except Fault (List MappedMember)
  | [] => .ok []
  | m :: rest => do
    let options ← foldItems memberItem ⟨none, false⟩ m.attributes
    let more ← mappedMembers rest
    pure (if options.skip then more else ⟨m.name, options.column?, m.type⟩ :: more)

/-- The entity type that a declaration makes. -/
def TypeDeclaration.expand (d : TypeDeclaration) : Except Fault Expansion :=
  match d.shape with
  | .tuple | .unit => .error .unnamedMembers
  | .enumeration | .union => .error .notStruct
  | .named members => do
    let table? ← foldItems tableItem none d.attributes
    let fields ← mappedMembers members
    let accesses := fields.map fun f => ⟨f.name, f.name⟩
    pure ⟨appliedName d.name d.parameters, d.name, table?, fields, accesses, accesses⟩

/-- The entity type that the declaration with the given text makes. -/
def expandText (text : String) : Except Fault Expansion :=
  match TypeDeclaration.ofText? text with
  | some d => d.expand
  | none => .error .malformed

end EntitySql.Declaration
