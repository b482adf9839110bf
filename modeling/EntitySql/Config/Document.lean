import EntitySql.Config.Basic
import EntitySql.Toml.Document

/-!
# Configurations from TOML

A document sets any of the choices of a configuration. Its settings are read in the order of their
names, and the first fault is the error. A choice among several is written as the name of one, or as
a table whose only key is that name.
-/

namespace EntitySql

open Toml (Value)

namespace Config

/-- What a setting comes to, or what is wrong with it. -/
abbrev Setting (α : Type) := Except ConfigFault α

/-- One choice among several: its name, and what belongs to it. -/
def variant (names : List String) (v : Toml.Value) : Setting (String × Option Toml.Value) := do
  let (name, content?) ← match v with
    | .string s => pure (s, none)
    | .table [(name, content)] => pure (name, some content)
    | _ => .error .malformed
  if names.contains name then pure (name, content?) else .error (.unknownVariant name names)

/-- A choice that nothing belongs to. -/
def plainVariant {α : Type} (a : α) : Option Toml.Value → Setting α
  | none | some (.table []) | some (.array []) => .ok a
  | _ => .error .malformed

/-- A choice among names that nothing belongs to. -/
def choice {α : Type} (options : List (String × α)) (v : Toml.Value) : Setting α := do
  let (name, content?) ← variant (options.map (·.1)) v
  match options.lookup name with
  | some a => plainVariant a content?
  | none => .error .malformed

def accessorSetting : Toml.Value → Setting AccessorStrategy :=
  choice AccessorStrategy.names

def registrySetting : Toml.Value → Setting RegistryScope :=
  choice RegistryScope.names

def placeholderSetting : Toml.Value → Setting PlaceholderStyle :=
  choice PlaceholderStyle.names

/-- A string of one character. -/
def quoteSetting : Toml.Value → Setting Char
  | .string s =>
    match s.toList with
    | [c] => .ok c
    | _ => .error .malformed
  | _ => .error .malformed

/-- The entries of a table in the order of their names. -/
def sortedEntries (entries : List (String × Toml.Value)) : List (String × Toml.Value) :=
  entries.mergeSort fun a b => a.1 ≤ b.1

/-- What the entries of a table say of a custom dialect. Other entries are passed over, as long as
they hold no faulty number. -/
def customEntries (quote? : Option Char) (placeholder : PlaceholderStyle) :
    List (String × Toml.Value) → Setting CustomDialect
  | [] =>
    match quote? with
    | some quote => .ok ⟨quote, placeholder⟩
    | none => .error (.missingField "quote")
  | (name, v) :: rest =>
    if name = "quote" then do customEntries (some (← quoteSetting v)) placeholder rest
    else if name = "placeholder" then do customEntries quote? (← placeholderSetting v) rest
    else if v.isSound then customEntries quote? placeholder rest
    else .error .malformed

/-- A custom dialect: a table with its parts, or the parts in their order. A date counts as a table
without any of them. -/
def customSetting : Toml.Value → Setting CustomDialect
  | .table entries => customEntries none .question (sortedEntries entries)
  | .dateTime => customEntries none .question []
  | .array [quote] => do pure ⟨← quoteSetting quote, .question⟩
  | .array (quote :: placeholder :: _) => do
    pure ⟨← quoteSetting quote, ← placeholderSetting placeholder⟩
  | _ => .error .malformed

def dialectSetting (v : Toml.Value) : Setting Dialect := do
  match ← variant ["mysql", "sqlite", "postgres", "custom"] v with
  | ("mysql", content?) => plainVariant .mysql content?
  | ("sqlite", content?) => plainVariant .sqlite content?
  | ("postgres", content?) => plainVariant .postgres content?
  | (_, some content) => do pure (.custom (← customSetting content))
  | (_, none) => .error .malformed

def loggingSetting : Toml.Value → Setting Bool
  | .boolean b => .ok b
  | _ => .error .malformed

/-- A number of 64 bits that is not negative. -/
def limitSetting : Toml.Value → Setting Nat
  | .integer n => if 0 ≤ n ∧ n.toNat < UInt64.size then .ok n.toNat else .error .malformed
  | _ => .error .malformed

/-- The names that a document may set. -/
def settingNames : List String :=
  ["dialect", "accessor", "registry", "log_statements", "max_logged_sql"]

/-- A configuration after one more setting. -/
def setting (c : Config) (name : String) (v : Toml.Value) : Setting Config := do
  match name with
  | "dialect" => pure { c with dialect := ← dialectSetting v }
  | "accessor" => pure { c with accessor := ← accessorSetting v }
  | "registry" => pure { c with registry := ← registrySetting v }
  | "log_statements" => pure { c with logStatements := ← loggingSetting v }
  | "max_logged_sql" => pure { c with maxLoggedSql := some (← limitSetting v) }
  | name => .error (.unknownField name settingNames)

/-- The configuration that a document asks for, the rest being as by default. -/
def ofDocument (entries : List (String × Toml.Value)) : Setting Config :=
  (sortedEntries entries).foldlM (fun c (name, v) => c.setting name v) default

/-- The configuration in a text, if that is a TOML document and the configuration is valid. -/
def ofToml (text : String) : Except Error Config := do
  match Toml.parse? text with
  | none => throw (.config .malformed)
  | some entries =>
    match ofDocument entries with
    | .error fault => throw (.config fault)
    | .ok config =>
      config.validate
      pure config

end Config

end EntitySql
