/-!
# Tokens of source text

Source text is a list of tokens: names, lifetimes, literals, signs, and groups of tokens between
brackets. Of a literal only strings have a meaning here; the others are kept as they are written.
-/

namespace EntitySql.Declaration

/-- The brackets around a group. -/
inductive Delimiter
  | parentheses
  | brackets
  | braces
  deriving DecidableEq, Repr

inductive Token
  | name (s : String)
  /-- A name after an apostrophe, which is part of the text. -/
  | lifetime (s : String)
  /-- A string literal: what it stands for, and how it is written. -/
  | string (value text : String)
  /-- A literal of any other sort. -/
  | literal (text : String)
  /-- A single sign, and whether another sign follows at once. -/
  | sign (c : Char) (joint : Bool)
  | group (delimiter : Delimiter) (inner : List Token)

/-- The bracket that opens a group. -/
def Delimiter.opening : Delimiter → Char
  | parentheses => '('
  | brackets => '['
  | braces => '\x7b'

/-- The bracket that closes a group. -/
def Delimiter.closing : Delimiter → Char
  | parentheses => ')'
  | brackets => ']'
  | braces => '\x7d'

def Delimiter.all : List Delimiter :=
  [parentheses, brackets, braces]

/-- The brackets of which a character is the opening one. -/
def Delimiter.ofOpening? (c : Char) : Option Delimiter :=
  all.find? (·.opening == c)

/-- The brackets of which a character is the closing one. -/
def Delimiter.ofClosing? (c : Char) : Option Delimiter :=
  all.find? (·.closing == c)

mutual

/-- A token as it is written. -/
def Token.text : Token → String
  | .name s => s
  | .lifetime s => s
  | .string _ text => text
  | .literal text => text
  | .sign c _ => String.singleton c
  | .group d inner =>
    String.singleton d.opening ++ textOf inner ++ String.singleton d.closing

/-- The texts of tokens, one after the other. -/
def textOf : List Token → String
  | [] => ""
  | token :: rest => token.text ++ textOf rest

end

mutual

/-- The number of tokens in a token, itself included. -/
def Token.size : Token → Nat
  | .group _ inner => sizeOfTokens inner + 1
  | _ => 1

/-- The number of tokens in a list, those in groups included. -/
def sizeOfTokens : List Token → Nat
  | [] => 0
  | token :: rest => token.size + sizeOfTokens rest

end

end EntitySql.Declaration
