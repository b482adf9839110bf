import EntitySql.Toml.Basic

/-!
# TOML strings

The four kinds of strings: on one line or on many, with escapes or as they stand. Each reader
starts after the opening quotes and gives the string together with what follows its closing quotes.
-/

namespace EntitySql.Toml

/-- Puts a character in front of a string that was read. -/
def pushChar (c : Char) (read : Option (List Char × List Char)) : Option (List Char × List Char) :=
  read.map fun (s, rest) => (c :: s, rest)

/-- Puts the character with the given hexadecimal code in front of a string that was read. Codes
that belong to no character are refused. -/
def pushCode (digits : List Char) (read : Option (List Char × List Char)) :
    Option (List Char × List Char) := do
  let n ← number? 16 digits
  if n.isValidChar then pushChar (Char.ofNat n) read else none

/-- The character that a letter after a backslash stands for. -/
def escape? (c : Char) : Option Char :=
  [('b', '\x08'), ('t', '\t'), ('n', '\n'), ('f', '\x0c'), ('r', '\r'), ('e', '\x1b'), ('"', '"'),
    ('\\', '\\')].lookup c

/-- A string with escapes, on one line. -/
def readBasic : List Char → Option (List Char × List Char)
  | [] => none
  | '"' :: rest => some ([], rest)
  | '\\' :: 'x' :: a :: b :: rest => pushCode [a, b] (readBasic rest)
  | '\\' :: 'u' :: a :: b :: c :: d :: rest => pushCode [a, b, c, d] (readBasic rest)
  | '\\' :: 'U' :: a :: b :: c :: d :: e :: f :: g :: h :: rest =>
    pushCode [a, b, c, d, e, f, g, h] (readBasic rest)
  | '\\' :: c :: rest => do pushChar (← escape? c) (readBasic rest)
  | c :: rest => if isText c && c ≠ '\\' then pushChar c (readBasic rest) else none

/-- A string as it stands, on one line. -/
def readLiteral : List Char → Option (List Char × List Char)
  | [] => none
  | '\'' :: rest => some ([], rest)
  | c :: rest => if isText c then pushChar c (readLiteral rest) else none

/-- The end of a string on many lines, whose mark is three quotes: one or two quotes in front of the
mark belong to the string. -/
def closeMultiline (quote : Char) (s : List Char) : List Char × List Char :=
  let quotes := min 5 (s.takeWhile (· == quote)).length
  (List.replicate (quotes - 3) quote, s.drop quotes)

/-- Where a string on many lines is read: a backslash at the end of a line joins it to the next
character that is neither a blank nor a line end. -/
inductive LineMode
  | text
  /-- After a backslash, before the end of its line. -/
  | joining
  /-- After a backslash and the end of its line. -/
  | joined
  deriving DecidableEq, Repr

/-- A string with escapes, on any number of lines. Line ends stay as they are. -/
def readMultilineBasic (mode : LineMode) : List Char → Option (List Char × List Char)
  | [] => none
  | c :: rest =>
    if mode ≠ .text ∧ isBlank c then readMultilineBasic mode rest
    else
      match c, rest with
      | '\n', rest =>
        if mode = .text then pushChar '\n' (readMultilineBasic .text rest)
        else readMultilineBasic .joined rest
      | '\r', '\n' :: rest =>
        if mode = .text then pushChar '\r' (pushChar '\n' (readMultilineBasic .text rest))
        else readMultilineBasic .joined rest
      | c, rest =>
        if mode = .joining then none
        else
          match c, rest with
          | '"', '"' :: '"' :: more => some (closeMultiline '"' ('"' :: '"' :: '"' :: more))
          | '\\', ' ' :: rest | '\\', '\t' :: rest => readMultilineBasic .joining rest
          | '\\', '\n' :: rest | '\\', '\r' :: '\n' :: rest => readMultilineBasic .joined rest
          | '\\', 'x' :: a :: b :: rest => pushCode [a, b] (readMultilineBasic .text rest)
          | '\\', 'u' :: a :: b :: c :: d :: rest =>
            pushCode [a, b, c, d] (readMultilineBasic .text rest)
          | '\\', 'U' :: a :: b :: c :: d :: e :: f :: g :: h :: rest =>
            pushCode [a, b, c, d, e, f, g, h] (readMultilineBasic .text rest)
          | '\\', c :: rest => do pushChar (← escape? c) (readMultilineBasic .text rest)
          | c, rest =>
            if isText c && c ≠ '\\' then pushChar c (readMultilineBasic .text rest) else none

/-- A string as it stands, on any number of lines, line ends included. -/
def readMultilineLiteral : List Char → Option (List Char × List Char)
  | [] => none
  | '\'' :: '\'' :: '\'' :: rest => some (closeMultiline '\'' ('\'' :: '\'' :: '\'' :: rest))
  | '\n' :: rest => pushChar '\n' (readMultilineLiteral rest)
  | '\r' :: '\n' :: rest => pushChar '\r' (pushChar '\n' (readMultilineLiteral rest))
  | c :: rest => if isText c then pushChar c (readMultilineLiteral rest) else none

/-- A string on many lines begins after the first line end, if that comes at once. -/
def skipFirstNewline (s : List Char) : List Char :=
  (newline? s).getD s

/-- A string of any kind. -/
def readString? : List Char → Option (String × List Char)
  | '"' :: '"' :: '"' :: rest => found (readMultilineBasic .text (skipFirstNewline rest))
  | '\'' :: '\'' :: '\'' :: rest => found (readMultilineLiteral (skipFirstNewline rest))
  | '"' :: rest => found (readBasic rest)
  | '\'' :: rest => found (readLiteral rest)
  | _ => none
where
  found (read : Option (List Char × List Char)) : Option (String × List Char) :=
    read.map fun (s, rest) => (String.ofList s, rest)

end EntitySql.Toml
