import EntitySql.Declaration.Literal
import EntitySql.Text.Escaped
import EntitySql.Text.Space

/-!
# From text to tokens

White space and comments separate tokens. A comment that documents something stands for an attribute
with its text. Brackets have to match.
-/

namespace EntitySql.Declaration

open Text (isNameStart isNameChar)

/-! ### Comments -/

/-- What follows a comment between slashes and stars, from after its opening mark. Such comments
may stand in one another, `depth` being the number of those around. -/
def afterBlock (depth : Nat) : List Char → Option (List Char)
  | [] => none
  | '/' :: '*' :: rest => afterBlock (depth + 1) rest
  | '*' :: '/' :: rest =>
    match depth with
    | 0 => some rest
    | depth + 1 => afterBlock depth rest
  | _ :: rest => afterBlock depth rest

/-- What follows white space and comments, of which at most `fuel` are skipped. Comments that
document something are left. -/
def skipSpace : Nat → List Char → List Char
  | 0, s => s
  | fuel + 1, s =>
    match s with
    | '/' :: '/' :: '/' :: '/' :: rest => skipSpace fuel (rest.dropWhile (· ≠ '\n'))
    | '/' :: '/' :: '/' :: _ | '/' :: '/' :: '!' :: _ => s
    | '/' :: '/' :: rest => skipSpace fuel (rest.dropWhile (· ≠ '\n'))
    | '/' :: '*' :: '*' :: '/' :: rest => skipSpace fuel rest
    | '/' :: '*' :: '*' :: '*' :: _ => plainBlock fuel s
    | '/' :: '*' :: '*' :: _ | '/' :: '*' :: '!' :: _ => s
    | '/' :: '*' :: _ => plainBlock fuel s
    | c :: rest => if Text.whiteSpace.contains c then skipSpace fuel rest else s
    | [] => []
where
  /-- What follows a comment between slashes and stars and the white space after it. -/
  plainBlock (fuel : Nat) (s : List Char) : List Char :=
    match afterBlock 0 (s.drop 2) with
    | some rest => skipSpace fuel rest
    | none => s

/-- A comment that documents something: whether it belongs to what encloses it, its text, and what
follows it. -/
def documentation? (s : List Char) : Option (Bool × List Char × List Char) :=
  match s with
  | '/' :: '/' :: '!' :: rest => some (true, line rest)
  | '/' :: '/' :: '/' :: rest => if rest.head? = some '/' then none else some (false, line rest)
  | '/' :: '*' :: '!' :: rest => (block rest).map (true, ·)
  | '/' :: '*' :: '*' :: rest =>
    if rest.head? = some '*' then none else (block rest).map (false, ·)
  | _ => none
where
  /-- What stands before the end of the line, and what follows. -/
  line (s : List Char) : List Char × List Char :=
    let text := s.takeWhile (· ≠ '\n')
    let rest := s.dropWhile (· ≠ '\n')
    (if text.getLast? = some '\r' ∧ rest ≠ [] then text.dropLast else text, rest)
  /-- What stands before the closing mark, and what follows that. -/
  block (s : List Char) : Option (List Char × List Char) :=
    (afterBlock 0 s).map fun rest => (s.take (s.length - rest.length - 2), rest)

/-- Whether a carriage return stands without a line feed after it. -/
def hasBareReturn : List Char → Bool
  | [] => false
  | '\r' :: '\n' :: rest => hasBareReturn rest
  | c :: rest => c == '\r' || hasBareReturn rest

/-- The attribute that a comment stands for. -/
def documentationTokens (enclosing : Bool) (text : List Char) : List Token :=
  let value := String.ofList text
  .sign '#' false :: (if enclosing then [.sign '!' false] else []) ++
    [.group .brackets [.name "doc", .sign '=' false, .string value (Text.quoteString value)]]

/-! ### Tokens -/

/-- Whether a text begins with a sign. -/
def startsWithSign : List Char → Bool
  | '/' :: '/' :: _ | '/' :: '*' :: _ => false
  | c :: _ => "~!@#$%^&*-=+|;:,<.>/?'".toList.contains c
  | [] => false

/-- The name that a text begins with, and the rest. A name may be marked as one where it would be
a keyword; a few keywords cannot be. -/
def name? : List Char → Option (String × List Char)
  | 'r' :: '#' :: c :: rest =>
    let name := String.ofList (c :: rest.takeWhile isNameChar)
    if isNameStart c ∧ name ∉ ["_", "super", "self", "Self", "crate"] then
      some ("r#" ++ name, rest.dropWhile isNameChar)
    else none
  | c :: rest =>
    if isNameStart c then
      some (String.ofList (c :: rest.takeWhile isNameChar), rest.dropWhile isNameChar)
    else none
  | [] => none

/-- Beginnings that only literals have. -/
def literalMarks : List String :=
  ["r\"", "r#\"", "r##", "b\"", "b'", "br\"", "br#", "c\"", "cr\"", "cr#"]

/-- The lifetime that a text begins with, and the rest. -/
def lifetime? : List Char → Option (Token × List Char)
  | '\'' :: s => do
    let (name, rest) ← name? s
    match rest with
    | '\'' :: _ => none
    | '#' :: _ => if ['r', '#'].isPrefixOf s then some (.lifetime ("'" ++ name), rest) else none
    | rest => some (.lifetime ("'" ++ name), rest)
  | _ => none

/-- The sign, lifetime or name that a text begins with, and the rest. -/
def word? (s : List Char) : Option (Token × List Char) :=
  match s with
  | '\'' :: _ => lifetime? s
  | c :: rest =>
    if startsWithSign s then some (.sign c (startsWithSign rest), rest)
    else if literalMarks.any fun mark => mark.toList.isPrefixOf s then none
    else (name? s).map fun (name, rest) => (.name name, rest)
  | [] => none

/-- The tokens up to a closing bracket or the end, and the rest. Each token takes at least one
character; `fuel` is a bound for the number of characters. -/
def readTokens : Nat → List Char → Option (List Token × List Char)
  | 0, _ => none
  | fuel + 1, s => do
    let s := skipSpace s.length s
    if let some (enclosing, text, rest) := documentation? s then
      if hasBareReturn text then none
      else
        let (more, rest) ← readTokens fuel rest
        pure (documentationTokens enclosing text ++ more, rest)
    else
      match s with
      | [] => pure ([], [])
      | c :: rest =>
        if (Delimiter.ofClosing? c).isSome then pure ([], s)
        else
          match Delimiter.ofOpening? c with
          | some d =>
            let (inner, rest) ← readTokens fuel rest
            match rest with
            | [] => none
            | c :: rest =>
              if c = d.closing then
                let (more, rest) ← readTokens fuel rest
                pure (.group d inner :: more, rest)
              else none
          | none =>
            let (token, rest) ← (literal? s).or (word? s)
            let (more, rest) ← readTokens fuel rest
            pure (token :: more, rest)

/-- The tokens of a text. -/
def tokens? (text : String) : Option (List Token) :=
  match readTokens (text.length + 1) text.toList with
  | some (tokens, []) => some tokens
  | _ => none

end EntitySql.Declaration
