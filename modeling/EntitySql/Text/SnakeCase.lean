import EntitySql.Text.Alphabetic
import EntitySql.Text.CaseMapping
import EntitySql.Text.Lowercase
import EntitySql.Text.Numeric
import EntitySql.Text.Uppercase

/-!
# Snake case

Default table and column names are the words of a type or field name, in small letters and joined
by underscores. A word ends where something other than a letter or a digit stands, where a small
letter meets a capital one, and before the last of several capitals that a small letter follows:
`PDFPage2Index` has the words `PDF`, `Page2`, `Index`.
-/

namespace EntitySql.Text

/-- Letters and numbers make up words, all else separates them. -/
def isWordChar (c : Char) : Bool :=
  alphabetic.contains c || numeric.contains c

/-- The pieces between separators; empty ones are kept. -/
def pieces : List Char → List (List Char)
  | [] => [[]]
  | c :: rest =>
    if isWordChar c then
      match pieces rest with
      | [] => [[c]]
      | piece :: more => (c :: piece) :: more
    else [] :: pieces rest

/-- The case of the letters read last, within a word. -/
inductive CaseMode
  | boundary
  | lower
  | upper
  deriving DecidableEq, Repr

/-- The case after one more character; what has no case changes nothing. -/
def CaseMode.after (mode : CaseMode) (c : Char) : CaseMode :=
  if lowercase.contains c then .lower else if uppercase.contains c then .upper else mode

/-- The words of one piece. `word` holds the characters of the current word, the last one first;
`mode` is the case of the letters before the next character. -/
def wordsFrom (mode : CaseMode) (word : List Char) : List Char → List (List Char)
  | [] => if word.isEmpty then [] else [word.reverse]
  | [c] => [(c :: word).reverse]
  | c :: next :: rest =>
    if mode.after c = .lower ∧ uppercase.contains next then
      (c :: word).reverse :: wordsFrom .boundary [] (next :: rest)
    else if mode = .upper ∧ uppercase.contains c ∧ lowercase.contains next then
      word.reverse :: wordsFrom .boundary [c] (next :: rest)
    else wordsFrom (mode.after c) (c :: word) (next :: rest)

/-- The words of a name, in order. -/
def words (name : List Char) : List (List Char) :=
  (pieces name).flatMap (wordsFrom .boundary [])

/-- A word in small letters. A capital sigma that ends the word takes its final form. -/
def lowerWord : List Char → List Char
  | [] => []
  | [c] => if c = 'Σ' then ['ς'] else toLowercase c
  | c :: next :: rest => toLowercase c ++ lowerWord (next :: rest)

/-- The words of `name` in small letters, joined by underscores. -/
def snakeCase (name : String) : String :=
  String.ofList (List.intercalate ['_'] ((words name.toList).map lowerWord))

end EntitySql.Text
