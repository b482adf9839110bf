/-!
# Quoted names

A name stands between an opening and a closing mark, and a closing mark inside the name is written
twice. Reading stops at the first closing mark that does not stand twice, so that what was quoted
is read back whatever the name holds.
-/

namespace EntitySql.Text.Quoted

/-- The characters of a name, each closing mark twice. -/
def double (closing : Char) : List Char → List Char
  | [] => []
  | c :: rest => if c = closing then c :: c :: double closing rest else c :: double closing rest

/-- A name between its marks. -/
def encode (opening closing : Char) (name : List Char) : List Char :=
  opening :: (double closing name ++ [closing])

/-- Reads what follows the opening mark: the name, and what comes after its closing mark. -/
def decode (closing : Char) : List Char → Option (List Char × List Char)
  | [] => none
  | [c] => if c = closing then some ([], []) else none
  | c :: d :: rest =>
    if c = closing then
      if d = closing then (decode closing rest).map fun (name, after) => (c :: name, after)
      else some ([], d :: rest)
    else (decode closing (d :: rest)).map fun (name, after) => (c :: name, after)

end EntitySql.Text.Quoted
