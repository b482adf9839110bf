import EntitySql.Text.CodeSet

/-!
# White space
-/

namespace EntitySql.Text

/-- The code points that separate words of source text: those with the Unicode property
`White_Space`, and the marks U+200E and U+200F for the direction of text. -/
def whiteSpace : CodeSet := ⟨[
  0x9, 0xE, 0x20, 0x21, 0x85, 0x86, 0xA0, 0xA1, 0x1680, 0x1681, 0x2000, 0x200B, 0x200E, 0x2010,
  0x2028, 0x202A, 0x202F, 0x2030, 0x205F, 0x2060, 0x3000, 0x3001]⟩

end EntitySql.Text
