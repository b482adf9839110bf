import EntitySql.Proofs.Quoting
import EntitySql.Proofs.Separation
import EntitySql.Proofs.Writing

/-!
# Scanning statements

A text is scanned from left to right, where a quoted name is one token whatever it holds. In a
dialect whose quotes occur in no word, scanning a written statement finds its names, its
placeholders and the characters of its words (`scan_write`).
-/

namespace EntitySql

open Sql (Lexeme Word Separated Ready BeginsWithWord boundValues)

/-- What a text is made of. -/
inductive Sql.Token
  /-- A name between quotes. -/
  | name (s : String)
  | placeholder (text : String)
  /-- A character outside of names and placeholders. -/
  | sign (c : Char)
  deriving DecidableEq, Repr

open Sql (Token)

namespace Dialect

/-- A dialect whose quotes cannot be mistaken for anything else in a statement: it is accepted, and
its opening quote is none of the accepted ones that occur in words. -/
structure Legible (d : Dialect) : Prop where
  valid : d.validate = .ok ()
  unused : d.openingQuote ∉ ['*', ',', '.', '=', '!']

/-- Reads a text from left to right. A name reaches from its opening quote to the first closing
quote that is not doubled; a name without end takes all that is left. -/
def scan (d : Dialect) : List Char → List Token
  | [] => []
  | c :: rest =>
    if c = d.openingQuote then
      match _read : Text.Quoted.decode d.closingQuote rest with
      | some (name, after) => .name (String.ofList name) :: d.scan after
      | none => []
    else if c = '?' then .placeholder "?" :: d.scan rest
    else if c = '$' then
      .placeholder (String.ofList ('$' :: rest.takeWhile Char.isDigit))
        :: d.scan (rest.dropWhile Char.isDigit)
    else .sign c :: d.scan rest
termination_by text => text.length
decreasing_by
  all_goals simp only [List.length_cons]
  · have := Text.Quoted.decode_length _read
    omega
  · omega
  · have := (List.dropWhile_suffix Char.isDigit (l := rest)).length_le
    omega
  · omega

/-- The tokens of lexemes, of which the first value is number `bound + 1`. -/
def tokens (d : Dialect) (bound : Nat) : List Lexeme → List Token
  | [] => []
  | .word w :: rest => w.text.toList.map .sign ++ d.tokens bound rest
  | .name s :: rest => .name s :: d.tokens bound rest
  | .value _ :: rest => .placeholder (d.placeholder (bound + 1)) :: d.tokens (bound + 1) rest

end Dialect

/-! ### Characters of words -/

/-- The characters that words are made of. -/
def Sql.wordSigns : List Char :=
  " *,.()=!<>;ABCDEFGHIJKLMNOPQRSTUVWXYZ".toList

open Sql (wordSigns)

theorem Sql.Word.mem_wordSigns (w : Word) : ∀ c ∈ w.text.toList, c ∈ wordSigns := by
  have all : w.text.toList.all wordSigns.contains = true := by
    cases w with
    | compare op => cases op <;> decide
    | quantifier q => cases q <;> decide
    | aggregate fn => cases fn <;> decide
    | join kind => cases kind <;> decide
    | _ => decide
  intro c hc
  exact List.contains_iff_mem.1 (List.all_eq_true.1 all c hc)

theorem Sql.Word.text_ne_nil (w : Word) : w.text.toList ≠ [] := by
  cases w with
  | compare op => cases op <;> decide
  | quantifier q => cases q <;> decide
  | aggregate fn => cases fn <;> decide
  | join kind => cases kind <;> decide
  | _ => decide

theorem Sql.Word.semicolon_notMem {w : Word} (h : w ≠ .semicolon) : ';' ∉ w.text.toList := by
  cases w with
  | compare op => cases op <;> decide
  | quantifier q => cases q <;> decide
  | aggregate fn => cases fn <;> decide
  | join kind => cases kind <;> decide
  | semicolon => exact absurd rfl h
  | _ => decide

/-- No word holds a digit or a mark of a placeholder. -/
theorem Sql.plain_of_mem_wordSigns (c : Char) (hc : c ∈ wordSigns) :
    c.isDigit = false ∧ c ≠ '?' ∧ c ≠ '$' ∧ c ≠ ']' := by
  have all : wordSigns.all (fun c => !c.isDigit && c != '?' && c != '$' && c != ']') = true := by
    decide
  simpa [and_assoc] using List.all_eq_true.1 all c hc

/-- The punctuation in words is either reserved or among the quotes that are not legible. -/
theorem Sql.mark_of_mem_wordSigns (c : Char) (hc : c ∈ wordSigns)
    (h : isAsciiPunctuation c = true) :
    c ∈ CustomDialect.reserved ∨ c ∈ ['*', ',', '.', '=', '!'] := by
  have all : wordSigns.all (fun c => !isAsciiPunctuation c || CustomDialect.reserved.contains c
      || ['*', ',', '.', '=', '!'].contains c) = true := by
    decide
  have := List.all_eq_true.1 all c hc
  simpa [h] using this

namespace Dialect

variable {d : Dialect}

/-- Quotes are punctuation without another use. -/
theorem Legible.quote (h : d.Legible) :
    isAsciiPunctuation d.openingQuote = true ∧ d.openingQuote ∉ CustomDialect.reserved := by
  cases d with
  | mysql | sqlite | postgres => decide
  | custom c =>
    have := h.valid
    simp only [validate, CustomDialect.validate] at this
    split at this
    · cases this
    · simp_all [openingQuote]

/-- No word holds an opening quote. -/
theorem Legible.openingQuote_notMem (h : d.Legible) : d.openingQuote ∉ wordSigns := by
  intro hm
  rcases Sql.mark_of_mem_wordSigns _ hm h.quote.1 with hr | hu
  · exact h.quote.2 hr
  · exact h.unused hu

/-- No word holds a closing quote. -/
theorem Legible.closingQuote_notMem (h : d.Legible) : d.closingQuote ∉ wordSigns := by
  unfold closingQuote
  split
  · decide
  · exact h.openingQuote_notMem

theorem Legible.ne_openingQuote (h : d.Legible) {c : Char} (hc : c ∈ wordSigns ++ ['?', '$']) :
    c ≠ d.openingQuote := by
  rintro rfl
  rcases List.mem_append.1 hc with hw | hm
  · exact h.openingQuote_notMem hw
  · have marks : ['?', '$'] ⊆ CustomDialect.reserved := by simp [CustomDialect.reserved]
    exact h.quote.2 (marks hm)

/-! ### Scanning piece by piece -/

/-- A character of a word is a token by itself. -/
theorem scan_sign (h : d.Legible) {c : Char} (hc : c ∈ wordSigns) (rest : List Char) :
    d.scan (c :: rest) = .sign c :: d.scan rest := by
  have hq := h.ne_openingQuote (List.mem_append_left _ hc)
  obtain ⟨-, hm, hn, -⟩ := Sql.plain_of_mem_wordSigns c hc
  rw [scan]
  simp [hq, hm, hn]

theorem scan_signs (h : d.Legible) {text : List Char} (ht : ∀ c ∈ text, c ∈ wordSigns)
    (rest : List Char) : d.scan (text ++ rest) = text.map .sign ++ d.scan rest := by
  induction text with
  | nil => rfl
  | cons c text ih =>
    rw [List.cons_append, scan_sign h (ht c (by simp)), ih fun c' hc => ht c' (by simp [hc])]
    rfl

/-- A quoted name is one token, whatever it holds. -/
theorem scan_quote (s : String) {rest : List Char} (hr : rest.head? ≠ some d.closingQuote) :
    d.scan (d.quote s ++ rest) = .name s :: d.scan rest := by
  have read : Text.Quoted.decode d.closingQuote
      (Text.Quoted.double d.closingQuote s.toList ++ d.closingQuote :: rest) =
        some (s.toList, rest) :=
    Text.Quoted.decode_double s.toList hr
  simp only [quote, Text.Quoted.encode, List.cons_append, List.append_assoc, List.nil_append]
  rw [scan, if_pos rfl]
  split
  · rename_i name after he
    rw [read] at he
    cases he
    simp
  · rename_i he
    rw [read] at he
    cases he

theorem placeholder_question (h : d.placeholderStyle = .question) (k : Nat) :
    d.placeholder k = "?" := by
  simp [placeholder, h]

theorem placeholder_numbered (h : d.placeholderStyle = .numbered) (k : Nat) :
    d.placeholder k = String.ofList ('$' :: Nat.toDigits 10 k) := by
  apply String.toList_injective
  simp [placeholder, h, Nat.toList_repr]

/-- A number ends where no digit follows. -/
theorem span_toDigits (k : Nat) {rest : List Char} (hr : ∀ c ∈ rest.head?, c.isDigit = false) :
    (Nat.toDigits 10 k ++ rest).takeWhile Char.isDigit = Nat.toDigits 10 k ∧
      (Nat.toDigits 10 k ++ rest).dropWhile Char.isDigit = rest := by
  have digits : ∀ c ∈ Nat.toDigits 10 k, c.isDigit = true := fun c hc =>
    Nat.isDigit_of_mem_toDigits (by decide) (by decide) hc
  rw [List.takeWhile_append_of_pos digits, List.dropWhile_append_of_pos digits]
  cases rest with
  | nil => simp
  | cons c rest =>
    have hc : c.isDigit = false := hr c rfl
    simp [hc]

/-- A placeholder is one token, unless a digit follows it. -/
theorem scan_placeholder (h : d.Legible) (k : Nat) {rest : List Char}
    (hr : ∀ c ∈ rest.head?, c.isDigit = false) :
    d.scan ((d.placeholder k).toList ++ rest) = .placeholder (d.placeholder k) :: d.scan rest := by
  cases hs : d.placeholderStyle with
  | question =>
    have hq : '?' ≠ d.openingQuote := h.ne_openingQuote (by simp)
    rw [placeholder_question hs, show "?".toList ++ rest = '?' :: rest from rfl, scan]
    simp [hq]
  | numbered =>
    have hq : '$' ≠ d.openingQuote := h.ne_openingQuote (by simp)
    obtain ⟨number, after⟩ := span_toDigits k hr
    rw [placeholder_numbered hs, String.toList_ofList, List.cons_append, scan]
    simp [hq, number, after]

/-! ### Scanning statements -/

/-- A text that can stand behind a name or a placeholder. -/
structure Free (d : Dialect) (after : List Char) : Prop where
  unquoted : after.head? ≠ some d.closingQuote
  unnumbered : ∀ c ∈ after.head?, c.isDigit = false

theorem Legible.free_word (h : d.Legible) (w : Word) (rest : List Char) :
    d.Free (w.text.toList ++ rest) := by
  obtain ⟨c, text, hw⟩ := List.exists_cons_of_ne_nil w.text_ne_nil
  have hc : c ∈ wordSigns := w.mem_wordSigns c (by simp [hw])
  refine ⟨?_, ?_⟩
  · intro he
    simp only [hw, List.cons_append, List.head?_cons, Option.some.injEq] at he
    exact h.closingQuote_notMem (he ▸ hc)
  · intro c' hc'
    simp only [hw, List.cons_append, List.head?_cons, Option.mem_def, Option.some.injEq] at hc'
    subst hc'
    exact (Sql.plain_of_mem_wordSigns c hc).1

theorem Legible.free_write (h : d.Legible) (n : Nat) {lexemes : List Lexeme}
    (hb : BeginsWithWord lexemes) {after : List Char} (ha : d.Free after) :
    d.Free (d.write n lexemes ++ after) := by
  match lexemes, hb with
  | [], _ => exact ha
  | .word w :: rest, _ =>
    rw [write, List.append_assoc]
    exact h.free_word w _

/-- **Scanning finds what was written**: the names, the placeholders under their numbers, and the
characters of the words. -/
theorem scan_write (h : d.Legible) {lexemes : List Lexeme} (hs : Separated lexemes) (n : Nat)
    {after : List Char} (ha : d.Free after) :
    d.scan (d.write n lexemes ++ after) = d.tokens n lexemes ++ d.scan after := by
  induction lexemes generalizing n with
  | nil => rfl
  | cons first rest ih =>
    cases first with
    | word w =>
      rw [write, List.append_assoc, scan_signs h w.mem_wordSigns, ih hs.2, tokens,
        List.append_assoc]
    | name s =>
      rw [write, List.append_assoc, scan_quote s (h.free_write n hs.1 ha).unquoted, ih hs.2]
      rfl
    | value v =>
      rw [write, List.append_assoc, scan_placeholder h _ (h.free_write _ hs.1 ha).unnumbered,
        ih hs.2]
      rfl

end Dialect

end EntitySql
