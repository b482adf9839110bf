import EntitySql.Dialect
import Mathlib.Logic.Function.Defs

/-!
# Reading quoted names

A quoted name reads back whatever it holds, provided that what follows it does not begin with its
closing mark. What is read in this way is a name as it is quoted, so no two names are quoted alike
and no text has two readings (`quoted_names_read_back`).
-/

namespace EntitySql.Text.Quoted

theorem decode_cons_of_ne {closing c : Char} (h : c ≠ closing) (rest : List Char) :
    decode closing (c :: rest) =
      (decode closing rest).map fun (name, after) => (c :: name, after) := by
  cases rest with
  | nil => simp [decode, h]
  | cons d rest => simp [decode, h]

/-- The closing mark ends the name where it does not stand twice. -/
theorem decode_closing {closing : Char} {after : List Char} (h : after.head? ≠ some closing) :
    decode closing (closing :: after) = some ([], after) := by
  cases after with
  | nil => simp [decode]
  | cons d rest =>
    have hd : d ≠ closing := fun e => h (by simp [e])
    simp [decode, hd]

/-- A name is read back from its characters between the marks. -/
theorem decode_double {closing : Char} (name : List Char) {after : List Char}
    (h : after.head? ≠ some closing) :
    decode closing (double closing name ++ closing :: after) = some (name, after) := by
  induction name with
  | nil => exact decode_closing h
  | cons c rest ih =>
    by_cases hc : c = closing
    · subst hc
      simp [double, decode, ih]
    · simp only [double, hc, if_false, List.cons_append]
      rw [decode_cons_of_ne hc, ih]
      rfl

/-- What is read are the characters of a name up to a closing mark, behind which there is no other
one. -/
theorem eq_double_of_decode {closing : Char} {text name after : List Char}
    (h : decode closing text = some (name, after)) :
    text = double closing name ++ closing :: after ∧ after.head? ≠ some closing := by
  fun_induction decode closing text generalizing name after with
  | case1 => cases h
  | case2 =>
    cases h
    exact ⟨rfl, nofun⟩
  | case3 => cases h
  | case4 rest ih =>
    obtain ⟨⟨inner, rest'⟩, hd, he⟩ := Option.map_eq_some_iff.1 h
    cases he
    obtain ⟨split, behind⟩ := ih hd
    refine ⟨?_, behind⟩
    rw [split, double, if_pos rfl]
    rfl
  | case5 d rest other =>
    cases h
    refine ⟨rfl, fun same => other ?_⟩
    exact Option.some.inj same
  | case6 c d rest other ih =>
    obtain ⟨⟨inner, rest'⟩, hd, he⟩ := Option.map_eq_some_iff.1 h
    cases he
    obtain ⟨split, behind⟩ := ih hd
    refine ⟨?_, behind⟩
    rw [split, double, if_neg other]
    rfl

/-- Reading a name takes at least its closing mark. -/
theorem decode_length {closing : Char} {text name after : List Char}
    (h : decode closing text = some (name, after)) : after.length < text.length := by
  obtain ⟨rfl, -⟩ := eq_double_of_decode h
  rw [List.length_append, List.length_cons]
  omega

/-- Reads a quoted name from its opening mark on: the name, and what comes after its closing mark. -/
def read (opening closing : Char) : List Char → Option (List Char × List Char)
  | [] => none
  | c :: rest => if c = opening then decode closing rest else none

variable {opening closing : Char}

/-- Reading finds a name in front of a text if the name stands there as it is quoted, and only
then. -/
theorem read_eq_some_iff {text name after : List Char} :
    read opening closing text = some (name, after) ↔
      text = encode opening closing name ++ after ∧ after.head? ≠ some closing := by
  have quoted : encode opening closing name ++ after =
      opening :: (double closing name ++ closing :: after) := by
    rw [encode, List.cons_append, List.append_assoc]
    rfl
  rw [quoted]
  constructor
  · intro h
    cases text with
    | nil => cases h
    | cons c rest =>
      rw [read] at h
      split at h
      · rename_i opens
        obtain ⟨split, behind⟩ := eq_double_of_decode h
        rw [opens, split]
        exact ⟨rfl, behind⟩
      · cases h
  · rintro ⟨rfl, behind⟩
    rw [read, if_pos rfl]
    exact decode_double name behind

theorem encode_injective : Function.Injective (encode opening closing) := by
  intro name name' same
  have behind : ([] : List Char).head? ≠ some closing := nofun
  have reads (n : List Char) :
      read opening closing (encode opening closing n ++ []) = some (n, []) :=
    read_eq_some_iff.2 ⟨rfl, behind⟩
  have found := reads name
  rw [same, reads name'] at found
  exact (congrArg Prod.fst (Option.some.inj found)).symm

end EntitySql.Text.Quoted

namespace EntitySql

namespace Dialect

/-- Reads the quoted name that a text begins with. -/
def readName? (d : Dialect) (text : List Char) : Option (String × List Char) :=
  (Text.Quoted.read d.openingQuote d.closingQuote text).map fun (name, after) =>
    (String.ofList name, after)

variable {d : Dialect}

theorem readName?_eq_some_iff {text after : List Char} {name : String} :
    d.readName? text = some (name, after) ↔
      text = d.quote name ++ after ∧ after.head? ≠ some d.closingQuote := by
  unfold readName? quote
  rw [Option.map_eq_some_iff]
  constructor
  · rintro ⟨⟨characters, after'⟩, found, same⟩
    cases same
    rw [String.toList_ofList]
    exact Text.Quoted.read_eq_some_iff.1 found
  · intro written
    refine ⟨(name.toList, after), Text.Quoted.read_eq_some_iff.2 written, ?_⟩
    show (String.ofList name.toList, after) = (name, after)
    rw [String.ofList_toList]

/-- A name is closed by the mark that opened it, or by the counterpart of an opening bracket. -/
theorem closingQuote_cases (d : Dialect) :
    d.closingQuote = d.openingQuote ∨ d.openingQuote = '[' ∧ d.closingQuote = ']' := by
  unfold closingQuote
  split
  · rename_i bracket
    exact .inr ⟨bracket, rfl⟩
  · exact .inl rfl

end Dialect

/-- **Quoted names.** Whatever the marks, reading a text gives a name and what comes after it if and
only if the text is the name as it is quoted, with that behind it, and no second closing mark
follows; and no two names are quoted alike. So it is in every dialect, where the marks are the same
or brackets. -/
theorem quoted_names_read_back :
    (∀ (opening closing : Char) (text name after : List Char),
      Text.Quoted.read opening closing text = some (name, after) ↔
        text = Text.Quoted.encode opening closing name ++ after ∧
          after.head? ≠ some closing) ∧
      (∀ opening closing : Char, Function.Injective (Text.Quoted.encode opening closing)) ∧
      ∀ d : Dialect,
        (d.closingQuote = d.openingQuote ∨ d.openingQuote = '[' ∧ d.closingQuote = ']') ∧
        (∀ (name : String) (after : List Char), after.head? ≠ some d.closingQuote →
          d.readName? (d.quote name ++ after) = some (name, after)) ∧
        Function.Injective d.quote := by
  refine ⟨fun _ _ _ _ _ => Text.Quoted.read_eq_some_iff,
    fun _ _ => Text.Quoted.encode_injective, fun d => ⟨d.closingQuote_cases, ?_, ?_⟩⟩
  · intro name after behind
    exact Dialect.readName?_eq_some_iff.2 ⟨rfl, behind⟩
  · intro name name' same
    exact String.toList_injective (Text.Quoted.encode_injective same)

/-- A name that ends in closing brackets, quoted by brackets. -/
theorem sample_quoting :
    [';'].head? ≠ some (Dialect.custom ⟨'[', .question⟩).closingQuote ∧
      (Dialect.custom ⟨'[', .question⟩).quote "a[b]]" = "[a[b]]]]]".toList ∧
      (Dialect.custom ⟨'[', .question⟩).readName? "[a[b]]]]];".toList = some ("a[b]]", [';']) := by
  have behind : [';'].head? ≠ some (Dialect.custom ⟨'[', .question⟩).closingQuote := by decide
  exact ⟨behind, rfl, (quoted_names_read_back.2.2 (.custom ⟨'[', .question⟩)).2.1 "a[b]]" _ behind⟩

end EntitySql
