import EntitySql.Declaration.Expansion
import EntitySql.Proofs.Records
import Mathlib.Logic.Function.Basic

/-!
# Declared entity types

The attributes of a declaration are gone through item by item. A declaration with named members
makes an entity type if and only if each item on the type names a table and each item on a member
leaves it out or names a column. Of several names the last one holds, and a member is left out if
any item says so (`TypeDeclaration.expand_eq_ok`).

The entity type comes with a list of accesses for reading and one for writing. An instance of the
type holds something for every member, and a name leads to the member of the first access that has
it. Both lists have the names of the mapped members, each of which leads to the member of that name
(`unskipped_members_are_mapped`).
-/

namespace EntitySql.Declaration

/-! ### Items of attributes -/

/-- The items of an attribute. An `orm` attribute that has no list of items counts as a single item
that is badly formed. -/
def Attribute.items : Attribute → List Item
  | orm items => items
  | malformed => [.malformed]
  | foreign => []

/-- The items of all `orm` attributes, in the order in which they are written. -/
def ormItems (attributes : List Attribute) : List Item :=
  attributes.flatMap Attribute.items

/-- The item that leaves a member out. -/
abbrev Item.skip : Item :=
  .entry ["skip"] .bare

/-- The text that an item gives under a key. -/
def Item.text? (key : String) : Item → Option String
  | .entry [k] (.string s) => if k = key then some s else none
  | _ => none

/-- An item that is a key with a text that is not empty. -/
inductive Item.Gives (key : String) : Item → Prop
  | text {s : String} (nonempty : s ≠ "") : Item.Gives key (.entry [key] (.string s))

/-- The text that the last item with the key gives. -/
def lastText? (key : String) (attributes : List Attribute) : Option String :=
  ((ormItems attributes).filterMap (Item.text? key)).getLast?

/-- A member that an item leaves out. -/
def Member.Skipped (m : Member) : Prop :=
  Item.skip ∈ ormItems m.attributes

instance : DecidablePred Member.Skipped := fun m =>
  inferInstanceAs (Decidable (Item.skip ∈ ormItems m.attributes))

/-- A member as it is mapped. -/
def Member.mapped (m : Member) : MappedMember :=
  ⟨m.name, lastText? "column" m.attributes, m.type⟩

/-- The members that no item leaves out, as they are mapped. -/
def unskipped (members : List Member) : List MappedMember :=
  (members.filter (¬·.Skipped)).map Member.mapped

/-- Every item is one that its place allows: on the type it names a table, and on a member, be it
left out or not, it leaves the member out or names its column. -/
structure TypeDeclaration.WellAnnotated (d : TypeDeclaration) (members : List Member) : Prop where
  type : ∀ i ∈ ormItems d.attributes, i.Gives "table"
  members : ∀ m ∈ members, ∀ i ∈ ormItems m.attributes, i = .skip ∨ i.Gives "column"

/-! ### Going through items -/

section Items

variable {α : Type} {step : α → Item → Except Fault α} {items : List Item} {i : Item}

/-- Going through attributes is going through their items. -/
theorem foldItems_eq (h : ∀ a, step a .malformed = .error .malformed) (start : α)
    (attributes : List Attribute) :
    foldItems step start attributes = (ormItems attributes).foldlM step start := by
  induction attributes generalizing start with
  | nil => rfl
  | cons first rest ih =>
    have split : ormItems (first :: rest) = first.items ++ ormItems rest := List.flatMap_cons
    rw [split, List.foldlM_append]
    cases first with
    | orm items =>
      rw [foldItems]
      simp only [ih]
      rfl
    | malformed =>
      rw [foldItems, Attribute.items, List.foldlM_cons, h]
      rfl
    | foreign =>
      rw [foldItems, ih]
      rfl

/-- Where a step refuses some items and takes the others in, going through items takes all of them
in, provided that none is refused. -/
theorem foldlM_eq_ok {admitted : Item → Prop} {update : α → Item → α}
    (h : ∀ a i a', step a i = .ok a' ↔ admitted i ∧ a' = update a i) {start a : α} :
    items.foldlM step start = .ok a ↔
      (∀ i ∈ items, admitted i) ∧ a = items.foldl update start := by
  induction items generalizing start with
  | nil =>
    constructor
    · intro same
      cases same
      exact ⟨nofun, rfl⟩
    · rintro ⟨-, rfl⟩
      rfl
  | cons first rest ih =>
    rw [List.foldlM_cons, except_bind_eq_ok, List.foldl_cons, List.forall_mem_cons]
    constructor
    · rintro ⟨next, here, later⟩
      obtain ⟨taken, rfl⟩ := (h _ _ _).1 here
      obtain ⟨others, same⟩ := ih.1 later
      exact ⟨⟨taken, others⟩, same⟩
    · rintro ⟨⟨taken, others⟩, same⟩
      exact ⟨_, (h _ _ _).2 ⟨taken, rfl⟩, ih.2 ⟨others, same⟩⟩

/-- Where each item that has something replaces what was there, the last one of them holds. -/
theorem foldl_or {β : Type} (pick : Item → Option β) (start : Option β) :
    items.foldl (fun kept i => (pick i).or kept) start =
      (items.filterMap pick).getLast?.or start := by
  induction items generalizing start with
  | nil => rfl
  | cons first rest ih =>
    rw [List.foldl_cons, ih]
    cases picked : pick first with
    | none => rw [List.filterMap_cons_none picked, Option.none_or]
    | some b =>
      -- What is picked here holds unless a later item has something.
      rw [List.filterMap_cons_some picked, List.getLast?_cons]
      cases (rest.filterMap pick).getLast? <;> rfl

/-- On a type an item is taken in if it names a table. -/
theorem tableItem_eq_ok (table? : Option String) (i : Item) (table?' : Option String) :
    tableItem table? i = .ok table?' ↔
      i.Gives "table" ∧ table?' = (i.text? "table").or table? := by
  constructor
  · intro taken
    unfold tableItem at taken
    split at taken
    · rename_i s
      split at taken
      · cases taken
      · rename_i nonempty
        cases taken
        refine ⟨.text fun empty => nonempty ?_, rfl⟩
        rw [empty]
        rfl
    all_goals cases taken
  · rintro ⟨⟨nonempty⟩, rfl⟩
    rw [tableItem, if_neg (by simpa using nonempty)]
    rfl

/-- An item that gives a text leaves nothing out. -/
theorem Item.Gives.ne_skip {key : String} (h : i.Gives key) : i ≠ .skip := by
  rintro rfl
  cases h

/-- On a member an item is taken in if it leaves the member out or names a column. -/
theorem memberItem_eq_ok (options : MemberOptions) (i : Item) (options' : MemberOptions) :
    memberItem options i = .ok options' ↔
      (i = .skip ∨ i.Gives "column") ∧
        options' = ⟨(i.text? "column").or options.column?, options.skip || i = .skip⟩ := by
  constructor
  · intro taken
    unfold memberItem at taken
    split at taken
    · split at taken
      · cases taken
      · rename_i s nonempty
        cases taken
        have gives : (Item.entry ["column"] (.string s)).Gives "column" := by
          refine .text fun empty => nonempty ?_
          rw [empty]
          rfl
        refine ⟨.inr gives, ?_⟩
        rw [decide_eq_false gives.ne_skip, Bool.or_false]
        rfl
    · cases taken
    · cases taken
      refine ⟨.inl rfl, ?_⟩
      rw [decide_eq_true rfl, Bool.or_true]
      rfl
    all_goals cases taken
  · rintro ⟨rfl | gives, rfl⟩
    · rw [decide_eq_true rfl, Bool.or_true]
      rfl
    · rw [decide_eq_false gives.ne_skip, Bool.or_false]
      obtain ⟨nonempty⟩ := gives
      rw [memberItem, if_neg (by simpa using nonempty)]
      rfl

/-- What the items on a member come to, one after the other. -/
theorem foldl_options (options : MemberOptions) :
    items.foldl (fun (o : MemberOptions) i =>
        ⟨(i.text? "column").or o.column?, o.skip || i = .skip⟩) options =
      ⟨items.foldl (fun kept i => (i.text? "column").or kept) options.column?,
        options.skip || .skip ∈ items⟩ := by
  induction items generalizing options with
  | nil => simp
  | cons first rest ih =>
    rw [List.foldl_cons, ih, List.foldl_cons]
    simp [Bool.or_assoc, eq_comm]

/-- The items on a type. -/
theorem foldItems_tableItem_eq_ok {attributes : List Attribute} {table? : Option String} :
    foldItems tableItem none attributes = .ok table? ↔
      (∀ i ∈ ormItems attributes, i.Gives "table") ∧ table? = lastText? "table" attributes := by
  rw [foldItems_eq fun _ => rfl, foldlM_eq_ok tableItem_eq_ok, foldl_or, Option.or_none,
    lastText?]

/-- The items on a member. -/
theorem foldItems_memberItem_eq_ok {attributes : List Attribute} {options : MemberOptions} :
    foldItems memberItem ⟨none, false⟩ attributes = .ok options ↔
      (∀ i ∈ ormItems attributes, i = .skip ∨ i.Gives "column") ∧
        options = ⟨lastText? "column" attributes, .skip ∈ ormItems attributes⟩ := by
  rw [foldItems_eq fun _ => rfl, foldlM_eq_ok memberItem_eq_ok, foldl_options, foldl_or,
    Option.or_none, Bool.false_or, lastText?]

end Items

/-! ### Members and declarations -/

theorem unskipped_cons (m : Member) (rest : List Member) :
    unskipped (m :: rest) =
      if m.Skipped then unskipped rest else m.mapped :: unskipped rest := by
  unfold unskipped
  by_cases skipped : m.Skipped
  · rw [List.filter_cons_of_neg (by simpa using skipped), if_pos skipped]
  · rw [List.filter_cons_of_pos (by simpa using skipped), if_neg skipped, List.map_cons]

/-- The mapped members are those that no item leaves out, provided that all items on members are
taken in. -/
theorem mappedMembers_eq_ok {members : List Member} {fields : List MappedMember} :
    mappedMembers members = .ok fields ↔
      (∀ m ∈ members, ∀ i ∈ ormItems m.attributes, i = .skip ∨ i.Gives "column") ∧
        fields = unskipped members := by
  induction members generalizing fields with
  | nil =>
    constructor
    · intro same
      cases same
      exact ⟨nofun, rfl⟩
    · rintro ⟨-, rfl⟩
      rfl
  | cons m rest ih =>
    -- The options say by a Boolean whether the member is left out, and `Skipped` by a proposition.
    have front : (if decide (Item.skip ∈ ormItems m.attributes) = true then unskipped rest
        else m.mapped :: unskipped rest) = unskipped (m :: rest) := by
      rw [unskipped_cons]
      exact if_congr decide_eq_true_iff rfl rfl
    rw [mappedMembers, except_bind_eq_ok, List.forall_mem_cons, ← front]
    constructor
    · rintro ⟨options, here, h⟩
      obtain ⟨more, later, same⟩ := except_bind_eq_ok.1 h
      obtain ⟨allowed, rfl⟩ := foldItems_memberItem_eq_ok.1 here
      obtain ⟨others, rfl⟩ := ih.1 later
      cases same
      exact ⟨⟨allowed, others⟩, rfl⟩
    · rintro ⟨⟨allowed, others⟩, rfl⟩
      refine ⟨_, foldItems_memberItem_eq_ok.2 ⟨allowed, rfl⟩, ?_⟩
      exact except_bind_eq_ok.2 ⟨_, ih.2 ⟨others, rfl⟩, rfl⟩

section Declarations

variable {d : TypeDeclaration} {members : List Member} {x : Expansion}

/-- What a well annotated declaration comes to. -/
def TypeDeclaration.expansion (d : TypeDeclaration) (members : List Member) : Expansion where
  self := appliedName d.name d.parameters
  typeName := d.name
  table? := lastText? "table" d.attributes
  fields := unskipped members
  readers := (unskipped members).map fun f => ⟨f.name, f.name⟩
  writers := (unskipped members).map fun f => ⟨f.name, f.name⟩

/-- A declaration with named members makes an entity type if it is well annotated, and it is this
one. -/
theorem TypeDeclaration.expand_eq_ok (named : d.shape = .named members) :
    d.expand = .ok x ↔ d.WellAnnotated members ∧ x = d.expansion members := by
  unfold expand
  rw [named]
  dsimp only
  rw [except_bind_eq_ok]
  constructor
  · rintro ⟨table?, onType, h⟩
    obtain ⟨fields, onMembers, same⟩ := except_bind_eq_ok.1 h
    obtain ⟨type, rfl⟩ := foldItems_tableItem_eq_ok.1 onType
    obtain ⟨allowed, rfl⟩ := mappedMembers_eq_ok.1 onMembers
    cases same
    exact ⟨⟨type, allowed⟩, rfl⟩
  · rintro ⟨⟨type, allowed⟩, rfl⟩
    refine ⟨_, foldItems_tableItem_eq_ok.2 ⟨type, rfl⟩, ?_⟩
    exact except_bind_eq_ok.2 ⟨_, mappedMembers_eq_ok.2 ⟨allowed, rfl⟩, rfl⟩

end Declarations

/-! ### Reading and writing by name -/

/-- How the content of a member is read as a value, and which content stands for a value. -/
structure Representation where
  Content : Type
  toValue : Content → Value
  ofValue : Value → Except Mismatch Content

/-- The representation of a member of a field type. -/
abbrev Representation.ofType (t : FieldType) : Representation :=
  ⟨t.Content, t.toValue, t.ofValue⟩

/-- An instance of a declared type: what each of its members holds, whether it is mapped or not. -/
abbrev Instance (types : String → Representation) : Type :=
  (member : String) → (types member).Content

/-- The member that a name leads to: that of the first access with this name. -/
def member? (accesses : List Access) (name : String) : Option String :=
  (accesses.find? (·.name == name)).map (·.member)

namespace Expansion

variable {types : String → Representation}

/-- Reads the member that a name leads to. -/
def getField (x : Expansion) (self : Instance types) (name : String) : Option Value :=
  (member? x.readers name).map fun m => (types m).toValue (self m)

/-- Writes to the member that a name leads to: whether this succeeds, and the instance afterwards. -/
def setField (x : Expansion) (self : Instance types) (name : String) (v : Value) :
    Except Error Unit × Instance types :=
  match member? x.writers name with
  | none => (.error (.unknownField name), self)
  | some m =>
    match (types m).ofValue v with
    | .error mismatch => (.error (.typeMismatch name mismatch), self)
    | .ok content => (.ok (), Function.update self m content)

/-- The names of the mapped members. -/
def names (x : Expansion) : List String :=
  x.fields.map (·.name)

/-- The names of mapped members, and no others, lead to a member, and that is the one of that
name. -/
structure Aligned (x : Expansion) : Prop where
  readers : ∀ name, member? x.readers name = if name ∈ x.names then some name else none
  writers : ∀ name, member? x.writers name = if name ∈ x.names then some name else none

/-- Instances are read and written by the names of the mapped members, and by no others. A write
changes the member of that name and leaves all others, and one that fails changes nothing. -/
structure AccessedByName (x : Expansion) : Prop where
  reads {types : String → Representation} (self : Instance types) (name : String) :
    x.getField self name =
      if name ∈ x.names then some ((types name).toValue (self name)) else none
  writes {types : String → Representation} (self : Instance types) (name : String) (v : Value)
    (content : (types name).Content) :
    name ∈ x.names → (types name).ofValue v = .ok content →
      x.setField self name v = (.ok (), Function.update self name content)
  refuses {types : String → Representation} (self : Instance types) (name : String) (v : Value)
    (mismatch : Mismatch) :
    name ∈ x.names → (types name).ofValue v = .error mismatch →
      x.setField self name v = (.error (.typeMismatch name mismatch), self)
  unknown {types : String → Representation} (self : Instance types) (name : String) (v : Value) :
    name ∉ x.names → x.setField self name v = (.error (.unknownField name), self)
  unchanged {types : String → Representation} (self : Instance types) (name : String) (v : Value)
    (err : Error) :
    (x.setField self name v).1 = .error err → (x.setField self name v).2 = self

theorem Aligned.accessedByName {x : Expansion} (h : x.Aligned) : x.AccessedByName where
  reads self name := by
    rw [getField, h.readers]
    split <;> rfl
  writes self name v content known taken := by
    rw [setField, h.writers, if_pos known]
    simp only [taken]
  refuses self name v mismatch known refused := by
    rw [setField, h.writers, if_pos known]
    simp only [refused]
  unknown self name v unknown := by
    rw [setField, h.writers, if_neg unknown]
  unchanged := by
    intro types self name v err failed
    unfold setField at failed ⊢
    cases led : member? x.writers name with
    | none => rfl
    | some m =>
      rw [led] at failed
      cases taken : (types m).ofValue v with
      | error mismatch => simp only [taken]
      | ok content =>
        simp only [taken] at failed
        cases failed

/-- An instance as a record: its mapped members at the given offsets, beside those that are not. -/
def record (x : Expansion) (types : String → FieldType) (offsets : String → Nat)
    (unmapped : List Opaque) (self : Instance fun m => .ofType (types m)) : Record where
  cells := x.names.map fun n => ⟨n, offsets n, types n, self n⟩
  unmapped := unmapped

end Expansion

/-- Among things that are made of names, looking for a name finds what is made of it. -/
theorem find?_named {β : Type} {make : String → β} {key : β → String} (h : ∀ n, key (make n) = n)
    (names : List String) (name : String) :
    (names.map make).find? (key · == name) = if name ∈ names then some (make name) else none := by
  induction names with
  | nil => rfl
  | cons n rest ih =>
    rw [List.map_cons]
    by_cases here : n = name
    · rw [List.find?_cons_of_pos (by simp [h, here]), here, if_pos List.mem_cons_self]
    · rw [List.find?_cons_of_neg (by simpa [h] using here), ih]
      exact if_congr (by simp [Ne.symm here]) rfl rfl

/-- Reading and writing go by the names of the mapped members. -/
theorem TypeDeclaration.aligned_expansion (d : TypeDeclaration) (members : List Member) :
    (d.expansion members).Aligned := by
  have leads (name : String) :
      member? ((unskipped members).map fun f => ⟨f.name, f.name⟩) name =
        if name ∈ (unskipped members).map (·.name) then some name else none := by
    have accesses : (unskipped members).map (fun f => (⟨f.name, f.name⟩ : Access)) =
        ((unskipped members).map (·.name)).map fun n => ⟨n, n⟩ := by
      rw [List.map_map]
      rfl
    rw [member?, accesses, find?_named fun _ => rfl]
    split <;> rfl
  exact ⟨leads, leads⟩

namespace Expansion

variable {x : Expansion} {types : String → FieldType} {offsets : String → Nat}
  {unmapped : List Opaque} {self : Instance fun m => .ofType (types m)} {name : String} {v : Value}

theorem find?_record :
    (x.record types offsets unmapped self).cells.find? (·.name == name) =
      if name ∈ x.names then some ⟨name, offsets name, types name, self name⟩ else none :=
  find?_named (fun _ => rfl) x.names name

/-- A record reads what the instance reads. -/
theorem Aligned.get?_record (h : x.Aligned) :
    (x.record types offsets unmapped self).get? name = x.getField self name := by
  rw [h.accessedByName.reads, Record.get?, find?_record]
  split <;> rfl

/-- Replacing the cell of a member gives the record of the instance in which that member is
replaced. -/
theorem replaceFirst_record (distinct : x.names.Nodup) (content : (types name).Content) :
    Record.replaceFirst (·.name == name) (fun c => ⟨c.name, c.offset, types name, content⟩)
        (x.record types offsets unmapped self).cells =
      (x.record types offsets unmapped (Function.update self name content)).cells := by
  have names : ((x.record types offsets unmapped self).cells.map (·.name)).Nodup := by
    unfold record
    rw [List.map_map]
    simpa [Function.comp_def] using distinct
  rw [Record.replaceFirst_name names]
  unfold record
  rw [List.map_map]
  refine List.map_congr_left fun n _ => ?_
  by_cases here : n = name
  · subst here
    simp
  · simp [here]

/-- A record takes what the instance takes, and is the record of the instance afterwards. -/
theorem Aligned.set_record (h : x.Aligned) (distinct : x.names.Nodup) :
    (x.record types offsets unmapped self).set name v =
      (x.setField self name v).1.map fun _ =>
        x.record types offsets unmapped (x.setField self name v).2 := by
  unfold Record.set
  rw [find?_record]
  by_cases known : name ∈ x.names
  · rw [if_pos known]
    cases taken : (types name).ofValue v with
    | error mismatch =>
      rw [h.accessedByName.refuses self name v mismatch known taken]
      simp only [taken]
      rfl
    | ok content =>
      rw [h.accessedByName.writes self name v content known taken]
      simp only [taken, replaceFirst_record distinct]
      rfl
  · rw [if_neg known, h.accessedByName.unknown self name v known]
    rfl

end Expansion

/-- The names of mapped members are told apart if those of all members are. -/
theorem nodup_unskipped {members : List Member} (distinct : (members.map (·.name)).Nodup) :
    ((unskipped members).map (·.name)).Nodup := by
  unfold unskipped
  rw [List.map_map]
  have fewer : ((members.filter (¬·.Skipped)).map (·.name)).Sublist (members.map (·.name)) :=
    List.filter_sublist.map _
  exact distinct.sublist fewer

/-- **Declared entity types.** A declaration of a struct with named members makes an entity type if
and only if every item of its attributes is one that its place allows. The type has the table that
is named last, and for fields the members that no item leaves out, in the order of declaration, each
with the column that is named last, if any. Instances are read and written by the names of these
fields and no others, and a write that fails changes nothing. The record of an instance is read and
written in the same way. -/
theorem unskipped_members_are_mapped {d : TypeDeclaration} {members : List Member}
    (named : d.shape = .named members) :
    ((∃ x, d.expand = .ok x) ↔ d.WellAnnotated members) ∧
      ∀ x, d.expand = .ok x →
        x.typeName = d.name ∧ x.table? = lastText? "table" d.attributes ∧
        x.fields = (members.filter fun m => .skip ∉ ormItems m.attributes).map (fun m =>
          ⟨m.name, lastText? "column" m.attributes, m.type⟩) ∧
        x.AccessedByName ∧
        ((members.map (·.name)).Nodup →
          ∀ (types : String → FieldType) (offsets : String → Nat) (unmapped : List Opaque)
            (self : Instance fun m => .ofType (types m)) (name : String) (v : Value),
            (x.record types offsets unmapped self).get? name = x.getField self name ∧
            (x.record types offsets unmapped self).set name v =
              (x.setField self name v).1.map fun _ =>
                x.record types offsets unmapped (x.setField self name v).2) := by
  constructor
  · constructor
    · rintro ⟨x, made⟩
      exact ((TypeDeclaration.expand_eq_ok named).1 made).1
    · intro annotated
      exact ⟨_, (TypeDeclaration.expand_eq_ok named).2 ⟨annotated, rfl⟩⟩
  · intro x made
    obtain ⟨-, rfl⟩ := (TypeDeclaration.expand_eq_ok named).1 made
    have aligned := d.aligned_expansion members
    refine ⟨rfl, rfl, rfl, aligned.accessedByName, ?_⟩
    intro distinct types offsets unmapped self name v
    exact ⟨aligned.get?_record, aligned.set_record (nodup_unskipped distinct)⟩

namespace Sample

/-- Members of which one names its column twice and one is left out. -/
def seating : List Member :=
  [⟨"row", "Number", []⟩,
    ⟨"seat", "Text", [.orm [.entry ["column"] (.string "place"), .entry ["column"] (.string "chair")]]⟩,
    ⟨"cached", "List<Text>", [.foreign, .orm [.skip, .entry ["column"] (.string "chair")]]⟩]

/-- A declaration that names its table in two attributes. -/
def booking : TypeDeclaration where
  name := "Booking"
  parameters := []
  attributes :=
    [.orm [.entry ["table"] (.string "seats")], .orm [.entry ["table"] (.string "bookings")]]
  shape := .named seating

/-- The row is a number, and what else there is a text. -/
def seatingTypes (member : String) : FieldType :=
  if member = "row" then ⟨.int64, false⟩ else ⟨.text, true⟩

end Sample

theorem sample_declaration :
    Sample.booking.shape = .named Sample.seating ∧ (Sample.seating.map (·.name)).Nodup ∧
      ∃ x, Sample.booking.expand = .ok x ∧ x.table? = some "bookings" ∧
        x.fields = [⟨"row", none, "Number"⟩, ⟨"seat", some "chair", "Text"⟩] ∧
        ∀ self : Instance fun m => .ofType (Sample.seatingTypes m),
          x.setField self "cached" .null = (.error (.unknownField "cached"), self) ∧
          (x.setField self "row" .null).2 = self ∧
          x.getField (x.setField self "row" (.int32 7)).2 "row" = some (.int64 7) ∧
          (x.record Sample.seatingTypes (if · = "row" then 0 else 8) [] self).get? "seat" =
            x.getField self "seat" := by
  have named : Sample.booking.shape = .named Sample.seating := rfl
  have distinct : (Sample.seating.map (·.name)).Nodup := by decide
  obtain ⟨-, maps⟩ := unskipped_members_are_mapped named
  have made : Sample.booking.expand = .ok (Sample.booking.expansion Sample.seating) := rfl
  obtain ⟨-, table, fields, accessed, records⟩ := maps _ made
  refine ⟨named, distinct, _, made, table, fields, fun self => ⟨?_, ?_, ?_, ?_⟩⟩
  · exact accessed.unknown self "cached" .null (by decide)
  · exact accessed.unchanged self "row" .null _ rfl
  · rw [accessed.writes self "row" (.int32 7) (7 : Int64) (by decide) rfl, accessed.reads,
      if_pos (by decide)]
    rfl
  · exact (records distinct _ _ _ self "seat" .null).1

end EntitySql.Declaration
