import EntitySql.Proofs.Derivation
import EntitySql.Record.Basic

/-!
# Instances of an entity type

A record is an instance of an entity type when its members are those of the type, whatever they
hold. Storing a value in a member changes what that member holds and nothing else
(`Record.get?_of_set`, `Record.places_of_set`), and what the members hold makes up the record
(`Record.cells_eq_of_get?`).
-/

namespace EntitySql

/-- Content that reads as the same value is the same. -/
theorem FieldType.toValue_injective (t : FieldType) : Function.Injective t.toValue := by
  intro x y h
  have same : t.ofValue? (t.toValue x) = t.ofValue? (t.toValue y) := congrArg t.ofValue? h
  rw [t.ofValue?_toValue, t.ofValue?_toValue] at same
  exact Option.some.inj same

theorem FieldType.ofValue_eq_ok {t : FieldType} {v : Value} {content : t.Content} :
    t.ofValue v = .ok content ↔ t.ofValue? v = some content := by
  unfold ofValue
  cases t.ofValue? v <;> simp

def Cell.place (c : Cell) : Place :=
  ⟨c.name, c.offset, c.type⟩

namespace Record

/-- Where the mapped members lie. -/
def places (r : Record) : List Place :=
  r.cells.map Cell.place

/-- A record has the members of `e`. -/
structure IsOf (r : Record) (e : EntityType) : Prop where
  places : r.places = e.fields.map Field.place
  unmapped : r.unmapped.map (fun u => (u.name, u.offset, u.bytes.length)) =
    e.unmapped.map fun u => (u.name, u.offset, u.size)

theorem isOf_zero (e : EntityType) : e.zero.IsOf e where
  places := by
    rw [Record.places, EntityType.zero, List.map_map]
    rfl
  unmapped := by
    rw [EntityType.zero, List.map_map]
    refine List.map_congr_left fun u _ => ?_
    simp

/-! ### Replacing one cell -/

section Replacing

variable {p q : Cell → Bool} {f g : Cell → Cell} {cells : List Cell}

theorem map_replaceFirst {β : Type} (view : Cell → β)
    (h : ∀ c, cells.find? p = some c → view (f c) = view c) :
    (replaceFirst p f cells).map view = cells.map view := by
  induction cells with
  | nil => rfl
  | cons c rest ih =>
    rw [replaceFirst]
    by_cases hp : p c = true
    · rw [if_pos hp, List.map_cons, h c (List.find?_cons_of_pos hp), List.map_cons]
    · rw [if_neg hp, List.map_cons, List.map_cons, ih]
      intro c' hc'
      exact h c' (by rw [List.find?_cons_of_neg hp, hc'])

/-- Only what is found first matters. -/
theorem replaceFirst_congr (hp : ∀ c ∈ cells, p c = q c)
    (h : ∀ c, cells.find? p = some c → f c = g c) :
    replaceFirst p f cells = replaceFirst q g cells := by
  induction cells with
  | nil => rfl
  | cons c rest ih =>
    rw [replaceFirst, replaceFirst, ← hp c List.mem_cons_self]
    by_cases hc : p c = true
    · rw [if_pos hc, if_pos hc, h c (List.find?_cons_of_pos hc)]
    · rw [if_neg hc, if_neg hc, ih (fun c' hc' => hp c' (List.mem_cons_of_mem _ hc'))]
      intro c' hc'
      exact h c' (by rw [List.find?_cons_of_neg hc, hc'])

/-- Where names tell the cells apart, the first cell of a name is the only one. -/
theorem replaceFirst_name {name : String} (hn : (cells.map (·.name)).Nodup) :
    replaceFirst (·.name == name) f cells = cells.map fun c => if c.name = name then f c else c := by
  induction cells with
  | nil => rfl
  | cons c rest ih =>
    rw [List.map_cons, List.nodup_cons] at hn
    rw [replaceFirst, List.map_cons]
    by_cases hc : c.name = name
    · have others : rest.map (fun c => if c.name = name then f c else c) = rest := by
        refine (List.map_congr_left fun d hd => ?_).trans (List.map_id rest)
        have other : d.name ≠ name := by
          intro hd'
          exact hn.1 (List.mem_map.2 ⟨d, hd, hd'.trans hc.symm⟩)
        exact if_neg other
      rw [others]
      simp [hc]
    · rw [ih hn.2]
      simp [hc]

/-- Replacing the cell of one name leaves the cells of other names to be found. -/
theorem find?_replaceFirst {name : String} (hf : ∀ c, (f c).name = c.name) (n : String) :
    (replaceFirst (·.name == name) f cells).find? (·.name == n) =
      if n = name then (cells.find? (·.name == name)).map f else cells.find? (·.name == n) := by
  induction cells with
  | nil => simp [replaceFirst]
  | cons c rest ih =>
    rw [replaceFirst]
    by_cases hc : c.name = name
    · by_cases hn : n = name
      · simp [hc, hn, hf]
      · have other : ¬c.name = n := fun h => hn (h.symm.trans hc)
        simp [hc, hn, hf, Ne.symm hn]
    · by_cases hn : c.name = n
      · have other : ¬n = name := fun h => hc (hn.trans h)
        simp [hn, other]
      · simp [hc, hn, ih]

end Replacing

/-! ### Storing by name -/

variable {r r' : Record} {name : String} {v : Value}

/-- Storing a value succeeds if there is such a member and it takes the value. -/
theorem set_eq_ok (h : r.set name v = .ok r') :
    ∃ c content, r.cells.find? (·.name == name) = some c ∧ c.type.ofValue? v = some content ∧
      r' = ⟨replaceFirst (·.name == name) (fun c' => ⟨c'.name, c'.offset, c.type, content⟩) r.cells,
        r.unmapped⟩ := by
  unfold set at h
  split at h
  · cases h
  · rename_i c hc
    split at h
    · cases h
    · rename_i content ho
      cases h
      exact ⟨c, content, hc, FieldType.ofValue_eq_ok.1 ho, rfl⟩

theorem places_of_set (h : r.set name v = .ok r') : r'.places = r.places := by
  obtain ⟨c, content, hc, -, rfl⟩ := set_eq_ok h
  refine map_replaceFirst Cell.place fun c' hc' => ?_
  rw [hc] at hc'
  cases hc'
  rfl

theorem unmapped_of_set (h : r.set name v = .ok r') : r'.unmapped = r.unmapped := by
  obtain ⟨c, content, -, -, rfl⟩ := set_eq_ok h
  rfl

/-- An instance of an entity type stays one. -/
theorem IsOf.set {e : EntityType} (hr : r.IsOf e) (h : r.set name v = .ok r') : r'.IsOf e where
  places := (places_of_set h).trans hr.places
  unmapped := by
    rw [unmapped_of_set h]
    exact hr.unmapped

/-- After a value was stored in a member, that member holds it and the others hold what they held
before. -/
theorem get?_of_set (h : r.set name v = .ok r') :
    ∃ c content, r.cells.find? (·.name == name) = some c ∧ c.type.ofValue? v = some content ∧
      ∀ n, r'.get? n = if n = name then some (c.type.toValue content) else r.get? n := by
  obtain ⟨c, content, hc, ho, rfl⟩ := set_eq_ok h
  refine ⟨c, content, hc, ho, fun n => ?_⟩
  unfold get?
  dsimp only
  rw [find?_replaceFirst (f := fun c' => ⟨c'.name, c'.offset, c.type, content⟩) fun _ => rfl]
  by_cases hn : n = name
  · rw [if_pos hn, if_pos hn, hc]
    rfl
  · rw [if_neg hn, if_neg hn]

theorem names_places (cells : List Cell) :
    (cells.map Cell.place).map (·.name) = cells.map (·.name) := by
  rw [List.map_map]
  rfl

theorem find?_name_eq_none {cells : List Cell} {n : String} (h : n ∉ cells.map (·.name)) :
    cells.find? (·.name == n) = none := by
  rw [List.find?_eq_none]
  intro c hc named
  refine h (List.mem_map.2 ⟨c, hc, ?_⟩)
  simpa using named

/-- Cells at the same place that read as the same value are the same. -/
theorem cell_eq {c c' : Cell} (hp : c.place = c'.place) (hv : c.value = c'.value) : c = c' := by
  obtain ⟨name, offset, type, content⟩ := c
  obtain ⟨name', offset', type', content'⟩ := c'
  cases hp
  have same : content = content' := type.toValue_injective hv
  rw [same]

/-- What the members hold makes up the record. -/
theorem cells_eq_of_get? (hp : r.places = r'.places) (hn : (r.places.map (·.name)).Nodup)
    (h : ∀ n, r.get? n = r'.get? n) : r.cells = r'.cells := by
  obtain ⟨cells, unmapped⟩ := r
  obtain ⟨cells', unmapped'⟩ := r'
  simp only [places, get?, names_places] at hp hn h ⊢
  induction cells generalizing cells' with
  | nil => exact (List.map_eq_nil_iff.1 hp.symm).symm
  | cons c rest ih =>
    cases cells' with
    | nil => cases hp
    | cons c' rest' =>
      rw [List.map_cons, List.map_cons, List.cons.injEq] at hp
      obtain ⟨place, places⟩ := hp
      rw [List.map_cons, List.nodup_cons] at hn
      obtain ⟨fresh, distinct⟩ := hn
      have name : c.name = c'.name := congrArg Place.name place
      have names : rest.map (·.name) = rest'.map (·.name) := by
        rw [← names_places, places, names_places]
      -- The first members go by one name, and no other member goes by it.
      have first : c = c' := by
        have value := h c.name
        rw [List.find?_cons_of_pos (by simp), List.find?_cons_of_pos (by simp [name])] at value
        exact cell_eq place (Option.some.inj value)
      have others : ∀ n, (rest.find? (·.name == n)).map (·.value) =
          (rest'.find? (·.name == n)).map (·.value) := by
        intro n
        by_cases hc : c.name = n
        · rw [find?_name_eq_none (hc ▸ fresh), find?_name_eq_none (hc ▸ names ▸ fresh)]
        · have value := h n
          rw [List.find?_cons_of_neg (by simpa using hc),
            List.find?_cons_of_neg (by simpa [← name] using hc)] at value
          exact value
      rw [first, ih rest' places others distinct]

end Record

end EntitySql
