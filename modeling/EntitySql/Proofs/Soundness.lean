import EntitySql.Proofs.Independence
import EntitySql.Proofs.Interleaving

/-!
# Sound registries

A registry is sound if each model that it keeps is one of the type it is kept for. The empty
registry is sound, and whatever is done with a registry only adds models that are derived for their
types (`Registry.Grows.sound`). So a registry is sound at any time, be it called by one thread or
several, and be it used by builds or not. In a sound registry the model that a type goes by says
what the type itself says (`Registry.Sound.derivedFrom`).
-/

namespace EntitySql

namespace Registry

/-- Every model that is kept was derived for its type, under whatever options. -/
def Sound (r : Registry) : Prop :=
  ∀ e m, r.find? e = some m → ∃ options, e.deriveModel options = .ok m

variable {r r' : Registry}

theorem sound_empty : empty.Sound := by
  intro e m h
  cases h

/-- A model that is found later was found before, or is one of those that were added. -/
theorem Grows.find?_cases {P : EntityType → TableModel → Prop} (h : r.Grows P r') {e : EntityType}
    {m : TableModel} (hm : r'.find? e = some m) : r.find? e = some m ∨ P e m := by
  obtain ⟨added, models, -, fresh⟩ := h
  rw [find?, models, List.find?_append, Option.map_eq_some_iff] at hm
  obtain ⟨⟨e', m'⟩, hx, rfl⟩ := hm
  cases hf : r.models.find? (·.1 == e) with
  | some kept =>
    rw [hf] at hx
    cases hx
    exact .inl (by rw [find?, hf]; rfl)
  | none =>
    rw [hf] at hx
    have named : e' = e := by simpa using List.find?_some hx
    exact .inr (named ▸ (fresh e' m' (List.mem_of_find?_eq_some hx)).2)

/-- A sound registry stays sound when models are added that were derived for their types. -/
theorem Grows.sound (h : r.Grows (fun e m => ∃ options, e.deriveModel options = .ok m) r')
    (hr : r.Sound) : r'.Sound :=
  fun e m hm => (h.find?_cases hm).elim (hr e m) id

/-- The model that a type goes by is one of that type. -/
theorem Sound.derivedFrom (hr : r.Sound) {e : EntityType} {m : TableModel}
    (h : r.effective e = .ok m) : m.DerivedFrom e := by
  unfold effective at h
  cases hf : r.find? e with
  | some kept =>
    rw [hf] at h
    cases h
    obtain ⟨options, derived⟩ := hr e m hf
    exact EntityType.derivedFrom derived
  | none =>
    rw [hf] at h
    exact EntityType.derivedFrom h

end Registry

/-! ### What is done with a registry -/

/-- The model of a call is derived for its type. -/
theorem Call.exists_options {c : Call} {m : TableModel} (h : c.derive = .ok m) :
    ∃ options, c.entity.deriveModel options = .ok m := by
  cases c with
  | get e => exact ⟨[], h⟩
  | register e options => exact ⟨options, h⟩

/-- Whatever an inquiry asks for, the models that it adds are derived without options. -/
theorem Inquiry.grows_run {α : Type} (q : Inquiry α) (r : Registry) :
    r.Grows (fun e m => e.deriveModel [] = .ok m) (q.run r).registry :=
  (q.confined_true.grows r).mono fun _ _ added => added.2

namespace Registry.Sound

variable {r : Registry} (hr : r.Sound)
include hr

theorem call (c : Call) : (c.run r).registry.Sound :=
  ((c.grows_run r).mono fun _ _ ⟨he, derived⟩ => he ▸ Call.exists_options derived).sound hr

/-- Calls may come in between the steps of other calls. -/
theorem interleaved (calls : List Call) (schedule : List Nat) :
    ((System.start r calls).run schedule).registry.Sound := by
  have grows := System.grows_run (System.serves_start r calls) schedule
  refine (grows.mono ?_).sound hr
  rintro e m ⟨c, -, rfl, derived⟩
  exact Call.exists_options derived

theorem inquire {α : Type} (q : Inquiry α) : (q.run r).registry.Sound :=
  ((q.grows_run r).mono fun _ _ derived => ⟨[], derived⟩).sound hr

end Registry.Sound

/-- Fetches and builds leave a sound registry sound. -/
theorem Registry.Sound.performAll {store : Store} (hr : store.registry.Sound) (uses : List Use) :
    (Use.performAll store uses).registry.Sound := by
  induction uses generalizing store with
  | nil => exact hr
  | cons use rest ih =>
    refine ih ?_
    cases use with
    | fetch e => exact hr.call (.get e)
    | build b => exact ((b.grows store).mono fun _ _ ⟨_, derived⟩ => ⟨[], derived⟩).sound hr

end EntitySql
