import EntitySql.Registry.Basic
import Mathlib.Data.List.Nodup

/-!
# Growing registries

A registry only ever grows: behind the models that it keeps come those of types that had none. What
is said here of a registry before and after holds of single steps and, since growth composes
(`Registry.Grows.trans`), of whole runs.
-/

namespace EntitySql.Registry

/-- The registry `after` keeps what `before` keeps, and behind it one model for each of some types
that had none. What was added meets `P`. -/
def Grows (P : EntityType → TableModel → Prop) (before after : Registry) : Prop :=
  ∃ added, after.models = before.models ++ added ∧ (added.map (·.1)).Nodup ∧
    ∀ e m, (e, m) ∈ added → before.find? e = none ∧ P e m

/-- A type without a model is among none of the types that have one. -/
theorem notMem_of_find?_eq_none {r : Registry} {e : EntityType} (h : r.find? e = none) :
    e ∉ r.models.map (·.1) := by
  intro he
  obtain ⟨x, hx, rfl⟩ := List.mem_map.1 he
  rw [find?, Option.map_eq_none_iff, List.find?_eq_none] at h
  exact h x hx (beq_self_eq_true x.1)

namespace Grows

variable {P Q : EntityType → TableModel → Prop} {r r' r'' : Registry}

theorem refl (r : Registry) : Grows P r r :=
  ⟨[], (List.append_nil _).symm, List.nodup_nil, fun _ _ h => by cases h⟩

theorem insert {e : EntityType} {m : TableModel} (absent : r.find? e = none) (h : P e m) :
    Grows P r (r.insert e m) := by
  refine ⟨[(e, m)], rfl, List.nodup_singleton e, fun e' m' hm => ?_⟩
  cases List.mem_singleton.1 hm
  exact ⟨absent, h⟩

theorem mono (h : Grows P r r') (hPQ : ∀ e m, P e m → Q e m) : Grows Q r r' := by
  obtain ⟨added, models, nodup, fresh⟩ := h
  exact ⟨added, models, nodup, fun e m hm => ⟨(fresh e m hm).1, hPQ e m (fresh e m hm).2⟩⟩

/-- No model that is kept is replaced. -/
theorem find?_eq_some (h : Grows P r r') {e : EntityType} {m : TableModel}
    (hm : r.find? e = some m) : r'.find? e = some m := by
  obtain ⟨added, models, -, -⟩ := h
  obtain ⟨x, hx, rfl⟩ := Option.map_eq_some_iff.1 hm
  rw [find?, models, List.find?_append, hx]
  rfl

/-- A type that still has no model had none before. -/
theorem find?_eq_none (h : Grows P r r') {e : EntityType} (he : r'.find? e = none) :
    r.find? e = none := by
  cases hf : r.find? e with
  | none => rfl
  | some m =>
    rw [h.find?_eq_some hf] at he
    cases he

theorem trans (h : Grows P r r') (h' : Grows P r' r'') : Grows P r r'' := by
  have earlier := fun e => h.find?_eq_none (e := e)
  obtain ⟨added, models, nodup, fresh⟩ := h
  obtain ⟨more, models', nodup', fresh'⟩ := h'
  refine ⟨added ++ more, ?_, ?_, ?_⟩
  · rw [models', models, List.append_assoc]
  · rw [List.map_append, List.nodup_append]
    refine ⟨nodup, nodup', ?_⟩
    -- What came first is kept by then, so it is not added again.
    rintro e he _ he' rfl
    obtain ⟨⟨_, m⟩, hm, rfl⟩ := List.mem_map.1 he'
    have absent := notMem_of_find?_eq_none (fresh' _ m hm).1
    rw [models, List.map_append, List.mem_append, not_or] at absent
    exact absent.2 he
  · intro e m hm
    rcases List.mem_append.1 hm with hm | hm
    · exact fresh e m hm
    · exact ⟨earlier e (fresh' e m hm).1, (fresh' e m hm).2⟩

end Grows

end EntitySql.Registry
