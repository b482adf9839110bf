import EntitySql.Model.Derivation

/-!
# The registry of table models

A registry keeps the model of every entity type that was asked for or registered. A model once
kept is never replaced, and a call that fails keeps nothing.
-/

namespace EntitySql

/-- The models kept so far, the latest one last. -/
structure Registry where
  models : List (EntityType × TableModel)
  deriving DecidableEq, Repr

/-- What a registry tells of a model that it keeps for the first time. -/
inductive RegistryEvent
  /-- A model derived on first use. -/
  | derived (model : TableModel)
  /-- A model registered with so many options. -/
  | registered (model : TableModel) (options : Nat)
  deriving DecidableEq, Repr

/-- What a call that may use a registry comes to: its result, the registry afterwards, and what the
registry told in between. -/
structure Outcome (α : Type) where
  result : Except Error α
  registry : Registry
  events : List RegistryEvent

namespace Registry

/-- A registry that keeps nothing. -/
def empty : Registry := ⟨[]⟩

/-- The model kept for `e`. -/
def find? (r : Registry) (e : EntityType) : Option TableModel :=
  (r.models.find? (·.1 == e)).map (·.2)

/-- Whether a model is kept for `e`. -/
def contains (r : Registry) (e : EntityType) : Bool :=
  (r.find? e).isSome

/-- How many models are kept. -/
def size (r : Registry) : Nat :=
  r.models.length

/-- Keeps one more model. -/
def insert (r : Registry) (e : EntityType) (model : TableModel) : Registry :=
  ⟨r.models ++ [(e, model)]⟩

/-- The model that `e` goes by: the one kept, else the one derived without options. -/
def effective (r : Registry) (e : EntityType) : Except Error TableModel :=
  match r.find? e with
  | some model => .ok model
  | none => e.deriveModel []

/-- Fetches the model of `e`, which is derived and kept on first use. -/
def get (r : Registry) (e : EntityType) : Outcome TableModel :=
  match r.find? e with
  | some model => ⟨.ok model, r, []⟩
  | none =>
    match e.deriveModel [] with
    | .error err => ⟨.error err, r, []⟩
    | .ok model => ⟨.ok model, r.insert e model, [.derived model]⟩

/-- Keeps the model of `e` under the given options. It fails where the model cannot be derived,
and else where one is kept already. -/
def register (r : Registry) (e : EntityType) (options : List ModelOption) : Outcome TableModel :=
  match e.deriveModel options with
  | .error err => ⟨.error err, r, []⟩
  | .ok model =>
    if r.contains e then ⟨.error (.invalidModel e.typeName .alreadyRegistered), r, []⟩
    else ⟨.ok model, r.insert e model, [.registered model options.length]⟩

/-- What a fetch results in does not depend on whether the model was kept already. -/
theorem get_result (r : Registry) (e : EntityType) : (r.get e).result = r.effective e := by
  unfold get effective
  cases r.find? e with
  | some model => rfl
  | none => cases e.deriveModel [] <;> rfl

theorem find?_insert (r : Registry) (e e' : EntityType) (model : TableModel) :
    (r.insert e model).find? e' = (r.find? e').or (if e = e' then some model else none) := by
  simp only [find?, insert, List.find?_append]
  cases r.models.find? (·.1 == e') with
  | some kept => rfl
  | none => by_cases h : e = e' <;> simp [h]

/-- Fetching a model changes no model that a type goes by. -/
theorem effective_get (r : Registry) (e e' : EntityType) :
    (r.get e).registry.effective e' = r.effective e' := by
  unfold get
  cases h : r.find? e with
  | some model => rfl
  | none =>
    cases hd : e.deriveModel [] with
    | error err => rfl
    | ok model =>
      simp only [effective, find?_insert]
      by_cases he : e = e'
      · subst he; simp [h, hd]
      · cases r.find? e' <;> simp [he]

end Registry

end EntitySql
