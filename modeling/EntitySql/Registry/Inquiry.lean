import EntitySql.Registry.Basic

/-!
# Inquiries

Building a statement asks for the table models of the entity types that it mentions, one after the
other, and what it asks for may depend on what it learns. An `Inquiry` is such a computation: it
has ended, or it asks for one model and goes on with that. It can be put to any assignment of
models to types (`answer`) and to a registry (`run`), which keeps the models that it was asked for.
Both give the same result (`run_result`), since a model that is derived on first use is the one that
the type goes by anyway.
-/

namespace EntitySql

/-- A computation that asks for table models and ends with a result or an error. -/
inductive Inquiry (α : Type)
  | done (result : Except Error α)
  | ask (entity : EntityType) (next : TableModel → Inquiry α)

namespace Inquiry

/-- Goes on with the result of an inquiry; an error ends both. -/
def bind {α β : Type} (q : Inquiry α) (f : α → Inquiry β) : Inquiry β :=
  match q with
  | done (.ok a) => f a
  | done (.error err) => done (.error err)
  | ask e next => ask e fun model => (next model).bind f

instance : Monad Inquiry where
  pure a := done (.ok a)
  bind := bind

instance : LawfulMonad Inquiry :=
  LawfulMonad.mk' Inquiry
    (fun q => by
      show q.bind (fun a => done (.ok a)) = q
      induction q with
      | done result => cases result <;> rfl
      | ask e next ih => exact congrArg (ask e) (funext ih))
    (fun _ _ => rfl)
    (fun q f g => by
      show (q.bind f).bind g = q.bind fun a => (f a).bind g
      induction q with
      | done result => cases result <;> rfl
      | ask e next ih => exact congrArg (ask e) (funext ih))

variable {α β : Type}

/-- Ends with an error. -/
def fail (err : Error) : Inquiry α :=
  done (.error err)

/-- Asks for the model of `e`. -/
def model (e : EntityType) : Inquiry TableModel :=
  ask e fun model => done (.ok model)

/-- The content of an option, or the error `err` in its absence. -/
def require (value : Option α) (err : Error) : Inquiry α :=
  match value with
  | some a => pure a
  | none => fail err

/-- The result of an inquiry under a given assignment of models to types. A type without a model
ends it. -/
def answer (models : EntityType → Except Error TableModel) : Inquiry α → Except Error α
  | done result => result
  | ask e next =>
    match models e with
    | .ok model => (next model).answer models
    | .error err => .error (.modelNotFound e.shortName err)

/-- Puts an inquiry to a registry. -/
def run (q : Inquiry α) (r : Registry) : Outcome α :=
  match q with
  | done result => ⟨result, r, []⟩
  | ask e next =>
    match r.get e with
    | ⟨.ok model, r', events⟩ =>
      let rest := (next model).run r'
      { rest with events := events ++ rest.events }
    | ⟨.error err, r', events⟩ => ⟨.error (.modelNotFound e.shortName err), r', events⟩

theorem answer_bind (models : EntityType → Except Error TableModel) (q : Inquiry α)
    (f : α → Inquiry β) :
    (q >>= f).answer models = q.answer models >>= fun a => (f a).answer models := by
  induction q with
  | done result => cases result <;> rfl
  | ask e next ih =>
    have step : ask e next >>= f = ask e fun model => next model >>= f := rfl
    simp only [step, answer]
    cases models e with
    | error err => rfl
    | ok model => exact ih model

/-- A registry answers as if it had kept the model of every type beforehand. -/
theorem run_result (q : Inquiry α) (r : Registry) :
    (q.run r).result = q.answer r.effective := by
  induction q generalizing r with
  | done result => rfl
  | ask e next ih =>
    have hr := r.get_result e
    have hk : (r.get e).registry.effective = r.effective := funext (r.effective_get e)
    simp only [run, answer, ← hr]
    rcases h : r.get e with ⟨result, r', events⟩
    rw [h] at hk
    cases result with
    | error err => rfl
    | ok model => simp only [ih]; rw [hk]

/-- An inquiry changes no model that a type goes by. -/
theorem effective_run (q : Inquiry α) (r : Registry) (e : EntityType) :
    (q.run r).registry.effective e = r.effective e := by
  induction q generalizing r with
  | done result => rfl
  | ask e' next ih =>
    have hk := r.effective_get e' e
    simp only [run]
    rcases h : r.get e' with ⟨result, r', events⟩
    rw [h] at hk
    cases result with
    | error err => exact hk
    | ok model => exact (ih model r').trans hk

end Inquiry

end EntitySql
