import EntitySql.Proofs.Mentions
import EntitySql.Proofs.Writing

/-!
# Statements that share a registry

Building a statement asks the registry for models, and the registry comes to keep them, even if the
build fails later on. That makes no difference to other statements: a model that is derived on first
use is the one that its type went by before (`Registry.effective_get`). So a statement comes to the
same whatever was fetched and built in the meantime (`builds_do_not_interfere`). Only a registration
could change what a type goes by.
-/

namespace EntitySql

/-- A statement and the handle that builds it. -/
inductive Build
  | select (db : Database) (s : Select)
  | update (db : Database) (u : Update)

namespace Build

def action : Build → Action Query
  | select db s => db.buildSelect s
  | update db u => db.buildUpdate u

/-- What the statement comes to, and the store after it. -/
def exec (b : Build) (store : Store) : Except Error Query × Store :=
  b.action.exec store

/-- The entity types that the statement mentions. -/
def mentions : Build → List EntityType
  | select _ s => s.mentions
  | update _ u => u.mentions

end Build

/-- What can be done with a registry other than registering types. -/
inductive Use
  | fetch (e : EntityType)
  | build (b : Build)

namespace Use

/-- The store after a use, whether or not that succeeds. -/
def perform (store : Store) : Use → Store
  | fetch e => ((fetchModel e).exec store).2
  | build b => (b.exec store).2

/-- The store after several uses. -/
def performAll (store : Store) (uses : List Use) : Store :=
  uses.foldl perform store

end Use

/-- The answers to statements that are built one after the other. -/
def answersInTurn (store : Store) : List Build → List (Except Error Query)
  | [] => []
  | b :: rest => (b.exec store).1 :: answersInTurn (b.exec store).2 rest

/-! ### What a build leaves behind -/

/-- An action that puts an inquiry to the registry leaves it as the inquiry does. -/
theorem Action.inquire_registry {α β : Type} (q : Inquiry α) (f : α → β) (store : Store) :
    ((do pure (f (← Action.inquire q)) : Action β).exec store).2.registry =
      (q.run store.registry).registry := by
  have step : ∀ (result : Except Error α) (after : Store),
      (ExceptT.bindCont (fun a => (pure (f a) : Action β)) result after).2 = after := by
    intro result after
    cases result <;> rfl
  exact congrArg Store.registry (step _ _)

namespace Build

/-- What a statement comes to depends on the models that types go by. -/
theorem exec_congr (b : Build) {store store' : Store}
    (h : store.registry.effective = store'.registry.effective) :
    (b.exec store).1 = (b.exec store').1 := by
  cases b with
  | select db s =>
    show ((db.buildSelect s).exec store).1 = ((db.buildSelect s).exec store').1
    rw [Database.buildSelect_result, Database.buildSelect_result, h]
  | update db u =>
    show ((db.buildUpdate u).exec store).1 = ((db.buildUpdate u).exec store').1
    rw [Database.buildUpdate_result, Database.buildUpdate_result, h]

/-- A build changes no model that a type goes by. -/
theorem effective_exec (b : Build) (store : Store) :
    (b.exec store).2.registry.effective = store.registry.effective := by
  funext e
  cases b with
  | select db s =>
    show ((db.buildSelect s).exec store).2.registry.effective e = _
    rw [Database.buildSelect, Action.inquire_registry]
    exact Inquiry.effective_run _ _ e
  | update db u =>
    show ((db.buildUpdate u).exec store).2.registry.effective e = _
    rw [Database.buildUpdate, Action.inquire_registry]
    exact Inquiry.effective_run _ _ e

/-- A build adds nothing but models of mentioned types, as they are derived without options. -/
theorem grows (b : Build) (store : Store) :
    store.registry.Grows (fun e m => e ∈ b.mentions ∧ e.deriveModel [] = .ok m)
      (b.exec store).2.registry := by
  cases b with
  | select db s =>
    show Registry.Grows _ _ ((db.buildSelect s).exec store).2.registry
    rw [Database.buildSelect, Action.inquire_registry]
    exact (s.confined_resolve fun _ he => he).grows _
  | update db u =>
    show Registry.Grows _ _ ((db.buildUpdate u).exec store).2.registry
    rw [Database.buildUpdate, Action.inquire_registry]
    exact (u.confined_resolve db.config.accessor fun _ he => he).grows _

end Build

theorem Use.effective_perform (store : Store) (use : Use) :
    (use.perform store).registry.effective = store.registry.effective := by
  cases use with
  | fetch e => exact funext (store.registry.effective_get e)
  | build b => exact b.effective_exec store

theorem Use.effective_performAll (store : Store) (uses : List Use) :
    (performAll store uses).registry.effective = store.registry.effective := by
  induction uses generalizing store with
  | nil => rfl
  | cons use rest ih => exact (ih (use.perform store)).trans (use.effective_perform store)

theorem answersInTurn_eq (store : Store) (builds : List Build) :
    answersInTurn store builds = builds.map fun b => (b.exec store).1 := by
  induction builds generalizing store with
  | nil => rfl
  | cons b rest ih =>
    rw [answersInTurn, ih, List.map_cons]
    exact congrArg _ (List.map_congr_left fun b' _ => b'.exec_congr (b.effective_exec store))

/-- **Builds do not interfere**: a statement comes to the same before and after any fetches and
builds, and so in any order of the same builds. What a build leaves behind, even if it fails, are
models of types that it mentions. -/
theorem builds_do_not_interfere (store : Store) :
    (∀ (b : Build) (uses : List Use),
      (b.exec (Use.performAll store uses)).1 = (b.exec store).1) ∧
      (∀ builds : List Build,
        answersInTurn store builds = builds.map fun b => (b.exec store).1) ∧
      ∀ b : Build, store.registry.Grows
        (fun e m => e ∈ b.mentions ∧ e.deriveModel [] = .ok m) (b.exec store).2.registry :=
  ⟨fun b uses => b.exec_congr (Use.effective_performAll store uses), answersInTurn_eq store,
    fun b => b.grows store⟩

end EntitySql
