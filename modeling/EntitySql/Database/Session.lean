import EntitySql.Database.Execution

/-!
# Sessions

A session is a handle in use, with the store that it works on. Its registry may be replaced by an
empty one, and its handle by another one over the same registry. A session remembers the models
that it handed out, so that it can be told whether a type still goes by the very same model.
-/

namespace EntitySql

/-- A model that was handed out. -/
structure Handed where
  entity : EntityType
  /-- The number of the registry that the model is from. -/
  registry : Nat
  model : TableModel
  deriving DecidableEq, Repr

structure Session where
  db : Database
  store : Store
  /-- How often the registry was replaced. -/
  registry : Nat
  /-- The models handed out, the latest one first. -/
  handed : List Handed

namespace Session

/-- A session with a handle of the given configuration. -/
def start (config : Config) : Except Error Session × Store :=
  let (result, store) := (Database.make config).exec .empty
  (result.map fun db => ⟨db, store, 0, []⟩, store)

/-- Does something with the handle. -/
def act {α : Type} (s : Session) (action : Database → Action α) : Except Error α × Session :=
  let (result, store) := (action s.db).exec s.store
  (result, { s with store })

/-- Hands out the model that an action comes to. With it goes whether it is the model that was
handed out last for the type, where there is one. -/
def hand (s : Session) (e : EntityType) (action : Action TableModel) :
    Except Error (TableModel × Option Bool) × Session :=
  match s.act fun _ => action with
  | (.error err, s) => (.error err, s)
  | (.ok model, s) =>
    let handed : Handed := ⟨e, s.registry, model⟩
    let same? := (s.handed.find? (·.entity == e)).map (· == handed)
    (.ok (model, same?), { s with handed := handed :: s.handed })

/-- Fetches the model of `e`. -/
def get (s : Session) (e : EntityType) : Except Error (TableModel × Option Bool) × Session :=
  s.hand e (fetchModel e)

/-- Registers `e` under the given options. -/
def register (s : Session) (e : EntityType) (options : List ModelOption) :
    Except Error (TableModel × Option Bool) × Session :=
  s.hand e (registerModel e options)

/-- Replaces the registry by an empty one. -/
def renew (s : Session) : Session :=
  { s with store := { s.store with registry := .empty }, registry := s.registry + 1 }

/-- Replaces the handle by one of the given configuration. On an error the old one stays. -/
def reopen (s : Session) (config : Config) : Except Error Database × Session :=
  match s.act fun _ => Database.make config with
  | (.error err, s) => (.error err, s)
  | (.ok db, s) => (.ok db, { s with db })

/-- Changes the dialect of the handle. -/
def useDialect (s : Session) (dialect : Dialect) : Session :=
  { s with db := { s.db with dialect } }

end Session

end EntitySql
