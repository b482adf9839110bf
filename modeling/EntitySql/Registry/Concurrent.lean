import EntitySql.Registry.Basic

/-!
# Concurrent calls to a registry

Several threads may call one registry at once. The registry is locked while it is looked into and
while a model is inserted, but not while a model is derived, so other calls may come in between. A
fetch therefore looks for the model again before it inserts its own. A `System` is a registry and
the calls under way; each step of it is one step of one call.
-/

namespace EntitySql

/-- A call to a registry. -/
inductive Call
  | get (e : EntityType)
  | register (e : EntityType) (options : List ModelOption)
  deriving DecidableEq, Repr

/-- The entity type that a call is about. -/
def Call.entity : Call → EntityType
  | get e | register e _ => e

/-- The outcome of a call that nothing comes in between. -/
def Call.run (r : Registry) : Call → Outcome TableModel
  | get e => r.get e
  | register e options => r.register e options

/-- How far a call has come. -/
inductive Progress
  | called (call : Call)
  /-- The registry had no model, and one is to be derived. -/
  | missed (e : EntityType)
  /-- A model was derived and is to be inserted. -/
  | derived (call : Call) (model : TableModel)
  | returned (result : Except Error TableModel)

namespace Progress

/-- Goes one step on with a call: the registry afterwards, what it tells, and how far the call has
come. -/
def step (r : Registry) : Progress → Registry × List RegistryEvent × Progress
  | called (.get e) =>
    match r.find? e with
    | some model => (r, [], returned (.ok model))
    | none => (r, [], missed e)
  | missed e =>
    match e.deriveModel [] with
    | .error err => (r, [], returned (.error err))
    | .ok model => (r, [], derived (.get e) model)
  | called (.register e options) =>
    match e.deriveModel options with
    | .error err => (r, [], returned (.error err))
    | .ok model => (r, [], derived (.register e options) model)
  | derived (.get e) model =>
    match r.find? e with
    | some earlier => (r, [], returned (.ok earlier))
    | none => (r.insert e model, [.derived model], returned (.ok model))
  | derived (.register e options) model =>
    if r.contains e then (r, [], returned (.error (.invalidModel e.typeName .alreadyRegistered)))
    else (r.insert e model, [.registered model options.length], returned (.ok model))
  | returned result => (r, [], returned result)

def result? : Progress → Option (Except Error TableModel)
  | returned result => some result
  | _ => none

end Progress

/-- A registry, what it has told, and the calls under way. -/
structure System where
  registry : Registry
  events : List RegistryEvent
  calls : List Progress

namespace System

/-- The calls before any of them has begun. -/
def start (r : Registry) (calls : List Call) : System :=
  ⟨r, [], calls.map .called⟩

/-- Goes one step on with the call number `i`. -/
def step (s : System) (i : Nat) : System :=
  match s.calls[i]? with
  | none => s
  | some progress =>
    let (registry, events, progress) := progress.step s.registry
    ⟨registry, s.events ++ events, s.calls.set i progress⟩

/-- Goes on with the calls in the order of their numbers in the schedule. -/
def run (s : System) (schedule : List Nat) : System :=
  schedule.foldl step s

/-- The calls side by side: all of them take their first step, then all take their second, and so
on until all have returned. -/
def sideBySide (s : System) : System :=
  let round := List.range s.calls.length
  s.run (round ++ round ++ round)

/-- The results of the calls that have returned. -/
def results (s : System) : List (Except Error TableModel) :=
  s.calls.filterMap Progress.result?

end System

end EntitySql
