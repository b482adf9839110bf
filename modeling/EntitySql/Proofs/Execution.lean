import EntitySql.Database.Execution
import EntitySql.Proofs.PartialUpdate
import EntitySql.Proofs.Soundness

/-!
# Execution

What is run is what was built. A statement that cannot be built is not sent, and nothing is logged
of it. One that is built is sent once, just after it was logged, and what the executor answers is
passed on (`statements_run_as_built`). Nothing can fail in between: the build has left the model of
the statement's entity type in the registry (`Database.find?_buildSelect`), and in a sound registry
there is an accessor over it to records of that type (`Database.mapping_exec`).
-/

namespace EntitySql

/-! ### Actions in turn -/

namespace Action

variable {α β : Type} {a : Action α} {f : α → Action β} {store after : Store}

theorem exec_bind_ok {x : α} (h : a.exec store = (.ok x, after)) :
    (a >>= f).exec store = (f x).exec after := by
  show ExceptT.bindCont f (a store).1 (a store).2 = _
  rw [show a store = (.ok x, after) from h]
  rfl

theorem exec_bind_error {err : Error} (h : a.exec store = (.error err, after)) :
    (a >>= f).exec store = (.error err, after) := by
  show ExceptT.bindCont f (a store).1 (a store).2 = _
  rw [show a store = (.error err, after) from h]
  rfl

/-- An action that puts an inquiry to the registry tells only what the registry tells. -/
theorem exec_inquire (q : Inquiry α) (f : α → β) (store : Store) :
    (do pure (f (← inquire q)) : Action β).exec store =
      ((q.run store.registry).result.map f, ⟨(q.run store.registry).registry,
        store.journal ++ (q.run store.registry).events.map .registry⟩) := by
  have asked : (inquire q).exec store = ((q.run store.registry).result,
      ⟨(q.run store.registry).registry,
        store.journal ++ (q.run store.registry).events.map .registry⟩) := rfl
  cases result : (q.run store.registry).result with
  | error err =>
    rw [result] at asked
    exact exec_bind_error asked
  | ok x =>
    rw [result] at asked
    exact exec_bind_ok asked

end Action

/-! ### What a build leaves behind -/

/-- A model that was fetched is kept. -/
theorem Registry.find?_get {r : Registry} {e : EntityType} {m : TableModel}
    (h : (r.get e).result = .ok m) : (r.get e).registry.find? e = some m := by
  unfold get at h ⊢
  cases hf : r.find? e with
  | some kept =>
    rw [hf] at h
    cases h
    exact hf
  | none =>
    rw [hf] at h
    cases derived : e.deriveModel [] with
    | error err =>
      rw [derived] at h
      cases h
    | ok model =>
      rw [derived] at h
      cases h
      rw [find?_insert, hf, if_pos rfl]
      rfl

/-- An inquiry that starts with a model, and succeeds, leaves that model in the registry. -/
theorem Inquiry.find?_run_model {α : Type} {e : EntityType} {next : TableModel → Inquiry α}
    {r : Registry} {a : α} (h : ((Inquiry.model e >>= next).run r).result = .ok a) :
    ∃ m, r.effective e = .ok m ∧
      ((Inquiry.model e >>= next).run r).registry.find? e = some m := by
  -- What is asked for afterwards replaces no model that is kept.
  have asks : Inquiry.model e >>= next = .ask e next := rfl
  have effective := r.get_result e
  have keeps := fun m => Registry.find?_get (r := r) (e := e) (m := m)
  rw [asks, run] at h ⊢
  generalize r.get e = outcome at h effective keeps ⊢
  obtain ⟨result, r', events⟩ := outcome
  cases result with
  | error err => cases h
  | ok m => exact ⟨m, effective.symm, ((next m).grows_run r').find?_eq_some (keeps m rfl)⟩

namespace Database

variable {db : Database} {store after : Store}

/-- Building a query tells only what the registry tells. -/
theorem journal_buildSelect (db : Database) (s : Select) (store : Store) :
    ∃ events : List RegistryEvent, ((db.buildSelect s).exec store).2.journal =
      store.journal ++ events.map .registry := by
  rw [buildSelect, Action.exec_inquire]
  exact ⟨_, rfl⟩

theorem journal_buildUpdate (db : Database) (u : Update) (store : Store) :
    ∃ events : List RegistryEvent, ((db.buildUpdate u).exec store).2.journal =
      store.journal ++ events.map .registry := by
  rw [buildUpdate, Action.exec_inquire]
  exact ⟨_, rfl⟩

/-- Building a query leaves the model of its entity type in the registry. -/
theorem find?_buildSelect {s : Select} {q : Query}
    (h : (db.buildSelect s).exec store = (.ok q, after)) :
    ∃ m, store.registry.effective s.entity = .ok m ∧
      after.registry.find? s.entity = some m := by
  have built : ((db.buildSelect s).exec store).1 = .ok q := congrArg Prod.fst h
  have left : (s.resolve.run store.registry).registry = after.registry := by
    rw [buildSelect, Action.exec_inquire] at h
    exact congrArg (·.2.registry) h
  obtain ⟨t, resolved, -⟩ := buildSelect_ok built
  rw [← Inquiry.run_result] at resolved
  rw [← left]
  obtain ⟨entity, selections, source, filter, groupBy, having, limit, offset⟩ := s
  rw [Select.resolve] at resolved ⊢
  exact Inquiry.find?_run_model resolved

/-- What maps rows to records of a type that has a model, in a sound registry. It takes nothing but
that model, and leaves everything as it is. -/
theorem mapping_exec (hr : store.registry.Sound) {e : EntityType} {m : TableModel}
    (kept : store.registry.find? e = some m) :
    (db.mapping e).exec store = (.ok ⟨⟨db.config.accessor, m⟩⟩, store) := by
  have fetched : (fetchModel e).exec store = (.ok m, store) := by
    have found : store.registry.get e = ⟨.ok m, store.registry, []⟩ := by
      rw [Registry.get, kept]
    simp only [fetchModel, Action.withRegistry, Action.exec, found, List.map_nil, List.append_nil]
  have derived : m.DerivedFrom e := hr.derivedFrom (by rw [Registry.effective, kept])
  have accessor : (db.accessor e).exec store = (.ok ⟨db.config.accessor, m⟩, store) := by
    rw [Database.accessor, Action.exec_bind_ok fetched, derived.accessor_eq, if_pos rfl]
    rfl
  rw [mapping, Action.exec_bind_ok accessor]
  rfl

end Database

/-! ### Sending a statement -/

/-- `cut` is the text up to the limit, with dots in the place of what is left out, if any is. -/
structure IsCut (limit? : Option Nat) (text cut : String) : Prop where
  short : (∀ n, limit? = some n → text.length ≤ n) → cut = text
  long : ∀ n, limit? = some n → n < text.length →
    cut.toList = text.toList.take n ++ ['.', '.', '.']

theorem isCut_truncate (limit? : Option Nat) (text : String) :
    IsCut limit? text (truncate limit? text) where
  short := by
    intro short
    cases limit? with
    | none => rfl
    | some n => rw [truncate, if_pos (short n rfl)]
  long := by
    rintro n rfl long
    rw [truncate, if_neg (Nat.not_le.2 long), String.toList_append, String.toList_ofList]
    rfl

/-- What is made of the records that a query finds where one is wanted. -/
inductive IsOnly : Except Error (List Record) → Except Error Record → Prop
  | failed (err : Error) : IsOnly (.error err) (.error err)
  | none : IsOnly (.ok []) (.error .noRows)
  | one (r : Record) : IsOnly (.ok [r]) (.ok r)
  | more (rows : List Record) (h : 1 < rows.length) :
    IsOnly (.ok rows) (.error (.tooManyRows 1 rows.length))

namespace Database

/-- What a handle logs of a statement that is about to be sent: the kind of the statement, its text
up to the limit and the number of its arguments, or nothing if it is not to log statements. -/
def Logs (db : Database) (kind : StatementKind) (q : Query) (log : List Event) : Prop :=
  if db.config.logStatements then
    ∃ text, log = [.executing kind text q.args.length] ∧ IsCut db.config.maxLoggedSql q.sql text
  else log = []

/-- How a run of a statement ends, and in which store, after what the build of the statement came
to. If that is an error, the run ends there. Else the statement is logged and sent, once. -/
inductive Runs {α : Type} (db : Database) (kind : StatementKind)
    (Answers : Query → Except Error α → Prop) :
    Except Error Query × Store → Except Error α × Store → Prop
  | unbuilt (err : Error) (after : Store) :
    Runs db kind Answers (.error err, after) (.error err, after)
  | sent {q : Query} {after : Store} {log : List Event} {answer : Except Error α}
      (logs : db.Logs kind q log) (answers : Answers q answer) :
    Runs db kind Answers (.ok q, after)
      (answer, ⟨after.registry, after.journal ++ log ++ [.sent q]⟩)

variable {α : Type}

theorem exec_log (db : Database) (kind : StatementKind) (q : Query) (store : Store) :
    ∃ log, db.Logs kind q log ∧
      (db.log kind q).exec store = (.ok (), ⟨store.registry, store.journal ++ log⟩) := by
  rw [Database.log]
  by_cases logging : db.config.logStatements = true
  · refine ⟨[.executing kind (truncate db.config.maxLoggedSql q.sql) q.args.length], ?_, ?_⟩
    · rw [Logs, if_pos logging]
      exact ⟨_, rfl, isCut_truncate _ _⟩
    · rw [if_pos logging]
      rfl
  · refine ⟨[], ?_, ?_⟩
    · rw [Logs, if_neg logging]
    · rw [if_neg logging, List.append_nil]
      rfl

/-- A statement is logged, sent, and answered by what the executor answers. -/
theorem exec_send (db : Database) (kind : StatementKind) (q : Query) (answer : Except Error α)
    (store : Store) :
    ∃ log, db.Logs kind q log ∧
      (do db.log kind q; .note (.sent q); .ofExcept answer : Action α).exec store =
        (answer, ⟨store.registry, store.journal ++ log ++ [.sent q]⟩) := by
  obtain ⟨log, logs, logged⟩ := db.exec_log kind q store
  refine ⟨log, logs, ?_⟩
  rw [Action.exec_bind_ok logged]
  rfl

theorem isOnly_single (rows : Except Error (List Record)) : IsOnly rows (rows >>= single) := by
  cases rows with
  | error err => exact .failed err
  | ok rows =>
    match rows with
    | [] => exact .none
    | [r] => exact .one r
    | first :: second :: rest => exact .more _ (by simp)

/-- A query is run with the mapping for the records of its entity type. -/
theorem runs_getMulti (db : Database) (executor : Executor) {store : Store}
    (hr : store.registry.Sound) (s : Select) :
    db.Runs .select (fun q answer => ∃ m, store.registry.effective s.entity = .ok m ∧
        answer = executor.query q ⟨⟨db.config.accessor, m⟩⟩)
      ((db.buildSelect s).exec store) ((db.getMulti executor s).exec store) := by
  cases built : (db.buildSelect s).exec store with
  | mk result after =>
    rw [getMulti]
    cases result with
    | error err =>
      rw [Action.exec_bind_error built]
      exact .unbuilt err after
    | ok q =>
      obtain ⟨m, effective, kept⟩ := find?_buildSelect built
      have sound : after.registry.Sound := by
        have left := hr.inquire s.resolve
        rw [← Action.inquire_registry, ← buildSelect, built] at left
        exact left
      obtain ⟨log, logs, sent⟩ :=
        db.exec_send .select q (executor.query q ⟨⟨db.config.accessor, m⟩⟩) after
      rw [Action.exec_bind_ok built, Action.exec_bind_ok (mapping_exec sound kept), sent]
      exact .sent logs ⟨m, effective, rfl⟩

/-- Fetching one record is fetching all of them, and seeing to it that there is one. -/
theorem exec_get (db : Database) (executor : Executor) (s : Select) (store : Store) :
    (db.get executor s).exec store =
      (((db.getMulti executor s).exec store).1 >>= single,
        ((db.getMulti executor s).exec store).2) := by
  cases fetched : (db.getMulti executor s).exec store with
  | mk rows after =>
    rw [get]
    cases rows with
    | error err => exact Action.exec_bind_error fetched
    | ok rows => exact Action.exec_bind_ok fetched

theorem runs_get (db : Database) (executor : Executor) {store : Store}
    (hr : store.registry.Sound) (s : Select) :
    db.Runs .select (fun q answer => ∃ m, store.registry.effective s.entity = .ok m ∧
        IsOnly (executor.query q ⟨⟨db.config.accessor, m⟩⟩) answer)
      ((db.buildSelect s).exec store) ((db.get executor s).exec store) := by
  rw [exec_get]
  generalize (db.buildSelect s).exec store = built, (db.getMulti executor s).exec store = ran,
    db.runs_getMulti executor hr s = run
  cases run with
  | unbuilt err after => exact .unbuilt err after
  | sent logs answers =>
    obtain ⟨m, effective, rfl⟩ := answers
    exact .sent logs ⟨m, effective, isOnly_single _⟩

theorem runs_exec (db : Database) (executor : Executor) (store : Store) (u : Update) :
    db.Runs .update (fun q answer => answer = executor.update q) ((db.buildUpdate u).exec store)
      ((db.exec executor u).exec store) := by
  cases built : (db.buildUpdate u).exec store with
  | mk result after =>
    rw [exec]
    cases result with
    | error err =>
      rw [Action.exec_bind_error built]
      exact .unbuilt err after
    | ok q =>
      obtain ⟨log, logs, sent⟩ := db.exec_send .update q (executor.update q) after
      rw [Action.exec_bind_ok built, sent]
      exact .sent logs rfl

end Database

/-- **Statements run as they are built.** A statement that is not built fails with the error of the
build and leaves the store as the build does, which tells of nothing but models. One that is built
is logged, if at all, sent once, and answered by what the executor answers: the records for a query,
the only one of them where one is wanted, the number of rows for an update. -/
theorem statements_run_as_built (db : Database) (executor : Executor) {store : Store}
    (sound : store.registry.Sound) :
    (∀ s : Select,
      (∃ events : List RegistryEvent, ((db.buildSelect s).exec store).2.journal =
        store.journal ++ events.map .registry) ∧
      db.Runs .select (fun q answer => ∃ m, store.registry.effective s.entity = .ok m ∧
          answer = executor.query q ⟨⟨db.config.accessor, m⟩⟩)
        ((db.buildSelect s).exec store) ((db.getMulti executor s).exec store) ∧
      db.Runs .select (fun q answer => ∃ m, store.registry.effective s.entity = .ok m ∧
          IsOnly (executor.query q ⟨⟨db.config.accessor, m⟩⟩) answer)
        ((db.buildSelect s).exec store) ((db.get executor s).exec store)) ∧
    ∀ u : Update,
      (∃ events : List RegistryEvent, ((db.buildUpdate u).exec store).2.journal =
        store.journal ++ events.map .registry) ∧
      db.Runs .update (fun q answer => answer = executor.update q)
        ((db.buildUpdate u).exec store) ((db.exec executor u).exec store) :=
  ⟨fun s => ⟨db.journal_buildSelect s store, db.runs_getMulti executor sound s,
      db.runs_get executor sound s⟩,
    fun u => ⟨db.journal_buildUpdate u store, db.runs_exec executor store u⟩⟩

namespace Sample

/-- A handle that logs the beginnings of statements. -/
def talkative : Database :=
  { database with config := { Config.default with logStatements := true, maxLoggedSql := some 8 } }

/-- A database with two parcels in it. -/
def twoParcels : Executor where
  query _ mapping := .ok [mapping.newRow, fullParcel]
  update _ := .ok 2

theorem sound_parcelStore : parcelStore.registry.Sound := by
  intro e m kept
  by_cases h : parcel = e
  · subst h
    have found : parcelStore.registry.find? parcel = some parcelModel := by
      decide +kernel
    cases found.symm.trans kept
    exact ⟨parcelOptions, deriveModel_parcel⟩
  · have absent : parcelStore.registry.find? e = none := by
      simp [parcelStore, Registry.find?, h]
    rw [absent] at kept
    cases kept

end Sample

theorem sample_execution :
    Sample.parcelStore.registry.Sound ∧
      (Sample.talkative.buildSelect Sample.parcel.rows).exec Sample.parcelStore =
        (.ok ⟨"SELECT * FROM \"parcels\";", []⟩, Sample.parcelStore) ∧
      Sample.talkative.Runs .select
        (fun q answer => ∃ m, Sample.parcelStore.registry.effective Sample.parcel = .ok m ∧
          IsOnly (Sample.twoParcels.query q ⟨⟨.direct, m⟩⟩) answer)
        (.ok ⟨"SELECT * FROM \"parcels\";", []⟩, Sample.parcelStore)
        ((Sample.talkative.get Sample.twoParcels Sample.parcel.rows).exec Sample.parcelStore) ∧
      (Sample.talkative.get Sample.twoParcels Sample.parcel.rows).exec Sample.parcelStore =
        (.error (.tooManyRows 1 2), ⟨Sample.parcelStore.registry,
          [.executing .select "SELECT *..." 0, .sent ⟨"SELECT * FROM \"parcels\";", []⟩]⟩) := by
  have built : (Sample.talkative.buildSelect Sample.parcel.rows).exec Sample.parcelStore =
      (.ok ⟨"SELECT * FROM \"parcels\";", []⟩, Sample.parcelStore) := by
    decide +kernel
  have run := (statements_run_as_built Sample.talkative Sample.twoParcels
    Sample.sound_parcelStore).1 Sample.parcel.rows
  rw [built] at run
  refine ⟨Sample.sound_parcelStore, built, run.2.2, ?_⟩
  rfl

end EntitySql
