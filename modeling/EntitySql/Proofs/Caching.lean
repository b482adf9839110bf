import EntitySql.Proofs.Derivation
import EntitySql.Proofs.Writing
import EntitySql.Registry.Concurrent
import Mathlib.Data.Finset.Card

/-!
# What a registry keeps

A registry is called over and over, to fetch models and to register them. Whatever the calls are,
the first one that succeeds for an entity type settles its model for good (`first_success_wins`).
What the registry keeps and what it has told can then be read off the calls and their results
(`History.introductions`), without looking into it.

A call does one of three things (`Call.Effect`), so that a fact about runs is a case analysis for
one call and an induction over the calls.
-/

namespace EntitySql

/-! ### What a call does -/

namespace Call

/-- The model that a call keeps where there is none yet. -/
def derive : Call → Except Error TableModel
  | get e => e.deriveModel []
  | register e options => e.deriveModel options

/-- What a registry tells when it keeps the model of a call. -/
def event (model : TableModel) : Call → RegistryEvent
  | get _ => .derived model
  | register _ options => .registered model options.length

/-- What a call does to a registry: it keeps a model for a type that had none, it finds the one that
is kept, or it fails and leaves everything as it was. -/
inductive Effect (r : Registry) : Call → Outcome TableModel → Prop
  | inserted {c : Call} {m : TableModel} (absent : r.find? c.entity = none)
      (derived : c.derive = .ok m) :
    Effect r c ⟨.ok m, r.insert c.entity m, [c.event m]⟩
  | found {e : EntityType} {m : TableModel} (kept : r.find? e = some m) :
    Effect r (.get e) ⟨.ok m, r, []⟩
  | failed {c : Call} {err : Error}
      (registering : ∀ m, r.find? c.entity = some m → ∃ e options, c = .register e options) :
    Effect r c ⟨.error err, r, []⟩

theorem run_effect (r : Registry) (c : Call) : Effect r c (c.run r) := by
  cases c with
  | get e =>
    simp only [run, Registry.get]
    cases hf : r.find? e with
    | some m => exact .found hf
    | none =>
      cases hd : e.deriveModel [] with
      | ok m => exact .inserted hf hd
      | error err =>
        refine .failed fun m hm => ?_
        have kept : r.find? e = some m := hm
        rw [hf] at kept
        cases kept
  | register e options =>
    simp only [run, Registry.register]
    cases hd : e.deriveModel options with
    | error err => exact .failed fun _ _ => ⟨e, options, rfl⟩
    | ok m =>
      dsimp only
      by_cases hc : r.contains e = true
      · rw [if_pos hc]
        exact .failed fun _ _ => ⟨e, options, rfl⟩
      · rw [if_neg hc]
        have absent : r.find? e = none := by simpa [Registry.contains] using hc
        exact .inserted absent hd

theorem entity_derive {c : Call} {m : TableModel} (h : c.derive = .ok m) :
    m.entity = c.entity := by
  cases c with
  | get e =>
    have derived : e.deriveModel [] = .ok m := h
    exact (EntityType.derivedFrom derived).entity
  | register e options =>
    have derived : e.deriveModel options = .ok m := h
    exact (EntityType.derivedFrom derived).entity

end Call

/-! ### Runs of calls -/

/-- The first entry of each entity type. -/
def firstOfEach : List (Call × TableModel) → List (Call × TableModel)
  | [] => []
  | first :: rest => first :: (firstOfEach rest).filter (·.1.entity != first.1.entity)

theorem mem_entities_firstOfEach (l : List (Call × TableModel)) (e : EntityType) :
    e ∈ (firstOfEach l).map (·.1.entity) ↔ e ∈ l.map (·.1.entity) := by
  induction l with
  | nil => rfl
  | cons first rest ih =>
    rw [firstOfEach, List.map_cons, List.map_cons, List.mem_cons, List.mem_cons, ← ih]
    by_cases he : e = first.1.entity
    · simp [he]
    · have others : e ∈ ((firstOfEach rest).filter (·.1.entity != first.1.entity)).map
          (·.1.entity) ↔ e ∈ (firstOfEach rest).map (·.1.entity) := by
        simp only [List.mem_map, List.mem_filter, bne_iff_ne]
        constructor
        · rintro ⟨x, ⟨hx, -⟩, rfl⟩
          exact ⟨x, hx, rfl⟩
        · rintro ⟨x, hx, rfl⟩
          exact ⟨x, ⟨hx, he⟩, rfl⟩
      rw [others]

theorem nodup_entities_firstOfEach (l : List (Call × TableModel)) :
    ((firstOfEach l).map (·.1.entity)).Nodup := by
  induction l with
  | nil => exact List.nodup_nil
  | cons first rest ih =>
    rw [firstOfEach, List.map_cons, List.nodup_cons]
    refine ⟨?_, ih.sublist (List.filter_sublist.map _)⟩
    intro h
    obtain ⟨x, hx, he⟩ := List.mem_map.1 h
    have apart := (List.mem_filter.1 hx).2
    rw [bne_iff_ne] at apart
    exact apart he

/-- A further entry counts only where its type had none. -/
theorem firstOfEach_concat (l : List (Call × TableModel)) (x : Call × TableModel) :
    firstOfEach (l ++ [x]) =
      if x.1.entity ∈ l.map (·.1.entity) then firstOfEach l else firstOfEach l ++ [x] := by
  induction l with
  | nil => rfl
  | cons first rest ih =>
    rw [List.cons_append, firstOfEach, ih]
    by_cases hr : x.1.entity ∈ rest.map (·.1.entity)
    · have here : x.1.entity ∈ (first :: rest).map (·.1.entity) := by
        rw [List.map_cons]
        exact List.mem_cons_of_mem _ hr
      rw [if_pos hr, if_pos here, firstOfEach]
    · rw [if_neg hr, List.filter_append]
      by_cases hx : x.1.entity = first.1.entity
      · have here : x.1.entity ∈ (first :: rest).map (·.1.entity) := by
          rw [List.map_cons, hx]
          exact List.mem_cons_self
        rw [if_pos here, firstOfEach]
        simp [hx]
      · have absent : x.1.entity ∉ (first :: rest).map (·.1.entity) := by
          rw [List.map_cons, List.mem_cons, not_or]
          exact ⟨hx, hr⟩
        rw [if_neg absent, firstOfEach]
        simp [hx]

/-- A registry in use: the registry, what it has told, and the calls with their results, all in
order. -/
structure History where
  registry : Registry
  events : List RegistryEvent
  calls : List (Call × Except Error TableModel)

namespace History

/-- An empty registry that was not called yet. -/
def start : History :=
  ⟨.empty, [], []⟩

/-- Adds a call and what it came to. -/
def record (h : History) (c : Call) (outcome : Outcome TableModel) : History :=
  ⟨outcome.registry, h.events ++ outcome.events, h.calls ++ [(c, outcome.result)]⟩

/-- Makes one more call. -/
def call (h : History) (c : Call) : History :=
  h.record c (c.run h.registry)

/-- Makes calls one after the other. -/
def callAll (h : History) (calls : List Call) : History :=
  calls.foldl call h

/-- The calls that succeeded, with the models that they returned. -/
def successes (h : History) : List (Call × TableModel) :=
  h.calls.filterMap fun (c, result) => result.toOption.map (c, ·)

/-- The first success for each entity type. -/
def introductions (h : History) : List (Call × TableModel) :=
  firstOfEach h.successes

/-- What a call with its result has to come to while `m` is kept for `e`: a fetch of `e` returns `m`,
and a registration of `e` fails. -/
def Honours (e : EntityType) (m : TableModel) : Call × Except Error TableModel → Prop
  | (.get e', result) => e' = e → result = .ok m
  | (.register e' _, result) => e' = e → ∃ err, result = .error err

/-- What is kept and what was told follow from the calls and their results: for each type that some
call succeeded for, the first such call brought in its model. -/
structure Settled (h : History) : Prop where
  /-- The models kept are those of the first successes, in their order. -/
  models : h.registry.models = h.introductions.map fun (c, m) => (c.entity, m)
  /-- One event was told for each of them, and it tells of that call. -/
  events : h.events = h.introductions.map fun (c, m) => c.event m
  /-- The model of a type is one of that very type, whatever other types are called. -/
  own : ∀ e m, h.registry.find? e = some m → m.entity = e

theorem settled_start : start.Settled where
  models := rfl
  events := rfl
  own e m hm := by cases hm

theorem successes_record (h : History) (c : Call) (outcome : Outcome TableModel) :
    (h.record c outcome).successes =
      h.successes ++ (outcome.result.toOption.map (c, ·)).toList := by
  rw [successes, record, List.filterMap_append, successes]
  cases outcome.result <;> rfl

namespace Settled

variable {h : History} (hs : h.Settled)
include hs

/-- A type has a model if some call succeeded for it. -/
theorem find?_eq_none (e : EntityType) :
    h.registry.find? e = none ↔ e ∉ h.successes.map (·.1.entity) := by
  rw [← mem_entities_firstOfEach, Registry.find?, hs.models, introductions]
  simp [List.find?_eq_none]

/-- A call for a type that had no success brings in its model. -/
theorem record_inserted {c : Call} {m : TableModel} (absent : h.registry.find? c.entity = none)
    (derived : c.derive = .ok m) :
    (h.record c ⟨.ok m, h.registry.insert c.entity m, [c.event m]⟩).Settled := by
  have fresh := (hs.find?_eq_none c.entity).1 absent
  have introductions : (h.record c ⟨.ok m, h.registry.insert c.entity m,
      [c.event m]⟩).introductions = h.introductions ++ [(c, m)] := by
    rw [History.introductions, successes_record]
    exact (firstOfEach_concat h.successes (c, m)).trans (if_neg fresh)
  refine ⟨?_, ?_, ?_⟩
  · rw [introductions, List.map_append, ← hs.models]
    rfl
  · rw [introductions, List.map_append, ← hs.events]
    rfl
  · intro e m' hm'
    have found : (h.registry.insert c.entity m).find? e = some m' := hm'
    rw [Registry.find?_insert] at found
    cases hf : h.registry.find? e with
    | some kept =>
      rw [hf] at found
      have same : kept = m' := Option.some.inj found
      rw [← same]
      exact hs.own e kept hf
    | none =>
      rw [hf] at found
      by_cases he : c.entity = e
      · rw [if_pos he] at found
        cases found
        rw [Call.entity_derive derived, he]
      · rw [if_neg he] at found
        cases found

/-- A fetch of a type that has a model brings in nothing. -/
theorem record_found {e : EntityType} {m : TableModel} (kept : h.registry.find? e = some m) :
    (h.record (.get e) ⟨.ok m, h.registry, []⟩).Settled := by
  have known : e ∈ h.successes.map (·.1.entity) := by
    by_contra unknown
    rw [(hs.find?_eq_none e).2 unknown] at kept
    cases kept
  have introductions : (h.record (.get e) ⟨.ok m, h.registry, []⟩).introductions =
      h.introductions := by
    rw [History.introductions, successes_record]
    exact (firstOfEach_concat h.successes (.get e, m)).trans (if_pos known)
  refine ⟨?_, ?_, hs.own⟩
  · rw [introductions, ← hs.models]
    rfl
  · rw [introductions, ← hs.events]
    exact List.append_nil h.events

/-- A call that fails brings in nothing. -/
theorem record_failed (c : Call) (err : Error) :
    (h.record c ⟨.error err, h.registry, []⟩).Settled := by
  have introductions : (h.record c ⟨.error err, h.registry, []⟩).introductions =
      h.introductions := by
    rw [History.introductions, successes_record]
    exact congrArg firstOfEach (List.append_nil h.successes)
  refine ⟨?_, ?_, hs.own⟩
  · rw [introductions, ← hs.models]
    rfl
  · rw [introductions, ← hs.events]
    exact List.append_nil h.events

theorem call (c : Call) : (h.call c).Settled := by
  have effect := c.run_effect h.registry
  rw [History.call]
  generalize c.run h.registry = outcome at effect ⊢
  cases effect with
  | inserted absent derived => exact hs.record_inserted absent derived
  | found kept => exact hs.record_found kept
  | failed => exact hs.record_failed c _

theorem callAll (calls : List Call) : (h.callAll calls).Settled := by
  induction calls generalizing h with
  | nil => exact hs
  | cons c rest ih => exact ih (hs.call c)

/-- No type has two entries. -/
theorem nodup_types : (h.registry.models.map (·.1)).Nodup := by
  have types : h.registry.models.map (·.1) = h.introductions.map (·.1.entity) := by
    rw [hs.models, List.map_map]
    rfl
  rw [types]
  exact nodup_entities_firstOfEach h.successes

/-- As many models are kept as there are types that some call succeeded for. -/
theorem size_eq : h.registry.size = (h.successes.map (·.1.entity)).toFinset.card := by
  have types : (h.introductions.map (·.1.entity)).toFinset =
      (h.successes.map (·.1.entity)).toFinset := by
    ext e
    rw [List.mem_toFinset, List.mem_toFinset]
    exact mem_entities_firstOfEach h.successes e
  have nodup : (h.introductions.map (·.1.entity)).Nodup := nodup_entities_firstOfEach h.successes
  rw [← types, List.toFinset_card_of_nodup nodup, List.length_map, Registry.size, hs.models,
    List.length_map]

end Settled

/-! ### What later calls leave alone -/

/-- A call changes no model that is kept, and comes to what it has to. -/
theorem find?_call {h : History} {e : EntityType} {m : TableModel}
    (hm : h.registry.find? e = some m) (c : Call) :
    (h.call c).registry.find? e = some m ∧ Honours e m (c, (c.run h.registry).result) := by
  have effect := c.run_effect h.registry
  rw [call, record]
  generalize c.run h.registry = outcome at effect ⊢
  cases effect with
  | inserted absent derived =>
    have other : c.entity ≠ e := by
      intro he
      rw [he, hm] at absent
      cases absent
    constructor
    · rw [Registry.find?_insert, hm]
      rfl
    · cases c with
      | get e' => exact fun he => absurd he other
      | register e' options => exact fun he => absurd he other
  | @found e' m' kept =>
    refine ⟨hm, fun he => ?_⟩
    rw [he, hm] at kept
    exact congrArg Except.ok (Option.some.inj kept).symm
  | failed registering =>
    refine ⟨hm, ?_⟩
    cases c with
    | get e' =>
      intro he
      obtain ⟨_, _, impossible⟩ := registering m (he ▸ hm)
      cases impossible
    | register e' options => exact fun _ => ⟨_, rfl⟩

/-- However many calls follow, a model that is kept stays, and all of them come to what they have
to. -/
theorem find?_callAll {h : History} {e : EntityType} {m : TableModel}
    (hm : h.registry.find? e = some m) (more : List Call) :
    (h.callAll more).registry.find? e = some m ∧
      ∃ later, (h.callAll more).calls = h.calls ++ later ∧ later.map (·.1) = more ∧
        ∀ answered ∈ later, Honours e m answered := by
  induction more generalizing h with
  | nil => exact ⟨hm, [], (List.append_nil _).symm, rfl, fun _ ha => by cases ha⟩
  | cons c rest ih =>
    obtain ⟨kept, honoured⟩ := find?_call hm c
    obtain ⟨stays, later, calls, made, honours⟩ := ih kept
    refine ⟨stays, (c, (c.run h.registry).result) :: later, ?_, ?_, ?_⟩
    · rw [callAll, List.foldl_cons, ← callAll, calls, call, record, List.append_assoc]
      rfl
    · rw [List.map_cons, made]
    · intro answered ha
      rcases List.mem_cons.1 ha with rfl | ha
      · exact honoured
      · exact honours answered ha

/-- A call that fails leaves no trace. -/
theorem call_error {h : History} {c : Call} {err : Error}
    (he : (c.run h.registry).result = .error err) :
    (h.call c).registry = h.registry ∧ (h.call c).events = h.events := by
  have effect := c.run_effect h.registry
  rw [call, record]
  generalize c.run h.registry = outcome at effect he ⊢
  cases effect with
  | inserted absent derived => cases he
  | found kept => cases he
  | failed registering => exact ⟨rfl, List.append_nil h.events⟩

/-- A call changes nothing for the types that it is not about. -/
theorem find?_call_of_ne (h : History) {c : Call} {e : EntityType} (he : c.entity ≠ e) :
    (h.call c).registry.find? e = h.registry.find? e := by
  have effect := c.run_effect h.registry
  rw [call, record]
  generalize c.run h.registry = outcome at effect ⊢
  cases effect with
  | inserted absent derived =>
    rw [Registry.find?_insert, if_neg he]
    exact Option.or_none
  | found kept => rfl
  | failed registering => rfl

/-- What holds at any time of a registry that was empty at the start. -/
structure FirstWins (h : History) : Prop extends h.Settled where
  /-- No type has two entries. -/
  single : (h.registry.models.map (·.1)).Nodup
  /-- A model that is kept is never replaced; later fetches of its type return it, and later
  registrations of its type fail. -/
  kept : ∀ e m, h.registry.find? e = some m → ∀ more,
    (h.callAll more).registry.find? e = some m ∧
      ∃ later, (h.callAll more).calls = h.calls ++ later ∧ later.map (·.1) = more ∧
        ∀ answered ∈ later, Honours e m answered
  /-- A call that fails changes nothing and tells nothing. -/
  failed : ∀ c err, (c.run h.registry).result = .error err →
    (h.call c).registry = h.registry ∧ (h.call c).events = h.events
  /-- Types share no entry, whatever they and their tables are called. -/
  apart : ∀ c e, c.entity ≠ e → (h.call c).registry.find? e = h.registry.find? e
  /-- There are as many models as types that some call succeeded for. -/
  size : h.registry.size = (h.successes.map (·.1.entity)).toFinset.card

end History

/-- **The first success wins**: after any calls, the models kept and the events told are those of
the first successful call of each type, for good. -/
theorem first_success_wins (calls : List Call) : (History.start.callAll calls).FirstWins := by
  have settled := History.settled_start.callAll calls
  exact {
    toSettled := settled
    single := settled.nodup_types
    kept := fun _ _ hm more => History.find?_callAll hm more
    failed := fun _ _ he => History.call_error he
    apart := fun _ _ he => History.find?_call_of_ne _ he
    size := settled.size_eq }

/-- Types that are told apart by their modules alone have a model each, and the later registration
of the first one fails. -/
example :
    let twin : EntityType := { Sample.person with home := "elsewhere" }
    let h := History.start.callAll
      [.get Sample.person, .register twin [.table "twins"], .register Sample.person [], .get twin]
    h.registry.models.map (fun (e, m) => (e.home, m.table)) =
        [("", "pe?ople;"), ("elsewhere", "twins")] ∧
      h.calls.map (fun (_, result) => result.toOption.isSome) = [true, true, false, true] := by
  decide +kernel

end EntitySql
