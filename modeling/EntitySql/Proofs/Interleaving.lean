import EntitySql.Proofs.Caching
import EntitySql.Proofs.Growth
import Mathlib.Data.List.Pairwise

/-!
# Interleaved calls

Calls to a registry that are under way at once may come in between each other at every step. Still
they come to what the same calls come to one after the other, in some order in which no call goes
before one that had returned before it began (`calls_linearize`). And each of them returns after at
most three steps of its own, whatever steps of others come in between
(`System.returns_after_own_steps`).

What carries the order is that a call is settled in one step (`Progress.Effect`): the step in which
it finds a model, inserts one, or learns that there will be none. In that step it does what it would
have done if it had been called just then, and neither the steps before it nor those after it do
anything. The order is that of the settling steps. A fetch whose model cannot be derived is settled
when it misses the model, and so before it returns.
-/

namespace EntitySql

/-! ### One step of a call -/

namespace Progress

/-- What a call comes to, from the moment when that is settled. -/
def verdict? : Progress → Option (Except Error TableModel)
  | returned result => some result
  | missed e =>
    match e.deriveModel [] with
    | .error err => some (.error err)
    | .ok _ => none
  | called _ | derived _ _ => none

/-- How far the call `c` can have come. -/
def IsOf (c : Call) : Progress → Prop
  | called call => call = c
  | missed e => c = .get e
  | derived call model => call = c ∧ c.derive = .ok model
  | returned _ => True

/-- What a step of the call `c` does: nothing before the call is settled and nothing after it. The
step that settles it does what the whole call does to the registry as it is then. -/
inductive Effect (r : Registry) (c : Call) (p : Progress) :
    Registry × List RegistryEvent × Progress → Prop
  | pending {p' : Progress} (before : p.verdict? = none) (after : p'.verdict? = none) :
    Effect r c p (r, [], p')
  | settles {p' : Progress} {o : Outcome TableModel} (run : c.run r = o)
      (before : p.verdict? = none) (after : p'.verdict? = some o.result) :
    Effect r c p (o.registry, o.events, p')
  | settled {p' : Progress} {result : Except Error TableModel} (before : p.verdict? = some result)
      (after : p'.verdict? = some result) :
    Effect r c p (r, [], p')

variable {c : Call} {p : Progress}

/-- A fetch is settled at once by a model that is kept, and by one that cannot be derived. -/
theorem step_called_get (r : Registry) (e : EntityType) :
    Effect r (.get e) (.called (.get e)) (step r (.called (.get e))) := by
  simp only [step]
  cases hf : r.find? e with
  | some m =>
    have run : Call.run r (.get e) = ⟨.ok m, r, []⟩ := by simp only [Call.run, Registry.get, hf]
    exact .settles run rfl rfl
  | none =>
    cases hd : e.deriveModel [] with
    | ok m => exact .pending rfl (by simp only [verdict?, hd])
    | error err =>
      have run : Call.run r (.get e) = ⟨.error err, r, []⟩ := by
        simp only [Call.run, Registry.get, hf, hd]
      exact .settles run rfl (by simp only [verdict?, hd])

/-- A registration is settled at once where the model cannot be derived. -/
theorem step_called_register (r : Registry) (e : EntityType) (options : List ModelOption) :
    Effect r (.register e options) (.called (.register e options))
      (step r (.called (.register e options))) := by
  simp only [step]
  cases hd : e.deriveModel options with
  | ok m => exact .pending rfl rfl
  | error err =>
    have run : Call.run r (.register e options) = ⟨.error err, r, []⟩ := by
      simp only [Call.run, Registry.register, hd]
    exact .settles run rfl rfl

/-- A fetch with a model of its own is settled by looking once more. -/
theorem step_derived_get (r : Registry) {e : EntityType} {m : TableModel}
    (hd : e.deriveModel [] = .ok m) :
    Effect r (.get e) (.derived (.get e) m) (step r (.derived (.get e) m)) := by
  simp only [step]
  cases hf : r.find? e with
  | some earlier =>
    have run : Call.run r (.get e) = ⟨.ok earlier, r, []⟩ := by
      simp only [Call.run, Registry.get, hf]
    exact .settles run rfl rfl
  | none =>
    have run : Call.run r (.get e) = ⟨.ok m, r.insert e m, [.derived m]⟩ := by
      simp only [Call.run, Registry.get, hf, hd]
    exact .settles run rfl rfl

/-- A registration with a model of its own is settled by looking whether there is one. -/
theorem step_derived_register (r : Registry) {e : EntityType} {options : List ModelOption}
    {m : TableModel} (hd : e.deriveModel options = .ok m) :
    Effect r (.register e options) (.derived (.register e options) m)
      (step r (.derived (.register e options) m)) := by
  simp only [step]
  by_cases hc : r.contains e = true
  · have run : Call.run r (.register e options) =
        ⟨.error (.invalidModel e.typeName .alreadyRegistered), r, []⟩ := by
      simp only [Call.run, Registry.register, hd, if_pos hc]
    rw [if_pos hc]
    exact .settles run rfl rfl
  · have run : Call.run r (.register e options) =
        ⟨.ok m, r.insert e m, [.registered m options.length]⟩ := by
      simp only [Call.run, Registry.register, hd, if_neg hc]
    rw [if_neg hc]
    exact .settles run rfl rfl

theorem step_effect (h : p.IsOf c) (r : Registry) : Effect r c p (p.step r) := by
  cases p with
  | called call =>
    have same : call = c := h
    subst same
    cases call with
    | get e => exact step_called_get r e
    | register e options => exact step_called_register r e options
  | missed e =>
    simp only [step]
    cases hd : e.deriveModel [] with
    | ok m => exact .pending (by simp only [verdict?, hd]) rfl
    | error err => exact .settled (by simp only [verdict?, hd]) rfl
  | derived call m =>
    obtain ⟨same, hd⟩ : call = c ∧ c.derive = .ok m := h
    subst same
    cases call with
    | get e => exact step_derived_get r hd
    | register e options => exact step_derived_register r hd
  | returned result => exact .settled rfl rfl

theorem step_isOf (h : p.IsOf c) (r : Registry) : (p.step r).2.2.IsOf c := by
  cases p with
  | called call =>
    have same : call = c := h
    subst same
    cases call with
    | get e =>
      simp only [step]
      cases r.find? e with
      | some m => exact True.intro
      | none => rfl
    | register e options =>
      simp only [step]
      cases hd : e.deriveModel options with
      | error err => exact True.intro
      | ok m => exact ⟨rfl, hd⟩
  | missed e =>
    have same : c = .get e := h
    subst same
    simp only [step]
    cases hd : e.deriveModel [] with
    | error err => exact True.intro
    | ok m => exact ⟨rfl, hd⟩
  | derived call m =>
    cases call with
    | get e =>
      simp only [step]
      cases r.find? e <;> exact True.intro
    | register e options =>
      simp only [step]
      split <;> exact True.intro
  | returned result => exact True.intro

/-- A call that has taken a step has begun. -/
theorem step_ne_called (p : Progress) (r : Registry) (c : Call) : (p.step r).2.2 ≠ .called c := by
  cases p with
  | called call | derived call m =>
    cases call <;> simp only [step] <;> split <;> nofun
  | missed e =>
    simp only [step]
    split <;> nofun
  | returned result => nofun

/-- The steps that a call has still to take, at most. -/
def remaining : Progress → Nat
  | called (.get _) => 3
  | called (.register _ _) | missed _ => 2
  | derived _ _ => 1
  | returned _ => 0

/-- Each step brings a call nearer to its end, whatever the registry holds. -/
theorem remaining_step (p : Progress) (r : Registry) :
    (p.step r).2.2.remaining ≤ p.remaining - 1 := by
  cases p with
  | called call | derived call m =>
    cases call <;> simp only [step] <;> split <;> simp [remaining]
  | missed e =>
    simp only [step]
    split <;> simp [remaining]
  | returned result => simp [step, remaining]

theorem exists_result?_of_remaining (h : p.remaining = 0) : ∃ result, p.result? = some result := by
  cases p with
  | returned result => exact ⟨result, rfl⟩
  | called call => cases call <;> cases h
  | missed e | derived call m => cases h

/-- A call that has returned stays as it is. -/
theorem step_of_result? {result : Except Error TableModel} (h : p.result? = some result)
    (r : Registry) : p.step r = (r, [], p) := by
  cases p with
  | returned result' => rfl
  | called | missed | derived => cases h

theorem verdict?_of_result? {result : Except Error TableModel} (h : p.result? = some result) :
    p.verdict? = some result := by
  cases p with
  | returned result' => exact h
  | called | missed | derived => cases h

/-- What is settled before the call returns is that it fails. -/
theorem error_of_verdict? {result : Except Error TableModel} (h : p.verdict? = some result)
    (hr : p.result? = none) : ∃ err, result = .error err := by
  cases p with
  | called | derived => cases h
  | returned result' => cases hr
  | missed e =>
    simp only [verdict?] at h
    cases hd : e.deriveModel [] with
    | ok m =>
      rw [hd] at h
      cases h
    | error err =>
      rw [hd] at h
      exact ⟨err, (Option.some.inj h).symm⟩

end Progress

/-- A call that fails leaves no trace. -/
theorem Call.run_error {c : Call} {r : Registry} {err : Error} (h : (c.run r).result = .error err) :
    (c.run r).registry = r ∧ (c.run r).events = [] := by
  have effect := c.run_effect r
  generalize c.run r = outcome at effect h ⊢
  cases effect with
  | inserted absent derived => cases h
  | found kept => cases h
  | failed registering => exact ⟨rfl, rfl⟩

/-- A call adds at most the model that it derives for its type. -/
theorem Call.grows_run (c : Call) (r : Registry) :
    r.Grows (fun e m => c.entity = e ∧ c.derive = .ok m) (c.run r).registry := by
  have effect := c.run_effect r
  generalize c.run r = outcome at effect
  cases effect with
  | inserted absent derived => exact .insert absent ⟨rfl, derived⟩
  | found kept => exact .refl r
  | failed registering => exact .refl r

/-! ### Calls one at a time -/

namespace History

/-- The registry `r` before any call. -/
def of (r : Registry) : History :=
  ⟨r, [], []⟩

theorem callAll_concat (h : History) (calls : List Call) (c : Call) :
    h.callAll (calls ++ [c]) = (h.callAll calls).call c :=
  List.foldl_append ..

/-- Every model that a call returned is kept for its type. -/
def Keeps (h : History) : Prop :=
  ∀ c m, (c, .ok m) ∈ h.calls → h.registry.find? c.entity = some m

/-- Of two registrations of one type, not both succeeded. -/
def RegistersOnce (h : History) : Prop :=
  h.calls.Pairwise fun a b => ∀ e options options' m m',
    a = (.register e options, .ok m) → b = (.register e options', .ok m') → False

theorem Keeps.call {h : History} (hk : h.Keeps) (c : Call) : (h.call c).Keeps := by
  intro c' m hm
  rcases List.mem_append.1 hm with hm | hm
  · exact (find?_call (hk c' m hm) c).1
  · obtain ⟨rfl, result⟩ := Prod.mk.inj (List.mem_singleton.1 hm)
    have effect := c'.run_effect h.registry
    rw [History.call, record]
    generalize c'.run h.registry = outcome at effect result ⊢
    cases effect with
    | inserted absent derived =>
      cases result
      rw [Registry.find?_insert, absent, if_pos rfl]
      rfl
    | found kept =>
      cases result
      exact kept
    | failed registering => cases result

theorem RegistersOnce.call {h : History} (hr : h.RegistersOnce) (hk : h.Keeps) (c : Call) :
    (h.call c).RegistersOnce := by
  refine List.pairwise_append.2 ⟨hr, List.pairwise_singleton _ _, ?_⟩
  rintro a ha b hb e options options' m m' rfl rfl
  obtain ⟨rfl, result⟩ := Prod.mk.inj (List.mem_singleton.1 hb)
  -- The model of the earlier registration is kept, so the later one fails.
  obtain ⟨err, failed⟩ := (find?_call (hk _ m ha) (.register e options')).2 rfl
  rw [failed] at result
  cases result

theorem keeps_registersOnce (r : Registry) (calls : List Call) :
    ((of r).callAll calls).Keeps ∧ ((of r).callAll calls).RegistersOnce := by
  induction calls using List.reverseRecOn with
  | nil => exact ⟨fun _ _ hm => (List.not_mem_nil hm).elim, List.Pairwise.nil⟩
  | append_singleton calls c ih =>
    rw [callAll_concat]
    exact ⟨ih.1.call c, ih.2.call ih.1 c⟩

end History

/-! ### One step of a system -/

namespace System

/-- What the call number `i` has returned. -/
def result? (s : System) (i : Nat) : Option (Except Error TableModel) :=
  s.calls[i]?.bind Progress.result?

/-- What the call number `i` comes to, if that is settled. -/
def verdict? (s : System) (i : Nat) : Option (Except Error TableModel) :=
  s.calls[i]?.bind Progress.verdict?

/-- The call number `i` has taken its first step. -/
def Begun (s : System) (i : Nat) : Prop :=
  ∀ c, s.calls[i]? ≠ some (.called c)

/-- The calls under way are the given ones. -/
structure Serves (s : System) (calls : List Call) : Prop where
  length : s.calls.length = calls.length
  isOf : ∀ (i : Fin calls.length) p, s.calls[i.val]? = some p → p.IsOf calls[i]

variable {s : System} {calls : List Call}

/-- A step of one call leaves the other ones where they are. -/
theorem calls_step (s : System) (n i : Nat) :
    (s.step n).calls[i]? =
      if n = i then s.calls[i]?.map fun p => (p.step s.registry).2.2 else s.calls[i]? := by
  cases hn : s.calls[n]? with
  | none =>
    simp only [step, hn]
    split
    · subst_vars
      rw [hn]
      rfl
    · rfl
  | some p =>
    simp only [step, hn, List.getElem?_set]
    split
    · subst_vars
      rw [if_pos (List.getElem?_eq_some_iff.1 hn).1, hn]
      rfl
    · rfl

theorem Serves.step (hs : s.Serves calls) (n : Nat) : (s.step n).Serves calls where
  length := by
    simp only [System.step]
    split
    · exact hs.length
    · exact (List.length_set ..).trans hs.length
  isOf i p hp := by
    rw [calls_step] at hp
    split at hp
    · obtain ⟨before, hb, rfl⟩ := Option.map_eq_some_iff.1 hp
      exact Progress.step_isOf (hs.isOf i before hb) s.registry
    · exact hs.isOf i p hp

theorem result?_step {i : Nat} {result : Except Error TableModel} (h : s.result? i = some result)
    (n : Nat) : (s.step n).result? i = some result := by
  obtain ⟨p, hp, hr⟩ := Option.bind_eq_some_iff.1 h
  rw [result?, calls_step, hp]
  split
  · rw [Option.map_some, Progress.step_of_result? hr]
    exact hr
  · exact hr

theorem Begun.step {i : Nat} (h : s.Begun i) (n : Nat) : (s.step n).Begun i := by
  intro c hc
  rw [calls_step] at hc
  split at hc
  · obtain ⟨p, -, hp⟩ := Option.map_eq_some_iff.1 hc
    exact Progress.step_ne_called p s.registry c hp
  · exact h c hc

/-- A call that is settled has begun. -/
theorem begun_of_verdict? {i : Nat} {result : Except Error TableModel}
    (h : s.verdict? i = some result) : s.Begun i := by
  intro c hc
  rw [verdict?, hc] at h
  cases h

theorem verdict?_of_result? {i : Nat} {result : Except Error TableModel}
    (h : s.result? i = some result) : s.verdict? i = some result := by
  obtain ⟨p, hp, hr⟩ := Option.bind_eq_some_iff.1 h
  rw [verdict?, hp]
  exact Progress.verdict?_of_result? hr

theorem error_of_verdict? {i : Nat} {result : Except Error TableModel}
    (h : s.verdict? i = some result) (hr : s.result? i = none) : ∃ err, result = .error err := by
  obtain ⟨p, hp, hv⟩ := Option.bind_eq_some_iff.1 h
  rw [result?, hp] at hr
  exact Progress.error_of_verdict? hv hr

/-- A step settles nothing and changes nothing, or it settles one call. That call then does what it
would have done if it had been called just then. -/
inductive Effect (s : System) (calls : List Call) : System → Prop
  | none {s' : System} (registry : s'.registry = s.registry) (events : s'.events = s.events)
      (verdicts : ∀ i, s'.verdict? i = s.verdict? i) :
    Effect s calls s'
  | settles {s' : System} (i : Fin calls.length) (before : s.verdict? i = none)
      (registry : s'.registry = (calls[i].run s.registry).registry)
      (events : s'.events = s.events ++ (calls[i].run s.registry).events)
      (after : s'.verdict? i = some (calls[i].run s.registry).result)
      (others : ∀ j, j ≠ i.val → s'.verdict? j = s.verdict? j) :
    Effect s calls s'

theorem verdict?_step_of_ne {n i : Nat} (h : i ≠ n) : (s.step n).verdict? i = s.verdict? i := by
  rw [verdict?, calls_step, if_neg h.symm, verdict?]

theorem step_effect (hs : s.Serves calls) (n : Nat) : Effect s calls (s.step n) := by
  cases hn : s.calls[n]? with
  | none =>
    have idle : s.step n = s := by simp only [step, hn]
    exact .none (congrArg registry idle) (congrArg events idle) fun i => by rw [idle]
  | some p =>
    have bound : n < calls.length := hs.length ▸ (List.getElem?_eq_some_iff.1 hn).1
    have effect := Progress.step_effect (hs.isOf ⟨n, bound⟩ p hn) s.registry
    have before : s.verdict? n = p.verdict? := by rw [verdict?, hn]; rfl
    have after : (s.step n).verdict? n = (p.step s.registry).2.2.verdict? := by
      rw [verdict?, calls_step, if_pos rfl, hn]
      rfl
    have registry : (s.step n).registry = (p.step s.registry).1 := by simp only [step, hn]
    have events : (s.step n).events = s.events ++ (p.step s.registry).2.1 := by
      simp only [step, hn]
    generalize p.step s.registry = stepped at effect after registry events
    cases effect with
    | pending before' after' =>
      refine .none registry (events.trans (List.append_nil _)) fun i => ?_
      by_cases hi : i = n
      · rw [hi, after, before, after', before']
      · exact verdict?_step_of_ne hi
    | settled before' after' =>
      refine .none registry (events.trans (List.append_nil _)) fun i => ?_
      by_cases hi : i = n
      · rw [hi, after, before, after', before']
      · exact verdict?_step_of_ne hi
    | settles run before' after' =>
      subst run
      exact .settles ⟨n, bound⟩ (before.trans before') registry events (after.trans after')
        fun j hj => verdict?_step_of_ne hj

/-! ### Runs of a system -/

/-- The call number `i` has returned before the call number `j` begins. -/
def FinishedBefore (s : System) (schedule : List Nat) (i j : Nat) : Prop :=
  ∃ earlier, earlier <+: schedule ∧ (∃ result, (s.run earlier).result? i = some result) ∧
    ¬(s.run earlier).Begun j

/-- The calls of an order, made one after the other from the registry of `s` on, come to what the
calls under way have come to: to the registry and the events of `after`, and for each call to its
outcome. -/
structure IsSerial (s after : System) (calls : List Call)
    (outcome? : Nat → Option (Except Error TableModel)) (order : List (Fin calls.length)) :
    Prop where
  registry : ((History.of s.registry).callAll (order.map (calls[·]))).registry = after.registry
  events : s.events ++ ((History.of s.registry).callAll (order.map (calls[·]))).events =
    after.events
  results : ((History.of s.registry).callAll (order.map (calls[·]))).calls.map
      (fun (c, result) => (c, some result)) =
    order.map fun i : Fin calls.length => (calls[i], outcome? i)

namespace IsSerial

variable {after : System} {outcome? outcome'? : Nat → Option (Except Error TableModel)}
  {order : List (Fin calls.length)}

theorem congr (h : s.IsSerial after calls outcome? order)
    (ho : ∀ i ∈ order, outcome? i = outcome'? i) : s.IsSerial after calls outcome'? order where
  registry := h.registry
  events := h.events
  results := h.results.trans (List.map_congr_left fun i hi => by rw [ho i hi])

/-- The last call is made to what the calls before it have come to. -/
theorem of_concat {i : Fin calls.length} (h : s.IsSerial after calls outcome? (order ++ [i])) :
    ∃ before, s.IsSerial before calls outcome? order ∧
      outcome? i = some (calls[i].run before.registry).result ∧
      (calls[i].run before.registry).registry = after.registry ∧
      before.events ++ (calls[i].run before.registry).events = after.events := by
  obtain ⟨registry, events, results⟩ := h
  rw [List.map_append, List.map_singleton, History.callAll_concat] at registry events results
  generalize hb : (History.of s.registry).callAll (order.map (calls[·])) = earlier
    at registry events results
  rw [History.call, History.record] at registry events results
  rw [List.map_append, List.map_append, List.map_singleton, List.map_singleton] at results
  obtain ⟨others, last⟩ := List.append_inj' results rfl
  have outcome := (Prod.mk.inj (List.singleton_inj.1 last)).2
  refine ⟨⟨earlier.registry, s.events ++ earlier.events, []⟩, ?_, outcome.symm, registry, ?_⟩
  · exact ⟨congrArg History.registry hb, congrArg (s.events ++ ·.events) hb, by rw [hb, others]⟩
  · rw [List.append_assoc]
    exact events

theorem concat {before : System} (h : s.IsSerial before calls outcome? order)
    {i : Fin calls.length} (outcome : outcome? i = some (calls[i].run before.registry).result)
    (registry : (calls[i].run before.registry).registry = after.registry)
    (events : before.events ++ (calls[i].run before.registry).events = after.events) :
    s.IsSerial after calls outcome? (order ++ [i]) := by
  have history : (History.of s.registry).callAll ((order ++ [i]).map (calls[·])) =
      ((History.of s.registry).callAll (order.map (calls[·]))).call calls[i] := by
    rw [List.map_append]
    exact History.callAll_concat _ _ _
  refine ⟨?_, ?_, ?_⟩
  · rw [history, History.call, History.record, h.registry, registry]
  · rw [history, History.call, History.record, h.registry, ← List.append_assoc, h.events, events]
  · rw [history, History.call, History.record, List.map_append, h.results, h.registry,
      List.map_append, List.map_singleton, List.map_singleton, outcome]

/-- Calls that fail can be left out. -/
theorem filter (keep : Fin calls.length → Bool) (h : s.IsSerial after calls outcome? order)
    (hk : ∀ i ∈ order, keep i = false → ∃ err, outcome? i = some (.error err)) :
    s.IsSerial after calls outcome? (order.filter keep) := by
  induction order using List.reverseRecOn generalizing after with
  | nil => exact h
  | append_singleton order i ih =>
    obtain ⟨before, hb, outcome, registry, events⟩ := h.of_concat
    have others := ih hb fun j hj => hk j (List.mem_append_left _ hj)
    rw [List.filter_append]
    by_cases hi : keep i = true
    · rw [List.filter_cons_of_pos hi, List.filter_nil]
      exact others.concat outcome registry events
    · obtain ⟨err, failed⟩ := hk i (by simp) (by simpa using hi)
      have result : (calls[i].run before.registry).result = .error err :=
        Option.some.inj (outcome.symm.trans failed)
      obtain ⟨same, silent⟩ := Call.run_error result
      rw [same] at registry
      rw [silent, List.append_nil] at events
      rw [List.filter_cons_of_neg hi, List.filter_nil, List.append_nil]
      exact ⟨others.registry.trans registry, others.events.trans events, others.results⟩

end IsSerial

theorem run_concat (s : System) (schedule : List Nat) (n : Nat) :
    s.run (schedule ++ [n]) = (s.run schedule).step n :=
  List.foldl_append ..

theorem run_append (s : System) (earlier later : List Nat) :
    s.run (earlier ++ later) = (s.run earlier).run later :=
  List.foldl_append ..

theorem result?_run {i : Nat} {result : Except Error TableModel} (h : s.result? i = some result)
    (schedule : List Nat) : (s.run schedule).result? i = some result := by
  induction schedule generalizing s with
  | nil => exact h
  | cons n schedule ih => exact ih (result?_step h n)

theorem Serves.run (hs : s.Serves calls) (schedule : List Nat) : (s.run schedule).Serves calls := by
  induction schedule generalizing s with
  | nil => exact hs
  | cons n schedule ih => exact ih (hs.step n)

theorem serves_start (r : Registry) (calls : List Call) : (start r calls).Serves calls where
  length := List.length_map ..
  isOf i p hp := by
    have called : (start r calls).calls[i.val]? = some (.called calls[i]) := by
      simp [start]
    rw [called] at hp
    cases hp
    rfl

namespace FinishedBefore

variable {schedule : List Nat} {i j : Nat}

theorem result? (h : s.FinishedBefore schedule i j) :
    ∃ result, (s.run schedule).result? i = some result := by
  obtain ⟨earlier, ⟨later, rfl⟩, ⟨result, hr⟩, -⟩ := h
  exact ⟨result, by rw [run_append]; exact result?_run hr later⟩

/-- One step more tells nothing new of a call that has begun. -/
theorem of_concat {n : Nat} (h : s.FinishedBefore (schedule ++ [n]) i j)
    (hj : (s.run schedule).Begun j) : s.FinishedBefore schedule i j := by
  obtain ⟨earlier, hp, returned, notBegun⟩ := h
  rcases List.prefix_concat_iff.1 hp with rfl | hp
  · rw [run_concat] at notBegun
    exact absurd (hj.step n) notBegun
  · exact ⟨earlier, hp, returned, notBegun⟩

end FinishedBefore

/-- The calls that are settled stand in an order that goes by the steps that settled them. -/
structure Settled (s : System) (calls : List Call) (schedule : List Nat)
    (order : List (Fin calls.length)) : Prop where
  nodup : order.Nodup
  settled : ∀ i : Fin calls.length, i ∈ order ↔ ∃ result, (s.run schedule).verdict? i = some result
  realTime : order.Pairwise fun i j : Fin calls.length => ¬s.FinishedBefore schedule j i
  serial : s.IsSerial (s.run schedule) calls (s.run schedule).verdict? order

namespace Settled

variable {schedule : List Nat} {order : List (Fin calls.length)}

theorem begun (h : s.Settled calls schedule order) {i : Fin calls.length} (hi : i ∈ order) :
    (s.run schedule).Begun i := by
  obtain ⟨result, hr⟩ := (h.settled i).1 hi
  exact begun_of_verdict? hr

theorem realTime_concat (h : s.Settled calls schedule order) (n : Nat) :
    order.Pairwise fun i j : Fin calls.length => ¬s.FinishedBefore (schedule ++ [n]) j i :=
  h.realTime.imp_of_mem fun hi _ apart finished => apart (finished.of_concat (h.begun hi))

/-- A step that settles nothing leaves the order as it is. -/
theorem concat_none (h : s.Settled calls schedule order) {n : Nat}
    (registry : ((s.run schedule).step n).registry = (s.run schedule).registry)
    (events : ((s.run schedule).step n).events = (s.run schedule).events)
    (verdicts : ∀ i, ((s.run schedule).step n).verdict? i = (s.run schedule).verdict? i) :
    s.Settled calls (schedule ++ [n]) order where
  nodup := h.nodup
  settled i := by rw [run_concat, verdicts, h.settled]
  realTime := h.realTime_concat n
  serial := by
    rw [run_concat]
    refine ⟨h.serial.registry.trans registry.symm, h.serial.events.trans events.symm, ?_⟩
    rw [h.serial.results]
    exact List.map_congr_left fun i _ => by rw [verdicts]

/-- The call that a step settles comes last. -/
theorem concat_settles (h : s.Settled calls schedule order) {n : Nat} {i : Fin calls.length}
    (before : (s.run schedule).verdict? i = none)
    (registry : ((s.run schedule).step n).registry =
      (calls[i].run (s.run schedule).registry).registry)
    (events : ((s.run schedule).step n).events =
      (s.run schedule).events ++ (calls[i].run (s.run schedule).registry).events)
    (after : ((s.run schedule).step n).verdict? i =
      some (calls[i].run (s.run schedule).registry).result)
    (others : ∀ j, j ≠ i.val →
      ((s.run schedule).step n).verdict? j = (s.run schedule).verdict? j) :
    s.Settled calls (schedule ++ [n]) (order ++ [i]) := by
  have fresh : i ∉ order := by
    intro hi
    obtain ⟨result, hr⟩ := (h.settled i).1 hi
    rw [before] at hr
    cases hr
  have known : ∀ j ∈ order, ((s.run schedule).step n).verdict? j = (s.run schedule).verdict? j :=
    fun j hj => others j fun same => fresh (Fin.ext same ▸ hj)
  refine ⟨?_, fun j => ?_, ?_, ?_⟩
  · simpa using h.nodup.concat fresh
  · rw [List.mem_append, List.mem_singleton, h.settled, run_concat]
    by_cases hj : j = i
    · subst hj
      exact ⟨fun _ => ⟨_, after⟩, fun _ => .inr rfl⟩
    · rw [others j fun same => hj (Fin.ext same)]
      simp [hj]
  · refine List.pairwise_append.2 ⟨h.realTime_concat n, List.pairwise_singleton _ _, ?_⟩
    intro j hj k hk finished
    cases List.mem_singleton.1 hk
    -- The call that comes last is only settled now, so it had not returned before.
    obtain ⟨result, hr⟩ := (finished.of_concat (h.begun hj)).result?
    rw [verdict?_of_result? hr] at before
    cases before
  · rw [run_concat]
    exact (h.serial.congr fun j hj => (known j hj).symm).concat after registry.symm events.symm

end Settled

/-- Whatever the interleaving, the calls that are settled have an order. -/
theorem exists_settled (r : Registry) (calls : List Call) (schedule : List Nat) :
    ∃ order, (start r calls).Settled calls schedule order := by
  induction schedule using List.reverseRecOn with
  | nil =>
    refine ⟨[], List.nodup_nil, fun i => ?_, List.Pairwise.nil, rfl, rfl, rfl⟩
    simp [run, verdict?, start, Progress.verdict?]
  | append_singleton schedule n ih =>
    obtain ⟨order, h⟩ := ih
    have effect := step_effect ((serves_start r calls).run schedule) n
    generalize hs : ((start r calls).run schedule).step n = stepped at effect
    cases effect with
    | none registry events verdicts =>
      subst hs
      exact ⟨order, h.concat_none registry events verdicts⟩
    | settles i before registry events after others =>
      subst hs
      exact ⟨order ++ [i], h.concat_settles before registry events after others⟩

/-! ### What the calls come to -/

/-- An order of the calls that have returned, in which they can have been made one at a time. -/
structure IsOrder (s : System) (calls : List Call) (schedule : List Nat)
    (order : List (Fin calls.length)) : Prop where
  nodup : order.Nodup
  /-- The calls of the order are those that have returned. -/
  returned : ∀ i : Fin calls.length,
    i ∈ order ↔ ∃ result, (s.run schedule).result? i = some result
  /-- No call goes before one that had returned before it began. -/
  realTime : order.Pairwise fun i j : Fin calls.length => ¬s.FinishedBefore schedule j i
  /-- Made in this order, one at a time, the calls return what they have returned, and leave the
  registry as it is. -/
  serial : s.IsSerial (s.run schedule) calls (s.run schedule).result? order

theorem exists_isOrder (r : Registry) (calls : List Call) (schedule : List Nat) :
    ∃ order, (start r calls).IsOrder calls schedule order := by
  obtain ⟨order, nodup, settled, realTime, serial⟩ := exists_settled r calls schedule
  let returned : Fin calls.length → Bool :=
    fun i => (((start r calls).run schedule).result? i).isSome
  refine ⟨order.filter returned, nodup.filter _, fun i => ?_, realTime.filter _, ?_⟩
  · rw [List.mem_filter, settled, ← Option.isSome_iff_exists, ← Option.isSome_iff_exists]
    constructor
    · exact And.right
    · intro hi
      obtain ⟨result, hr⟩ := Option.isSome_iff_exists.1 hi
      exact ⟨Option.isSome_iff_exists.2 ⟨result, verdict?_of_result? hr⟩, hi⟩
  · -- The calls that are settled and have not returned are bound to fail.
    have kept := serial.filter returned fun i hi hr => ?_
    · refine kept.congr fun i hi => ?_
      obtain ⟨result, hr⟩ := Option.isSome_iff_exists.1 (List.mem_filter.1 hi).2
      rw [hr, verdict?_of_result? hr]
    · obtain ⟨result, hv⟩ := (settled i).1 hi
      obtain ⟨err, rfl⟩ := error_of_verdict? hv (by simpa [returned] using hr)
      exact ⟨err, hv⟩

/-- What an entity type gets from the given calls is a model that one of them derived for it. -/
def DerivedBy (calls : List Call) (e : EntityType) (m : TableModel) : Prop :=
  ∃ c ∈ calls, c.entity = e ∧ c.derive = .ok m

theorem grows_step (hs : s.Serves calls) (n : Nat) :
    s.registry.Grows (DerivedBy calls) (s.step n).registry := by
  have effect := step_effect hs n
  generalize s.step n = stepped at effect
  cases effect with
  | none registry events verdicts =>
    rw [registry]
    exact .refl _
  | settles i before registry events after others =>
    rw [registry]
    exact (Call.grows_run _ _).mono fun e m h => ⟨calls[i], List.getElem_mem _, h⟩

theorem grows_run (hs : s.Serves calls) (schedule : List Nat) :
    s.registry.Grows (DerivedBy calls) (s.run schedule).registry := by
  induction schedule generalizing s with
  | nil => exact .refl _
  | cons n schedule ih => exact (grows_step hs n).trans (ih (hs.step n))

/-- A call that registered a model for `e`. -/
def Registered (e : EntityType) : Call × Option (Except Error TableModel) → Prop :=
  fun x => ∃ options m, x = (.register e options, some (.ok m))

namespace IsOrder

variable {schedule : List Nat} {order : List (Fin calls.length)}

/-- What a call has returned stands among the results of the calls made one at a time. -/
theorem mem_calls (h : s.IsOrder calls schedule order) {i : Fin calls.length}
    {result : Except Error TableModel} (hi : (s.run schedule).result? i = some result) :
    (calls[i], result) ∈ ((History.of s.registry).callAll (order.map (calls[·]))).calls := by
  have mem : (calls[i], some result) ∈ order.map fun j : Fin calls.length =>
      (calls[j], (s.run schedule).result? j) :=
    List.mem_map.2 ⟨i, (h.returned i).2 ⟨result, hi⟩, by rw [hi]⟩
  rw [← h.serial.results] at mem
  obtain ⟨⟨c, result'⟩, hm, same⟩ := List.mem_map.1 mem
  cases same
  exact hm

/-- A call that has returned a model has returned the one that is kept for its type. -/
theorem find?_of_result? (h : s.IsOrder calls schedule order) {i : Fin calls.length}
    {m : TableModel} (hi : (s.run schedule).result? i = some (.ok m)) :
    (s.run schedule).registry.find? calls[i].entity = some m := by
  rw [← h.serial.registry]
  exact (History.keeps_registersOnce _ _).1 _ _ (h.mem_calls hi)

/-- At most one registration of a type succeeds. -/
theorem eq_of_register (h : s.IsOrder calls schedule order) {i j : Fin calls.length}
    {e : EntityType} {options options' : List ModelOption} {m m' : TableModel}
    (hi : calls[i] = .register e options) (hj : calls[j] = .register e options')
    (ri : (s.run schedule).result? i = some (.ok m))
    (rj : (s.run schedule).result? j = some (.ok m')) : i = j := by
  by_contra apart
  have once := (History.keeps_registersOnce s.registry (order.map (calls[·]))).2
  -- What holds of the results in turn holds of the calls in the order.
  have once : (order.map fun i : Fin calls.length =>
      (calls[i], (s.run schedule).result? i)).Pairwise fun a b =>
      ∀ e, Registered e a → ¬Registered e b := by
    rw [← h.serial.results]
    refine once.map _ fun a b hab e => ?_
    rintro ⟨options, m, ha⟩ ⟨options', m', hb⟩
    obtain ⟨c, result⟩ := a
    obtain ⟨c', result'⟩ := b
    cases ha
    cases hb
    exact hab e options options' m m' rfl rfl
  have symmetric : Std.Symm fun i j : Fin calls.length =>
      ∀ e, Registered e (calls[i], (s.run schedule).result? i) →
        ¬Registered e (calls[j], (s.run schedule).result? j) :=
    ⟨fun _ _ hij e hj hi => hij e hi hj⟩
  have one := (List.pairwise_map.1 once).forall ((h.returned i).2 ⟨_, ri⟩)
    ((h.returned j).2 ⟨_, rj⟩) apart
  exact one e ⟨options, m, by rw [hi, ri]⟩ ⟨options', m', by rw [hj, rj]⟩

end IsOrder

/-- What calls to a registry come to that are under way at once. -/
structure Converges (r : Registry) (calls : List Call) (schedule : List Nat) : Prop where
  /-- From any time on, models are only added, at most one for each type, and only for types that
  had none. -/
  grows : ∀ earlier, earlier <+: schedule → ((start r calls).run earlier).registry.Grows
    (DerivedBy calls) ((start r calls).run schedule).registry
  /-- A call that has succeeded has returned the model that is kept for its type at the end. -/
  kept : ∀ (i : Fin calls.length) m,
    ((start r calls).run schedule).result? i = some (.ok m) →
      ((start r calls).run schedule).registry.find? calls[i].entity = some m
  /-- At most one registration of each type has succeeded. -/
  registered : ∀ (i j : Fin calls.length) e options options' m m',
    calls[i] = .register e options → calls[j] = .register e options' →
      ((start r calls).run schedule).result? i = some (.ok m) →
      ((start r calls).run schedule).result? j = some (.ok m') → i = j
  /-- The calls that have returned can have been made one at a time. -/
  serial : ∃ order, (start r calls).IsOrder calls schedule order

end System

/-- **Calls can be taken one at a time**: however the steps of calls to a registry interleave, the
calls have come to what they come to one after the other. -/
theorem calls_linearize (r : Registry) (calls : List Call) (schedule : List Nat) :
    System.Converges r calls schedule := by
  have serves := System.serves_start r calls
  obtain ⟨order, isOrder⟩ := System.exists_isOrder r calls schedule
  refine ⟨?_, fun i m hi => isOrder.find?_of_result? hi, ?_, order, isOrder⟩
  · rintro earlier ⟨later, rfl⟩
    rw [System.run_append]
    exact System.grows_run (serves.run earlier) later
  · intro i j e options options' m m' hi hj ri rj
    exact isOrder.eq_of_register hi hj ri rj

/-- A call returns when it has taken the steps that it has still to take. -/
theorem System.returns_of_remaining {s : System} {schedule : List Nat} {i : Nat} {p : Progress}
    (hp : s.calls[i]? = some p) (enough : p.remaining ≤ schedule.count i) :
    ∃ result, (s.run schedule).result? i = some result := by
  induction schedule generalizing s p with
  | nil =>
    obtain ⟨result, hr⟩ := Progress.exists_result?_of_remaining (Nat.le_zero.1 enough)
    exact ⟨result, by rw [System.result?, System.run, List.foldl_nil, hp]; exact hr⟩
  | cons n later ih =>
    have stepped := System.calls_step s n i
    rw [hp] at stepped
    by_cases own : n = i
    · subst own
      rw [if_pos rfl] at stepped
      rw [List.count_cons_self] at enough
      exact ih stepped ((p.remaining_step s.registry).trans (Nat.sub_le_of_le_add enough))
    · rw [if_neg own] at stepped
      rw [List.count_cons_of_ne own] at enough
      exact ih stepped enough

/-- **Calls return**: a call that has taken three steps of its own has returned, whatever steps of
other calls came in between. -/
theorem System.returns_after_own_steps (r : Registry) (calls : List Call) (schedule : List Nat)
    (i : Fin calls.length) (steps : 3 ≤ schedule.count i.val) :
    ∃ result, ((start r calls).run schedule).result? i = some result := by
  have called : (start r calls).calls[i.val]? = some (.called calls[i]) := by
    simp [start]
  have bound : (Progress.called calls[i]).remaining ≤ 3 := by
    cases calls[i] <;> simp [Progress.remaining]
  exact returns_of_remaining called (bound.trans steps)

/-- A fetch that finds no model returns the one that is registered before it looks again. -/
example :
    let calls := [.get Sample.person, .register Sample.person [.table "people"]]
    let s := (System.start .empty calls).run [0, 1, 0, 1, 0]
    s.results.map (fun result => result.toOption.map (·.table)) =
      [some "people", some "people"] := by
  decide +kernel

end EntitySql
