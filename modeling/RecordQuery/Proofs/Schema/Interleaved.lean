import Mathlib.Data.Finset.Card
import Mathlib.Data.List.Induction
import Mathlib.Logic.Function.Basic
import RecordQuery.Proofs.Record.Lookup
import RecordQuery.Schema.Registry

/-!
# Interleaved requests for schemas

Any number of calls ask one registry for schemas, each in the two atomic steps of a look-up
and, on a miss, an entry. Whatever the order of their steps, a type is described once at most,
its entry stays as it is, and every call for it gets that entry. The calls for a type need not
agree on its description: which of them describes it depends on the order.
-/

namespace RecordQuery.Registry

-- ---------------------------------------------------------------------------
-- Steps
-- ---------------------------------------------------------------------------

/-- How far a call has come. -/
inductive Phase
  | begun
  | missed
  | finished (s : Schema)

/-- The steps that a call has taken at least. -/
def Phase.taken : Phase → Nat
  | .begun => 0
  | .missed => 1
  | .finished _ => 2

theorem Phase.eq_finished {p : Phase} (h : 2 ≤ p.taken) : ∃ s, p = .finished s := by
  cases p with
  | begun => exact absurd h (by decide)
  | missed => exact absurd h (by decide)
  | finished s => exact ⟨s, rfl⟩

/-- A registry with the calls that are made of it. -/
structure Shared (ι : Type u) where
  registry : Registry
  phase : ι → Phase
  /-- The calls whose entry step has happened, one after the other. -/
  entries : List ι
  /-- The calls that ran the description of their type. -/
  described : List ι

namespace Shared

variable {ι : Type u} [DecidableEq ι]

def initial : Shared ι := ⟨.empty, fun _ => .begun, [], []⟩

/-- The next step of a call: the look-up, or after a miss the entry, which runs the
description if the type is still vacant. -/
def step (type : ι → EntityType) (c : Shared ι) (i : ι) : Shared ι :=
  match c.phase i with
  | .begun =>
    match c.registry.find? (type i) with
    | some s => { c with phase := Function.update c.phase i (.finished s) }
    | none => { c with phase := Function.update c.phase i .missed }
  | .missed =>
    let entered := c.registry.enter (type i)
    { registry := entered.2
      phase := Function.update c.phase i (.finished entered.1)
      entries := c.entries ++ [i]
      described :=
        if (c.registry.find? (type i)).isNone then c.described ++ [i] else c.described }
  | .finished _ => c

/-- The calls take their steps in the order of the list. -/
def run (type : ι → EntityType) (schedule : List ι) : Shared ι :=
  schedule.foldl (step type) initial

variable {type : ι → EntityType} {c : Shared ι} {i : ι}

/-- All that a step can do. -/
inductive Stepped (type : ι → EntityType) (c : Shared ι) (i : ι) : Shared ι → Prop
  | idle {s : Schema} : c.phase i = .finished s → Stepped type c i c
  | hit {s : Schema} : c.phase i = .begun → c.registry.find? (type i) = some s →
    Stepped type c i { c with phase := Function.update c.phase i (.finished s) }
  | miss : c.phase i = .begun → c.registry.find? (type i) = none →
    Stepped type c i { c with phase := Function.update c.phase i .missed }
  | outrun {s : Schema} : c.phase i = .missed → c.registry.find? (type i) = some s →
    Stepped type c i
      { c with phase := Function.update c.phase i (.finished s), entries := c.entries ++ [i] }
  | enter : c.phase i = .missed → c.registry.find? (type i) = none →
    Stepped type c i
      { registry := ⟨KeyMap.put c.registry.built (type i).id (type i).describe⟩
        phase := Function.update c.phase i (.finished (type i).describe)
        entries := c.entries ++ [i]
        described := c.described ++ [i] }

theorem stepped (type : ι → EntityType) (c : Shared ι) (i : ι) :
    Stepped type c i (step type c i) := by
  unfold step
  cases hphase : c.phase i with
  | begun =>
    cases hfind : c.registry.find? (type i) with
    | some s => exact .hit hphase hfind
    | none => exact .miss hphase hfind
  | missed =>
    cases hfind : c.registry.find? (type i) with
    | some s =>
      have henter : c.registry.enter (type i) = (s, c.registry) := by simp [enter, hfind]
      simpa [henter] using Stepped.outrun hphase hfind
    | none =>
      have henter : c.registry.enter (type i) = ((type i).describe,
          ⟨KeyMap.put c.registry.built (type i).id (type i).describe⟩) := by
        simp [enter, hfind]
      simpa [henter] using Stepped.enter hphase hfind
  | finished s => exact .idle hphase

-- ---------------------------------------------------------------------------
-- What every step keeps
-- ---------------------------------------------------------------------------

/-- The registry holds for every type the one description that was run for it, and every
finished call has got that. -/
structure Consistent (type : ι → EntityType) (c : Shared ι) : Prop where
  built : ∀ key s, KeyMap.get? c.registry.built key = some s ↔
    ∃ i ∈ c.described, (type i).id = key ∧ (type i).describe = s
  once : (c.described.map fun i => (type i).id).Nodup
  entries : ∀ key, (KeyMap.get? c.registry.built key).isSome ↔ ∃ i ∈ c.entries, (type i).id = key
  finished : ∀ i s, c.phase i = .finished s → c.registry.find? (type i) = some s
  ordered : KeyMap.Ordered c.registry.built

omit [DecidableEq ι] in
theorem consistent_initial (type : ι → EntityType) : Consistent type (initial : Shared ι) where
  built := by simp [initial, Registry.empty, KeyMap.get?]
  once := List.nodup_nil
  entries := by simp [initial, Registry.empty, KeyMap.get?]
  finished := nofun
  ordered := List.Pairwise.nil

/-- An entry is never changed or removed. -/
theorem Stepped.get?_of_get? {c' : Shared ι} (h : Stepped type c i c') {key : String} {s : Schema}
    (hs : KeyMap.get? c.registry.built key = some s) :
    KeyMap.get? c'.registry.built key = some s := by
  cases h with
  | enter _ hvacant =>
    rw [KeyMap.get?_put, if_neg, hs]
    rintro rfl
    cases hs.symm.trans hvacant
  | _ => exact hs

/-- A finished call has the entry of its type. -/
theorem Consistent.finished_update {c' : Shared ι} (h : Consistent type c)
    (hstep : Stepped type c i c') {p : Phase} (hphase : c'.phase = Function.update c.phase i p)
    (hp : ∀ s, p = .finished s → c'.registry.find? (type i) = some s) :
    ∀ j s, c'.phase j = .finished s → c'.registry.find? (type j) = some s := by
  intro j s hj
  rw [hphase] at hj
  by_cases hij : j = i
  · subst hij
    rw [Function.update_self] at hj
    exact hp s hj
  · rw [Function.update_of_ne hij] at hj
    exact hstep.get?_of_get? (h.finished j s hj)

omit [DecidableEq ι] in
theorem exists_mem_concat {p : ι → Prop} {calls : List ι} :
    (∃ j ∈ calls ++ [i], p j) ↔ (∃ j ∈ calls, p j) ∨ p i := by
  simp [or_and_right, exists_or]

omit [DecidableEq ι] in
/-- No call has described a type that is vacant. -/
theorem Consistent.id_ne (h : Consistent type c) (hvacant : c.registry.find? (type i) = none)
    {j : ι} (hj : j ∈ c.described) : (type j).id ≠ (type i).id := by
  intro hid
  have hsome : KeyMap.get? c.registry.built (type i).id = some (type j).describe :=
    (h.built _ _).mpr ⟨j, hj, hid, rfl⟩
  cases hsome.symm.trans hvacant

theorem Consistent.stepped {c' : Shared ι} (h : Consistent type c) (hstep : Stepped type c i c') :
    Consistent type c' := by
  cases hstep with
  | idle => exact h
  | hit hphase hfind =>
    exact { h with
      finished := h.finished_update (.hit hphase hfind) rfl fun s hs => by cases hs; exact hfind }
  | miss hphase hfind =>
    exact { h with finished := h.finished_update (.miss hphase hfind) rfl nofun }
  | outrun hphase hfind =>
    exact { h with
      entries := fun key => by
        rw [exists_mem_concat, ← h.entries]
        refine ⟨.inl, fun hkey => hkey.elim id ?_⟩
        rintro rfl
        exact Option.isSome_iff_exists.mpr ⟨_, hfind⟩
      finished := h.finished_update (.outrun hphase hfind) rfl fun s hs => by
        cases hs
        exact hfind }
  | enter hphase hvacant =>
    refine
      { built := ?_
        once := ?_
        entries := ?_
        finished := h.finished_update (.enter hphase hvacant) rfl ?_
        ordered := KeyMap.ordered_put h.ordered _ _ }
    · intro key s
      rw [exists_mem_concat, ← h.built, KeyMap.get?_put]
      by_cases hkey : key = (type i).id
      · subst hkey
        have hnone : KeyMap.get? c.registry.built (type i).id = none := hvacant
        simp [hnone]
      · simp [hkey, Ne.symm hkey]
    · rw [List.map_append, List.map_cons, List.map_nil, List.nodup_append]
      refine ⟨h.once, List.nodup_singleton _, ?_⟩
      rintro _ hid _ hi rfl
      obtain ⟨j, hj, hid⟩ := List.mem_map.mp hid
      exact h.id_ne hvacant hj (hid.trans (List.mem_singleton.mp hi))
    · intro key
      rw [exists_mem_concat, ← h.entries, KeyMap.get?_put]
      by_cases hkey : key = (type i).id
      · simp [hkey]
      · simp [hkey, Ne.symm hkey]
    · rintro s ⟨⟩
      exact (KeyMap.get?_put ..).trans (if_pos rfl)

-- ---------------------------------------------------------------------------
-- Runs
-- ---------------------------------------------------------------------------

theorem run_concat (type : ι → EntityType) (schedule : List ι) (i : ι) :
    run type (schedule ++ [i]) = step type (run type schedule) i := by
  rw [run, List.foldl_append]
  rfl

theorem consistent_run (type : ι → EntityType) (schedule : List ι) :
    Consistent type (run type schedule) := by
  induction schedule using List.reverseRecOn with
  | nil => exact consistent_initial type
  | append_singleton schedule i ih =>
    rw [run_concat]
    exact ih.stepped (stepped type _ i)

theorem get?_run_append (type : ι → EntityType) (schedule later : List ι) {key : String}
    {s : Schema} (hs : KeyMap.get? (run type schedule).registry.built key = some s) :
    KeyMap.get? (run type (schedule ++ later)).registry.built key = some s := by
  induction later using List.reverseRecOn with
  | nil => rwa [List.append_nil]
  | append_singleton later i ih =>
    rw [← List.append_assoc, run_concat]
    exact (stepped type _ i).get?_of_get? ih

-- ---------------------------------------------------------------------------
-- What a registry tells
-- ---------------------------------------------------------------------------

section
omit [DecidableEq ι]
variable (h : Consistent type c)
include h

/-- There is one entry for each type whose entry step has happened. -/
theorem Consistent.size_eq :
    c.registry.size = (c.entries.map fun i => (type i).id).toFinset.card := by
  have hkeys : (KeyMap.keys c.registry.built).toFinset =
      (c.entries.map fun i => (type i).id).toFinset := by
    ext key
    rw [List.mem_toFinset, List.mem_toFinset, List.mem_map, ← h.entries,
      KeyMap.mem_keys_iff h.ordered]
  rw [← hkeys, List.toFinset_card_of_nodup h.ordered.nodup_keys, KeyMap.keys, List.length_map,
    Registry.size]

theorem Consistent.mem_values {s : Schema} :
    s ∈ c.registry.built.map Prod.snd ↔ ∃ i ∈ c.described, (type i).describe = s := by
  constructor
  · intro hs
    obtain ⟨⟨key, s⟩, hmem, rfl⟩ := List.mem_map.mp hs
    obtain ⟨i, hi, -, hdescribe⟩ :=
      (h.built key s).mp (KeyMap.get?_of_mem h.ordered.nodup_keys hmem)
    exact ⟨i, hi, hdescribe⟩
  · rintro ⟨i, hi, hdescribe⟩
    have hget := (h.built (type i).id s).mpr ⟨i, hi, rfl, hdescribe⟩
    exact List.mem_map_of_mem (KeyMap.mem_of_get? hget)

theorem Consistent.byName?_eq_some {name : String} {s : Schema}
    (hs : c.registry.byName? name = some s) :
    s.entity = name ∧ ∃ i ∈ c.described, (type i).describe = s :=
  ⟨by simpa using List.find?_some hs, h.mem_values.mp (List.mem_of_find?_eq_some hs)⟩

theorem Consistent.isSome_byName? {name : String} :
    (c.registry.byName? name).isSome ↔ ∃ i ∈ c.described, (type i).describe.entity = name := by
  rw [Registry.byName?, List.find?_isSome]
  constructor
  · rintro ⟨s, hs, hname⟩
    obtain ⟨i, hi, rfl⟩ := h.mem_values.mp hs
    exact ⟨i, hi, eq_of_beq hname⟩
  · rintro ⟨i, hi, hname⟩
    exact ⟨_, h.mem_values.mpr ⟨i, hi, rfl⟩, beq_iff_eq.mpr hname⟩

end

-- ---------------------------------------------------------------------------
-- Progress
-- ---------------------------------------------------------------------------

theorem Stepped.taken {c' : Shared ι} (h : Stepped type c i c') (j : ι) :
    min 2 ((c.phase j).taken + if j = i then 1 else 0) ≤ (c'.phase j).taken := by
  by_cases hij : j = i
  · subst hij
    cases h <;> simp_all [Phase.taken]
  · cases h <;> simp [hij, Function.update_of_ne]

theorem min_count_le_taken (type : ι → EntityType) (schedule : List ι) (j : ι) :
    min 2 (schedule.count j) ≤ ((run type schedule).phase j).taken := by
  induction schedule using List.reverseRecOn with
  | nil => simp
  | append_singleton schedule i ih =>
    have hstep := (stepped type (run type schedule) i).taken j
    rw [run_concat, List.count_append, List.count_singleton]
    simp only [beq_iff_eq, eq_comm (a := i)]
    omega

-- ---------------------------------------------------------------------------
-- All interleavings
-- ---------------------------------------------------------------------------

/-- Two steps of a call with no other step between them are a request for the schema. -/
theorem step_step (hphase : c.phase i = .begun) :
    (step type (step type c i) i).registry = (c.registry.schemaFor (type i)).2 ∧
      (step type (step type c i) i).phase i = .finished (c.registry.schemaFor (type i)).1 := by
  cases hfind : c.registry.find? (type i) with
  | some s => simp [step, hphase, hfind, schemaFor]
  | none => simp [step, hphase, hfind, schemaFor]

/-- For any calls and any order of their steps: no type is described more than once; finished
calls for one type have the same schema; entries stay as they are whatever steps come later;
there are as many as types whose entry step has happened; a name leads to a schema of this
name that was described, if there is one; and two steps finish a call. -/
theorem interleavings_describe_once (type : ι → EntityType) (schedule : List ι) :
    let c := run type schedule
    (∀ key, (c.described.map fun i => (type i).id).count key ≤ 1) ∧
    (∀ i j s t, c.phase i = .finished s → c.phase j = .finished t →
      (type i).id = (type j).id → s = t) ∧
    (∀ later key s, KeyMap.get? c.registry.built key = some s →
      KeyMap.get? (run type (schedule ++ later)).registry.built key = some s) ∧
    c.registry.size = (c.entries.map fun i => (type i).id).toFinset.card ∧
    (∀ name, (c.registry.byName? name).isSome ↔
      ∃ i ∈ c.described, (type i).describe.entity = name) ∧
    (∀ name s, c.registry.byName? name = some s →
      s.entity = name ∧ ∃ i ∈ c.described, (type i).describe = s) ∧
    ∀ i, 2 ≤ schedule.count i → ∃ s, c.phase i = .finished s := by
  intro c
  have hc : Consistent type c := consistent_run type schedule
  refine ⟨List.nodup_iff_count_le_one.mp hc.once, ?_,
    fun later key s => get?_run_append type schedule later, hc.size_eq,
    fun name => hc.isSome_byName?, fun name s => hc.byName?_eq_some, ?_⟩
  · intro i j s t hi hj hid
    have hs : KeyMap.get? c.registry.built (type i).id = some s := hc.finished i s hi
    have ht : KeyMap.get? c.registry.built (type j).id = some t := hc.finished j t hj
    rw [hid, ht] at hs
    exact (Option.some.inj hs).symm
  · intro i hi
    exact Phase.eq_finished
      (Nat.le_trans (le_min (Nat.le_refl 2) hi) (min_count_le_taken type schedule i))

end Shared

end RecordQuery.Registry
