import Mathlib.Algebra.Ring.Nat
import RecordQuery.Proofs.Collection.Query
import RecordQuery.Proofs.Collection.Refusals
import RecordQuery.Proofs.Store.Inserts
import RecordQuery.Sample.Heroes

/-!
# The calls of a run

Writes, changes of availability and reads of any collections, one after another on one
store. A read that is refused costs no call and is refused alike on every store; any other
makes its calls, in a number known beforehand, and is answered unless the store is offline.
No read changes a table.
-/

namespace RecordQuery

-- ---------------------------------------------------------------------------
-- Reads
-- ---------------------------------------------------------------------------

/-- How a computation reads a store: it is refused, alike on every store, or it makes its
calls and is answered unless the store is offline. -/
inductive Reads (x : StoreM QueryError α) (fetches : Bool → Nat) (counts : Nat) : Prop
  | refused (e : QueryError) :
    e.isClient = true → (∀ s, x.runOn s = (.error e, s)) → Reads x fetches counts
  | passed (answer : Store → α) :
    (∀ s, x.runOn s =
      (if s.offline then .error (.store Store.offlineError) else .ok (answer s),
        s.charged (fetches s.offline) counts)) → Reads x fetches counts

namespace Reads

/-- What is checked first is checked without the store. -/
theorem check {x : Except QueryError α} {f : α → StoreM QueryError β} (hx : Refuses x)
    (hf : ∀ a, Reads (f a) fetches counts) : Reads (liftM x >>= f) fetches counts := by
  cases x with
  | error e =>
    refine .refused e (hx.isClient e rfl) fun s => ?_
    rw [StoreM.runOn_bind, StoreM.runOn_lift]
  | ok a =>
    have hrun (s : Store) : (liftM (.ok a : Except QueryError α) >>= f).runOn s = (f a).runOn s :=
      StoreM.runOn_bind_ok (StoreM.runOn_lift _)
    cases hf a with
    | refused e he h => exact .refused e he fun s => (hrun s).trans (h s)
    | passed answer h => exact .passed answer fun s => (hrun s).trans (h s)

theorem map {x : StoreM QueryError α} (f : α → β) (hx : Reads x fetches counts) :
    Reads (f <$> x) fetches counts := by
  cases hx with
  | refused e he h =>
    refine .refused e he fun s => ?_
    rw [StoreM.runOn_map, h]
    rfl
  | passed answer h =>
    refine .passed (fun s => f (answer s)) fun s => ?_
    rw [StoreM.runOn_map, h]
    cases s.offline <;> rfl

end Reads

namespace Collection

theorem count_reads (c : Collection) (params : KeyMap Json) (condition : Option Condition) :
    Reads (c.count params condition) (fun _ => 0) 1 :=
  .check (c.compilePredicates_refuses ..) fun _ => .passed _ fun s => runOn_reading_count s ..

theorem getList_reads (c : Collection) (r : ListRequest) :
    Reads (c.getList r) (fun _ => 1) 0 :=
  .check (c.compile_refuses r) fun _ => .passed _ fun s => runOn_reading_fetch s ..

theorem getFirst_reads (c : Collection) (r : ListRequest) :
    Reads (c.getFirst r) (fun _ => 1) 0 := by
  rw [getFirst_eq]
  exact (c.getList_reads _).map _

end Collection

/-- A read of a collection. -/
inductive Read
  | query (q : Query)
  | count (params : KeyMap Json) (condition : Option Condition)
  | any (params : KeyMap Json) (condition : Option Condition)
  | getList (r : ListRequest)
  | getFirst (r : ListRequest)
  | getByKey (pk : String)

inductive Reply
  | page (page : Paged Record)
  | number (n : Nat)
  | flag (b : Bool)
  | rows (rows : List Record)
  | row (row : Option Record)

namespace Read

def run (c : Collection) : Read → StoreM QueryError Reply
  | query q => Reply.page <$> q.run c
  | count params condition => Reply.number <$> c.count params condition
  | any params condition => Reply.flag <$> c.any params condition
  | getList r => Reply.rows <$> c.getList r
  | getFirst r => Reply.row <$> c.getFirst r
  | getByKey pk => Reply.row <$> c.getByKey pk

/-- The fetch calls of a read that is not refused. A query counts before it fetches, and
does not fetch when the count has failed. -/
def fetches (offline : Bool) : Read → Nat
  | query q => if q.counted && offline then 0 else 1
  | count .. => 0
  | any .. => 0
  | getList _ => 1
  | getFirst _ => 1
  | getByKey _ => 1

/-- The count calls of a read that is not refused. -/
def counts : Read → Nat
  | query q => if q.counted then 1 else 0
  | count .. => 1
  | any .. => 1
  | getList _ => 0
  | getFirst _ => 0
  | getByKey _ => 0

theorem run_reads (c : Collection) (r : Read) :
    Reads (r.run c) (fun offline => r.fetches offline) r.counts := by
  cases r with
  | query q =>
    refine .map _ ?_
    rw [Query.run_eq]
    exact .check (c.compile_refuses _) fun compiled =>
      .passed _ fun s => Collection.runOn_execute s c compiled q.counted
  | count params condition => exact (c.count_reads params condition).map _
  | any params condition =>
    refine .map _ ?_
    rw [Collection.any_eq]
    exact (c.count_reads params condition).map _
  | getList r => exact (c.getList_reads r).map _
  | getFirst r => exact (c.getFirst_reads r).map _
  | getByKey pk =>
    exact .map _ (.check (c.keyRequest_refuses pk) fun r => c.getFirst_reads r)

end Read

-- ---------------------------------------------------------------------------
-- What a read may do
-- ---------------------------------------------------------------------------

/-- The outcome is an error of the client. -/
def isRefusal : Except QueryError α → Bool
  | .ok _ => false
  | .error e => e.isClient

/-- What a read may do to the store that it runs on, and what it may answer. -/
structure Read.Lawful (c : Collection) (r : Read) (s : Store)
    (outcome : Except QueryError Reply) (s' : Store) : Prop where
  tables : s'.tables = s.tables
  offline : s'.offline = s.offline
  /-- A refusal costs no call, and neither it nor its error depends on the store. -/
  refused : isRefusal outcome = true → s' = s ∧ ∀ t, (r.run c).runOn t = (outcome, t)
  calls : isRefusal outcome = false →
    s'.fetchCalls = s.fetchCalls + r.fetches s.offline ∧
      s'.countCalls = s.countCalls + r.counts
  unavailable : isRefusal outcome = false → s.offline = true →
    ∃ e : QueryError, outcome = .error e ∧
      e = .store (.unavailable "memory store is offline") ∧ e.status = 500
  available : isRefusal outcome = false → s.offline = false → ∃ reply, outcome = .ok reply

theorem Read.run_lawful (c : Collection) (r : Read) (s : Store) :
    r.Lawful c s ((r.run c).runOn s).1 ((r.run c).runOn s).2 := by
  cases r.run_reads c with
  | refused e he h =>
    rw [h]
    have hrefusal : isRefusal (.error e : Except QueryError Reply) = true := he
    exact {
      tables := rfl
      offline := rfl
      refused := fun _ => ⟨rfl, h⟩
      calls := by simp [hrefusal]
      unavailable := by simp [hrefusal]
      available := by simp [hrefusal] }
  | passed answer h =>
    rw [h]
    have hrefusal : isRefusal (if s.offline then .error (.store Store.offlineError)
        else .ok (answer s) : Except QueryError Reply) = false := by
      cases s.offline <;> rfl
    exact {
      tables := rfl
      offline := rfl
      refused := by simp [hrefusal]
      calls := fun _ => ⟨rfl, rfl⟩
      unavailable := fun _ hs => ⟨.store Store.offlineError, if_pos hs, rfl, rfl⟩
      available := fun _ hs => ⟨answer s, if_neg (by simp [hs])⟩ }

-- ---------------------------------------------------------------------------
-- Runs
-- ---------------------------------------------------------------------------

/-- A call on a store. -/
inductive Call
  | insertRecord (table : String) (record : Record)
  | insert (table : String) (row : Json)
  | insertMany (table : String) (rows : List Json)
  | setOffline (offline : Bool)
  | read (c : Collection) (r : Read)

namespace Call

abbrev Outcome : Call → Type
  | read .. => Except QueryError Reply
  | _ => Except StoreError Unit

def runOn : (call : Call) → Store → call.Outcome × Store
  | insertRecord table record, s => (.ok (), s.insertRecord table record)
  | insert table row, s => (Store.insert table row).runOn s
  | insertMany table rows, s => (Store.insertMany table rows).runOn s
  | setOffline offline, s => (.ok (), s.setOffline offline)
  | read c r, s => (r.run c).runOn s

def isInsert : Call → Bool
  | insertRecord .. => true
  | insert .. => true
  | insertMany .. => true
  | setOffline _ => false
  | read .. => false

end Call

/-- A call in a run, with its outcome and the store before and after it. -/
structure Step where
  before : Store
  call : Call
  outcome : call.Outcome
  after : Store

namespace Step

def of (s : Store) (call : Call) : Step := ⟨s, call, (call.runOn s).1, (call.runOn s).2⟩

/-- What a call may do. An insertion that fails at its first row changes nothing. -/
def Lawful : Step → Prop
  | ⟨s, .insertRecord table record, outcome, s'⟩ =>
    outcome = .ok () ∧ s.Appended table [record] s'
  | ⟨s, .insert table row, outcome, s'⟩ =>
    s.Inserted table [row] outcome s' ∧ ∀ e, outcome = .error e → s' = s
  | ⟨s, .insertMany table rows, outcome, s'⟩ => s.Inserted table rows outcome s'
  | ⟨s, .setOffline offline, outcome, s'⟩ =>
    outcome = .ok () ∧ s'.offline = offline ∧ s'.tables = s.tables ∧
      s'.fetchCalls = s.fetchCalls ∧ s'.countCalls = s.countCalls
  | ⟨s, .read c r, outcome, s'⟩ => r.Lawful c s outcome s'

/-- The fetch calls that a step is charged. -/
def fetches : Step → Nat
  | ⟨s, .read _ r, outcome, _⟩ => if isRefusal outcome then 0 else r.fetches s.offline
  | _ => 0

/-- The count calls that a step is charged. -/
def counts : Step → Nat
  | ⟨_, .read _ r, outcome, _⟩ => if isRefusal outcome then 0 else r.counts
  | _ => 0

end Step

namespace Store

/-- The steps of a run. -/
def steps (s : Store) : List Call → List Step
  | [] => []
  | call :: rest => .of s call :: steps (call.runOn s).2 rest

/-- The store at the end of a run. -/
def final (s : Store) : List Call → Store
  | [] => s
  | call :: rest => final (call.runOn s).2 rest

end Store

-- ---------------------------------------------------------------------------
-- One step
-- ---------------------------------------------------------------------------

theorem Step.of_lawful (s : Store) (call : Call) : (Step.of s call).Lawful := by
  cases call with
  | insertRecord table record => exact ⟨rfl, s.appended_insertRecord table record⟩
  | insert table row => exact ⟨s.insert_inserted table row, fun e h => Store.insert_error h⟩
  | insertMany table rows => exact s.insertMany_inserted table rows
  | setOffline offline => exact ⟨rfl, rfl, rfl, rfl, rfl⟩
  | read c r => exact r.run_lawful c s

theorem Step.of_calls (s : Store) (call : Call) :
    (call.runOn s).2.fetchCalls = s.fetchCalls + (Step.of s call).fetches ∧
      (call.runOn s).2.countCalls = s.countCalls + (Step.of s call).counts := by
  cases call with
  | insertRecord table record => exact ⟨rfl, rfl⟩
  | insert table row => exact (s.insert_inserted table row).calls
  | insertMany table rows => exact (s.insertMany_inserted table rows).calls
  | setOffline offline => exact ⟨rfl, rfl⟩
  | read c r =>
    have hlawful := r.run_lawful c s
    simp only [Call.runOn, Step.of, Step.fetches, Step.counts]
    cases hrefusal : isRefusal ((r.run c).runOn s).1 with
    | true =>
      rw [(hlawful.refused hrefusal).1]
      exact ⟨rfl, rfl⟩
    | false => exact hlawful.calls hrefusal

/-- The tables after a call are those that it makes of the tables before it. -/
theorem Call.runOn_congr {s t : Store} (h : s.tables = t.tables) (call : Call) :
    (call.runOn s).2.tables = (call.runOn t).2.tables := by
  cases call with
  | insertRecord table record => exact Store.insertRecord_congr h table record
  | insert table row => exact Store.insert_congr h table row
  | insertMany table rows => exact Store.insertMany_congr h table rows
  | setOffline offline => exact h
  | read c r => exact ((r.run_lawful c s).tables.trans h).trans (r.run_lawful c t).tables.symm

theorem Call.runOn_tables (s : Store) {call : Call} (h : call.isInsert = false) :
    (call.runOn s).2.tables = s.tables := by
  cases call with
  | setOffline offline => rfl
  | read c r => exact (r.run_lawful c s).tables
  | _ => cases h

-- ---------------------------------------------------------------------------
-- Whole runs
-- ---------------------------------------------------------------------------

namespace Store

theorem steps_lawful (s : Store) (calls : List Call) : ∀ st ∈ s.steps calls, st.Lawful := by
  induction calls generalizing s with
  | nil => exact List.forall_mem_nil _
  | cons call rest ih => exact List.forall_mem_cons.mpr ⟨Step.of_lawful s call, ih _⟩

theorem final_calls (s : Store) (calls : List Call) :
    (s.final calls).fetchCalls = s.fetchCalls + ((s.steps calls).map Step.fetches).sum ∧
      (s.final calls).countCalls = s.countCalls + ((s.steps calls).map Step.counts).sum := by
  induction calls generalizing s with
  | nil => exact ⟨rfl, rfl⟩
  | cons call rest ih =>
    obtain ⟨hfetches, hcounts⟩ := Step.of_calls s call
    obtain ⟨ihfetches, ihcounts⟩ := ih (call.runOn s).2
    simp only [final, steps, List.map_cons, List.sum_cons, ihfetches, ihcounts, hfetches, hcounts,
      Nat.add_assoc, and_self]

/-- The insertions of a run, made on a store with the same tables, lead to the same tables. -/
theorem final_tables {s t : Store} (h : s.tables = t.tables) (calls : List Call) :
    (s.final calls).tables = (t.final (calls.filter Call.isInsert)).tables := by
  induction calls generalizing s t with
  | nil => exact h
  | cons call rest ih =>
    cases hinsert : call.isInsert with
    | true =>
      rw [List.filter_cons_of_pos hinsert]
      exact ih (Call.runOn_congr h call)
    | false =>
      rw [List.filter_cons_of_neg (by simp [hinsert])]
      exact ih ((Call.runOn_tables s hinsert).trans h)

/-- As long as rows are inserted as JSON, none of them has relations. -/
theorem Bare.final {s : Store} (hs : s.Bare) {calls : List Call}
    (h : ∀ table record, .insertRecord table record ∉ calls) : (s.final calls).Bare := by
  induction calls generalizing s with
  | nil => exact hs
  | cons call rest ih =>
    have hstep : (call.runOn s).2.Bare := by
      cases call with
      | insertRecord table record => exact absurd List.mem_cons_self (h table record)
      | insert table row => exact hs.inserted (s.insert_inserted table row)
      | insertMany table rows => exact hs.inserted (s.insertMany_inserted table rows)
      | setOffline offline => exact hs
      | read c r => exact hs.congr (r.run_lawful c s).tables.symm
    exact ih hstep fun table record hmem => h table record (List.mem_cons_of_mem _ hmem)

/-- In every run each call does what it may; without the reads and the changes of
availability the run leads to the same tables; and the counters have grown by the calls of
the reads that were not refused. -/
theorem runs_lawful (s : Store) (calls : List Call) :
    (∀ st ∈ s.steps calls, st.Lawful) ∧
    (s.final calls).tables = (s.final (calls.filter Call.isInsert)).tables ∧
    (s.final calls).fetchCalls = s.fetchCalls + ((s.steps calls).map Step.fetches).sum ∧
    (s.final calls).countCalls = s.countCalls + ((s.steps calls).map Step.counts).sum :=
  ⟨s.steps_lawful calls, final_tables rfl calls, s.final_calls calls⟩

/-- A counted query, first of a store that is online and then of one that is not. -/
example :
    let c : Collection := ⟨"Hero", Sample.heroSchema, {}⟩
    let q : Call := .read c (.query (.flat { count := true } none))
    let s := Sample.store.final [q, .setOffline true, q]
    s.fetchCalls = 1 ∧ s.countCalls = 2 := by
  decide

end Store

end RecordQuery
