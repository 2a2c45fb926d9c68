import AerospikePy.Lib.Runs
import AerospikePy.Query.Predicates

/-!
# The query object

`select` and `where` add to a query one by one, and a call that fails keeps what it has
added before. Whatever calls were made, the statement asks for what they accepted.
-/

namespace AerospikePy.Query

open AerospikePy.Core
open AerospikePy.Expressions (validateBinName)
open AerospikePy.Lib
open AerospikePy.Lib.Fallible
open AerospikePy.Python
open AerospikePy.Values

structure PyQuery where
  namespaceName : String
  setName : String
  bins : List String
  predicates : List Predicate

def PyQuery.new (namespaceName setName : String) : PyQuery := ⟨namespaceName, setName, [], []⟩

variable (rt : Runtime) (repr : Batch.Repr)

def selectName (bin : PyObj) : Except PyErr String := do
  let name ← extractString bin
  validateBinName name
  return name

/-- The loop of `select`; `self.bins` is pushed to as the loop goes. -/
def PyQuery.select (q : PyQuery) : List PyObj → Except PyErr Unit × PyQuery
  | [] => (.ok (), q)
  | bin :: bins => match selectName bin with
    | .error e => (.error e, q)
    | .ok name => PyQuery.select { q with bins := q.bins ++ [name] } bins

def PyQuery.where_ (q : PyQuery) (predicate : PyObj) : Except PyErr Unit × PyQuery :=
  match castTuple predicate >>= parsePredicate rt repr with
  | .error e => (.error e, q)
  | .ok pred => (.ok (), { q with predicates := q.predicates ++ [pred] })

inductive Call where
  | select (bins : List PyObj)
  | where_ (predicate : PyObj)

def PyQuery.perform (q : PyQuery) : Call → Except PyErr Unit × PyQuery
  | .select bins => q.select bins
  | .where_ predicate => q.where_ rt repr predicate

/-- A call may fail, but it always leaves a query. -/
def step (q : PyQuery) (call : Call) : Option PyQuery := some (q.perform rt repr call).2

/-- The statement that `results` and `foreach` execute. -/
def PyQuery.statement {F : Type} (crate : FilterCrate F) (q : PyQuery) : Built F :=
  buildStatement crate q.namespaceName q.setName q.bins q.predicates

/-- The names before the first one that is refused. -/
def acceptedNames : List PyObj → List String
  | .str (.utf8 name) :: bins => if name = "" then [] else name :: acceptedNames bins
  | _ => []

/-- A call that does not raise. -/
def Call.Accepted : Call → Prop
  | .select bins => ∀ bin ∈ bins, ∃ name : String, bin = .str name ∧ name ≠ ""
  | .where_ predicate => ∃ xs pred, predicate = .tuple xs ∧ Describes rt xs pred

/-- The names and the predicates that a call adds to a query. -/
inductive Adds : Call → List String × List Predicate → Prop where
  | select (bins : List PyObj) : Adds (.select bins) (acceptedNames bins, [])
  | where_ {xs : List PyObj} {pred : Predicate} (h : Describes rt xs pred) :
      Adds (.where_ (.tuple xs)) ([], [pred])
  | refused {predicate : PyObj} (h : ¬ (Call.where_ predicate).Accepted rt) :
      Adds (.where_ predicate) ([], [])

theorem selectName_eq_ok {bin : PyObj} {name : String} :
    selectName bin = .ok name ↔ bin = .str name ∧ name ≠ "" := by
  rw [selectName, bind_eq_ok]
  constructor
  · intro h
    obtain ⟨s, hs, h⟩ := h
    obtain ⟨_, hname, h⟩ := bind_eq_ok.mp h
    obtain rfl := Except.ok.inj h
    exact ⟨extractString_eq_ok.mp hs, validateBinName_eq_ok.mp hname⟩
  · intro h
    obtain ⟨rfl, hname⟩ := h
    exact ⟨name, rfl, bind_of_eq_ok (validateBinName_eq_ok (u := ()).mpr hname) _⟩

theorem acceptedNames_cons (bin : PyObj) (bins : List PyObj) :
    acceptedNames (bin :: bins) = match selectName bin with
      | .error _ => []
      | .ok name => name :: acceptedNames bins := by
  cases hname : selectName bin with
  | ok name =>
    obtain ⟨rfl, hne⟩ := selectName_eq_ok.mp hname
    rw [acceptedNames, if_neg hne]
  | error e =>
    have hno : ∀ name : String, bin = .str name → name = "" := by
      intro name hbin
      refine not_not.mp fun hne => ?_
      rw [selectName_eq_ok.mpr ⟨hbin, hne⟩] at hname
      cases hname
    unfold acceptedNames
    split
    · next name _ heq =>
      obtain ⟨rfl, -⟩ := List.cons.inj heq
      rw [if_pos (hno name rfl)]
    · rfl

theorem select_snd (q : PyQuery) (bins : List PyObj) :
    (q.select bins).2 = { q with bins := q.bins ++ acceptedNames bins } := by
  induction bins generalizing q with
  | nil => simp [PyQuery.select, acceptedNames]
  | cons bin bins ih =>
    rw [PyQuery.select, acceptedNames_cons]
    cases selectName bin with
    | error e => simp
    | ok name => simp [ih]

theorem select_accepted {q : PyQuery} {bins : List PyObj} :
    (q.select bins).1 = .ok () ↔ (Call.select bins).Accepted rt := by
  induction bins generalizing q with
  | nil => exact iff_of_true rfl (List.forall_mem_nil _)
  | cons bin bins ih =>
    rw [PyQuery.select, Call.Accepted, List.forall_mem_cons]
    cases hname : selectName bin with
    | error e =>
      refine iff_of_false nofun fun h => ?_
      obtain ⟨name, hbin⟩ := h.1
      rw [selectName_eq_ok.mpr hbin] at hname
      cases hname
    | ok name => exact ih.trans (and_iff_right ⟨name, selectName_eq_ok.mp hname⟩).symm

theorem where_accepted {predicate : PyObj} :
    (∃ pred, castTuple predicate >>= parsePredicate rt repr = .ok pred) ↔
      (Call.where_ predicate).Accepted rt := by
  constructor
  · intro h
    obtain ⟨pred, h⟩ := h
    obtain ⟨xs, hcast, hxs⟩ := bind_eq_ok.mp h
    exact ⟨xs, pred, castTuple_eq_ok.mp hcast, parsePredicate_eq_ok.mp hxs⟩
  · intro h
    obtain ⟨xs, pred, rfl, hxs⟩ := h
    exact ⟨pred, parsePredicate_eq_ok.mpr hxs⟩

theorem perform_accepted (q : PyQuery) (call : Call) :
    (q.perform rt repr call).1 = .ok () ↔ call.Accepted rt := by
  cases call with
  | select bins => exact select_accepted rt
  | where_ predicate =>
    rw [← where_accepted rt repr, PyQuery.perform, PyQuery.where_]
    cases castTuple predicate >>= parsePredicate rt repr with
    | error e => simp
    | ok pred => simp

/-- A call adds the names and the predicate it accepted, and nothing else changes. -/
theorem perform_snd (q : PyQuery) (call : Call) : ∃ added, Adds rt call added ∧
    (q.perform rt repr call).2 =
      { q with bins := q.bins ++ added.1, predicates := q.predicates ++ added.2 } := by
  cases call with
  | select bins => exact ⟨_, .select bins, by simp [PyQuery.perform, select_snd]⟩
  | where_ predicate =>
    cases hparse : castTuple predicate >>= parsePredicate rt repr with
    | error e =>
      refine ⟨([], []), .refused fun h => ?_, by simp [PyQuery.perform, PyQuery.where_, hparse]⟩
      obtain ⟨pred, hpred⟩ := (where_accepted rt repr).mpr h
      rw [hparse] at hpred
      cases hpred
    | ok pred =>
      obtain ⟨xs, hcast, hxs⟩ := bind_eq_ok.mp hparse
      obtain rfl := castTuple_eq_ok.mp hcast
      exact ⟨([], [pred]), .where_ (parsePredicate_eq_ok.mp hxs),
        by simp [PyQuery.perform, PyQuery.where_, hparse]⟩

/-- What a query holds after a list of calls. -/
structure Holds (calls : List Call) (start q : PyQuery)
    (added : List (List String × List Predicate)) : Prop where
  adds : List.Forall₂ (Adds rt) calls added
  namespaceName : q.namespaceName = start.namespaceName
  setName : q.setName = start.setName
  bins : q.bins = start.bins ++ added.flatMap (·.1)
  predicates : q.predicates = start.predicates ++ added.flatMap (·.2)

theorem run_holds {calls : List Call} {start q : PyQuery}
    (h : Runs.run (step rt repr) start calls = some q) : ∃ added, Holds rt calls start q added := by
  induction calls generalizing start with
  | nil =>
    obtain rfl := Option.some.inj h
    exact ⟨[], .nil, rfl, rfl, by simp, by simp⟩
  | cons call calls ih =>
    obtain ⟨mid, hmid, hrest⟩ := Option.bind_eq_some_iff.mp h
    obtain rfl := Option.some.inj hmid
    obtain ⟨new, hnew, hstep⟩ := perform_snd rt repr start call
    obtain ⟨added, hadds, hns, hset, hbins, hpreds⟩ := ih hrest
    rw [hstep] at hns hset hbins hpreds
    exact ⟨new :: added, .cons hnew hadds, hns, hset, by simpa using hbins, by simpa using hpreds⟩

/-- The number that stands for an index type in Python. -/
def indexCode : CollectionIndexType → Int
  | .default => 0
  | .list => 1
  | .mapKeys => 2
  | .mapValues => 3

theorem indexCode_of_accepted {colType : Int} (h : 0 ≤ colType ∧ colType ≤ 3) :
    indexCode (intToCollectionIndexType colType) = colType := by
  obtain rfl | rfl | rfl | rfl : colType = 0 ∨ colType = 1 ∨ colType = 2 ∨ colType = 3 := by
    omega
  all_goals rfl

section Statement

variable {F : Type} (crate : FilterCrate F)

/-- The filter that a predicate asks for. A geo predicate has none. -/
inductive FilterOf : Predicate → F → Prop where
  | equals {bin : String} {val : Value} {f : F} (h : crate.equal bin val = some f) :
      FilterOf (.equals bin val) f
  | between (bin : String) (min max : Int64) :
      FilterOf (.between bin min max) (crate.range bin min max)
  | containsString (bin v : String) (ct : CollectionIndexType) :
      FilterOf (.containsString bin v (indexCode ct)) (crate.containsString bin v ct)
  | containsInteger (bin : String) (v : Int64) (ct : CollectionIndexType) :
      FilterOf (.containsInteger bin v (indexCode ct)) (crate.containsInteger bin v ct)

def Predicate.isGeo : Predicate → Bool
  | .geoWithinRegion .. | .geoWithinRadius .. | .geoContainsPoint .. => true
  | _ => false

/-- `Filter::equal` takes every value of a type that the server has indexes for. -/
def TakesIndexable : Prop := ∀ bin val, Indexable val → ∃ f, crate.equal bin val = some f

/-- What a tuple describes has a filter, unless it is a geo predicate. -/
theorem exists_filter (hcrate : TakesIndexable crate) {tuple : List PyObj} {pred : Predicate}
    (h : Describes rt tuple pred) (hgeo : pred.isGeo = false) :
    ∃ f, FilterOf crate pred f ∧ ∀ stmt rest, addFilters crate stmt (pred :: rest) =
      addFilters crate { stmt with filters := stmt.filters ++ [f] } rest := by
  cases h with
  | @equals bin _ val _ _ _ hkind =>
    obtain ⟨f, hf⟩ := hcrate bin val hkind
    exact ⟨f, .equals hf, fun stmt rest => by rw [addFilters, hf]⟩
  | between => exact ⟨_, .between _ _ _, fun _ _ => rfl⟩
  | @containsInteger bin _ _ colType v _ _ _ hrange =>
    refine ⟨_, ?_, fun _ _ => rfl⟩
    have hfilter := @FilterOf.containsInteger F crate bin v
      (intToCollectionIndexType colType)
    rwa [indexCode_of_accepted hrange] at hfilter
  | @containsString bin _ colType v _ _ _ hrange =>
    refine ⟨_, ?_, fun _ _ => rfl⟩
    have hfilter := @FilterOf.containsString F crate bin v
      (intToCollectionIndexType colType)
    rwa [indexCode_of_accepted hrange] at hfilter
  | geoWithinRegion | geoWithinRadius | geoContainsPoint => cases hgeo

theorem addFilters_of_geo {pred : Predicate} (h : pred.isGeo = true) (stmt : Statement F)
    (rest : List Predicate) : addFilters crate stmt (pred :: rest) = .raised geoUnsupported := by
  cases pred <;> first | rfl | cases h

/-- Either a predicate is a geo predicate and the statement is refused, or there is one
filter for each predicate, in their order. -/
theorem addFilters_spec (hcrate : TakesIndexable crate) {preds : List Predicate}
    (h : ∀ pred ∈ preds, ∃ tuple, Describes rt tuple pred) (stmt : Statement F) :
    ((∃ pred ∈ preds, pred.isGeo = true) ∧
      addFilters crate stmt preds = .raised geoUnsupported) ∨
    ((∀ pred ∈ preds, pred.isGeo = false) ∧ ∃ filters,
      List.Forall₂ (FilterOf crate) preds filters ∧ addFilters crate stmt preds =
        .statement { stmt with filters := stmt.filters ++ filters }) := by
  induction preds generalizing stmt with
  | nil => exact .inr ⟨by simp, [], .nil, by simp [addFilters]⟩
  | cons pred preds ih =>
    obtain ⟨⟨tuple, hhead⟩, hpreds⟩ := List.forall_mem_cons.mp h
    by_cases hgeo : pred.isGeo = true
    · exact .inl ⟨⟨pred, List.mem_cons_self, hgeo⟩, addFilters_of_geo crate hgeo stmt preds⟩
    · have hplain := Bool.eq_false_iff.mpr hgeo
      obtain ⟨f, hf, hadd⟩ := exists_filter rt crate hcrate hhead hplain
      rw [hadd]
      rcases ih hpreds { stmt with filters := stmt.filters ++ [f] } with
        ⟨hsome, heq⟩ | ⟨hall, fs, hfs, heq⟩
      · obtain ⟨p, hp, hpgeo⟩ := hsome
        exact .inl ⟨⟨p, List.mem_cons_of_mem pred hp, hpgeo⟩, heq⟩
      · refine .inr ⟨List.forall_mem_cons.mpr ⟨hplain, hall⟩, f :: fs, .cons hf hfs, ?_⟩
        rw [heq]
        simp

end Statement

/-- What executing a query asks of the server, after calls that added this to it. -/
structure Executes {F : Type} (crate : FilterCrate F) (namespaceName setName : String)
    (added : List (List String × List Predicate)) (built : Built F) : Prop where
  refused : (∃ pred ∈ added.flatMap (·.2), pred.isGeo = true) → built = .raised geoUnsupported
  asked : (∀ pred ∈ added.flatMap (·.2), pred.isGeo = false) → ∃ filters,
    List.Forall₂ (FilterOf crate) (added.flatMap (·.2)) filters ∧
      built = .statement ⟨namespaceName, setName,
        if added.flatMap (·.1) = [] then .all else .some (added.flatMap (·.1)), filters⟩

theorem exists_describes {calls : List Call} {added : List (List String × List Predicate)}
    (h : List.Forall₂ (Adds rt) calls added) :
    ∀ pred ∈ added.flatMap (·.2), ∃ tuple, Describes rt tuple pred := by
  intro pred hpred
  obtain ⟨new, hnew, hmem⟩ := List.mem_flatMap.mp hpred
  obtain ⟨call, -, hadds⟩ := exists_mem_of_forall₂ h.flip hnew
  cases hadds with
  | select => cases hmem
  | refused => cases hmem
  | where_ hdescribes =>
    obtain rfl := List.mem_singleton.mp hmem
    exact ⟨_, hdescribes⟩

/-- Whatever is called on a query, in any order and with any failures, its statement names
the accepted bins and has one filter for each accepted predicate. Building it never panics. -/
theorem statement_of_calls {F : Type} (crate : FilterCrate F) (hcrate : TakesIndexable crate)
    (namespaceName setName : String) (calls : List Call) (q : PyQuery)
    (hrun : Runs.run (step rt repr) (.new namespaceName setName) calls = some q) :
    (∀ q' call, (PyQuery.perform rt repr q' call).1 = .ok () ↔ call.Accepted rt) ∧
    ∃ added, List.Forall₂ (Adds rt) calls added ∧
      Executes crate namespaceName setName added (q.statement crate) := by
  refine ⟨perform_accepted rt repr, ?_⟩
  obtain ⟨added, hadds, hns, hset, hbins, hpreds⟩ := run_holds rt repr hrun
  rw [PyQuery.new, List.nil_append] at hpreds hbins
  have hspec := addFilters_spec rt crate hcrate (exists_describes rt hadds)
    ⟨q.namespaceName, q.setName, if q.bins.isEmpty then .all else .some q.bins, []⟩
  have hstmt : q.statement crate = addFilters crate
      ⟨q.namespaceName, q.setName, if q.bins.isEmpty then .all else .some q.bins, []⟩
      (added.flatMap (·.2)) := by
    rw [PyQuery.statement, buildStatement, hpreds]
  rw [← hstmt] at hspec
  refine ⟨added, hadds, ?_, ?_⟩
  · intro hgeo
    rcases hspec with ⟨-, heq⟩ | ⟨hall, -⟩
    · exact heq
    · obtain ⟨pred, hpred, htrue⟩ := hgeo
      exact absurd htrue (by simp [hall pred hpred])
  · intro hall
    rcases hspec with ⟨hsome, -⟩ | ⟨-, filters, hfilters, heq⟩
    · obtain ⟨pred, hpred, htrue⟩ := hsome
      exact absurd htrue (by simp [hall pred hpred])
    · refine ⟨filters, hfilters, ?_⟩
      rw [heq, hns, hset, hbins, List.nil_append]
      simp only [PyQuery.new, List.isEmpty_iff]

/-- Filters as the predicates they come from. -/
def plainFilters : FilterCrate Predicate where
  equal bin val := match val with
    | .int _ | .string _ | .blob _ => some (.equals bin val)
    | _ => none
  range := .between
  containsString bin v ct := .containsString bin v (indexCode ct)
  containsInteger bin v ct := .containsInteger bin v (indexCode ct)

theorem takesIndexable_plainFilters : TakesIndexable plainFilters := by
  intro bin val h
  cases val <;> first | exact ⟨_, rfl⟩ | cases h

/-- A `select` that fails at its second name, a predicate, and another `select`. -/
theorem statement_of_calls_failed_select :
    (∀ q' call, (PyQuery.perform .plain (fun _ => .ok "3") q' call).1 = .ok () ↔
      call.Accepted .plain) ∧
    ∃ added, List.Forall₂ (Adds .plain)
      [.select [.str "age", .int 3, .str "id"],
        .where_ (.tuple [.str "between", .str "age", .int 1, .int 9]), .select [.str "name"]]
      added ∧ Executes plainFilters "test" "demo" added
        (.statement ⟨"test", "demo", .some ["age", "name"], [.between "age" 1 9]⟩) :=
  statement_of_calls .plain (fun _ => .ok "3") plainFilters takesIndexable_plainFilters
    "test" "demo" _ ⟨"test", "demo", ["age", "name"], [.between "age" 1 9]⟩ rfl

end AerospikePy.Query
