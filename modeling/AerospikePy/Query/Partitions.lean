import AerospikePy.Lib.Intervals
import AerospikePy.Query.Stream

/-!
# Partition filters

`types/partition_filter.rs` makes the handles that restrict a query to a range of the
4096 partitions. A query that is split over several handles asks the core, part by part,
for what the whole query asks for.
-/

namespace AerospikePy.Query

open AerospikePy.Core
open AerospikePy.Lib
open AerospikePy.Lib.Fallible
open AerospikePy.Lib.Intervals
open AerospikePy.Policies
open AerospikePy.Python
open AerospikePy.Values

def partitionCount : Nat := 4096

def partitionFilterAll : PartitionFilter := .all

def partitionFilterById (partitionId : PyObj) : Except PyErr PartitionFilter := do
  let partitionId ← extractU64 partitionId
  require (partitionId.toNat < partitionCount) ⟨.valueError,
    s!"partition_id must be in [0, {partitionCount}), got {partitionId}"⟩
  return ⟨partitionId.toNat, 1⟩

/-- `usize::checked_add`. -/
def checkedAdd (a b : UInt64) : Option UInt64 :=
  if a.toNat + b.toNat < 2 ^ 64 then some (a + b) else none

def partitionFilterByRange (start count : PyObj) : Except PyErr PartitionFilter := do
  let start ← extractU64 start
  let count ← extractU64 count
  require (start.toNat < partitionCount) ⟨.valueError,
    s!"begin must be in [0, {partitionCount}), got {start}"⟩
  require (((checkedAdd start count).map fun s => decide (partitionCount < s.toNat)).getD true
      = false)
    ⟨.valueError,
      s!"begin + count must be <= {partitionCount}, got begin={start}, count={count}"⟩
  return ⟨start.toNat, count.toNat⟩

theorem extractU64_int {n : Int} {u : UInt64} :
    extractU64 (.int n) = .ok u ↔ n = u.toNat := by
  rw [extractU64, bind_eq_ok]
  constructor
  · intro h
    obtain ⟨m, hm, hu⟩ := h
    obtain ⟨hn, hlo, hhi⟩ := extractWithin_eq_ok.mp hm
    obtain rfl := Except.ok.inj hn
    obtain rfl := Except.ok.inj hu
    rw [UInt64.toNat_ofNat_of_lt' (by simp [UInt64.size]; omega)]
    omega
  · rintro rfl
    have hlt := u.toNat_lt
    exact ⟨u.toNat, extractWithin_eq_ok.mpr ⟨rfl, by omega, by omega⟩, by simp [pure, Except.pure]⟩

theorem checkedAdd_within {a b : UInt64} :
    ((checkedAdd a b).map fun s => decide (partitionCount < s.toNat)).getD true = false ↔
      a.toNat + b.toNat ≤ partitionCount := by
  unfold checkedAdd
  by_cases h : a.toNat + b.toNat < 2 ^ 64
  · rw [if_pos h]
    simp only [Option.map_some, Option.getD_some, decide_eq_false_iff_not, UInt64.toNat_add,
      Nat.mod_eq_of_lt h]
    omega
  · rw [if_neg h]
    simp only [Option.map_none, Option.getD_none, Bool.true_eq_false, false_iff, partitionCount]
    omega

theorem byRange_eq_ok {start count : Int} {f : PartitionFilter} :
    partitionFilterByRange (.int start) (.int count) = .ok f ↔
      start = f.start ∧ count = f.count ∧ f.start < partitionCount ∧
        f.start + f.count ≤ partitionCount := by
  constructor
  · intro h
    obtain ⟨s, hs, h⟩ := bind_eq_ok.mp h
    obtain ⟨c, hc, h⟩ := bind_eq_ok.mp h
    obtain ⟨_, hlt, h⟩ := bind_eq_ok.mp h
    obtain ⟨_, hsum, h⟩ := bind_eq_ok.mp h
    obtain rfl := Except.ok.inj h
    exact ⟨extractU64_int.mp hs, extractU64_int.mp hc, require_eq_ok.mp hlt,
      checkedAdd_within.mp (require_eq_ok.mp hsum)⟩
  · rintro ⟨rfl, rfl, hlt, hsum⟩
    have hs : f.start < UInt64.size := by simp only [partitionCount, UInt64.size] at *; omega
    have hc : f.count < UInt64.size := by simp only [partitionCount, UInt64.size] at *; omega
    have hstart : (UInt64.ofNat f.start).toNat = f.start := UInt64.toNat_ofNat_of_lt' hs
    have hcount : (UInt64.ofNat f.count).toNat = f.count := UInt64.toNat_ofNat_of_lt' hc
    unfold partitionFilterByRange
    rw [bind_of_eq_ok (extractU64_int.mpr (by rw [hstart])),
      bind_of_eq_ok (extractU64_int.mpr (by rw [hcount])), require_bind (by rwa [hstart]),
      require_bind (checkedAdd_within.mpr (by rwa [hstart, hcount])), hstart, hcount]
    rfl

/-- What `partition_filter_by_range` accepts, and that the handle holds the range. -/
theorem byRange_accepts {start count : Int} :
    (∃ f, partitionFilterByRange (.int start) (.int count) = .ok f) ↔
      0 ≤ start ∧ start < partitionCount ∧ 0 ≤ count ∧ start + count ≤ partitionCount := by
  constructor
  · intro h
    obtain ⟨f, hf⟩ := h
    obtain ⟨hstart, hcount, hlt, hle⟩ := byRange_eq_ok.mp hf
    omega
  · intro h
    obtain ⟨hstart, hlt, hcount, hle⟩ := h
    refine ⟨⟨start.toNat, count.toNat⟩, byRange_eq_ok.mpr ⟨?_, ?_, ?_, ?_⟩⟩ <;> dsimp only <;> omega

/-- A policy dict with the handle of a partition filter in it. -/
def withFilter (policy : Entries) (handle : PyInstance) : Entries :=
  Assoc.insert pyEq policy (.str "partition_filter") (.other handle)

section Policy

variable {crates : PolicyCrates} {rt : Runtime} {policy : Entries} {handle : PyInstance}

theorem getStr_withFilter {key : String} (hkey : "partition_filter" ≠ key) :
    getStr (withFilter policy handle) key = getStr policy key := by
  rw [withFilter, getStr_insert, if_neg hkey]

theorem field_withFilter {α : Type} {key : String} (hkey : "partition_filter" ≠ key)
    (extract : PyObj → Except PyErr α) (current : α) :
    field (withFilter policy handle) key extract current = field policy key extract current := by
  unfold field
  rw [getStr_withFilter hkey]

theorem except_map_bind {E A B C : Type} {x : Except E A} {f : A → Except E B} {g : B → C} :
    (x >>= f).map g = x >>= fun a => (f a).map g := by
  cases x <;> rfl

/-- A handle takes the place of the whole range, and nothing else is read from it. -/
theorem parseQueryPolicy_withFilter {f : PartitionFilter}
    (hhandle : crates.partitionFilter handle = some f)
    (hnone : getStr policy "partition_filter" = none) :
    parseQueryPolicy crates rt (some (withFilter policy handle)) =
      (parseQueryPolicy crates rt (some policy)).map fun p => (p.1, f) := by
  have hleft : parsePartitionFilter crates (withFilter policy handle) = .ok (some f) := by
    rw [parsePartitionFilter, withFilter, getStr_insert, if_pos rfl]
    simp only [hhandle]
  have hright : parsePartitionFilter crates policy = .ok none := by
    rw [parsePartitionFilter, hnone]
  have hfilter : extractFilterExpression rt (withFilter policy handle) =
      extractFilterExpression rt policy := by
    unfold extractFilterExpression
    rw [getStr_withFilter (by decide)]
  have htimeouts (base : BasePolicy) : extractTimeouts (withFilter policy handle) base =
      extractTimeouts policy base := by
    unfold extractTimeouts
    simp (disch := decide) only [field_withFilter]
  have hread (base : BasePolicy) : extractReadSettings (withFilter policy handle) base =
      extractReadSettings policy base := by
    unfold extractReadSettings
    simp (disch := decide) only [field_withFilter]
  unfold parseQueryPolicy
  simp (disch := decide) only [field_withFilter, htimeouts, hread, hfilter, hleft, hright,
    except_map_bind]
  rfl

/-- Without a handle a query covers every partition. -/
theorem parseQueryPolicy_all {p : QueryPolicy × PartitionFilter}
    (hnone : getStr policy "partition_filter" = none)
    (h : parseQueryPolicy crates rt (some policy) = .ok p) : p.2 = .all := by
  iterate 10 obtain ⟨_, -, h⟩ := bind_eq_ok.mp h
  obtain ⟨filter, hfilter, h⟩ := bind_eq_ok.mp h
  rw [parsePartitionFilter, hnone] at hfilter
  obtain rfl := Except.ok.inj hfilter
  obtain rfl := Except.ok.inj h
  rfl

end Policy

section Parts

variable (crates : PolicyCrates) (rt : Runtime) {F : Type} (server : Server F)

/-- The range of a filter. -/
def interval (f : PartitionFilter) : Interval := ⟨f.start, f.count⟩

/-- `partition_filter_by_range` returned this filter, for some integers. -/
def MadeByRange (f : PartitionFilter) : Prop :=
  ∃ start count : Int, partitionFilterByRange (.int start) (.int count) = .ok f

/-- What the core is asked for by a query and by its parts, or what both raise before. -/
def AsksAlike (q : PyQuery) (policy : Entries) : Prop :=
  match q.start crates rt server (some policy) with
  | .error raised => ∀ handle f, crates.partitionFilter handle = some f →
    q.start crates rt server (some (withFilter policy handle)) = .error raised
  | .ok started => ∃ queryPolicy stmt, started = server.query queryPolicy .all stmt ∧
    ∀ handle f, crates.partitionFilter handle = some f →
      q.start crates rt server (some (withFilter policy handle)) =
        .ok (server.query queryPolicy f stmt)

variable {crates server}

theorem within_of_madeByRange {f : PartitionFilter} (h : MadeByRange f) :
    (interval f).first + (interval f).length ≤ partitionCount := by
  obtain ⟨start, count, hf⟩ := h
  exact (byRange_eq_ok.mp hf).2.2.2

theorem start_eq {q : PyQuery} {p : Option Entries} {stmt : Statement F}
    {queryPolicy : QueryPolicy} {f : PartitionFilter}
    (hstmt : q.statement server.filters = .statement stmt)
    (hparse : parseQueryPolicy crates rt p = .ok (queryPolicy, f)) :
    q.start crates rt server p = .ok (server.query queryPolicy f stmt) := by
  rw [PyQuery.start, hstmt]
  dsimp only
  rw [hparse]

variable (crates server)

theorem asksAlike (q : PyQuery) (policy : Entries)
    (hnone : getStr policy "partition_filter" = none) : AsksAlike crates rt server q policy := by
  unfold AsksAlike
  cases hstmt : q.statement server.filters with
  | panicked => simp [PyQuery.start, hstmt]
  | raised e => simp [PyQuery.start, hstmt]
  | statement stmt =>
    cases hparse : parseQueryPolicy crates rt (some policy) with
    | error e =>
      simp only [PyQuery.start, hstmt, hparse]
      intro handle f hf
      rw [parseQueryPolicy_withFilter hf hnone, hparse]
      rfl
    | ok parsed =>
      obtain ⟨queryPolicy, all⟩ := parsed
      obtain rfl : all = .all := parseQueryPolicy_all hnone hparse
      rw [start_eq rt hstmt hparse]
      refine ⟨queryPolicy, stmt, rfl, fun handle f hf => start_eq rt hstmt ?_⟩
      rw [parseQueryPolicy_withFilter hf hnone, hparse]
      rfl

/-- A query that is split over handles asks with each of them for the same statement under
the same policy, and for every partition exactly once when the ranges, in whatever order,
are apart and make up all 4096. -/
theorem query_in_parts (q : PyQuery) (policy : Entries)
    (hnone : getStr policy "partition_filter" = none) :
    (∀ start count : Int, (∃ f, partitionFilterByRange (.int start) (.int count) = .ok f) ↔
      0 ≤ start ∧ start < partitionCount ∧ 0 ≤ count ∧ start + count ≤ partitionCount) ∧
    (∀ start count f, partitionFilterByRange (.int start) (.int count) = .ok f →
      start = f.start ∧ count = f.count) ∧
    AsksAlike crates rt server q policy ∧
    ∀ filters : List PartitionFilter, (∀ f ∈ filters, MadeByRange f) →
      ((∀ p < partitionCount, (filters.countP fun f => (interval f).covers p) = 1) ↔
        (filters.Pairwise fun f g => (interval f).Apart (interval g)) ∧
          (filters.map (·.count)).sum = partitionCount) := by
  refine ⟨fun _ _ => byRange_accepts, fun start count f hf => ?_,
    asksAlike crates rt server q policy hnone, fun filters hfilters => ?_⟩
  · obtain ⟨hstart, hcount, -, -⟩ := byRange_eq_ok.mp hf
    exact ⟨hstart, hcount⟩
  · have honce := @covers_once_iff partitionCount (filters.map interval) fun s hs => by
      obtain ⟨f, hf, rfl⟩ := List.mem_map.mp hs
      exact within_of_madeByRange (hfilters f hf)
    rw [List.pairwise_map, List.map_map] at honce
    simp only [List.countP_map] at honce
    exact honce

end Parts

/-- One record in each partition. -/
def oneEach : Server Predicate where
  filters := plainFilters
  query _ f _ := .stream ((List.range' f.start f.count).map fun p =>
    .record ⟨none, [("n", .int (.ofNat p))], 1, 0, List.nodup_singleton "n"⟩)

/-- The crate with two handles alive, for a quarter of the partitions and for the rest. -/
def twoHandles : PolicyCrates :=
  { PolicyCrates.default with
    partitionFilter := fun i => if i.id = 0 then some ⟨0, 1024⟩ else some ⟨1024, 3072⟩ }

/-- The rest of the partitions and then a quarter of them, under a policy with a setting. -/
theorem query_in_parts_quarter :
    AsksAlike twoHandles .plain oneEach (.new "test" "demo") [(.str "max_retries", .int 5)] ∧
    ∀ p < partitionCount,
      ([⟨1024, 3072⟩, ⟨0, 1024⟩].countP fun f => (interval f).covers p) = 1 := by
  obtain ⟨-, -, hasks, hparts⟩ := query_in_parts twoHandles .plain oneEach
    (.new "test" "demo") [(.str "max_retries", .int 5)] rfl
  refine ⟨hasks, (hparts [⟨1024, 3072⟩, ⟨0, 1024⟩] ?_).mpr ⟨?_, rfl⟩⟩
  · refine List.forall_mem_cons.mpr ⟨⟨1024, 3072, byRange_eq_ok.mpr (by decide)⟩, ?_⟩
    exact List.forall_mem_singleton.mpr ⟨0, 1024, byRange_eq_ok.mpr (by decide)⟩
  · refine List.pairwise_pair.mpr fun p hp => ?_
    have hlow := (of_decide_eq_true hp).1
    refine decide_eq_false fun h => ?_
    simp only [interval] at hlow h
    omega

end AerospikePy.Query
