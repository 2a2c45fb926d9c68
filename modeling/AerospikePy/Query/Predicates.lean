import AerospikePy.Batch.Handle
import AerospikePy.Expressions.Convert

/-!
# Predicates and statements

`query.rs`: a predicate tuple is checked when it is added to a query, and turned into a
filter of the core when the statement is built. `predicates.py` makes the tuples.
-/

namespace AerospikePy.Query

open AerospikePy.Core
open AerospikePy.Expressions (validateBinName)
open AerospikePy.Lib.Fallible
open AerospikePy.Python
open AerospikePy.Values

inductive Predicate where
  | equals (bin : String) (val : Value)
  | between (bin : String) (min max : Int64)
  | containsString (bin val : String) (colType : Int)
  | containsInteger (bin : String) (val : Int64) (colType : Int)
  | geoWithinRegion (bin geojson : String)
  | geoWithinRadius (bin : String) (lat lng radius : F64)
  | geoContainsPoint (bin geojson : String)
  deriving Repr

section Parsing

variable (rt : Runtime) (repr : Batch.Repr)

def ensurePredicateMinLen (pred : List PyObj) (kind : String) (minLen : Nat) :
    Except PyErr Unit :=
  require (minLen ≤ pred.length) ⟨.invalidArgError,
    s!"Predicate '{kind}' requires at least {minLen} elements, got {pred.length}"⟩

/-- `item.repr()`, and what stands for it when it fails. -/
def reprOr (item : PyObj) : String :=
  match repr item with
  | .ok text => text
  | .error _ => "<unrepresentable>"

/-- Every failure of the extraction has the one message. -/
def extractRangeBound (item : PyObj) (bound : String) : Except PyErr Int64 :=
  match extractI64 item with
  | .ok n => .ok n
  | .error _ => .error ⟨.invalidArgError, "Predicate 'between' requires integer bounds; the "
      ++ s!"'{bound}' value {reprOr repr item} is not an integer. Aerospike secondary-index "
      ++ "range queries support integers only."⟩

def validateEqualsValue (val : Value) (item : PyObj) : Except PyErr Unit :=
  match val with
  | .int _ | .string _ | .blob _ => .ok ()
  | _ => .error ⟨.invalidArgError, s!"Predicate 'equals' value {reprOr repr item} has an "
      ++ "unsupported type. Aerospike secondary-index equality filters accept only integers, "
      ++ "strings, or bytes."⟩

def validateCollectionIndexType (val : Int) : Except PyErr Unit :=
  require (0 ≤ val ∧ val ≤ 3) ⟨.invalidArgError, s!"Predicate 'contains' index_type {val} is "
    ++ "invalid; expected one of INDEX_TYPE_DEFAULT (0), INDEX_TYPE_LIST (1), "
    ++ "INDEX_TYPE_MAPKEYS (2), or INDEX_TYPE_MAPVALUES (3)."⟩

def tooFewElements (pred : List PyObj) : PyErr :=
  ⟨.invalidArgError, "Predicate tuple must have at least 3 elements (kind, bin, value, ...), "
    ++ s!"got {pred.length}"⟩

/-- The elements after the kind and the bin; `pred` is the whole tuple. -/
def parseArguments (pred : List PyObj) (kind bin : String) (item : PyObj) (rest : List PyObj) :
    Except PyErr Predicate :=
  match kind with
  | "equals" => do
    let val ← pyToValue rt item
    validateEqualsValue repr val item
    return .equals bin val
  | "between" => do
    ensurePredicateMinLen pred "between" 4
    let min ← extractRangeBound repr item "begin"
    let max ← extractRangeBound repr (rest.getD 0 .none) "end"
    return .between bin min max
  | "contains" => do
    ensurePredicateMinLen pred "contains" 4
    let colType ← extractI32 item
    validateCollectionIndexType colType
    let valAny := rest.getD 0 .none
    match extractI64 valAny with
    | .ok v => return .containsInteger bin v colType
    | .error _ => do
      let v ← extractString valAny
      return .containsString bin v colType
  | "geo_within_geojson_region" => do
    let geojson ← extractString item
    return .geoWithinRegion bin geojson
  | "geo_within_radius" => do
    ensurePredicateMinLen pred "geo_within_radius" 5
    let lat ← extractF64 item
    let lng ← extractF64 (rest.getD 0 .none)
    let radius ← extractF64 (rest.getD 1 .none)
    return .geoWithinRadius bin lat lng radius
  | "geo_contains_geojson_point" => do
    let geojson ← extractString item
    return .geoContainsPoint bin geojson
  | kind => .error ⟨.invalidArgError, s!"Unknown predicate type: {kind}"⟩

def parsePredicate (pred : List PyObj) : Except PyErr Predicate :=
  match pred with
  | kindItem :: binItem :: item :: rest => do
    let kind ← extractString kindItem
    let bin ← extractString binItem
    validateBinName bin
    parseArguments rt repr pred kind bin item rest
  | _ => .error (tooFewElements pred)

end Parsing

inductive CollectionIndexType where
  | default | list | mapKeys | mapValues
  deriving DecidableEq, Repr

def intToCollectionIndexType (val : Int) : CollectionIndexType :=
  match val with
  | 1 => .list
  | 2 => .mapKeys
  | 3 => .mapValues
  | _ => .default

/-- `aerospike_core::Bins`, as far as a query uses it. -/
inductive Bins where
  | all
  | some (names : List String)
  deriving DecidableEq, Repr

/-- `aerospike_core::Statement`; `F` stands for the filters. -/
structure Statement (F : Type) where
  namespaceName : String
  setName : String
  bins : Bins
  filters : List F

/-- What lies outside the source: the constructors of `aerospike_core::query::Filter`.
`Filter::equal` asserts a type of value, and `none` is the panic. -/
structure FilterCrate (F : Type) where
  equal : String → Value → Option F
  range : String → Int64 → Int64 → F
  containsString : String → String → CollectionIndexType → F
  containsInteger : String → Int64 → CollectionIndexType → F

/-- What building a statement comes to. -/
inductive Built (F : Type) where
  | statement (stmt : Statement F)
  | raised (e : PyErr)
  | panicked

def geoUnsupported : PyErr :=
  ⟨.clientError, "Geo filters are not yet supported in this version"⟩

section Statements

variable {F : Type} (crate : FilterCrate F)

/-- The filters in order; the first predicate without one ends the traversal. -/
def addFilters (stmt : Statement F) : List Predicate → Built F
  | [] => .statement stmt
  | pred :: rest => match pred with
    | .equals bin val => match crate.equal bin val with
      | some filter => addFilters { stmt with filters := stmt.filters ++ [filter] } rest
      | none => .panicked
    | .between bin min max =>
      addFilters { stmt with filters := stmt.filters ++ [crate.range bin min max] } rest
    | .containsString bin val colType =>
      let ct := intToCollectionIndexType colType
      addFilters { stmt with filters := stmt.filters ++ [crate.containsString bin val ct] } rest
    | .containsInteger bin val colType =>
      let ct := intToCollectionIndexType colType
      addFilters { stmt with filters := stmt.filters ++ [crate.containsInteger bin val ct] } rest
    | .geoWithinRegion .. | .geoWithinRadius .. | .geoContainsPoint .. => .raised geoUnsupported

def buildStatement (namespaceName setName : String) (bins : List String)
    (predicates : List Predicate) : Built F :=
  let binsSelector := if bins.isEmpty then .all else .some bins
  addFilters crate ⟨namespaceName, setName, binsSelector, []⟩ predicates

end Statements

/-- The values that the assertion of `Filter::equal` lets through. -/
def Indexable : Value → Prop
  | .int _ | .string _ | .blob _ => True
  | _ => False

/-- A predicate tuple and what it is accepted as. Elements beyond those are ignored. -/
inductive Describes (rt : Runtime) : List PyObj → Predicate → Prop where
  | equals {bin : String} {item : PyObj} {val : Value} {rest : List PyObj} (hbin : bin ≠ "")
      (hval : pyToValue rt item = .ok val) (hkind : Indexable val) :
      Describes rt (.str "equals" :: .str bin :: item :: rest) (.equals bin val)
  | between {bin : String} {lo hi : PyObj} {min max : Int64} {rest : List PyObj} (hbin : bin ≠ "")
      (hmin : extractI64 lo = .ok min) (hmax : extractI64 hi = .ok max) :
      Describes rt (.str "between" :: .str bin :: lo :: hi :: rest) (.between bin min max)
  | containsInteger {bin : String} {index item : PyObj} {colType : Int} {v : Int64}
      {rest : List PyObj} (hbin : bin ≠ "") (hindex : extractI32 index = .ok colType)
      (hrange : 0 ≤ colType ∧ colType ≤ 3) (hval : extractI64 item = .ok v) :
      Describes rt (.str "contains" :: .str bin :: index :: item :: rest)
        (.containsInteger bin v colType)
  | containsString {bin : String} {index : PyObj} {colType : Int} {v : String}
      {rest : List PyObj} (hbin : bin ≠ "") (hindex : extractI32 index = .ok colType)
      (hrange : 0 ≤ colType ∧ colType ≤ 3) :
      Describes rt (.str "contains" :: .str bin :: index :: .str v :: rest)
        (.containsString bin v colType)
  | geoWithinRegion {bin geojson : String} {rest : List PyObj} (hbin : bin ≠ "") :
      Describes rt (.str "geo_within_geojson_region" :: .str bin :: .str geojson :: rest)
        (.geoWithinRegion bin geojson)
  | geoWithinRadius {bin : String} {x y z : PyObj} {lat lng radius : F64} {rest : List PyObj}
      (hbin : bin ≠ "") (hlat : extractF64 x = .ok lat) (hlng : extractF64 y = .ok lng)
      (hradius : extractF64 z = .ok radius) :
      Describes rt (.str "geo_within_radius" :: .str bin :: x :: y :: z :: rest)
        (.geoWithinRadius bin lat lng radius)
  | geoContainsPoint {bin geojson : String} {rest : List PyObj} (hbin : bin ≠ "") :
      Describes rt (.str "geo_contains_geojson_point" :: .str bin :: .str geojson :: rest)
        (.geoContainsPoint bin geojson)

section Accepted

variable {rt : Runtime} {repr : Batch.Repr}

theorem extractRangeBound_eq_ok {item : PyObj} {bound : String} {n : Int64} :
    extractRangeBound repr item bound = .ok n ↔ extractI64 item = .ok n := by
  unfold extractRangeBound
  cases extractI64 item <;> simp

theorem validateEqualsValue_eq_ok {val : Value} {item : PyObj} {u : Unit} :
    validateEqualsValue repr val item = .ok u ↔ Indexable val := by
  cases val <;> simp [validateEqualsValue, Indexable]

theorem minLen_ok {pred : List PyObj} {kind : String} {n : Nat} (h : n ≤ pred.length) :
    ensurePredicateMinLen pred kind n = .ok () := require_eq_ok.mpr h

theorem indexType_ok {val : Int} (h : 0 ≤ val ∧ val ≤ 3) :
    validateCollectionIndexType val = .ok () := require_eq_ok.mpr h

/-- A tuple that is long enough has the element. -/
theorem exists_of_minLen {kindItem binItem item : PyObj} {rest : List PyObj} {kind : String}
    {n : Nat} {done : Unit}
    (h : ensurePredicateMinLen (kindItem :: binItem :: item :: rest) kind (n + 3) = .ok done) :
    n ≤ rest.length := by
  have hlen := require_eq_ok.mp h
  simp only [List.length_cons] at hlen
  omega

theorem describes_of_arguments {bin kind : String} {item : PyObj} {rest : List PyObj}
    {p : Predicate} (hbin : bin ≠ "")
    (h : parseArguments rt repr (.str kind :: .str bin :: item :: rest) kind bin item rest =
      .ok p) : Describes rt (.str kind :: .str bin :: item :: rest) p := by
  unfold parseArguments at h
  split at h
  · obtain ⟨val, hval, h⟩ := bind_eq_ok.mp h
    obtain ⟨_, hkind, h⟩ := bind_eq_ok.mp h
    obtain rfl := Except.ok.inj h
    exact .equals hbin hval (validateEqualsValue_eq_ok.mp hkind)
  · obtain ⟨_, hlen, h⟩ := bind_eq_ok.mp h
    obtain ⟨min, hmin, h⟩ := bind_eq_ok.mp h
    obtain ⟨max, hmax, h⟩ := bind_eq_ok.mp h
    obtain rfl := Except.ok.inj h
    have hrest := exists_of_minLen (n := 1) hlen
    obtain ⟨hi, rest, rfl⟩ := List.exists_cons_of_length_pos hrest
    exact .between hbin (extractRangeBound_eq_ok.mp hmin) (extractRangeBound_eq_ok.mp hmax)
  · obtain ⟨_, hlen, h⟩ := bind_eq_ok.mp h
    obtain ⟨colType, hindex, h⟩ := bind_eq_ok.mp h
    obtain ⟨_, hrange, h⟩ := bind_eq_ok.mp h
    have hrest := exists_of_minLen (n := 1) hlen
    obtain ⟨valAny, rest, rfl⟩ := List.exists_cons_of_length_pos hrest
    simp only [List.getD_cons_zero] at h
    cases hval : extractI64 valAny with
    | ok v =>
      rw [hval] at h
      obtain rfl := Except.ok.inj h
      exact .containsInteger hbin hindex (require_eq_ok.mp hrange) hval
    | error e =>
      rw [hval] at h
      obtain ⟨v, hv, h⟩ := bind_eq_ok.mp h
      obtain rfl := Except.ok.inj h
      obtain rfl := extractString_eq_ok.mp hv
      exact .containsString hbin hindex (require_eq_ok.mp hrange)
  · obtain ⟨geojson, hgeo, h⟩ := bind_eq_ok.mp h
    obtain rfl := Except.ok.inj h
    obtain rfl := extractString_eq_ok.mp hgeo
    exact .geoWithinRegion hbin
  · obtain ⟨_, hlen, h⟩ := bind_eq_ok.mp h
    obtain ⟨lat, hlat, h⟩ := bind_eq_ok.mp h
    obtain ⟨lng, hlng, h⟩ := bind_eq_ok.mp h
    obtain ⟨radius, hradius, h⟩ := bind_eq_ok.mp h
    obtain rfl := Except.ok.inj h
    have hrest := exists_of_minLen (n := 2) hlen
    match rest, hrest with
    | y :: z :: rest, _ => exact .geoWithinRadius hbin hlat hlng hradius
  · obtain ⟨geojson, hgeo, h⟩ := bind_eq_ok.mp h
    obtain rfl := Except.ok.inj h
    obtain rfl := extractString_eq_ok.mp hgeo
    exact .geoContainsPoint hbin
  · cases h

theorem validateBinName_eq_ok {bin : String} {u : Unit} :
    validateBinName bin = .ok u ↔ bin ≠ "" := require_eq_ok

theorem parsePredicate_eq_ok {pred : List PyObj} {p : Predicate} :
    parsePredicate rt repr pred = .ok p ↔ Describes rt pred p := by
  constructor
  · intro h
    unfold parsePredicate at h
    split at h
    · obtain ⟨kind, hkind, h⟩ := bind_eq_ok.mp h
      obtain ⟨bin, hbin, h⟩ := bind_eq_ok.mp h
      obtain ⟨_, hname, h⟩ := bind_eq_ok.mp h
      obtain rfl := extractString_eq_ok.mp hkind
      obtain rfl := extractString_eq_ok.mp hbin
      exact describes_of_arguments (validateBinName_eq_ok.mp hname) h
    · cases h
  · intro h
    have hparse : ∀ {kind bin : String} {item : PyObj} {rest : List PyObj}, bin ≠ "" →
        parsePredicate rt repr (.str kind :: .str bin :: item :: rest) =
          parseArguments rt repr (.str kind :: .str bin :: item :: rest) kind bin item rest := by
      intro kind bin item rest hbin
      exact require_bind hbin _ _
    cases h with
    | equals hbin hval hkind =>
      rw [hparse hbin, parseArguments, bind_of_eq_ok hval,
        bind_of_eq_ok (validateEqualsValue_eq_ok (u := ()).mpr hkind)]
      rfl
    | between hbin hmin hmax =>
      rw [hparse hbin, parseArguments, bind_of_eq_ok (minLen_ok (by simp)),
        bind_of_eq_ok (extractRangeBound_eq_ok.mpr hmin), List.getD_cons_zero,
        bind_of_eq_ok (extractRangeBound_eq_ok.mpr hmax)]
      rfl
    | containsInteger hbin hindex hrange hval =>
      rw [hparse hbin, parseArguments, bind_of_eq_ok (minLen_ok (by simp)),
        bind_of_eq_ok hindex, bind_of_eq_ok (indexType_ok hrange)]
      simp only [List.getD_cons_zero, hval]
      rfl
    | containsString hbin hindex hrange =>
      rw [hparse hbin, parseArguments, bind_of_eq_ok (minLen_ok (by simp)),
        bind_of_eq_ok hindex, bind_of_eq_ok (indexType_ok hrange)]
      rfl
    | geoWithinRegion hbin => exact hparse hbin
    | geoWithinRadius hbin hlat hlng hradius =>
      rw [hparse hbin, parseArguments, bind_of_eq_ok (minLen_ok (by simp)),
        bind_of_eq_ok hlat, List.getD_cons_zero, bind_of_eq_ok hlng, List.getD_cons_succ,
        List.getD_cons_zero, bind_of_eq_ok hradius]
      rfl
    | geoContainsPoint hbin => exact hparse hbin

end Accepted

end AerospikePy.Query
