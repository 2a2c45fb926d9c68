import AerospikePy.Policies.Parse

/-!
# Filter expressions in policies

Every parser takes the filter from the policy dict in the same way. A dict with an
`__expr__` entry is translated, and fails the parser if it is no expression; any other
object is passed over.
-/

namespace AerospikePy.Policies

open AerospikePy.Core
open AerospikePy.Expressions
open AerospikePy.Lib.Fallible
open AerospikePy.Python
open AerospikePy.Values

variable {crates : PolicyCrates} {rt : Runtime}

/-- The parsers of `policy/`; that of writes takes a meta dict as well. -/
inductive PolicyParser where
  | read
  | write (metaDict : Option Entries)
  | batch | batchRead | batchWrite | batchDelete | batchUdf | query

/-- The filter of the policy that a parser returns. -/
def PolicyParser.parseFilter (crates : PolicyCrates) (rt : Runtime) (parser : PolicyParser)
    (policyDict : Option Entries) : Except PyErr (Option Expression) :=
  match parser with
  | read => (·.basePolicy.filterExpression) <$> parseReadPolicy crates rt policyDict
  | write metaDict =>
    (·.basePolicy.filterExpression) <$> parseWritePolicy crates rt policyDict metaDict
  | batch => (·.filterExpression) <$> parseBatchPolicy crates rt policyDict
  | batchRead => (·.filterExpression) <$> parseBatchReadPolicy crates rt policyDict
  | batchWrite => (·.filterExpression) <$> parseBatchWritePolicy crates rt policyDict
  | batchDelete => (·.filterExpression) <$> parseBatchDeletePolicy crates rt policyDict
  | batchUdf => (·.filterExpression) <$> parseBatchUdfPolicy crates rt policyDict
  | query => (·.1.basePolicy.filterExpression) <$> parseQueryPolicy crates rt policyDict

section Parsers

variable {dict : Entries}

theorem filter_parseReadPolicy {policy : ReadPolicy}
    (h : parseReadPolicy crates rt (some dict) = .ok policy) :
    extractFilterExpression rt dict = .ok policy.basePolicy.filterExpression := by
  iterate 3 obtain ⟨_, -, h⟩ := bind_eq_ok.mp h
  obtain ⟨filter, hfilter, h⟩ := bind_eq_ok.mp h
  cases h
  exact hfilter

theorem filter_parseWritePolicy {metaDict : Option Entries} {policy : WritePolicy}
    (h : parseWritePolicy crates rt (some dict) metaDict = .ok policy) :
    extractFilterExpression rt dict = .ok policy.basePolicy.filterExpression := by
  iterate 9 obtain ⟨_, -, h⟩ := bind_eq_ok.mp h
  obtain ⟨filter, hfilter, h⟩ := bind_eq_ok.mp h
  cases h
  exact hfilter

theorem filter_parseBatchPolicy {policy : BatchPolicy}
    (h : parseBatchPolicy crates rt (some dict) = .ok policy) :
    extractFilterExpression rt dict = .ok policy.filterExpression := by
  iterate 7 obtain ⟨_, -, h⟩ := bind_eq_ok.mp h
  obtain ⟨filter, hfilter, h⟩ := bind_eq_ok.mp h
  cases h
  exact hfilter

theorem filter_parseBatchWritePolicy {policy : BatchWritePolicy Expression}
    (h : parseBatchWritePolicy crates rt (some dict) = .ok policy) :
    extractFilterExpression rt dict = .ok policy.filterExpression := by
  iterate 6 obtain ⟨_, -, h⟩ := bind_eq_ok.mp h
  obtain ⟨filter, hfilter, h⟩ := bind_eq_ok.mp h
  cases h
  exact hfilter

theorem filter_parseBatchReadPolicy {policy : BatchReadPolicy}
    (h : parseBatchReadPolicy crates rt (some dict) = .ok policy) :
    extractFilterExpression rt dict = .ok policy.filterExpression := by
  obtain ⟨_, -, h⟩ := bind_eq_ok.mp h
  obtain ⟨filter, hfilter, h⟩ := bind_eq_ok.mp h
  cases h
  exact hfilter

theorem filter_parseBatchDeletePolicy {policy : BatchDeletePolicy}
    (h : parseBatchDeletePolicy crates rt (some dict) = .ok policy) :
    extractFilterExpression rt dict = .ok policy.filterExpression := by
  iterate 4 obtain ⟨_, -, h⟩ := bind_eq_ok.mp h
  obtain ⟨filter, hfilter, h⟩ := bind_eq_ok.mp h
  cases h
  exact hfilter

theorem filter_parseBatchUdfPolicy {policy : BatchUDFPolicy}
    (h : parseBatchUdfPolicy crates rt (some dict) = .ok policy) :
    extractFilterExpression rt dict = .ok policy.filterExpression := by
  iterate 4 obtain ⟨_, -, h⟩ := bind_eq_ok.mp h
  obtain ⟨filter, hfilter, h⟩ := bind_eq_ok.mp h
  cases h
  exact hfilter

theorem filter_parseQueryPolicy {policy : QueryPolicy × PartitionFilter}
    (h : parseQueryPolicy crates rt (some dict) = .ok policy) :
    extractFilterExpression rt dict = .ok policy.1.basePolicy.filterExpression := by
  iterate 9 obtain ⟨_, -, h⟩ := bind_eq_ok.mp h
  obtain ⟨filter, hfilter, h⟩ := bind_eq_ok.mp h
  obtain ⟨_, -, h⟩ := bind_eq_ok.mp h
  cases h
  exact hfilter

theorem extractFilter_of_parseFilter {parser : PolicyParser} {filter : Option Expression}
    (h : parser.parseFilter crates rt (some dict) = .ok filter) :
    extractFilterExpression rt dict = .ok filter := by
  cases parser with
  | read =>
    obtain ⟨policy, hp, rfl⟩ := map_eq_ok.mp h
    exact filter_parseReadPolicy hp
  | write metaDict =>
    obtain ⟨policy, hp, rfl⟩ := map_eq_ok.mp h
    exact filter_parseWritePolicy hp
  | batch =>
    obtain ⟨policy, hp, rfl⟩ := map_eq_ok.mp h
    exact filter_parseBatchPolicy hp
  | batchRead =>
    obtain ⟨policy, hp, rfl⟩ := map_eq_ok.mp h
    exact filter_parseBatchReadPolicy hp
  | batchWrite =>
    obtain ⟨policy, hp, rfl⟩ := map_eq_ok.mp h
    exact filter_parseBatchWritePolicy hp
  | batchDelete =>
    obtain ⟨policy, hp, rfl⟩ := map_eq_ok.mp h
    exact filter_parseBatchDeletePolicy hp
  | batchUdf =>
    obtain ⟨policy, hp, rfl⟩ := map_eq_ok.mp h
    exact filter_parseBatchUdfPolicy hp
  | query =>
    obtain ⟨policy, hp, rfl⟩ := map_eq_ok.mp h
    exact filter_parseQueryPolicy hp

end Parsers

/-- A policy has the translation of the filter of its dict when that is an expression
dict, and otherwise no filter. -/
theorem filter_kept (parser : PolicyParser) {dict : Entries} {val : PyObj}
    {filter : Option Expression} (hval : getStr dict "filter_expression" = some val)
    (h : parser.parseFilter crates rt (some dict) = .ok filter) :
    (isExpression val = true → ∃ e, pyToExpression rt val = .ok e ∧ filter = some e) ∧
      (isExpression val = false → filter = none) := by
  have hextract := extractFilter_of_parseFilter h
  rw [extractFilterExpression, hval] at hextract
  constructor
  · intro hexpr
    simp only [hexpr, if_true] at hextract
    obtain ⟨e, he, hfilter⟩ := map_eq_ok.mp hextract
    exact ⟨e, he, hfilter.symm⟩
  · intro hexpr
    simp only [hexpr, Bool.false_eq_true, if_false] at hextract
    exact (Except.ok.inj hextract).symm

theorem filter_kept_wildcard :
    ∃ e, pyToExpression .plain (.dict [(.str "__expr__", .str "wildcard")]) = .ok e ∧
      some (Expression.constant .wildcard) = some e := by
  have hparse : PolicyParser.batchDelete.parseFilter .default .plain
      (some [(.str "filter_expression", .dict [(.str "__expr__", .str "wildcard")])]) =
      .ok (some (.constant .wildcard)) := rfl
  exact (filter_kept .batchDelete rfl hparse).1 rfl

/-- An object that is no expression dict leaves the delete without a filter. -/
theorem filter_dropped :
    getStr [(.str "filter_expression", .int 1)] "filter_expression" = some (.int 1) ∧
      PolicyParser.batchDelete.parseFilter .default .plain
        (some [(.str "filter_expression", .int 1)]) = .ok none :=
  ⟨rfl, rfl⟩

end AerospikePy.Policies
