import AerospikePy.Core.Policy
import AerospikePy.Expressions.Convert

/-!
# The fields of a policy dict

`policy/mod.rs`: what the settings of a policy are mapped to, and how a parser takes a
field from the dict. A field that is absent leaves the setting as it is; one that is
present must have the type of the setting, so that `None` is an error.
-/

namespace AerospikePy.Policies

open AerospikePy.Core
open AerospikePy.Expressions
open AerospikePy.Lib.Fallible
open AerospikePy.Python
open AerospikePy.Values

inductive Replica where
  | master | sequence | preferRack
  deriving DecidableEq, Repr

inductive ConsistencyLevel where
  | consistencyOne | consistencyAll
  deriving DecidableEq, Repr

inductive ReadTouchTTL where
  | serverDefault | dontReset
  | percent (n : UInt8)
  deriving DecidableEq, Repr

inductive QueryDuration where
  | long | short | longRelaxAP
  deriving DecidableEq, Repr

inductive Concurrency where
  | sequential | parallel
  deriving DecidableEq, Repr

def parseReplica (val : Int) : Replica :=
  match val with
  | 0 => .master
  | 1 => .sequence
  | 2 => .preferRack
  | _ => .sequence

def parseConsistencyLevel (val : Int) : ConsistencyLevel :=
  match val with
  | 0 => .consistencyOne
  | 1 => .consistencyAll
  | _ => .consistencyOne

def parseQueryDuration (val : Int) : QueryDuration :=
  match val with
  | 0 => .long
  | 1 => .short
  | 2 => .longRelaxAP
  | _ => .long

def parseReadTouchTtl (val : Int64) : Except PyErr ReadTouchTTL :=
  let n := val.toInt
  if n = 0 then .ok .serverDefault
  else if n = -1 then .ok .dontReset
  else if 1 ≤ n ∧ n ≤ 100 then .ok (.percent (.ofNat n.toNat))
  else .error ⟨.invalidArgError,
    s!"read_touch_ttl_percent out of range: {n} (valid: 0=ServerDefault, -1=DontReset, 1-100=Percent)"⟩

/-- `-3` stands for the default of the client, which has none of its own. -/
def parseTtl (ttlVal : Int64) : Except PyErr Expiration :=
  let t := ttlVal.toInt
  if t = 0 then .ok .namespaceDefault
  else if t = -1 then .ok .never
  else if t = -2 then .ok .dontUpdate
  else if t = -3 then .ok .namespaceDefault
  else if 0 < t ∧ t ≤ 2 ^ 32 - 1 then .ok (.seconds (.ofNat t.toNat))
  else if 2 ^ 32 - 1 < t then
    .error ⟨.invalidArgError, s!"ttl out of range: {t} (max: 4294967295)"⟩
  else .error ⟨.invalidArgError,
    s!"ttl out of range: {t} (only 0, -1, -2, -3, or positive seconds are valid)"⟩

def parseConcurrency (value : Int64) : Except PyErr Concurrency :=
  match value.toInt with
  | 0 => .ok .sequential
  | 1 => .ok .parallel
  | n => .error ⟨.valueError, s!"Invalid concurrency value: {n}. Use " ++
      "BATCH_CONCURRENCY_SEQUENTIAL (0) or BATCH_CONCURRENCY_PARALLEL (1)"⟩

/-- The field under this key, or the current value of the setting. -/
def field {α : Type} (dict : Entries) (key : String) (extract : PyObj → Except PyErr α)
    (current : α) : Except PyErr α :=
  match getStr dict key with
  | some val => extract val
  | none => .ok current

theorem field_of_some {α : Type} {dict : Entries} {key : String} {val : PyObj}
    (h : getStr dict key = some val) (extract : PyObj → Except PyErr α) (current : α) :
    field dict key extract current = extract val := by
  unfold field
  rw [h]

theorem field_of_none {α : Type} {dict : Entries} {key : String} (h : getStr dict key = none)
    (extract : PyObj → Except PyErr α) (current : α) :
    field dict key extract current = .ok current := by
  unfold field
  rw [h]

/-- An integer constant that is mapped to a setting. -/
def extractAs {α : Type} (parse : Int → α) (obj : PyObj) : Except PyErr α := do
  let val ← extractI32 obj
  return parse val

def extractTtl (obj : PyObj) : Except PyErr Expiration := extractI64 obj >>= parseTtl

def extractReadTouchTtl (obj : PyObj) : Except PyErr ReadTouchTTL :=
  extractI64 obj >>= parseReadTouchTtl

/-- `POLICY_KEY_SEND` is 1. -/
def extractSendKey : PyObj → Except PyErr Bool := extractAs fun val => decide (val = 1)

/-- The filter of a policy dict, if it holds an expression. -/
def extractFilterExpression (rt : Runtime) (dict : Entries) : Except PyErr (Option Expression) :=
  match getStr dict "filter_expression" with
  | some val => if isExpression val then some <$> pyToExpression rt val else .ok none
  | none => .ok none

end AerospikePy.Policies
