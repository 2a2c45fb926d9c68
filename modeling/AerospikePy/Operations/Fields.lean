import AerospikePy.Operations.Syntax
import AerospikePy.Values.Convert

/-!
# The fields of an operation dict

`operations.rs`: how an argument is taken from the dict of an operation, and what its
constants are mapped to. `None` is an argument like any other in a required field. A
count and the end of a range may also be `None`, as if they were not there.
-/

namespace AerospikePy.Operations

open AerospikePy.Core
open AerospikePy.Lib.Fallible
open AerospikePy.Python
open AerospikePy.Values

-- What `get_item` finds under a key, and what becomes of it.
section Access

variable {α : Type} (item : Option PyObj) (extract : PyObj → Except PyErr α)

def required (message : String) : Except PyErr α :=
  match item with
  | some val => extract val
  | none => .error ⟨.valueError, message⟩

def optional (byDefault : α) : Except PyErr α :=
  match item with
  | some val => extract val
  | none => .ok byDefault

/-- An argument that may be missing or `None`. -/
def given : Except PyErr (Option α) :=
  match item with
  | some val => if val.isNone then .ok none else some <$> extract val
  | none => .ok none

end Access

def requireBin (binName : Option String) (opName : String) : Except PyErr String :=
  match binName with
  | some name => .ok name
  | none => .error ⟨.valueError, s!"{opName} operation requires 'bin'"⟩

def requireBitwiseValue (val : Option Value) (opName : String) : Except PyErr Value :=
  match val with
  | some v => .ok v
  | none => .error ⟨.valueError, s!"{opName} requires 'val'"⟩

def requireHllValue (val : Option Value) (opName : String) : Except PyErr Value :=
  match val with
  | some v => .ok v
  | none => .error ⟨.valueError, s!"{opName} requires 'val'"⟩

def getIndex (dict : Entries) : Except PyErr Int64 :=
  required (getStr dict "index") extractI64 "Operation requires 'index'"

/-- The `index` of older callers stands in for a missing `rank`. -/
def getRank (dict : Entries) : Except PyErr Int64 :=
  match getStr dict "rank" with
  | some val => extractI64 val
  | none => required (getStr dict "index") extractI64 "Operation requires 'rank' or 'index'"

def getCount (dict : Entries) : Except PyErr (Option Int64) :=
  given (getStr dict "count") extractI64

def getReturnType (dict : Entries) : Except PyErr Int :=
  required (getStr dict "return_type") extractI32 "Operation requires 'return_type'"

def getBitOffset (dict : Entries) : Except PyErr Int64 :=
  required (getStr dict "bit_offset") extractI64 "Bit operation requires 'bit_offset'"

def getBitSize (dict : Entries) : Except PyErr Int64 :=
  required (getStr dict "bit_size") extractI64 "Bit operation requires 'bit_size'"

def getByteSize (dict : Entries) : Except PyErr Int64 :=
  required (getStr dict "byte_size") extractI64 "Bit operation requires 'byte_size'"

def getByteOffset (dict : Entries) : Except PyErr Int64 :=
  required (getStr dict "byte_offset") extractI64 "Bit operation requires 'byte_offset'"

def getShift (dict : Entries) : Except PyErr Int64 :=
  required (getStr dict "shift") extractI64 "Bit shift operation requires 'shift'"

def getSigned (dict : Entries) : Except PyErr Bool :=
  optional (getStr dict "signed") extractBool false

def getScanValue (dict : Entries) : Except PyErr Bool :=
  required (getStr dict "val") extractBool "Bit scan operation requires 'val' (bool)"

section Values

variable (rt : Runtime)

def getMapKey (dict : Entries) : Except PyErr Value :=
  required (getStr dict "map_key") (pyToValue rt) "Operation requires 'map_key'"

def getValEnd (dict : Entries) : Except PyErr Value := do
  let val ← given (getStr dict "val_end") (pyToValue rt)
  return val.getD .infinity

end Values

def intToListReturnType (v : Int) : Except PyErr ListReturnType :=
  match v with
  | 0 => .ok .none
  | 1 => .ok .index
  | 2 => .ok .reverseIndex
  | 3 => .ok .rank
  | 4 => .ok .reverseRank
  | 5 => .ok .count
  | 7 => .ok .values
  | 13 => .ok .exists
  | other => .error ⟨.valueError, "list operation 'return_type' must be one of " ++
      "0=NONE, 1=INDEX, 2=REVERSE_INDEX, 3=RANK, 4=REVERSE_RANK, " ++
      s!"5=COUNT, 7=VALUE, 13=EXISTS; got {other}"⟩

def intToListSortFlags (v : Int) : Except PyErr ListSortFlags :=
  match v with
  | 0 => .ok .default
  | 2 => .ok .dropDuplicates
  | other => .error ⟨.valueError, "list_sort 'sort_flags' must be one of " ++
      s!"0=LIST_SORT_DEFAULT, 2=LIST_SORT_DROP_DUPLICATES; got {other}"⟩

def intToMapReturnType (v : Int) : Except PyErr MapReturnType :=
  match v with
  | 0 => .ok .none
  | 1 => .ok .index
  | 2 => .ok .reverseIndex
  | 3 => .ok .rank
  | 4 => .ok .reverseRank
  | 5 => .ok .count
  | 6 => .ok .key
  | 7 => .ok .value
  | 8 => .ok .keyValue
  | 13 => .ok .exists
  | other => .error ⟨.valueError, "map operation 'return_type' must be one of " ++
      "0=NONE, 1=INDEX, 2=REVERSE_INDEX, 3=RANK, 4=REVERSE_RANK, " ++
      s!"5=COUNT, 6=KEY, 7=VALUE, 8=KEY_VALUE, 13=EXISTS; got {other}"⟩

/-- Any other constant stands for the unordered list. -/
def intToListOrder (order : Int) : ListOrderType :=
  match order with
  | 1 => .ordered
  | _ => .unordered

def intToMapOrder (order : Int) : MapOrder :=
  match order with
  | 1 => .keyOrdered
  | 3 => .keyValueOrdered
  | _ => .unordered

def intToMapWriteMode (mode : Int) : MapWriteMode :=
  match mode with
  | 1 => .createOnly
  | 2 => .updateOnly
  | _ => .update

def getOverflowAction (dict : Entries) : Except PyErr BitwiseOverflowActions := do
  let action ← optional (getStr dict "action") extractI32 0
  match action with
  | 0 => return .fail
  | 2 => return .saturate
  | 4 => return .wrap
  | other => .error ⟨.valueError, "bit add/subtract 'action' must be one of " ++
      "0=BIT_OVERFLOW_FAIL, 2=BIT_OVERFLOW_SATURATE, 4=BIT_OVERFLOW_WRAP; " ++
      s!"got {other}"⟩

def intToResizeFlags (flags : Int) : Except PyErr BitwiseResizeFlags :=
  match flags with
  | 0 => .ok .default
  | 1 => .ok .fromFront
  | 2 => .ok .growOnly
  | 4 => .ok .shrinkOnly
  | other => .error ⟨.valueError, "bit_resize 'resize_flags' must be a single flag " ++
      "(0=DEFAULT, 1=FROM_FRONT, 2=GROW_ONLY, 4=SHRINK_ONLY); " ++
      s!"OR-composed values are not supported, got {other}"⟩

def getResizeFlags (dict : Entries) : Except PyErr (Option BitwiseResizeFlags) :=
  optional (getStr dict "resize_flags") (fun val => do
    let flags ← extractI32 val
    some <$> intToResizeFlags flags) none

/-- The policy of an operation, or its default, for which `None` stands too. -/
def parsePolicy {α : Type} (item : Option PyObj) (parse : PyObj → Except PyErr α)
    (byDefault : α) : Except PyErr α := do
  let policy ← given item parse
  return policy.getD byDefault

def listPolicyOf (policyObj : PyObj) : Except PyErr ListPolicy := do
  let policyDict ← castDict policyObj
  let order ← optional (getStr policyDict "order") extractI32 0
  let flags ← optional (getStr policyDict "flags") extractU8 0
  return ⟨intToListOrder order, flags⟩

def mapPolicyOf (policyObj : PyObj) : Except PyErr MapPolicy := do
  let policyDict ← castDict policyObj
  let order ← optional (getStr policyDict "order") extractI32 0
  let writeMode ← optional (getStr policyDict "write_mode") extractI32 0
  return ⟨intToMapOrder order, intToMapWriteMode writeMode⟩

def hllPolicyOf (policyObj : PyObj) : Except PyErr HllPolicy := do
  let policyDict ← castDict policyObj
  let flags ← optional (getStr policyDict "flags") extractI64 0
  return ⟨flags⟩

def bitPolicyOf (flagsObj : PyObj) : Except PyErr BitPolicy := do
  let flags ← extractU8 flagsObj
  return ⟨flags⟩

def parseListPolicy (dict : Entries) : Except PyErr ListPolicy :=
  parsePolicy (getStr dict "list_policy") listPolicyOf .default

def parseMapPolicy (dict : Entries) : Except PyErr MapPolicy :=
  parsePolicy (getStr dict "map_policy") mapPolicyOf .default

def parseHllPolicy (dict : Entries) : Except PyErr HllPolicy :=
  parsePolicy (getStr dict "hll_policy") hllPolicyOf .default

def parseBitPolicy (dict : Entries) : Except PyErr BitPolicy :=
  parsePolicy (getStr dict "bit_policy") bitPolicyOf .default

/-- The elements of a list, or the one value that is no list. -/
def valuesFromList : Value → List Value
  | .list v => v
  | v => [v]

section Integers

-- the text of a value in a message
variable (debug : Value → String)

def parseIncrementValue (val : Option Value) : Except PyErr Int64 :=
  match val with
  | none | some .nil => .ok 1
  | some (.int i) => .ok i
  | some other => .error ⟨.valueError,
      s!"list_increment requires an integer value, got {debug other}"⟩

def parseIncrValue (val : Option Value) : Except PyErr Value :=
  match val with
  | none | some .nil => .ok (.int 1)
  | some (.int i) => .ok (.int i)
  | some (.float x) => .ok (.float x)
  | some other => .error ⟨.typeError,
      s!"increment 'val' must be an int or float, got {debug other}"⟩

def parseI32Flag (val : Option Value) (opName fieldName : String) : Except PyErr Int :=
  match val with
  | none | some .nil => .ok 0
  | some (.int i) => do
    require (-2 ^ 31 ≤ i.toInt ∧ i.toInt ≤ 2 ^ 31 - 1) ⟨.valueError,
      s!"{opName} operation '{fieldName}' must fit in i32 range, got {i}"⟩
    return i.toInt
  | some other => .error ⟨.typeError,
      s!"{opName} operation '{fieldName}' must be int, got {debug other}"⟩

/-- The `value_int` of `bit_add`, `bit_subtract` and `bit_set_int`. -/
def bitValueInt (val : Option Value) : Except PyErr Int64 :=
  match val with
  | some (.int i) => .ok i
  | some other => .error ⟨.valueError,
      s!"bit operation requires an integer value, got {debug other}"⟩
  | none => .error ⟨.valueError, "bit operation requires a 'val' parameter"⟩

end Integers

end AerospikePy.Operations
