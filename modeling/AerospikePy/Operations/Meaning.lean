import AerospikePy.Operations.Calls

/-!
# What a call means

The core operation that a call names, with the same arguments. An argument that no core
operation carries has no meaning: a name that is not text, an integer out of its range, a
number that is no documented constant, an object that is no value.
-/

namespace AerospikePy.Operations

open AerospikePy.Core
open AerospikePy.Python
open AerospikePy.Values

def ListOrderType.constant : ListOrderType → Int
  | unordered => 0
  | ordered => 1

def ListReturnType.constant : ListReturnType → Int
  | none => 0
  | index => 1
  | reverseIndex => 2
  | rank => 3
  | reverseRank => 4
  | count => 5
  | values => 7
  | .exists => 13

def ListSortFlags.constant : ListSortFlags → Int
  | default => 0
  | dropDuplicates => 2

def MapOrder.constant : MapOrder → Int
  | unordered => 0
  | keyOrdered => 1
  | keyValueOrdered => 3

def MapWriteMode.constant : MapWriteMode → Int
  | update => 0
  | updateOnly => 2
  | createOnly => 1

def MapReturnType.constant : MapReturnType → Int
  | none => 0
  | index => 1
  | reverseIndex => 2
  | rank => 3
  | reverseRank => 4
  | count => 5
  | key => 6
  | value => 7
  | keyValue => 8
  | .exists => 13

def BitwiseResizeFlags.constant : BitwiseResizeFlags → Int
  | default => 0
  | fromFront => 1
  | growOnly => 2
  | shrinkOnly => 4

def BitwiseOverflowActions.constant : BitwiseOverflowActions → Int
  | fail => 0
  | saturate => 2
  | wrap => 4

def ListOrderType.all : List ListOrderType := [unordered, ordered]

def ListReturnType.all : List ListReturnType :=
  [none, index, reverseIndex, rank, reverseRank, count, values, .exists]

def ListSortFlags.all : List ListSortFlags := [default, dropDuplicates]

def MapOrder.all : List MapOrder := [unordered, keyOrdered, keyValueOrdered]

def MapWriteMode.all : List MapWriteMode := [update, updateOnly, createOnly]

def MapReturnType.all : List MapReturnType :=
  [none, index, reverseIndex, rank, reverseRank, count, key, value, keyValue, .exists]

def BitwiseResizeFlags.all : List BitwiseResizeFlags := [default, fromFront, growOnly, shrinkOnly]

def BitwiseOverflowActions.all : List BitwiseOverflowActions := [fail, saturate, wrap]

/-- The member of a table that an argument names. -/
def constant? {A : Type} (constant : A → Int) (all : List A) (n : PyInt) : Option A :=
  all.find? fun a => constant a = n.toInt

def text? : PyStr → Option String
  | .utf8 s => some s
  | .surrogates _ => none

def int64? (n : PyInt) : Option Int64 :=
  if -2 ^ 63 ≤ n.toInt ∧ n.toInt < 2 ^ 63 then some (.ofInt n.toInt) else none

/-- An unsigned operand may fill all 64 bits. -/
def bits? (signed : Bool) (n : PyInt) : Option Int64 :=
  if -2 ^ 63 ≤ n.toInt ∧ n.toInt < (if signed then 2 ^ 63 else 2 ^ 64) then some (.ofInt n.toInt)
  else none

def flags? (n : PyInt) : Option UInt8 :=
  if 0 ≤ n.toInt ∧ n.toInt < 2 ^ 8 then some (.ofNat n.toInt.toNat) else none

def count? (n : Option PyInt) : Option (Option Int64) :=
  match n with
  | some n => some <$> int64? n
  | none => some none

def countOr? (byDefault : Int64) (n : Option PyInt) : Option Int64 :=
  match n with
  | some n => int64? n
  | none => some byDefault

section Values

variable (rt : Runtime)

def value? (obj : PyObj) : Option Value := (pyToValue rt obj).toOption

def values? (xs : List PyObj) : Option (List Value) :=
  match pyToValue rt (.list xs) with
  | .ok (.list vs) => some vs
  | _ => none

def items? (es : Entries) : Option (List (Value × Value)) :=
  match pyToValue rt (.dict es) with
  | .ok (.hashMap kvs) => some kvs
  | _ => none

/-- A range whose end is `None` has none. -/
def rangeEnd? (last : PyObj) : Option Value :=
  if last.isNone then some .infinity else value? rt last

end Values

def pyInt? : PyObj → Option PyInt
  | .int n => some (.int n)
  | .bool b => some (.bool b)
  | _ => none

def field? (policy : Entries) (key : String) : Option PyInt :=
  match getStr policy key with
  | some obj => pyInt? obj
  | none => some (.int 0)

def listPolicy? (policy : Option Entries) : Option ListPolicy :=
  match policy with
  | none => some .default
  | some policy => do
    let order ← field? policy "order"
    let attributes ← constant? ListOrderType.constant ListOrderType.all order
    let flags ← field? policy "flags"
    let flags ← flags? flags
    return ⟨attributes, flags⟩

def mapPolicy? (policy : Option Entries) : Option MapPolicy :=
  match policy with
  | none => some .default
  | some policy => do
    let order ← field? policy "order"
    let order ← constant? MapOrder.constant MapOrder.all order
    let writeMode ← field? policy "write_mode"
    let writeMode ← constant? MapWriteMode.constant MapWriteMode.all writeMode
    return ⟨order, writeMode⟩

def hllPolicy? (policy : Option Entries) : Option HllPolicy :=
  match policy with
  | none => some .default
  | some policy => do
    let flags ← field? policy "flags"
    let flags ← int64? flags
    return ⟨flags⟩

def bitPolicy? (policy : Option PyInt) : Option BitPolicy :=
  match policy with
  | none => some .default
  | some policy => .mk <$> flags? policy

/-- The default flag is that of a resize without one. -/
def resizeFlags? (n : PyInt) : Option (Option BitwiseResizeFlags) :=
  if n.toInt = 0 then some none
  else some <$> constant? BitwiseResizeFlags.constant BitwiseResizeFlags.all n

section Core

variable (rt : Runtime)

def SelectArgs.core : SelectArgs → Option Selection
  | value val => .byValue <$> value? rt val
  | index i => .byIndex <$> int64? i
  | indexRange i count => do
    let i ← int64? i
    let count ← count? count
    return .byIndexRange i count
  | rank r => .byRank <$> int64? r
  | rankRange r count => do
    let r ← int64? r
    let count ← count? count
    return .byRankRange r count
  | valueList values => .byValueList <$> values? rt values
  | valueRange first last => do
    let first ← value? rt first
    let last ← rangeEnd? rt last
    return .byValueRange first last

def MapSelectArgs.core : MapSelectArgs → Option MapSelection
  | entry s => .entry <$> s.core rt
  | key k => .byKey <$> value? rt k
  | keyList keys => .byKeyList <$> values? rt keys
  | keyRange first last => do
    let first ← value? rt first
    let last ← rangeEnd? rt last
    return .byKeyRange first last

def ListCall.core : ListCall → Option ListOp
  | append val policy => do
    let policy ← listPolicy? policy
    let v ← value? rt val
    return .append policy v
  | appendItems values policy => do
    let policy ← listPolicy? policy
    let values ← values? rt values
    return .appendItems policy values
  | insert index val policy => do
    let policy ← listPolicy? policy
    let index ← int64? index
    let v ← value? rt val
    return .insert policy index v
  | insertItems index values policy => do
    let policy ← listPolicy? policy
    let index ← int64? index
    let values ← values? rt values
    return .insertItems policy index values
  | pop index => .pop <$> int64? index
  | popRange index count => do
    let index ← int64? index
    let count ← int64? count
    return .popRange index count
  | remove index => .remove <$> int64? index
  | removeRange index count => do
    let index ← int64? index
    let count ← int64? count
    return .removeRange index count
  | set index val => do
    let index ← int64? index
    let v ← value? rt val
    return .set index v
  | trim index count => do
    let index ← int64? index
    let count ← int64? count
    return .trim index count
  | clear => some .clear
  | size => some .size
  | get index => .get <$> int64? index
  | getRange index count => do
    let index ← int64? index
    let count ← int64? count
    return .getRange index count
  | getBy s returnType => do
    let s ← s.core rt
    let returnType ← constant? ListReturnType.constant ListReturnType.all returnType
    return .getBy s returnType
  | removeBy s returnType => do
    let s ← s.core rt
    let returnType ← constant? ListReturnType.constant ListReturnType.all returnType
    return .removeBy s returnType
  | increment index val policy => do
    let policy ← listPolicy? policy
    let index ← int64? index
    let v ← int64? val
    return .increment policy index v
  | sort sortFlags => .sort <$> constant? ListSortFlags.constant ListSortFlags.all sortFlags
  | setOrder listOrder => .setOrder <$> constant? ListOrderType.constant ListOrderType.all listOrder

def MapCall.core : MapCall → Option MapOp
  | setOrder mapOrder => .setOrder <$> constant? MapOrder.constant MapOrder.all mapOrder
  | put key val policy => do
    let policy ← mapPolicy? policy
    let key ← value? rt key
    let v ← value? rt val
    return .put policy key v
  | putItems items policy => do
    let policy ← mapPolicy? policy
    let items ← items? rt items
    return .putItems policy items
  | increment key incr policy => do
    let policy ← mapPolicy? policy
    let key ← value? rt key
    let v ← value? rt incr
    return .incrementValue policy key v
  | decrement key decr policy => do
    let policy ← mapPolicy? policy
    let key ← value? rt key
    let v ← value? rt decr
    return .decrementValue policy key v
  | clear => some .clear
  | size => some .size
  | getBy s returnType => do
    let s ← s.core rt
    let returnType ← constant? MapReturnType.constant MapReturnType.all returnType
    return .getBy s returnType
  | removeBy s returnType => do
    let s ← s.core rt
    let returnType ← constant? MapReturnType.constant MapReturnType.all returnType
    return .removeBy s returnType

def HllCall.core : HllCall → Option HllOp
  | init indexBitCount minhashBitCount policy => do
    let policy ← hllPolicy? policy
    let indexBitCount ← int64? indexBitCount
    let minHashBitCount ← countOr? (-1) minhashBitCount
    return .initWithMinHash policy indexBitCount minHashBitCount
  | add values indexBitCount minhashBitCount policy => do
    let policy ← hllPolicy? policy
    let values ← values? rt values
    let indexBitCount ← countOr? (-1) indexBitCount
    let minHashBitCount ← countOr? (-1) minhashBitCount
    return .addWithIndexAndMinHash policy values indexBitCount minHashBitCount
  | getCount => some .getCount
  | getUnion values => .getUnion <$> values? rt values
  | getUnionCount values => .getUnionCount <$> values? rt values
  | getIntersectCount values => .getIntersectCount <$> values? rt values
  | getSimilarity values => .getSimilarity <$> values? rt values
  | describe => some .describe
  | fold indexBitCount => .fold <$> int64? indexBitCount
  | setUnion values policy => do
    let policy ← hllPolicy? policy
    let values ← values? rt values
    return .setUnion policy values

end Core

def BitCall.core : BitCall → Option BitOp
  | resize byteSize resizeFlags policy => do
    let byteSize ← int64? byteSize
    let flags ← resizeFlags? resizeFlags
    let policy ← bitPolicy? policy
    return .resize byteSize flags policy
  | insert byteOffset value policy => do
    let byteOffset ← int64? byteOffset
    let policy ← bitPolicy? policy
    return .insert byteOffset (.blob value.content) policy
  | remove byteOffset byteSize policy => do
    let byteOffset ← int64? byteOffset
    let byteSize ← int64? byteSize
    let policy ← bitPolicy? policy
    return .remove byteOffset byteSize policy
  | logic op bitOffset bitSize value policy => do
    let bitOffset ← int64? bitOffset
    let bitSize ← int64? bitSize
    let policy ← bitPolicy? policy
    return .logic op bitOffset bitSize (.blob value.content) policy
  | not bitOffset bitSize policy => do
    let bitOffset ← int64? bitOffset
    let bitSize ← int64? bitSize
    let policy ← bitPolicy? policy
    return .not bitOffset bitSize policy
  | shift op bitOffset bitSize places policy => do
    let bitOffset ← int64? bitOffset
    let bitSize ← int64? bitSize
    let places ← int64? places
    let policy ← bitPolicy? policy
    return .shift op bitOffset bitSize places policy
  | arith op bitOffset bitSize value signed action policy => do
    let bitOffset ← int64? bitOffset
    let bitSize ← int64? bitSize
    let value ← bits? signed value
    let action ← constant? BitwiseOverflowActions.constant BitwiseOverflowActions.all action
    let policy ← bitPolicy? policy
    return .arith op bitOffset bitSize value signed action policy
  | setInt bitOffset bitSize value policy => do
    let bitOffset ← int64? bitOffset
    let bitSize ← int64? bitSize
    let value ← bits? false value
    let policy ← bitPolicy? policy
    return .setInt bitOffset bitSize value policy
  | get bitOffset bitSize => do
    let bitOffset ← int64? bitOffset
    let bitSize ← int64? bitSize
    return .get bitOffset bitSize
  | count bitOffset bitSize => do
    let bitOffset ← int64? bitOffset
    let bitSize ← int64? bitSize
    return .count bitOffset bitSize
  | scan op bitOffset bitSize value => do
    let bitOffset ← int64? bitOffset
    let bitSize ← int64? bitSize
    return .scan op bitOffset bitSize value
  | getInt bitOffset bitSize signed => do
    let bitOffset ← int64? bitOffset
    let bitSize ← int64? bitSize
    return .getInt bitOffset bitSize signed

def Call.core (rt : Runtime) : Call → Option Operation
  | list bin c => do
    let name ← text? bin
    let op ← c.core rt
    return .list name op
  | map bin c => do
    let name ← text? bin
    let op ← c.core rt
    return .map name op
  | hll bin c => do
    let name ← text? bin
    let op ← c.core rt
    return .hll name op
  | bit bin c => do
    let name ← text? bin
    let op ← c.core
    return .bit name op

/-- The arms that go by a value do not accept its absence: `None` under `val` is as good
as no `val` to the decoder, and a `bool` there stays one. -/
def SelectArgs.valKept : SelectArgs → Bool
  | value val => !val.isNone
  | _ => true

def ListCall.valKept : ListCall → Bool
  | getBy s _ => s.valKept
  | removeBy s _ => s.valKept
  | increment _ val _ => !val.isBool
  | sort sortFlags => !sortFlags.isBool
  | setOrder listOrder => !listOrder.isBool
  | _ => true

def MapSelectArgs.valKept : MapSelectArgs → Bool
  | entry s => s.valKept
  | _ => true

def MapCall.valKept : MapCall → Bool
  | setOrder mapOrder => !mapOrder.isBool
  | increment _ incr _ => !incr.isNone
  | decrement _ decr _ => !decr.isNone
  | getBy s _ => s.valKept
  | removeBy s _ => s.valKept
  | _ => true

def BitCall.valKept : BitCall → Bool
  | arith _ _ _ value _ _ _ => !value.isBool
  | setInt _ _ value _ => !value.isBool
  | _ => true

/-- No value that matters to its arm is sent as `None`, and no `bool` as a value where an
integer is asked for. -/
def Call.valKept : Call → Bool
  | list _ c => c.valKept
  | map _ c => c.valKept
  | hll _ _ => true
  | bit _ c => c.valKept

end AerospikePy.Operations
