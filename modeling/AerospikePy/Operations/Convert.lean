import AerospikePy.Operations.Fields

/-!
# From operation dicts to operations

`operations.rs`: `py_ops_to_rust_checked` dispatches on the code of an operation. The
arms of one code are written as the source has them, except that those which select
elements are shared by the lists and the maps, to get and to remove.
-/

namespace AerospikePy.Operations

open AerospikePy.Core
open AerospikePy.Lib.Fallible
open AerospikePy.Python
open AerospikePy.Values

def Selector.name : Selector → String
  | value => "value"
  | index => "index"
  | indexRange => "index_range"
  | rank => "rank"
  | rankRange => "rank_range"
  | valueList => "value_list"
  | valueRange => "value_range"

def MapSelector.name : MapSelector → String
  | entry s => s.name
  | key => "key"
  | keyList => "key_list"
  | keyRange => "key_range"

def BitLogic.name : BitLogic → String
  | set => "bit_set"
  | or => "bit_or"
  | xor => "bit_xor"
  | and => "bit_and"

def BitShift.name : BitShift → String
  | lshift => "bit_lshift"
  | rshift => "bit_rshift"

def BitArith.name : BitArith → String
  | add => "bit_add"
  | subtract => "bit_subtract"

def BitScan.name : BitScan → String
  | lscan => "bit_lscan"
  | rscan => "bit_rscan"

variable (rt : Runtime) (debug : Value → String)

section Select

variable {R : Type} (intToReturnType : Int → Except PyErr R) (opName : String) (dict : Entries)
  (val : Option Value)

def decodeReturnType : Except PyErr R := do
  let v ← getReturnType dict
  intToReturnType v

/-- A count comes after the return type, and its absence means to the end. -/
def decodeSelect (s : Selector) : Except PyErr (Selection × R) :=
  match s with
  | .value => do
    let v ← requireHllValue val opName
    let returnType ← decodeReturnType intToReturnType dict
    return (.byValue v, returnType)
  | .index => do
    let index ← getIndex dict
    let returnType ← decodeReturnType intToReturnType dict
    return (.byIndex index, returnType)
  | .indexRange => do
    let index ← getIndex dict
    let returnType ← decodeReturnType intToReturnType dict
    let count ← getCount dict
    return (.byIndexRange index count, returnType)
  | .rank => do
    let rank ← getRank dict
    let returnType ← decodeReturnType intToReturnType dict
    return (.byRank rank, returnType)
  | .rankRange => do
    let rank ← getRank dict
    let returnType ← decodeReturnType intToReturnType dict
    let count ← getCount dict
    return (.byRankRange rank count, returnType)
  | .valueList => do
    let v ← requireHllValue val opName
    let returnType ← decodeReturnType intToReturnType dict
    return (.byValueList (valuesFromList v), returnType)
  | .valueRange => do
    let last ← getValEnd rt dict
    let returnType ← decodeReturnType intToReturnType dict
    return (.byValueRange (val.getD .nil) last, returnType)

/-- Keys, unlike values, may be missing from the dict. -/
def decodeMapSelect (s : MapSelector) : Except PyErr (MapSelection × R) :=
  match s with
  | .entry s => do
    let (selection, returnType) ← decodeSelect rt intToReturnType opName dict val s
    return (.entry selection, returnType)
  | .key => do
    let key ← getMapKey rt dict
    let returnType ← decodeReturnType intToReturnType dict
    return (.byKey key, returnType)
  | .keyList => do
    let returnType ← decodeReturnType intToReturnType dict
    return (.byKeyList (valuesFromList (val.getD .nil)), returnType)
  | .keyRange => do
    let last ← getValEnd rt dict
    let returnType ← decodeReturnType intToReturnType dict
    return (.byKeyRange (val.getD .nil) last, returnType)

end Select

section Arms

variable (binName : Option String) (val : Option Value) (dict : Entries)

def decodeBasic (c : BasicCode) : Except PyErr Operation :=
  match c with
  | .read => match binName with
    | some name => .ok (.getBin name)
    | none => .ok .get
  | .write => do
    let name ← requireBin binName "Write"
    return .put ⟨name, val.getD .nil⟩
  | .incr => do
    let name ← requireBin binName "Increment"
    let v ← parseIncrValue debug val
    return .add ⟨name, v⟩
  | .append => do
    let name ← requireBin binName "Append"
    return .append ⟨name, val.getD (.string "")⟩
  | .prepend => do
    let name ← requireBin binName "Prepend"
    return .prepend ⟨name, val.getD (.string "")⟩
  | .touch => .ok .touch
  | .delete => .ok .delete

def decodeList (c : ListCode) : Except PyErr Operation :=
  match c with
  | .append => do
    let name ← requireBin binName "list_append"
    let policy ← parseListPolicy dict
    return .list name (.append policy (val.getD .nil))
  | .appendItems => do
    let name ← requireBin binName "list_append_items"
    let policy ← parseListPolicy dict
    return .list name (.appendItems policy (valuesFromList (val.getD .nil)))
  | .insert => do
    let name ← requireBin binName "list_insert"
    let policy ← parseListPolicy dict
    let index ← getIndex dict
    return .list name (.insert policy index (val.getD .nil))
  | .insertItems => do
    let name ← requireBin binName "list_insert_items"
    let policy ← parseListPolicy dict
    let index ← getIndex dict
    return .list name (.insertItems policy index (valuesFromList (val.getD .nil)))
  | .pop => do
    let name ← requireBin binName "list_pop"
    let index ← getIndex dict
    return .list name (.pop index)
  | .popRange => do
    let name ← requireBin binName "list_pop_range"
    let index ← getIndex dict
    let count ← getCount dict
    return .list name (.popRange index (count.getD 1))
  | .remove => do
    let name ← requireBin binName "list_remove"
    let index ← getIndex dict
    return .list name (.remove index)
  | .removeRange => do
    let name ← requireBin binName "list_remove_range"
    let index ← getIndex dict
    let count ← getCount dict
    return .list name (.removeRange index (count.getD 1))
  | .set => do
    let name ← requireBin binName "list_set"
    let index ← getIndex dict
    return .list name (.set index (val.getD .nil))
  | .trim => do
    let name ← requireBin binName "list_trim"
    let index ← getIndex dict
    -- without a count the list would be emptied
    match ← getCount dict with
    | some count => return .list name (.trim index count)
    | none => .error ⟨.valueError, "list_trim requires 'count'"⟩
  | .clear => do
    let name ← requireBin binName "list_clear"
    return .list name .clear
  | .size => do
    let name ← requireBin binName "list_size"
    return .list name .size
  | .get => do
    let name ← requireBin binName "list_get"
    let index ← getIndex dict
    return .list name (.get index)
  | .getRange => do
    let name ← requireBin binName "list_get_range"
    let index ← getIndex dict
    let count ← getCount dict
    return .list name (.getRange index (count.getD 1))
  | .getBy s => do
    let opName := "list_get_by_" ++ s.name
    let name ← requireBin binName opName
    let (selection, returnType) ← decodeSelect rt intToListReturnType opName dict val s
    return .list name (.getBy selection returnType)
  | .removeBy s => do
    let opName := "list_remove_by_" ++ s.name
    let name ← requireBin binName opName
    let (selection, returnType) ← decodeSelect rt intToListReturnType opName dict val s
    return .list name (.removeBy selection returnType)
  | .increment => do
    let name ← requireBin binName "list_increment"
    let policy ← parseListPolicy dict
    let index ← getIndex dict
    let v ← parseIncrementValue debug val
    return .list name (.increment policy index v)
  | .sort => do
    let name ← requireBin binName "list_sort"
    let flags ← parseI32Flag debug val "list_sort" "val"
    let sortFlags ← intToListSortFlags flags
    return .list name (.sort sortFlags)
  | .setOrder => do
    let name ← requireBin binName "list_set_order"
    let order ← parseI32Flag debug val "list_set_order" "val"
    return .list name (.setOrder (intToListOrder order))

def decodeMap (c : MapCode) : Except PyErr Operation :=
  match c with
  | .setOrder => do
    let name ← requireBin binName "map_set_order"
    let order ← parseI32Flag debug val "map_set_order" "val"
    return .map name (.setOrder (intToMapOrder order))
  | .put => do
    let name ← requireBin binName "map_put"
    let policy ← parseMapPolicy dict
    let key ← getMapKey rt dict
    return .map name (.put policy key (val.getD .nil))
  | .putItems => do
    let name ← requireBin binName "map_put_items"
    let policy ← parseMapPolicy dict
    match ← requireHllValue val "map_put_items" with
    | .hashMap map => return .map name (.putItems policy map)
    | _ => .error ⟨.valueError, "map_put_items requires a dict value"⟩
  | .increment => do
    let name ← requireBin binName "map_increment"
    let policy ← parseMapPolicy dict
    let key ← getMapKey rt dict
    return .map name (.incrementValue policy key (val.getD (.int 1)))
  | .decrement => do
    let name ← requireBin binName "map_decrement"
    let policy ← parseMapPolicy dict
    let key ← getMapKey rt dict
    return .map name (.decrementValue policy key (val.getD (.int 1)))
  | .clear => do
    let name ← requireBin binName "map_clear"
    return .map name .clear
  | .removeBy s => do
    let opName := "map_remove_by_" ++ s.name
    let name ← requireBin binName opName
    let (selection, returnType) ← decodeMapSelect rt intToMapReturnType opName dict val s
    return .map name (.removeBy selection returnType)
  | .size => do
    let name ← requireBin binName "map_size"
    return .map name .size
  | .getBy s => do
    let opName := "map_get_by_" ++ s.name
    let name ← requireBin binName opName
    let (selection, returnType) ← decodeMapSelect rt intToMapReturnType opName dict val s
    return .map name (.getBy selection returnType)

def decodeHll (c : HllCode) : Except PyErr Operation :=
  match c with
  | .init => do
    let name ← requireBin binName "hll_init"
    let policy ← parseHllPolicy dict
    let indexBitCount ←
      required (getStr dict "index_bit_count") extractI64 "hll_init requires 'index_bit_count'"
    let minHashBitCount ← optional (getStr dict "minhash_bit_count") extractI64 (-1)
    return .hll name (.initWithMinHash policy indexBitCount minHashBitCount)
  | .add => do
    let name ← requireBin binName "hll_add"
    let policy ← parseHllPolicy dict
    let v ← requireHllValue val "hll_add"
    let indexBitCount ← optional (getStr dict "index_bit_count") extractI64 (-1)
    let minHashBitCount ← optional (getStr dict "minhash_bit_count") extractI64 (-1)
    return .hll name
      (.addWithIndexAndMinHash policy (valuesFromList v) indexBitCount minHashBitCount)
  | .getCount => do
    let name ← requireBin binName "hll_get_count"
    return .hll name .getCount
  | .getUnion => do
    let name ← requireBin binName "hll_get_union"
    let v ← requireHllValue val "hll_get_union"
    return .hll name (.getUnion (valuesFromList v))
  | .getUnionCount => do
    let name ← requireBin binName "hll_get_union_count"
    let v ← requireHllValue val "hll_get_union_count"
    return .hll name (.getUnionCount (valuesFromList v))
  | .getIntersectCount => do
    let name ← requireBin binName "hll_get_intersect_count"
    let v ← requireHllValue val "hll_get_intersect_count"
    return .hll name (.getIntersectCount (valuesFromList v))
  | .getSimilarity => do
    let name ← requireBin binName "hll_get_similarity"
    let v ← requireHllValue val "hll_get_similarity"
    return .hll name (.getSimilarity (valuesFromList v))
  | .describe => do
    let name ← requireBin binName "hll_describe"
    return .hll name .describe
  | .fold => do
    let name ← requireBin binName "hll_fold"
    let indexBitCount ←
      required (getStr dict "index_bit_count") extractI64 "hll_fold requires 'index_bit_count'"
    return .hll name (.fold indexBitCount)
  | .setUnion => do
    let name ← requireBin binName "hll_set_union"
    let policy ← parseHllPolicy dict
    let v ← requireHllValue val "hll_set_union"
    return .hll name (.setUnion policy (valuesFromList v))

def decodeBit (c : BitCode) : Except PyErr Operation :=
  match c with
  | .resize => do
    let name ← requireBin binName "bit_resize"
    let byteSize ← getByteSize dict
    let resizeFlags ← getResizeFlags dict
    let policy ← parseBitPolicy dict
    return .bit name (.resize byteSize resizeFlags policy)
  | .insert => do
    let name ← requireBin binName "bit_insert"
    let byteOffset ← getByteOffset dict
    let v ← requireBitwiseValue val "bit_insert"
    let policy ← parseBitPolicy dict
    return .bit name (.insert byteOffset v policy)
  | .remove => do
    let name ← requireBin binName "bit_remove"
    let byteOffset ← getByteOffset dict
    let byteSize ← getByteSize dict
    let policy ← parseBitPolicy dict
    return .bit name (.remove byteOffset byteSize policy)
  | .logic op => do
    let name ← requireBin binName op.name
    let bitOffset ← getBitOffset dict
    let bitSize ← getBitSize dict
    let v ← requireBitwiseValue val op.name
    let policy ← parseBitPolicy dict
    return .bit name (.logic op bitOffset bitSize v policy)
  | .not => do
    let name ← requireBin binName "bit_not"
    let bitOffset ← getBitOffset dict
    let bitSize ← getBitSize dict
    let policy ← parseBitPolicy dict
    return .bit name (.not bitOffset bitSize policy)
  | .shift op => do
    let name ← requireBin binName op.name
    let bitOffset ← getBitOffset dict
    let bitSize ← getBitSize dict
    let shift ← getShift dict
    let policy ← parseBitPolicy dict
    return .bit name (.shift op bitOffset bitSize shift policy)
  | .arith op => do
    let name ← requireBin binName op.name
    let bitOffset ← getBitOffset dict
    let bitSize ← getBitSize dict
    let valueInt ← bitValueInt debug val
    let signed ← getSigned dict
    let action ← getOverflowAction dict
    let policy ← parseBitPolicy dict
    return .bit name (.arith op bitOffset bitSize valueInt signed action policy)
  | .setInt => do
    let name ← requireBin binName "bit_set_int"
    let bitOffset ← getBitOffset dict
    let bitSize ← getBitSize dict
    let valueInt ← bitValueInt debug val
    let policy ← parseBitPolicy dict
    return .bit name (.setInt bitOffset bitSize valueInt policy)
  | .get => do
    let name ← requireBin binName "bit_get"
    let bitOffset ← getBitOffset dict
    let bitSize ← getBitSize dict
    return .bit name (.get bitOffset bitSize)
  | .count => do
    let name ← requireBin binName "bit_count"
    let bitOffset ← getBitOffset dict
    let bitSize ← getBitSize dict
    return .bit name (.count bitOffset bitSize)
  | .scan op => do
    let name ← requireBin binName op.name
    let bitOffset ← getBitOffset dict
    let bitSize ← getBitSize dict
    let scanVal ← getScanValue dict
    return .bit name (.scan op bitOffset bitSize scanVal)
  | .getInt => do
    let name ← requireBin binName "bit_get_int"
    let bitOffset ← getBitOffset dict
    let bitSize ← getBitSize dict
    let signed ← getSigned dict
    return .bit name (.getInt bitOffset bitSize signed)

def decodeOp (op : OpCode) : Except PyErr Operation :=
  match op with
  | .basic c => decodeBasic debug binName val c
  | .list c => decodeList rt debug binName val dict c
  | .map c => decodeMap rt debug binName val dict c
  | .hll c => decodeHll binName val dict c
  | .bit c => decodeBit debug binName val dict c

end Arms

/-- The codes that `op_code_is_write` lists; every other code is that of a write. -/
def readCodes : List OpCode :=
  [.basic .read,
    .list .size, .list .get, .list .getRange, .list (.getBy .value), .list (.getBy .index),
    .list (.getBy .indexRange), .list (.getBy .rank), .list (.getBy .rankRange),
    .list (.getBy .valueList), .list (.getBy .valueRange),
    .map .size, .map (.getBy .key), .map (.getBy .keyRange), .map (.getBy (.entry .value)),
    .map (.getBy (.entry .valueRange)), .map (.getBy (.entry .index)),
    .map (.getBy (.entry .indexRange)), .map (.getBy (.entry .rank)),
    .map (.getBy (.entry .rankRange)), .map (.getBy .keyList),
    .map (.getBy (.entry .valueList)),
    .hll .getCount, .hll .getUnion, .hll .getUnionCount, .hll .getIntersectCount,
    .hll .getSimilarity, .hll .describe,
    .bit .get, .bit .count, .bit (.scan .lscan), .bit (.scan .rscan), .bit .getInt]

def opCodeIsWrite (opCode : Int) : Bool := !(readCodes.map OpCode.code).contains opCode

def unsupportedCode (opCode : Int) : PyErr := ⟨.valueError,
  s!"Unsupported operation code: {opCode}. Supported codes: " ++
    "READ=1, WRITE=2, INCR=5, APPEND=9, PREPEND=10, TOUCH=11, DELETE=12, " ++
    "List CDT=1001-1031, Map CDT=2001-2027, HLL CDT=3001-3010, Bit CDT=4001-4054"⟩

/-- One round of the loop: the operation, and whether it is a write. -/
def pyOpToRust (item : PyObj) : Except PyErr (Operation × Bool) := do
  let dict ← castDict item
  let opCode ← required (getStr dict "op") extractI32 "Operation must have 'op' key"
  let binName ← given (getStr dict "bin") extractString
  let val ← given (getStr dict "val") (pyToValue rt)
  match OpCode.ofCode? opCode with
  | some op => do
    let operation ← decodeOp rt debug binName val dict op
    return (operation, opCodeIsWrite opCode)
  | none => .error (unsupportedCode opCode)

def pyOpsToRustChecked (opsList : List PyObj) : Except PyErr (List Operation × Bool) := do
  let ops ← opsList.mapM (pyOpToRust rt debug)
  return (ops.map (·.1), ops.any (·.2))

def pyOpsToRust (opsList : List PyObj) : Except PyErr (List Operation) := do
  let (ops, _) ← pyOpsToRustChecked rt debug opsList
  return ops

variable {rt debug}

/-- The operation that the dict of `item` names, with its bin and its value. -/
structure Decoded (rt : Runtime) (debug : Value → String) (dict : Entries) (op : Operation)
    (c : OpCode) (binName : Option String) (val : Option Value) : Prop where
  code : required (getStr dict "op") extractI32 "Operation must have 'op' key" = .ok c.code
  bin : given (getStr dict "bin") extractString = .ok binName
  value : given (getStr dict "val") (pyToValue rt) = .ok val
  decode : decodeOp rt debug binName val dict c = .ok op

theorem pyOpToRust_eq_ok {item : PyObj} {op : Operation} {w : Bool}
    (h : pyOpToRust rt debug item = .ok (op, w)) : ∃ dict c binName val,
      item = .dict dict ∧ Decoded rt debug dict op c binName val ∧ w = opCodeIsWrite c.code := by
  obtain ⟨dict, hdict, h⟩ := bind_eq_ok.mp h
  obtain ⟨code, hcode, h⟩ := bind_eq_ok.mp h
  obtain ⟨binName, hbin, h⟩ := bind_eq_ok.mp h
  obtain ⟨val, hval, h⟩ := bind_eq_ok.mp h
  have hitem : item = .dict dict := by
    cases item with
    | dict es =>
      obtain rfl := Except.ok.inj hdict
      rfl
    | _ => cases hdict
  cases hc : OpCode.ofCode? code with
  | none =>
    rw [hc] at h
    cases h
  | some c =>
    rw [hc] at h
    obtain ⟨op', hop, h⟩ := bind_eq_ok.mp h
    have hcode' : c.code = code := by simpa using List.find?_some hc
    obtain ⟨rfl, rfl⟩ := Prod.mk.inj (Except.ok.inj h)
    exact ⟨dict, c, binName, val, hitem, ⟨by rw [hcode, hcode'], hbin, hval, hop⟩, by rw [hcode']⟩

/-- A list is converted dict by dict, and by none of them if one fails. -/
theorem pyOpsToRustChecked_eq_ok {items : List PyObj} {ops : List Operation} {w : Bool} :
    pyOpsToRustChecked rt debug items = .ok (ops, w) ↔ ∃ pairs,
      List.Forall₂ (fun item pair => pyOpToRust rt debug item = .ok pair) items pairs ∧
        ops = pairs.map (·.1) ∧ w = pairs.any (·.2) := by
  rw [pyOpsToRustChecked, bind_eq_ok]
  constructor
  · intro h
    obtain ⟨pairs, hpairs, h⟩ := h
    obtain ⟨rfl, rfl⟩ := Prod.mk.inj (Except.ok.inj h)
    exact ⟨pairs, mapM_eq_ok.mp hpairs, rfl, rfl⟩
  · intro h
    obtain ⟨pairs, hpairs, rfl, rfl⟩ := h
    exact ⟨pairs, mapM_eq_ok.mpr hpairs, rfl⟩

theorem forall₂_of_pyOpsToRustChecked {items : List PyObj} {ops : List Operation} {w : Bool}
    (h : pyOpsToRustChecked rt debug items = .ok (ops, w)) :
    List.Forall₂ (fun item op => ∃ w, pyOpToRust rt debug item = .ok (op, w)) items ops := by
  obtain ⟨pairs, hpairs, rfl, -⟩ := pyOpsToRustChecked_eq_ok.mp h
  rw [List.forall₂_map_right_iff]
  exact hpairs.imp fun item pair hpair => ⟨pair.2, hpair⟩

end AerospikePy.Operations
