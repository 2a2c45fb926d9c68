import AerospikePy.Operations.Convert

/-!
# The bin of an operation

The bin of an operation is read from its dict once, and goes as it is into the operation.
No arm looks at the name, so that an operation is converted under every name or under none.
-/

namespace AerospikePy.Operations

open AerospikePy.Core
open AerospikePy.Lib
open AerospikePy.Lib.Fallible
open AerospikePy.Python
open AerospikePy.Values

/-- The dict with this name under `bin`. -/
def withBin (dict : Entries) (b : String) : Entries :=
  Assoc.insert pyEq dict (.str "bin") (.str b)

@[simp] theorem getStr_withBin (dict : Entries) (b key : String) :
    getStr (withBin dict b) key = if "bin" = key then some (.str b) else getStr dict key :=
  getStr_insert dict "bin" key (.str b)

section Decode

variable {rt : Runtime} {debug : Value → String} {binName : Option String} {val : Option Value}
  {dict : Entries} {b b' : String}

theorem decodeSelect_withBin {R : Type} {intToReturnType : Int → Except PyErr R} {opName : String}
    (s : Selector) : decodeSelect rt intToReturnType opName (withBin dict b) val s =
      decodeSelect rt intToReturnType opName dict val s := by
  cases s <;> simp [decodeSelect, decodeReturnType, getReturnType, getIndex, getRank, getCount,
    getValEnd]

theorem decodeMapSelect_withBin {R : Type} {intToReturnType : Int → Except PyErr R}
    {opName : String} (s : MapSelector) :
    decodeMapSelect rt intToReturnType opName (withBin dict b) val s =
      decodeMapSelect rt intToReturnType opName dict val s := by
  cases s <;> simp [decodeMapSelect, decodeSelect_withBin, decodeReturnType, getReturnType,
    getMapKey, getValEnd]

theorem decodeList_withBin (c : ListCode) :
    decodeList rt debug binName val (withBin dict b) c =
      decodeList rt debug binName val dict c := by
  cases c <;> simp [decodeList, decodeSelect_withBin, parseListPolicy, getIndex, getCount]

theorem decodeMap_withBin (c : MapCode) :
    decodeMap rt debug binName val (withBin dict b) c = decodeMap rt debug binName val dict c := by
  cases c <;> simp [decodeMap, decodeMapSelect_withBin, parseMapPolicy, getMapKey]

theorem decodeHll_withBin (c : HllCode) :
    decodeHll binName val (withBin dict b) c = decodeHll binName val dict c := by
  cases c <;> simp [decodeHll, parseHllPolicy]

theorem decodeBit_withBin (c : BitCode) :
    decodeBit debug binName val (withBin dict b) c = decodeBit debug binName val dict c := by
  cases c <;> simp [decodeBit, parseBitPolicy, getByteSize, getByteOffset, getBitOffset,
    getBitSize, getShift, getSigned, getScanValue, getResizeFlags, getOverflowAction]

theorem decodeOp_withBin (c : OpCode) :
    decodeOp rt debug binName val (withBin dict b) c = decodeOp rt debug binName val dict c := by
  cases c with
  | basic c => rfl
  | list c => exact decodeList_withBin c
  | map c => exact decodeMap_withBin c
  | hll c => exact decodeHll_withBin c
  | bit c => exact decodeBit_withBin c

theorem requireBin_some (opName : String) : requireBin (some b) opName = .ok b := rfl

theorem succeeds_decodeBasic (c : BasicCode) :
    Succeeds (decodeBasic debug (some b) val c) ↔ Succeeds (decodeBasic debug (some b') val c) := by
  cases c <;> simp [decodeBasic, requireBin_some, ok_bind]

theorem succeeds_decodeList (c : ListCode) :
    Succeeds (decodeList rt debug (some b) val dict c) ↔
      Succeeds (decodeList rt debug (some b') val dict c) := by
  cases c with
  | trim =>
    simp only [decodeList, requireBin_some, ok_bind, succeeds_bind]
    refine exists_congr fun index => and_congr_right fun _ => ?_
    refine exists_congr fun count => and_congr_right fun _ => ?_
    -- a missing count is refused under every name
    cases count <;> simp
  | _ => simp [decodeList, requireBin_some, ok_bind, succeeds_bind]

theorem succeeds_decodeMap (c : MapCode) :
    Succeeds (decodeMap rt debug (some b) val dict c) ↔
      Succeeds (decodeMap rt debug (some b') val dict c) := by
  cases c with
  | putItems =>
    simp only [decodeMap, requireBin_some, ok_bind, succeeds_bind]
    refine exists_congr fun policy => and_congr_right fun _ => ?_
    refine exists_congr fun v => and_congr_right fun _ => ?_
    cases v <;> simp
  | _ => simp [decodeMap, requireBin_some, ok_bind, succeeds_bind]

theorem succeeds_decodeHll (c : HllCode) :
    Succeeds (decodeHll (some b) val dict c) ↔ Succeeds (decodeHll (some b') val dict c) := by
  cases c <;> simp [decodeHll, requireBin_some, ok_bind, succeeds_bind]

theorem succeeds_decodeBit (c : BitCode) :
    Succeeds (decodeBit debug (some b) val dict c) ↔
      Succeeds (decodeBit debug (some b') val dict c) := by
  cases c <;> simp [decodeBit, requireBin_some, ok_bind, succeeds_bind]

theorem succeeds_decodeOp (c : OpCode) :
    Succeeds (decodeOp rt debug (some b) val dict c) ↔
      Succeeds (decodeOp rt debug (some b') val dict c) := by
  cases c with
  | basic c => exact succeeds_decodeBasic c
  | list c => exact succeeds_decodeList c
  | map c => exact succeeds_decodeMap c
  | hll c => exact succeeds_decodeHll c
  | bit c => exact succeeds_decodeBit c

end Decode

/-- Neither a read, nor an operation on the whole record. -/
def OpCode.writesBin (c : OpCode) : Bool :=
  c ∉ readCodes && c != .basic .touch && c != .basic .delete

/-- The dict of an operation that writes a bin, whatever its name. -/
structure BinWrite where
  dict : Entries
  code : OpCode
  op : required (getStr dict "op") extractI32 "Operation must have 'op' key" = .ok code.code
  writes : code.writesBin = true

namespace BinWrite

variable (rt : Runtime) (debug : Value → String)

def named (op : BinWrite) (b : String) : PyObj := .dict (withBin op.dict b)

/-- The value and the other fields are what the arm of the operation asks for. -/
def FieldsConvert (op : BinWrite) : Prop :=
  ∃ name val, given (getStr op.dict "val") (pyToValue rt) = .ok val ∧
    Succeeds (decodeOp rt debug (some name) val op.dict op.code)

variable {rt debug}

/-- An operation is converted under every name, if under any. -/
theorem succeeds_named (op : BinWrite) (b : String) :
    Succeeds (pyOpToRust rt debug (op.named b)) ↔ op.FieldsConvert rt debug := by
  have hcode : getStr (withBin op.dict b) "op" = getStr op.dict "op" := by simp
  have hval : getStr (withBin op.dict b) "val" = getStr op.dict "val" := by simp
  have hbin : given (getStr (withBin op.dict b) "bin") extractString = .ok (some b) := by
    rw [getStr_withBin, if_pos rfl]
    rfl
  simp only [pyOpToRust, named, castDict, ok_bind, hcode, op.op, hbin, hval, OpCode.ofCode?_code]
  rw [succeeds_bind]
  constructor
  · intro h
    obtain ⟨val, hv, h⟩ := h
    have hdecode := succeeds_bind_pure.mp h
    rw [decodeOp_withBin] at hdecode
    exact ⟨b, val, hv, hdecode⟩
  · intro h
    obtain ⟨name, val, hv, hdecode⟩ := h
    refine ⟨val, hv, succeeds_bind_pure.mpr ?_⟩
    rw [decodeOp_withBin]
    exact (succeeds_decodeOp op.code).mp hdecode

end BinWrite

end AerospikePy.Operations
