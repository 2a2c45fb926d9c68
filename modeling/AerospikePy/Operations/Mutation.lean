import AerospikePy.Operations.Convert

/-!
# Operations that change the record

The constructor of an operation tells the code that it was converted from, and its name
tells whether it changes the record. `op_code_is_write` says the same of the code.
-/

namespace AerospikePy.Operations

open AerospikePy.Core
open AerospikePy.Lib.Fallible
open AerospikePy.Python
open AerospikePy.Values

def Selection.selector : Selection → Selector
  | byValue _ => .value
  | byIndex _ => .index
  | byIndexRange _ _ => .indexRange
  | byRank _ => .rank
  | byRankRange _ _ => .rankRange
  | byValueList _ => .valueList
  | byValueRange _ _ => .valueRange

def MapSelection.selector : MapSelection → MapSelector
  | entry s => .entry s.selector
  | byKey _ => .key
  | byKeyList _ => .keyList
  | byKeyRange _ _ => .keyRange

def ListOp.listCode : ListOp → ListCode
  | append _ _ => .append
  | appendItems _ _ => .appendItems
  | insert _ _ _ => .insert
  | insertItems _ _ _ => .insertItems
  | pop _ => .pop
  | popRange _ _ => .popRange
  | remove _ => .remove
  | removeRange _ _ => .removeRange
  | set _ _ => .set
  | trim _ _ => .trim
  | clear => .clear
  | size => .size
  | get _ => .get
  | getRange _ _ => .getRange
  | getBy s _ => .getBy s.selector
  | removeBy s _ => .removeBy s.selector
  | increment _ _ _ => .increment
  | sort _ => .sort
  | setOrder _ => .setOrder

def MapOp.mapCode : MapOp → MapCode
  | setOrder _ => .setOrder
  | put _ _ _ => .put
  | putItems _ _ => .putItems
  | incrementValue _ _ _ => .increment
  | decrementValue _ _ _ => .decrement
  | clear => .clear
  | size => .size
  | getBy s _ => .getBy s.selector
  | removeBy s _ => .removeBy s.selector

def HllOp.hllCode : HllOp → HllCode
  | initWithMinHash _ _ _ => .init
  | addWithIndexAndMinHash _ _ _ _ => .add
  | getCount => .getCount
  | getUnion _ => .getUnion
  | getUnionCount _ => .getUnionCount
  | getIntersectCount _ => .getIntersectCount
  | getSimilarity _ => .getSimilarity
  | describe => .describe
  | fold _ => .fold
  | setUnion _ _ => .setUnion

def BitOp.bitCode : BitOp → BitCode
  | resize _ _ _ => .resize
  | insert _ _ _ => .insert
  | remove _ _ _ => .remove
  | logic op _ _ _ _ => .logic op
  | not _ _ _ => .not
  | shift op _ _ _ _ => .shift op
  | arith op _ _ _ _ _ _ => .arith op
  | setInt _ _ _ _ => .setInt
  | get _ _ => .get
  | count _ _ => .count
  | scan op _ _ _ => .scan op
  | getInt _ _ _ => .getInt

/-- A read of all bins has the code of a read of one. -/
def Operation.opCode : Operation → OpCode
  | .get | .getBin _ => .basic .read
  | .put _ => .basic .write
  | .add _ => .basic .incr
  | .append _ => .basic .append
  | .prepend _ => .basic .prepend
  | .touch => .basic .touch
  | .delete => .basic .delete
  | .list _ op => .list op.listCode
  | .map _ op => .map op.mapCode
  | .hll _ op => .hll op.hllCode
  | .bit _ op => .bit op.bitCode

section Code

variable {rt : Runtime} {debug : Value → String} {binName : Option String} {val : Option Value}
  {dict : Entries}

theorem decodeSelect_selector {R : Type} (intToReturnType : Int → Except PyErr R) (opName : String)
    (s : Selector) : Ensures (fun r => r.1.selector = s)
      (decodeSelect rt intToReturnType opName dict val s) := by
  cases s with
  | value | index | rank | valueList | valueRange =>
    apply ensures_bind
    intro _ _
    apply ensures_bind
    intro _ _
    exact ensures_ok rfl
  | indexRange | rankRange =>
    apply ensures_bind
    intro _ _
    apply ensures_bind
    intro _ _
    apply ensures_bind
    intro _ _
    exact ensures_ok rfl

theorem decodeMapSelect_selector {R : Type} (intToReturnType : Int → Except PyErr R)
    (opName : String) (s : MapSelector) : Ensures (fun r => r.1.selector = s)
      (decodeMapSelect rt intToReturnType opName dict val s) := by
  cases s with
  | entry s =>
    apply ensures_bind
    intro r hr
    have hs := decodeSelect_selector intToReturnType opName s r hr
    exact ensures_ok (congrArg MapSelector.entry hs)
  | key | keyRange =>
    apply ensures_bind
    intro _ _
    apply ensures_bind
    intro _ _
    exact ensures_ok rfl
  | keyList =>
    apply ensures_bind
    intro _ _
    exact ensures_ok rfl

theorem decodeBasic_opCode (c : BasicCode) :
    Ensures (fun op => op.opCode = .basic c) (decodeBasic debug binName val c) := by
  cases c with
  | read =>
    unfold decodeBasic
    cases binName <;> exact ensures_ok rfl
  | touch | delete => exact ensures_ok rfl
  | write | append | prepend =>
    apply ensures_bind
    intro _ _
    exact ensures_ok rfl
  | incr =>
    apply ensures_bind
    intro _ _
    apply ensures_bind
    intro _ _
    exact ensures_ok rfl

theorem decodeList_opCode (c : ListCode) :
    Ensures (fun op => op.opCode = .list c) (decodeList rt debug binName val dict c) := by
  cases c with
  | clear | size =>
    apply ensures_bind
    intro _ _
    exact ensures_ok rfl
  | append | appendItems | pop | remove | set | get | setOrder =>
    iterate 2
      apply ensures_bind
      intro _ _
    exact ensures_ok rfl
  | insert | insertItems | popRange | removeRange | getRange | sort =>
    iterate 3
      apply ensures_bind
      intro _ _
    exact ensures_ok rfl
  | increment =>
    iterate 4
      apply ensures_bind
      intro _ _
    exact ensures_ok rfl
  | trim =>
    iterate 3
      apply ensures_bind
      intro _ _
    split
    · exact ensures_ok rfl
    · exact ensures_error _
  | getBy s | removeBy s =>
    apply ensures_bind
    intro _ _
    apply ensures_bind
    intro r hr
    obtain rfl := decodeSelect_selector _ _ s r hr
    exact ensures_ok rfl

theorem decodeMap_opCode (c : MapCode) :
    Ensures (fun op => op.opCode = .map c) (decodeMap rt debug binName val dict c) := by
  cases c with
  | clear | size =>
    apply ensures_bind
    intro _ _
    exact ensures_ok rfl
  | setOrder =>
    iterate 2
      apply ensures_bind
      intro _ _
    exact ensures_ok rfl
  | put | increment | decrement =>
    iterate 3
      apply ensures_bind
      intro _ _
    exact ensures_ok rfl
  | putItems =>
    iterate 3
      apply ensures_bind
      intro _ _
    split
    · exact ensures_ok rfl
    · exact ensures_error _
  | getBy s | removeBy s =>
    apply ensures_bind
    intro _ _
    apply ensures_bind
    intro r hr
    obtain rfl := decodeMapSelect_selector _ _ s r hr
    exact ensures_ok rfl

theorem decodeHll_opCode (c : HllCode) :
    Ensures (fun op => op.opCode = .hll c) (decodeHll binName val dict c) := by
  cases c with
  | getCount | describe =>
    apply ensures_bind
    intro _ _
    exact ensures_ok rfl
  | getUnion | getUnionCount | getIntersectCount | getSimilarity | fold =>
    iterate 2
      apply ensures_bind
      intro _ _
    exact ensures_ok rfl
  | setUnion =>
    iterate 3
      apply ensures_bind
      intro _ _
    exact ensures_ok rfl
  | init =>
    iterate 4
      apply ensures_bind
      intro _ _
    exact ensures_ok rfl
  | add =>
    iterate 5
      apply ensures_bind
      intro _ _
    exact ensures_ok rfl

theorem decodeBit_opCode (c : BitCode) :
    Ensures (fun op => op.opCode = .bit c) (decodeBit debug binName val dict c) := by
  cases c with
  | get | count =>
    iterate 3
      apply ensures_bind
      intro _ _
    exact ensures_ok rfl
  | resize | insert | remove | not | scan op | getInt =>
    iterate 4
      apply ensures_bind
      intro _ _
    exact ensures_ok rfl
  | logic op | shift op | setInt =>
    iterate 5
      apply ensures_bind
      intro _ _
    exact ensures_ok rfl
  | arith op =>
    iterate 7
      apply ensures_bind
      intro _ _
    exact ensures_ok rfl

/-- An operation has the constructor of the code that its dict gives. -/
theorem Decoded.opCode_eq {op : Operation} {c : OpCode}
    (h : Decoded rt debug dict op c binName val) : op.opCode = c := by
  have hdecode := h.decode
  cases c with
  | basic c => exact decodeBasic_opCode c op hdecode
  | list c => exact decodeList_opCode c op hdecode
  | map c => exact decodeMap_opCode c op hdecode
  | hll c => exact decodeHll_opCode c op hdecode
  | bit c => exact decodeBit_opCode c op hdecode

end Code

/-- Reads of the record and its bins, `get*`, `size`, `describe`, `count`, `lscan` and
`rscan` change nothing; every other constructor changes the record. -/
def Operation.mutates : Operation → Bool
  | .get | .getBin _ => false
  | .put _ | .add _ | .append _ | .prepend _ | .touch | .delete => true
  | .list _ op => match op with
    | .size | .get _ | .getRange _ _ | .getBy _ _ => false
    | _ => true
  | .map _ op => match op with
    | .size | .getBy _ _ => false
    | _ => true
  | .hll _ op => match op with
    | .getCount | .getUnion _ | .getUnionCount _ | .getIntersectCount _ | .getSimilarity _
    | .describe => false
    | _ => true
  | .bit _ op => match op with
    | .get _ _ | .count _ _ | .scan _ _ _ _ | .getInt _ _ _ => false
    | _ => true

theorem opCodeIsWrite_code (c : OpCode) : opCodeIsWrite c.code = decide (c ∉ readCodes) := by
  have hall : ∀ c ∈ OpCode.all, opCodeIsWrite c.code = decide (c ∉ readCodes) := by decide +kernel
  exact hall c (OpCode.mem_all c)

/-- The table of the codes agrees with the constructors. -/
theorem opCodeIsWrite_opCode (op : Operation) : opCodeIsWrite op.opCode.code = op.mutates := by
  rw [opCodeIsWrite_code]
  cases op with
  | list name op =>
    cases op with
    | getBy s _ | removeBy s _ => cases s <;> rfl
    | _ => rfl
  | map name op =>
    cases op with
    | getBy s _ | removeBy s _ =>
      cases s with
      | entry s => cases s <;> rfl
      | _ => rfl
    | _ => rfl
  | hll name op => cases op <;> rfl
  | bit name op =>
    cases op with
    | logic op _ _ _ _ | shift op _ _ _ _ | arith op _ _ _ _ _ _ | scan op _ _ _ =>
      cases op <;> rfl
    | _ => rfl
  | _ => rfl

theorem mutates_of_pyOpToRust {rt : Runtime} {debug : Value → String} {item : PyObj}
    {op : Operation} {w : Bool} (h : pyOpToRust rt debug item = .ok (op, w)) : w = op.mutates := by
  obtain ⟨dict, c, binName, val, -, hdecoded, rfl⟩ := pyOpToRust_eq_ok h
  rw [← hdecoded.opCode_eq, opCodeIsWrite_opCode]

end AerospikePy.Operations
