import AerospikePy.Core.Value
import AerospikePy.Lib.Coding

/-!
# Operations

The operation codes of `constants.rs`, and the operations of `aerospike_core` as free
terms over its constructors. What selects elements of a list or entries of a map is read
the same way whether they are got or removed, and is a family of its own.
-/

namespace AerospikePy.Operations

open AerospikePy.Core
open AerospikePy.Lib.Coding

inductive BasicCode where
  | read | write | incr | append | prepend | touch | delete
  deriving DecidableEq, Repr

def BasicCode.code : BasicCode → Int
  | read => 1
  | write => 2
  | incr => 5
  | append => 9
  | prepend => 10
  | touch => 11
  | delete => 12

/-- What `get_by_*` and `remove_by_*` go by. -/
inductive Selector where
  | value | index | indexRange | rank | rankRange | valueList | valueRange
  deriving DecidableEq, Repr

inductive ListCode where
  | append | appendItems | insert | insertItems | pop | popRange | remove | removeRange
  | set | trim | clear | size | get | getRange
  | getBy (s : Selector)
  | removeBy (s : Selector)
  | increment | sort | setOrder
  deriving DecidableEq, Repr

def ListCode.code : ListCode → Int
  | append => 1001
  | appendItems => 1002
  | insert => 1003
  | insertItems => 1004
  | pop => 1005
  | popRange => 1006
  | remove => 1007
  | removeRange => 1008
  | set => 1009
  | trim => 1010
  | clear => 1011
  | size => 1012
  | get => 1013
  | getRange => 1014
  | getBy .value => 1015
  | getBy .index => 1016
  | getBy .indexRange => 1017
  | getBy .rank => 1018
  | getBy .rankRange => 1019
  | getBy .valueList => 1020
  | getBy .valueRange => 1021
  | removeBy .value => 1022
  | removeBy .valueList => 1023
  | removeBy .valueRange => 1024
  | removeBy .index => 1025
  | removeBy .indexRange => 1026
  | removeBy .rank => 1027
  | removeBy .rankRange => 1028
  | increment => 1029
  | sort => 1030
  | setOrder => 1031

/-- The entries of a map are also selected by their keys. -/
inductive MapSelector where
  | entry (s : Selector)
  | key | keyList | keyRange
  deriving DecidableEq, Repr

inductive MapCode where
  | setOrder | put | putItems | increment | decrement | clear
  | removeBy (s : MapSelector)
  | size
  | getBy (s : MapSelector)
  deriving DecidableEq, Repr

def MapCode.code : MapCode → Int
  | setOrder => 2001
  | put => 2002
  | putItems => 2003
  | increment => 2004
  | decrement => 2005
  | clear => 2006
  | removeBy .key => 2007
  | removeBy .keyList => 2008
  | removeBy .keyRange => 2009
  | removeBy (.entry .value) => 2010
  | removeBy (.entry .valueList) => 2011
  | removeBy (.entry .valueRange) => 2012
  | removeBy (.entry .index) => 2013
  | removeBy (.entry .indexRange) => 2014
  | removeBy (.entry .rank) => 2015
  | removeBy (.entry .rankRange) => 2016
  | size => 2017
  | getBy .key => 2018
  | getBy .keyRange => 2019
  | getBy (.entry .value) => 2020
  | getBy (.entry .valueRange) => 2021
  | getBy (.entry .index) => 2022
  | getBy (.entry .indexRange) => 2023
  | getBy (.entry .rank) => 2024
  | getBy (.entry .rankRange) => 2025
  | getBy .keyList => 2026
  | getBy (.entry .valueList) => 2027

inductive HllCode where
  | init | add | getCount | getUnion | getUnionCount | getIntersectCount | getSimilarity
  | describe | fold | setUnion
  deriving DecidableEq, Repr

def HllCode.code : HllCode → Int
  | init => 3001
  | add => 3002
  | getCount => 3003
  | getUnion => 3004
  | getUnionCount => 3005
  | getIntersectCount => 3006
  | getSimilarity => 3007
  | describe => 3008
  | fold => 3009
  | setUnion => 3010

inductive BitLogic where
  | set | or | xor | and
  deriving DecidableEq, Repr

inductive BitShift where
  | lshift | rshift
  deriving DecidableEq, Repr

inductive BitArith where
  | add | subtract
  deriving DecidableEq, Repr

inductive BitScan where
  | lscan | rscan
  deriving DecidableEq, Repr

inductive BitCode where
  | resize | insert | remove
  | logic (op : BitLogic)
  | not
  | shift (op : BitShift)
  | arith (op : BitArith)
  | setInt | get | count
  | scan (op : BitScan)
  | getInt
  deriving DecidableEq, Repr

def BitCode.code : BitCode → Int
  | resize => 4001
  | insert => 4002
  | remove => 4003
  | logic .set => 4004
  | logic .or => 4005
  | logic .xor => 4006
  | logic .and => 4007
  | not => 4008
  | shift .lshift => 4009
  | shift .rshift => 4010
  | arith .add => 4011
  | arith .subtract => 4012
  | setInt => 4013
  | get => 4050
  | count => 4051
  | scan .lscan => 4052
  | scan .rscan => 4053
  | getInt => 4054

inductive OpCode where
  | basic (c : BasicCode)
  | list (c : ListCode)
  | map (c : MapCode)
  | hll (c : HllCode)
  | bit (c : BitCode)
  deriving DecidableEq, Repr

namespace OpCode

def code : OpCode → Int
  | basic c => c.code
  | list c => c.code
  | map c => c.code
  | hll c => c.code
  | bit c => c.code

def selectors : List Selector :=
  [.value, .index, .indexRange, .rank, .rankRange, .valueList, .valueRange]

def mapSelectors : List MapSelector := selectors.map .entry ++ [.key, .keyList, .keyRange]

def basicCodes : List BasicCode := [.read, .write, .incr, .append, .prepend, .touch, .delete]

def listCodes : List ListCode :=
  [.append, .appendItems, .insert, .insertItems, .pop, .popRange, .remove, .removeRange, .set,
    .trim, .clear, .size, .get, .getRange, .increment, .sort, .setOrder] ++
  selectors.map .getBy ++ selectors.map .removeBy

def mapCodes : List MapCode :=
  [.setOrder, .put, .putItems, .increment, .decrement, .clear, .size] ++
  mapSelectors.map .getBy ++ mapSelectors.map .removeBy

def hllCodes : List HllCode :=
  [.init, .add, .getCount, .getUnion, .getUnionCount, .getIntersectCount, .getSimilarity,
    .describe, .fold, .setUnion]

def bitCodes : List BitCode :=
  [.resize, .insert, .remove, .logic .set, .logic .or, .logic .xor, .logic .and, .not,
    .shift .lshift, .shift .rshift, .arith .add, .arith .subtract, .setInt, .get, .count,
    .scan .lscan, .scan .rscan, .getInt]

def all : List OpCode :=
  basicCodes.map basic ++ listCodes.map list ++ mapCodes.map map ++ hllCodes.map hll ++
    bitCodes.map bit

/-- The arm of the dispatch that a code takes. -/
def ofCode? (c : Int) : Option OpCode := all.find? fun op => op.code = c

theorem mem_selectors (s : Selector) : s ∈ selectors := by
  cases s <;> decide

theorem mem_mapSelectors (s : MapSelector) : s ∈ mapSelectors := by
  cases s with
  | entry s => simp [mapSelectors, mem_selectors s]
  | _ => decide

theorem mem_listCodes (c : ListCode) : c ∈ listCodes := by
  cases c with
  | getBy s | removeBy s => simp [listCodes, mem_selectors s]
  | _ => decide

theorem mem_mapCodes (c : MapCode) : c ∈ mapCodes := by
  cases c with
  | getBy s | removeBy s => simp [mapCodes, mem_mapSelectors s]
  | _ => decide

theorem mem_bitCodes (c : BitCode) : c ∈ bitCodes := by
  cases c with
  | logic op | shift op | arith op | scan op => cases op <;> decide
  | _ => decide

theorem mem_all (op : OpCode) : op ∈ all := by
  cases op with
  | basic c =>
    have hc : c ∈ basicCodes := by cases c <;> decide
    simp [all, hc]
  | list c => simp [all, mem_listCodes c]
  | map c => simp [all, mem_mapCodes c]
  | hll c =>
    have hc : c ∈ hllCodes := by cases c <;> decide
    simp [all, hc]
  | bit c => simp [all, mem_bitCodes c]

theorem nodup_codes : (all.map code).Nodup := by decide +kernel

@[simp] theorem ofCode?_code (op : OpCode) : ofCode? op.code = some op :=
  find?_code_of_mem mem_all nodup_codes op

theorem code_injective : Function.Injective code := by
  intro c c' h
  have hback := ofCode?_code c
  rw [h, ofCode?_code] at hback
  exact (Option.some.inj hback).symm

end OpCode

inductive ListOrderType where
  | unordered | ordered
  deriving DecidableEq, Repr

structure ListPolicy where
  attributes : ListOrderType
  flags : UInt8
  deriving DecidableEq, Repr

inductive ListReturnType where
  | none | index | reverseIndex | rank | reverseRank | count | values | exists
  deriving DecidableEq, Repr

inductive ListSortFlags where
  | default | dropDuplicates
  deriving DecidableEq, Repr

inductive MapOrder where
  | unordered | keyOrdered | keyValueOrdered
  deriving DecidableEq, Repr

inductive MapWriteMode where
  | update | updateOnly | createOnly
  deriving DecidableEq, Repr

structure MapPolicy where
  order : MapOrder
  writeMode : MapWriteMode
  deriving DecidableEq, Repr

inductive MapReturnType where
  | none | index | reverseIndex | rank | reverseRank | count | key | value | keyValue | exists
  deriving DecidableEq, Repr

structure HllPolicy where
  flags : Int64
  deriving DecidableEq, Repr

structure BitPolicy where
  flags : UInt8
  deriving DecidableEq, Repr

inductive BitwiseResizeFlags where
  | default | fromFront | growOnly | shrinkOnly
  deriving DecidableEq, Repr

inductive BitwiseOverflowActions where
  | fail | saturate | wrap
  deriving DecidableEq, Repr

/-- The `default()` of the policies, as the crate documents it. -/
def ListPolicy.default : ListPolicy := ⟨.unordered, 0⟩

def MapPolicy.default : MapPolicy := ⟨.unordered, .update⟩

def HllPolicy.default : HllPolicy := ⟨0⟩

def BitPolicy.default : BitPolicy := ⟨0⟩

/-- The elements that a `get_by_*` or `remove_by_*` function is called for. A range
without a count is that of the variant that takes none. -/
inductive Selection where
  | byValue (v : Value)
  | byIndex (index : Int64)
  | byIndexRange (index : Int64) (count : Option Int64)
  | byRank (rank : Int64)
  | byRankRange (rank : Int64) (count : Option Int64)
  | byValueList (values : List Value)
  | byValueRange (first last : Value)
  deriving DecidableEq, Repr

inductive MapSelection where
  | entry (s : Selection)
  | byKey (key : Value)
  | byKeyList (keys : List Value)
  | byKeyRange (first last : Value)
  deriving DecidableEq, Repr

/-- `operations::lists`. -/
inductive ListOp where
  | append (policy : ListPolicy) (v : Value)
  | appendItems (policy : ListPolicy) (values : List Value)
  | insert (policy : ListPolicy) (index : Int64) (v : Value)
  | insertItems (policy : ListPolicy) (index : Int64) (values : List Value)
  | pop (index : Int64)
  | popRange (index count : Int64)
  | remove (index : Int64)
  | removeRange (index count : Int64)
  | set (index : Int64) (v : Value)
  | trim (index count : Int64)
  | clear
  | size
  | get (index : Int64)
  | getRange (index count : Int64)
  | getBy (s : Selection) (returnType : ListReturnType)
  | removeBy (s : Selection) (returnType : ListReturnType)
  | increment (policy : ListPolicy) (index value : Int64)
  | sort (flags : ListSortFlags)
  | setOrder (order : ListOrderType)
  deriving DecidableEq, Repr

/-- `operations::maps`. -/
inductive MapOp where
  | setOrder (order : MapOrder)
  | put (policy : MapPolicy) (key v : Value)
  | putItems (policy : MapPolicy) (items : List (Value × Value))
  | incrementValue (policy : MapPolicy) (key v : Value)
  | decrementValue (policy : MapPolicy) (key v : Value)
  | clear
  | size
  | getBy (s : MapSelection) (returnType : MapReturnType)
  | removeBy (s : MapSelection) (returnType : MapReturnType)
  deriving DecidableEq, Repr

/-- `operations::hll`. -/
inductive HllOp where
  | initWithMinHash (policy : HllPolicy) (indexBitCount minHashBitCount : Int64)
  | addWithIndexAndMinHash (policy : HllPolicy) (values : List Value)
      (indexBitCount minHashBitCount : Int64)
  | getCount
  | getUnion (values : List Value)
  | getUnionCount (values : List Value)
  | getIntersectCount (values : List Value)
  | getSimilarity (values : List Value)
  | describe
  | fold (indexBitCount : Int64)
  | setUnion (policy : HllPolicy) (values : List Value)
  deriving DecidableEq, Repr

/-- `operations::bitwise`. -/
inductive BitOp where
  | resize (byteSize : Int64) (flags : Option BitwiseResizeFlags) (policy : BitPolicy)
  | insert (byteOffset : Int64) (v : Value) (policy : BitPolicy)
  | remove (byteOffset byteSize : Int64) (policy : BitPolicy)
  | logic (op : BitLogic) (bitOffset bitSize : Int64) (v : Value) (policy : BitPolicy)
  | not (bitOffset bitSize : Int64) (policy : BitPolicy)
  | shift (op : BitShift) (bitOffset bitSize shift : Int64) (policy : BitPolicy)
  | arith (op : BitArith) (bitOffset bitSize value : Int64) (signed : Bool)
      (action : BitwiseOverflowActions) (policy : BitPolicy)
  | setInt (bitOffset bitSize value : Int64) (policy : BitPolicy)
  | get (bitOffset bitSize : Int64)
  | count (bitOffset bitSize : Int64)
  | scan (op : BitScan) (bitOffset bitSize : Int64) (value : Bool)
  | getInt (bitOffset bitSize : Int64) (signed : Bool)
  deriving DecidableEq, Repr

/-- `aerospike_core::operations::Operation`. -/
inductive Operation where
  | getBin (name : String)
  | get
  | put (bin : Bin)
  | add (bin : Bin)
  | append (bin : Bin)
  | prepend (bin : Bin)
  | touch
  | delete
  | list (name : String) (op : ListOp)
  | map (name : String) (op : MapOp)
  | hll (name : String) (op : HllOp)
  | bit (name : String) (op : BitOp)
  deriving Repr

end AerospikePy.Operations
