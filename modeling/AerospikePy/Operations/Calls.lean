import AerospikePy.Operations.Builders

/-!
# Calls of the builders

A call of a helper with the arguments that its signature allows, the dict that the helper
builds for it, and the core operation that the call names. What a constant means is read
off the tables of `constants.rs`, not off the decoder.
-/

namespace AerospikePy.Operations

open AerospikePy.Core
open AerospikePy.Python
open AerospikePy.Values

inductive SelectArgs where
  | value (val : PyObj)
  | index (index : PyInt)
  | indexRange (index : PyInt) (count : Option PyInt)
  | rank (rank : PyInt)
  | rankRange (rank : PyInt) (count : Option PyInt)
  | valueList (values : List PyObj)
  | valueRange (first last : PyObj)

inductive MapSelectArgs where
  | entry (s : SelectArgs)
  | key (key : PyObj)
  | keyList (keys : List PyObj)
  | keyRange (first last : PyObj)

inductive ListCall where
  | append (val : PyObj) (policy : Option Entries)
  | appendItems (values : List PyObj) (policy : Option Entries)
  | insert (index : PyInt) (val : PyObj) (policy : Option Entries)
  | insertItems (index : PyInt) (values : List PyObj) (policy : Option Entries)
  | pop (index : PyInt)
  | popRange (index count : PyInt)
  | remove (index : PyInt)
  | removeRange (index count : PyInt)
  | set (index : PyInt) (val : PyObj)
  | trim (index count : PyInt)
  | clear
  | size
  | get (index : PyInt)
  | getRange (index count : PyInt)
  | getBy (s : SelectArgs) (returnType : PyInt)
  | removeBy (s : SelectArgs) (returnType : PyInt)
  | increment (index val : PyInt) (policy : Option Entries)
  | sort (sortFlags : PyInt)
  | setOrder (listOrder : PyInt)

inductive MapCall where
  | setOrder (mapOrder : PyInt)
  | put (key val : PyObj) (policy : Option Entries)
  | putItems (items : Entries) (policy : Option Entries)
  | increment (key incr : PyObj) (policy : Option Entries)
  | decrement (key decr : PyObj) (policy : Option Entries)
  | clear
  | size
  | getBy (s : MapSelectArgs) (returnType : PyInt)
  | removeBy (s : MapSelectArgs) (returnType : PyInt)

inductive HllCall where
  | init (indexBitCount : PyInt) (minhashBitCount : Option PyInt) (policy : Option Entries)
  | add (values : List PyObj) (indexBitCount minhashBitCount : Option PyInt)
      (policy : Option Entries)
  | getCount
  | getUnion (values : List PyObj)
  | getUnionCount (values : List PyObj)
  | getIntersectCount (values : List PyObj)
  | getSimilarity (values : List PyObj)
  | describe
  | fold (indexBitCount : PyInt)
  | setUnion (values : List PyObj) (policy : Option Entries)

inductive BitCall where
  | resize (byteSize resizeFlags : PyInt) (policy : Option PyInt)
  | insert (byteOffset : PyInt) (value : PyBytes) (policy : Option PyInt)
  | remove (byteOffset byteSize : PyInt) (policy : Option PyInt)
  | logic (op : BitLogic) (bitOffset bitSize : PyInt) (value : PyBytes) (policy : Option PyInt)
  | not (bitOffset bitSize : PyInt) (policy : Option PyInt)
  | shift (op : BitShift) (bitOffset bitSize shift : PyInt) (policy : Option PyInt)
  | arith (op : BitArith) (bitOffset bitSize value : PyInt) (signed : Bool) (action : PyInt)
      (policy : Option PyInt)
  | setInt (bitOffset bitSize value : PyInt) (policy : Option PyInt)
  | get (bitOffset bitSize : PyInt)
  | count (bitOffset bitSize : PyInt)
  | scan (op : BitScan) (bitOffset bitSize : PyInt) (value : Bool)
  | getInt (bitOffset bitSize : PyInt) (signed : Bool)

inductive Call where
  | list (bin : PyStr) (c : ListCall)
  | map (bin : PyStr) (c : MapCall)
  | hll (bin : PyStr) (c : HllCall)
  | bit (bin : PyStr) (c : BitCall)

def ListCall.dict (bin : PyStr) : ListCall → Entries
  | append val policy => listAppend bin val policy
  | appendItems values policy => listAppendItems bin values policy
  | insert index val policy => listInsert bin index val policy
  | insertItems index values policy => listInsertItems bin index values policy
  | pop index => listPop bin index
  | popRange index count => listPopRange bin index count
  | remove index => listRemove bin index
  | removeRange index count => listRemoveRange bin index count
  | set index val => listSet bin index val
  | trim index count => listTrim bin index count
  | clear => listClear bin
  | size => listSize bin
  | get index => listGet bin index
  | getRange index count => listGetRange bin index count
  | getBy s returnType => match s with
    | .value val => listGetByValue bin val returnType
    | .index index => listGetByIndex bin index returnType
    | .indexRange index count => listGetByIndexRange bin index returnType count
    | .rank rank => listGetByRank bin rank returnType
    | .rankRange rank count => listGetByRankRange bin rank returnType count
    | .valueList values => listGetByValueList bin values returnType
    | .valueRange first last => listGetByValueRange bin first last returnType
  | removeBy s returnType => match s with
    | .value val => listRemoveByValue bin val returnType
    | .index index => listRemoveByIndex bin index returnType
    | .indexRange index count => listRemoveByIndexRange bin index returnType count
    | .rank rank => listRemoveByRank bin rank returnType
    | .rankRange rank count => listRemoveByRankRange bin rank returnType count
    | .valueList values => listRemoveByValueList bin values returnType
    | .valueRange first last => listRemoveByValueRange bin first last returnType
  | increment index val policy => listIncrement bin index val policy
  | sort sortFlags => listSort bin sortFlags
  | setOrder listOrder => listSetOrder bin listOrder

def MapCall.dict (bin : PyStr) : MapCall → Entries
  | setOrder mapOrder => mapSetOrder bin mapOrder
  | put key val policy => mapPut bin key val policy
  | putItems items policy => mapPutItems bin items policy
  | increment key incr policy => mapIncrement bin key incr policy
  | decrement key decr policy => mapDecrement bin key decr policy
  | clear => mapClear bin
  | size => mapSize bin
  | getBy s returnType => match s with
    | .entry (.value val) => mapGetByValue bin val returnType
    | .entry (.index index) => mapGetByIndex bin index returnType
    | .entry (.indexRange index count) => mapGetByIndexRange bin index returnType count
    | .entry (.rank rank) => mapGetByRank bin rank returnType
    | .entry (.rankRange rank count) => mapGetByRankRange bin rank returnType count
    | .entry (.valueList values) => mapGetByValueList bin values returnType
    | .entry (.valueRange first last) => mapGetByValueRange bin first last returnType
    | .key key => mapGetByKey bin key returnType
    | .keyList keys => mapGetByKeyList bin keys returnType
    | .keyRange first last => mapGetByKeyRange bin first last returnType
  | removeBy s returnType => match s with
    | .entry (.value val) => mapRemoveByValue bin val returnType
    | .entry (.index index) => mapRemoveByIndex bin index returnType
    | .entry (.indexRange index count) => mapRemoveByIndexRange bin index returnType count
    | .entry (.rank rank) => mapRemoveByRank bin rank returnType
    | .entry (.rankRange rank count) => mapRemoveByRankRange bin rank returnType count
    | .entry (.valueList values) => mapRemoveByValueList bin values returnType
    | .entry (.valueRange first last) => mapRemoveByValueRange bin first last returnType
    | .key key => mapRemoveByKey bin key returnType
    | .keyList keys => mapRemoveByKeyList bin keys returnType
    | .keyRange first last => mapRemoveByKeyRange bin first last returnType

def HllCall.dict (bin : PyStr) : HllCall → Entries
  | init indexBitCount minhashBitCount policy => hllInit bin indexBitCount minhashBitCount policy
  | add values indexBitCount minhashBitCount policy =>
    hllAdd bin values indexBitCount minhashBitCount policy
  | getCount => hllGetCount bin
  | getUnion values => hllGetUnion bin values
  | getUnionCount values => hllGetUnionCount bin values
  | getIntersectCount values => hllGetIntersectCount bin values
  | getSimilarity values => hllGetSimilarity bin values
  | describe => hllDescribe bin
  | fold indexBitCount => hllFold bin indexBitCount
  | setUnion values policy => hllSetUnion bin values policy

def BitCall.dict (bin : PyStr) : BitCall → Entries
  | resize byteSize resizeFlags policy => bitResize bin byteSize resizeFlags policy
  | insert byteOffset value policy => bitInsert bin byteOffset value policy
  | remove byteOffset byteSize policy => bitRemove bin byteOffset byteSize policy
  | logic .set bitOffset bitSize value policy => bitSet bin bitOffset bitSize value policy
  | logic .or bitOffset bitSize value policy => bitOr bin bitOffset bitSize value policy
  | logic .xor bitOffset bitSize value policy => bitXor bin bitOffset bitSize value policy
  | logic .and bitOffset bitSize value policy => bitAnd bin bitOffset bitSize value policy
  | not bitOffset bitSize policy => bitNot bin bitOffset bitSize policy
  | shift .lshift bitOffset bitSize places policy => bitLshift bin bitOffset bitSize places policy
  | shift .rshift bitOffset bitSize places policy => bitRshift bin bitOffset bitSize places policy
  | arith .add bitOffset bitSize value signed action policy =>
    bitAdd bin bitOffset bitSize value signed action policy
  | arith .subtract bitOffset bitSize value signed action policy =>
    bitSubtract bin bitOffset bitSize value signed action policy
  | setInt bitOffset bitSize value policy => bitSetInt bin bitOffset bitSize value policy
  | get bitOffset bitSize => bitGet bin bitOffset bitSize
  | count bitOffset bitSize => bitCount bin bitOffset bitSize
  | scan .lscan bitOffset bitSize value => bitLscan bin bitOffset bitSize value
  | scan .rscan bitOffset bitSize value => bitRscan bin bitOffset bitSize value
  | getInt bitOffset bitSize signed => bitGetInt bin bitOffset bitSize signed

def Call.dict : Call → Entries
  | list bin c => c.dict bin
  | map bin c => c.dict bin
  | hll bin c => c.dict bin
  | bit bin c => c.dict bin

def SelectArgs.selector : SelectArgs → Selector
  | value _ => .value
  | index _ => .index
  | indexRange _ _ => .indexRange
  | rank _ => .rank
  | rankRange _ _ => .rankRange
  | valueList _ => .valueList
  | valueRange _ _ => .valueRange

def MapSelectArgs.selector : MapSelectArgs → MapSelector
  | entry s => .entry s.selector
  | key _ => .key
  | keyList _ => .keyList
  | keyRange _ _ => .keyRange

def ListCall.code : ListCall → ListCode
  | append _ _ => .append
  | appendItems _ _ => .appendItems
  | insert _ _ _ => .insert
  | insertItems _ _ _ => .insertItems
  | pop _ => .pop
  | popRange _ _ => .popRange
  | remove _ => .remove
  | removeRange _ _ => .removeRange
  | set _ _ => .set
  | trim _ _ => .trim
  | clear => .clear
  | size => .size
  | get _ => .get
  | getRange _ _ => .getRange
  | getBy s _ => .getBy s.selector
  | removeBy s _ => .removeBy s.selector
  | increment _ _ _ => .increment
  | sort _ => .sort
  | setOrder _ => .setOrder

def MapCall.code : MapCall → MapCode
  | setOrder _ => .setOrder
  | put _ _ _ => .put
  | putItems _ _ => .putItems
  | increment _ _ _ => .increment
  | decrement _ _ _ => .decrement
  | clear => .clear
  | size => .size
  | getBy s _ => .getBy s.selector
  | removeBy s _ => .removeBy s.selector

def HllCall.code : HllCall → HllCode
  | init _ _ _ => .init
  | add _ _ _ _ => .add
  | getCount => .getCount
  | getUnion _ => .getUnion
  | getUnionCount _ => .getUnionCount
  | getIntersectCount _ => .getIntersectCount
  | getSimilarity _ => .getSimilarity
  | describe => .describe
  | fold _ => .fold
  | setUnion _ _ => .setUnion

def BitCall.code : BitCall → BitCode
  | resize _ _ _ => .resize
  | insert _ _ _ => .insert
  | remove _ _ _ => .remove
  | logic op _ _ _ _ => .logic op
  | not _ _ _ => .not
  | shift op _ _ _ _ => .shift op
  | arith op _ _ _ _ _ _ => .arith op
  | setInt _ _ _ _ => .setInt
  | get _ _ => .get
  | count _ _ => .count
  | scan op _ _ _ => .scan op
  | getInt _ _ _ => .getInt

def Call.code : Call → OpCode
  | list _ c => .list c.code
  | map _ c => .map c.code
  | hll _ c => .hll c.code
  | bit _ c => .bit c.code

def Call.bin : Call → PyStr
  | list bin _ => bin
  | map bin _ => bin
  | hll bin _ => bin
  | bit bin _ => bin

end AerospikePy.Operations
