import AerospikePy.Operations.Convert

/-!
# Operation builders

The helpers of `list_operations`, `map_operations`, `hll_operations` and
`bit_operations`, each with the code that its module gives it. An argument that is left
out takes its default, which is `None` or 0.
-/

namespace AerospikePy.Operations

open AerospikePy.Core
open AerospikePy.Lib
open AerospikePy.Python

/-- An argument annotated `int`, of which `bool` is a subclass. -/
inductive PyInt where
  | int (n : Int)
  | bool (b : Bool)
  deriving DecidableEq, Repr

/-- An argument annotated `Union[bytes, bytearray]`. -/
inductive PyBytes where
  | bytes (b : List UInt8)
  | bytearray (b : List UInt8)
  deriving DecidableEq, Repr

namespace PyInt

def toObj : PyInt → PyObj
  | int n => .int n
  | bool b => .bool b

def toInt : PyInt → Int
  | int n => n
  | bool b => if b then 1 else 0

def isBool : PyInt → Bool
  | int _ => false
  | bool _ => true

end PyInt

def PyBytes.toObj : PyBytes → PyObj
  | bytes b => .bytes b
  | bytearray b => .bytearray b

def PyBytes.content : PyBytes → List UInt8
  | bytes b => b
  | bytearray b => b

/-- `result[key] = value`, unless the value is `_UNSET`. -/
def setItemUnlessUnset (result : Entries) (key : String) (value : Option PyObj) : Entries :=
  match value with
  | some value => Assoc.insert pyEq result (.str key) value
  | none => result

def buildOp (opCode : Int) (bin : PyStr) (kwargs : List (String × Option PyObj)) : Entries :=
  kwargs.foldl (fun result kwarg => setItemUnlessUnset result kwarg.1 kwarg.2)
    [(.str "op", .int opCode), (.str "bin", .str bin)]

/-- The keyword argument that ends up under a key. -/
def kwarg : List (String × Option PyObj) → String → Option PyObj
  | [], _ => none
  | (name, value) :: kwargs, key => (kwarg kwargs key).or (if name = key then value else none)

theorem getStr_setItemUnlessUnset (result : Entries) (name key : String) (value : Option PyObj) :
    getStr (setItemUnlessUnset result name value) key =
      (if name = key then value else none).or (getStr result key) := by
  cases value with
  | none => simp [setItemUnlessUnset]
  | some value =>
    show getStr (Assoc.insert pyEq result (.str name) value) key = _
    rw [getStr_insert]
    by_cases h : name = key
    · simp [h]
    · simp [h]

theorem getStr_foldl (kwargs : List (String × Option PyObj)) (result : Entries) (key : String) :
    getStr (kwargs.foldl (fun result kwarg => setItemUnlessUnset result kwarg.1 kwarg.2) result)
      key = (kwarg kwargs key).or (getStr result key) := by
  induction kwargs generalizing result with
  | nil => rfl
  | cons a kwargs ih =>
    rw [List.foldl_cons, ih, getStr_setItemUnlessUnset, ← Option.or_assoc]
    rfl

/-- What the built dict holds. -/
theorem getStr_buildOp (opCode : Int) (bin : PyStr) (kwargs : List (String × Option PyObj))
    (key : String) : getStr (buildOp opCode bin kwargs) key =
      (kwarg kwargs key).or (if "op" = key then some (.int opCode)
        else if "bin" = key then some (.str bin) else none) := by
  rw [buildOp, getStr_foldl, getStr, getItem, Assoc.lookup_cons, Assoc.lookup_cons]
  simp [Assoc.lookup]

section Lists

variable (bin : PyStr)

def listAppend (val : PyObj) (policy : Option Entries) : Entries :=
  buildOp 1001 bin [("val", val), ("list_policy", policy.map .dict)]

def listAppendItems (values : List PyObj) (policy : Option Entries) : Entries :=
  buildOp 1002 bin [("val", PyObj.list values), ("list_policy", policy.map .dict)]

def listInsert (index : PyInt) (val : PyObj) (policy : Option Entries) : Entries :=
  buildOp 1003 bin [("index", index.toObj), ("val", val), ("list_policy", policy.map .dict)]

def listInsertItems (index : PyInt) (values : List PyObj) (policy : Option Entries) : Entries :=
  buildOp 1004 bin
    [("index", index.toObj), ("val", PyObj.list values), ("list_policy", policy.map .dict)]

def listPop (index : PyInt) : Entries := buildOp 1005 bin [("index", index.toObj)]

def listPopRange (index count : PyInt) : Entries :=
  buildOp 1006 bin [("index", index.toObj), ("count", count.toObj)]

def listRemove (index : PyInt) : Entries := buildOp 1007 bin [("index", index.toObj)]

def listRemoveRange (index count : PyInt) : Entries :=
  buildOp 1008 bin [("index", index.toObj), ("count", count.toObj)]

def listSet (index : PyInt) (val : PyObj) : Entries :=
  buildOp 1009 bin [("index", index.toObj), ("val", val)]

def listTrim (index count : PyInt) : Entries :=
  buildOp 1010 bin [("index", index.toObj), ("count", count.toObj)]

def listClear : Entries := buildOp 1011 bin []

def listSize : Entries := buildOp 1012 bin []

def listGet (index : PyInt) : Entries := buildOp 1013 bin [("index", index.toObj)]

def listGetRange (index count : PyInt) : Entries :=
  buildOp 1014 bin [("index", index.toObj), ("count", count.toObj)]

def listGetByValue (val : PyObj) (returnType : PyInt) : Entries :=
  buildOp 1015 bin [("val", val), ("return_type", returnType.toObj)]

def listGetByIndex (index returnType : PyInt) : Entries :=
  buildOp 1016 bin [("index", index.toObj), ("return_type", returnType.toObj)]

def listGetByIndexRange (index returnType : PyInt) (count : Option PyInt) : Entries :=
  buildOp 1017 bin [("index", index.toObj), ("return_type", returnType.toObj),
    ("count", count.map PyInt.toObj)]

def listGetByRank (rank returnType : PyInt) : Entries :=
  buildOp 1018 bin [("rank", rank.toObj), ("return_type", returnType.toObj)]

def listGetByRankRange (rank returnType : PyInt) (count : Option PyInt) : Entries :=
  buildOp 1019 bin [("rank", rank.toObj), ("return_type", returnType.toObj),
    ("count", count.map PyInt.toObj)]

def listGetByValueList (values : List PyObj) (returnType : PyInt) : Entries :=
  buildOp 1020 bin [("val", PyObj.list values), ("return_type", returnType.toObj)]

def listGetByValueRange (first last : PyObj) (returnType : PyInt) : Entries :=
  buildOp 1021 bin [("val", first), ("val_end", last), ("return_type", returnType.toObj)]

def listRemoveByValue (val : PyObj) (returnType : PyInt) : Entries :=
  buildOp 1022 bin [("val", val), ("return_type", returnType.toObj)]

def listRemoveByValueList (values : List PyObj) (returnType : PyInt) : Entries :=
  buildOp 1023 bin [("val", PyObj.list values), ("return_type", returnType.toObj)]

def listRemoveByValueRange (first last : PyObj) (returnType : PyInt) : Entries :=
  buildOp 1024 bin [("val", first), ("val_end", last), ("return_type", returnType.toObj)]

def listRemoveByIndex (index returnType : PyInt) : Entries :=
  buildOp 1025 bin [("index", index.toObj), ("return_type", returnType.toObj)]

def listRemoveByIndexRange (index returnType : PyInt) (count : Option PyInt) : Entries :=
  buildOp 1026 bin [("index", index.toObj), ("return_type", returnType.toObj),
    ("count", count.map PyInt.toObj)]

def listRemoveByRank (rank returnType : PyInt) : Entries :=
  buildOp 1027 bin [("rank", rank.toObj), ("return_type", returnType.toObj)]

def listRemoveByRankRange (rank returnType : PyInt) (count : Option PyInt) : Entries :=
  buildOp 1028 bin [("rank", rank.toObj), ("return_type", returnType.toObj),
    ("count", count.map PyInt.toObj)]

def listIncrement (index val : PyInt) (policy : Option Entries) : Entries :=
  buildOp 1029 bin [("index", index.toObj), ("val", val.toObj), ("list_policy", policy.map .dict)]

def listSort (sortFlags : PyInt) : Entries := buildOp 1030 bin [("val", sortFlags.toObj)]

def listSetOrder (listOrder : PyInt) : Entries := buildOp 1031 bin [("val", listOrder.toObj)]

end Lists

section Maps

variable (bin : PyStr)

def mapSetOrder (mapOrder : PyInt) : Entries := buildOp 2001 bin [("val", mapOrder.toObj)]

def mapPut (key val : PyObj) (policy : Option Entries) : Entries :=
  buildOp 2002 bin [("map_key", key), ("val", val), ("map_policy", policy.map .dict)]

def mapPutItems (items : Entries) (policy : Option Entries) : Entries :=
  buildOp 2003 bin [("val", PyObj.dict items), ("map_policy", policy.map .dict)]

def mapIncrement (key incr : PyObj) (policy : Option Entries) : Entries :=
  buildOp 2004 bin [("map_key", key), ("val", incr), ("map_policy", policy.map .dict)]

def mapDecrement (key decr : PyObj) (policy : Option Entries) : Entries :=
  buildOp 2005 bin [("map_key", key), ("val", decr), ("map_policy", policy.map .dict)]

def mapClear : Entries := buildOp 2006 bin []

def mapRemoveByKey (key : PyObj) (returnType : PyInt) : Entries :=
  buildOp 2007 bin [("map_key", key), ("return_type", returnType.toObj)]

def mapRemoveByKeyList (keys : List PyObj) (returnType : PyInt) : Entries :=
  buildOp 2008 bin [("val", PyObj.list keys), ("return_type", returnType.toObj)]

def mapRemoveByKeyRange (first last : PyObj) (returnType : PyInt) : Entries :=
  buildOp 2009 bin [("val", first), ("val_end", last), ("return_type", returnType.toObj)]

def mapRemoveByValue (val : PyObj) (returnType : PyInt) : Entries :=
  buildOp 2010 bin [("val", val), ("return_type", returnType.toObj)]

def mapRemoveByValueList (values : List PyObj) (returnType : PyInt) : Entries :=
  buildOp 2011 bin [("val", PyObj.list values), ("return_type", returnType.toObj)]

def mapRemoveByValueRange (first last : PyObj) (returnType : PyInt) : Entries :=
  buildOp 2012 bin [("val", first), ("val_end", last), ("return_type", returnType.toObj)]

def mapRemoveByIndex (index returnType : PyInt) : Entries :=
  buildOp 2013 bin [("index", index.toObj), ("return_type", returnType.toObj)]

def mapRemoveByIndexRange (index returnType : PyInt) (count : Option PyInt) : Entries :=
  buildOp 2014 bin [("index", index.toObj), ("return_type", returnType.toObj),
    ("count", count.map PyInt.toObj)]

def mapRemoveByRank (rank returnType : PyInt) : Entries :=
  buildOp 2015 bin [("rank", rank.toObj), ("return_type", returnType.toObj)]

def mapRemoveByRankRange (rank returnType : PyInt) (count : Option PyInt) : Entries :=
  buildOp 2016 bin [("rank", rank.toObj), ("return_type", returnType.toObj),
    ("count", count.map PyInt.toObj)]

def mapSize : Entries := buildOp 2017 bin []

def mapGetByKey (key : PyObj) (returnType : PyInt) : Entries :=
  buildOp 2018 bin [("map_key", key), ("return_type", returnType.toObj)]

def mapGetByKeyRange (first last : PyObj) (returnType : PyInt) : Entries :=
  buildOp 2019 bin [("val", first), ("val_end", last), ("return_type", returnType.toObj)]

def mapGetByValue (val : PyObj) (returnType : PyInt) : Entries :=
  buildOp 2020 bin [("val", val), ("return_type", returnType.toObj)]

def mapGetByValueRange (first last : PyObj) (returnType : PyInt) : Entries :=
  buildOp 2021 bin [("val", first), ("val_end", last), ("return_type", returnType.toObj)]

def mapGetByIndex (index returnType : PyInt) : Entries :=
  buildOp 2022 bin [("index", index.toObj), ("return_type", returnType.toObj)]

def mapGetByIndexRange (index returnType : PyInt) (count : Option PyInt) : Entries :=
  buildOp 2023 bin [("index", index.toObj), ("return_type", returnType.toObj),
    ("count", count.map PyInt.toObj)]

def mapGetByRank (rank returnType : PyInt) : Entries :=
  buildOp 2024 bin [("rank", rank.toObj), ("return_type", returnType.toObj)]

def mapGetByRankRange (rank returnType : PyInt) (count : Option PyInt) : Entries :=
  buildOp 2025 bin [("rank", rank.toObj), ("return_type", returnType.toObj),
    ("count", count.map PyInt.toObj)]

def mapGetByKeyList (keys : List PyObj) (returnType : PyInt) : Entries :=
  buildOp 2026 bin [("val", PyObj.list keys), ("return_type", returnType.toObj)]

def mapGetByValueList (values : List PyObj) (returnType : PyInt) : Entries :=
  buildOp 2027 bin [("val", PyObj.list values), ("return_type", returnType.toObj)]

end Maps

section Hlls

variable (bin : PyStr)

def hllInit (indexBitCount : PyInt) (minhashBitCount : Option PyInt) (policy : Option Entries) :
    Entries :=
  buildOp 3001 bin [("index_bit_count", indexBitCount.toObj),
    ("minhash_bit_count", minhashBitCount.map PyInt.toObj), ("hll_policy", policy.map .dict)]

def hllAdd (values : List PyObj) (indexBitCount minhashBitCount : Option PyInt)
    (policy : Option Entries) : Entries :=
  buildOp 3002 bin [("val", PyObj.list values),
    ("index_bit_count", indexBitCount.map PyInt.toObj),
    ("minhash_bit_count", minhashBitCount.map PyInt.toObj), ("hll_policy", policy.map .dict)]

def hllGetCount : Entries := buildOp 3003 bin []

def hllGetUnion (values : List PyObj) : Entries := buildOp 3004 bin [("val", PyObj.list values)]

def hllGetUnionCount (values : List PyObj) : Entries :=
  buildOp 3005 bin [("val", PyObj.list values)]

def hllGetIntersectCount (values : List PyObj) : Entries :=
  buildOp 3006 bin [("val", PyObj.list values)]

def hllGetSimilarity (values : List PyObj) : Entries :=
  buildOp 3007 bin [("val", PyObj.list values)]

def hllDescribe : Entries := buildOp 3008 bin []

def hllFold (indexBitCount : PyInt) : Entries :=
  buildOp 3009 bin [("index_bit_count", indexBitCount.toObj)]

def hllSetUnion (values : List PyObj) (policy : Option Entries) : Entries :=
  buildOp 3010 bin [("val", PyObj.list values), ("hll_policy", policy.map .dict)]

end Hlls

section Bits

variable (bin : PyStr)

/-- The default flag is not sent. -/
def bitResize (byteSize resizeFlags : PyInt) (policy : Option PyInt) : Entries :=
  buildOp 4001 bin [("byte_size", byteSize.toObj),
    ("resize_flags", if resizeFlags.toInt ≠ 0 then some resizeFlags.toObj else none),
    ("bit_policy", policy.map PyInt.toObj)]

def bitInsert (byteOffset : PyInt) (value : PyBytes) (policy : Option PyInt) : Entries :=
  buildOp 4002 bin [("byte_offset", byteOffset.toObj), ("val", value.toObj),
    ("bit_policy", policy.map PyInt.toObj)]

def bitRemove (byteOffset byteSize : PyInt) (policy : Option PyInt) : Entries :=
  buildOp 4003 bin [("byte_offset", byteOffset.toObj), ("byte_size", byteSize.toObj),
    ("bit_policy", policy.map PyInt.toObj)]

def bitSet (bitOffset bitSize : PyInt) (value : PyBytes) (policy : Option PyInt) : Entries :=
  buildOp 4004 bin [("bit_offset", bitOffset.toObj), ("bit_size", bitSize.toObj),
    ("val", value.toObj), ("bit_policy", policy.map PyInt.toObj)]

def bitOr (bitOffset bitSize : PyInt) (value : PyBytes) (policy : Option PyInt) : Entries :=
  buildOp 4005 bin [("bit_offset", bitOffset.toObj), ("bit_size", bitSize.toObj),
    ("val", value.toObj), ("bit_policy", policy.map PyInt.toObj)]

def bitXor (bitOffset bitSize : PyInt) (value : PyBytes) (policy : Option PyInt) : Entries :=
  buildOp 4006 bin [("bit_offset", bitOffset.toObj), ("bit_size", bitSize.toObj),
    ("val", value.toObj), ("bit_policy", policy.map PyInt.toObj)]

def bitAnd (bitOffset bitSize : PyInt) (value : PyBytes) (policy : Option PyInt) : Entries :=
  buildOp 4007 bin [("bit_offset", bitOffset.toObj), ("bit_size", bitSize.toObj),
    ("val", value.toObj), ("bit_policy", policy.map PyInt.toObj)]

def bitNot (bitOffset bitSize : PyInt) (policy : Option PyInt) : Entries :=
  buildOp 4008 bin [("bit_offset", bitOffset.toObj), ("bit_size", bitSize.toObj),
    ("bit_policy", policy.map PyInt.toObj)]

def bitLshift (bitOffset bitSize shift : PyInt) (policy : Option PyInt) : Entries :=
  buildOp 4009 bin [("bit_offset", bitOffset.toObj), ("bit_size", bitSize.toObj),
    ("shift", shift.toObj), ("bit_policy", policy.map PyInt.toObj)]

def bitRshift (bitOffset bitSize shift : PyInt) (policy : Option PyInt) : Entries :=
  buildOp 4010 bin [("bit_offset", bitOffset.toObj), ("bit_size", bitSize.toObj),
    ("shift", shift.toObj), ("bit_policy", policy.map PyInt.toObj)]

def bitAdd (bitOffset bitSize value : PyInt) (signed : Bool) (action : PyInt)
    (policy : Option PyInt) : Entries :=
  buildOp 4011 bin [("bit_offset", bitOffset.toObj), ("bit_size", bitSize.toObj),
    ("val", value.toObj), ("signed", PyObj.bool signed), ("action", action.toObj),
    ("bit_policy", policy.map PyInt.toObj)]

def bitSubtract (bitOffset bitSize value : PyInt) (signed : Bool) (action : PyInt)
    (policy : Option PyInt) : Entries :=
  buildOp 4012 bin [("bit_offset", bitOffset.toObj), ("bit_size", bitSize.toObj),
    ("val", value.toObj), ("signed", PyObj.bool signed), ("action", action.toObj),
    ("bit_policy", policy.map PyInt.toObj)]

def bitSetInt (bitOffset bitSize value : PyInt) (policy : Option PyInt) : Entries :=
  buildOp 4013 bin [("bit_offset", bitOffset.toObj), ("bit_size", bitSize.toObj),
    ("val", value.toObj), ("bit_policy", policy.map PyInt.toObj)]

def bitGet (bitOffset bitSize : PyInt) : Entries :=
  buildOp 4050 bin [("bit_offset", bitOffset.toObj), ("bit_size", bitSize.toObj)]

def bitCount (bitOffset bitSize : PyInt) : Entries :=
  buildOp 4051 bin [("bit_offset", bitOffset.toObj), ("bit_size", bitSize.toObj)]

def bitLscan (bitOffset bitSize : PyInt) (value : Bool) : Entries :=
  buildOp 4052 bin [("bit_offset", bitOffset.toObj), ("bit_size", bitSize.toObj),
    ("val", PyObj.bool value)]

def bitRscan (bitOffset bitSize : PyInt) (value : Bool) : Entries :=
  buildOp 4053 bin [("bit_offset", bitOffset.toObj), ("bit_size", bitSize.toObj),
    ("val", PyObj.bool value)]

def bitGetInt (bitOffset bitSize : PyInt) (signed : Bool) : Entries :=
  buildOp 4054 bin [("bit_offset", bitOffset.toObj), ("bit_size", bitSize.toObj),
    ("signed", PyObj.bool signed)]

end Bits

end AerospikePy.Operations
