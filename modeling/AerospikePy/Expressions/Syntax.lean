import AerospikePy.Core.Value
import AerospikePy.Lib.Coding

/-!
# Filter expressions

The expressions of `aerospike_core` as free terms over their constructors, and the words
by which `expressions.rs` calls the operators. Operators whose operands are read alike
are one family.
-/

namespace AerospikePy.Expressions

open AerospikePy.Core
open AerospikePy.Lib.Coding

/-- Constants and record metadata: no argument and no operand. -/
inductive ConstantOp where
  | nil | infinity | wildcard
  | keyExists | setName | recordSize | lastUpdate | sinceUpdate | voidTime | ttl | isTombstone
  deriving DecidableEq, Repr

def ConstantOp.name : ConstantOp → String
  | nil => "nil"
  | infinity => "infinity"
  | wildcard => "wildcard"
  | keyExists => "key_exists"
  | setName => "set_name"
  | recordSize => "record_size"
  | lastUpdate => "last_update"
  | sinceUpdate => "since_update"
  | voidTime => "void_time"
  | ttl => "ttl"
  | isTombstone => "is_tombstone"

inductive BinOp where
  | intBin | floatBin | stringBin | boolBin | blobBin | listBin | mapBin | geoBin | hllBin
  | binExists | binType
  deriving DecidableEq, Repr

def BinOp.name : BinOp → String
  | intBin => "int_bin"
  | floatBin => "float_bin"
  | stringBin => "string_bin"
  | boolBin => "bool_bin"
  | blobBin => "blob_bin"
  | listBin => "list_bin"
  | mapBin => "map_bin"
  | geoBin => "geo_bin"
  | hllBin => "hll_bin"
  | binExists => "bin_exists"
  | binType => "bin_type"

inductive ComparisonOp where
  | eq | ne | gt | ge | lt | le | geoCompare
  deriving DecidableEq, Repr

def ComparisonOp.name : ComparisonOp → String
  | eq => "eq"
  | ne => "ne"
  | gt => "gt"
  | ge => "ge"
  | lt => "lt"
  | le => "le"
  | geoCompare => "geo_compare"

inductive VariadicOp where
  | and | or | xor | numAdd | numSub | numMul | numDiv | min | max | intAnd | intOr | intXor
  | cond | expLet
  deriving DecidableEq, Repr

def VariadicOp.name : VariadicOp → String
  | and => "and"
  | or => "or"
  | xor => "xor"
  | numAdd => "num_add"
  | numSub => "num_sub"
  | numMul => "num_mul"
  | numDiv => "num_div"
  | min => "min"
  | max => "max"
  | intAnd => "int_and"
  | intOr => "int_or"
  | intXor => "int_xor"
  | cond => "cond"
  | expLet => "let"

inductive UnaryOp where
  | numAbs | numFloor | numCeil | toInt | toFloat | intNot | intCount
  deriving DecidableEq, Repr

def UnaryOp.name : UnaryOp → String
  | numAbs => "num_abs"
  | numFloor => "num_floor"
  | numCeil => "num_ceil"
  | toInt => "to_int"
  | toFloat => "to_float"
  | intNot => "int_not"
  | intCount => "int_count"

inductive PairOp where
  | numMod | numPow | numLog | intLshift | intRshift | intArshift | intLscan | intRscan
  deriving DecidableEq, Repr

def PairOp.name : PairOp → String
  | numMod => "num_mod"
  | numPow => "num_pow"
  | numLog => "num_log"
  | intLshift => "int_lshift"
  | intRshift => "int_rshift"
  | intArshift => "int_arshift"
  | intLscan => "int_lscan"
  | intRscan => "int_rscan"

inductive ExprOp where
  | intVal | floatVal | stringVal | boolVal | blobVal | listVal | mapVal | geoVal
  | constant (op : ConstantOp)
  | bin (op : BinOp)
  | key | digestModulo
  | comparison (op : ComparisonOp)
  | not
  | variadic (op : VariadicOp)
  | unary (op : UnaryOp)
  | pair (op : PairOp)
  | regexCompare | var | define
  deriving DecidableEq, Repr

namespace ExprOp

def name : ExprOp → String
  | intVal => "int_val"
  | floatVal => "float_val"
  | stringVal => "string_val"
  | boolVal => "bool_val"
  | blobVal => "blob_val"
  | listVal => "list_val"
  | mapVal => "map_val"
  | geoVal => "geo_val"
  | constant op => op.name
  | bin op => op.name
  | key => "key"
  | digestModulo => "digest_modulo"
  | comparison op => op.name
  | not => "not"
  | variadic op => op.name
  | unary op => op.name
  | pair op => op.name
  | regexCompare => "regex_compare"
  | var => "var"
  | define => "def"

def all : List ExprOp :=
  [intVal, floatVal, stringVal, boolVal, blobVal, listVal, mapVal, geoVal, key, digestModulo, not,
    regexCompare, var, define] ++
  [.nil, .infinity, .wildcard, .keyExists, .setName, .recordSize, .lastUpdate, .sinceUpdate,
    .voidTime, .ttl, .isTombstone].map constant ++
  [.intBin, .floatBin, .stringBin, .boolBin, .blobBin, .listBin, .mapBin, .geoBin, .hllBin,
    .binExists, .binType].map bin ++
  [.eq, .ne, .gt, .ge, .lt, .le, .geoCompare].map comparison ++
  [.and, .or, .xor, .numAdd, .numSub, .numMul, .numDiv, .min, .max, .intAnd, .intOr, .intXor, .cond,
    .expLet].map variadic ++
  [.numAbs, .numFloor, .numCeil, .toInt, .toFloat, .intNot, .intCount].map unary ++
  [.numMod, .numPow, .numLog, .intLshift, .intRshift, .intArshift, .intLscan, .intRscan].map pair

/-- The operator of a word. -/
def ofName? (word : String) : Option ExprOp := all.find? fun op => op.name = word

theorem mem_all (op : ExprOp) : op ∈ all := by
  cases op with
  | constant op => cases op <;> decide
  | bin op => cases op <;> decide
  | comparison op => cases op <;> decide
  | variadic op => cases op <;> decide
  | unary op => cases op <;> decide
  | pair op => cases op <;> decide
  | _ => decide

theorem nodup_names : (all.map name).Nodup := by decide +kernel

/-- Every word belongs to the operator of that name, and to no other one. -/
theorem ofName?_eq_some {word : String} {op : ExprOp} :
    ofName? word = some op ↔ op.name = word :=
  find?_code_eq_some mem_all nodup_names

end ExprOp

inductive ExpType where
  | nil | bool | int | string | list | map | blob | float | geo | hll
  deriving DecidableEq, Repr

/-- `aerospike_core::expressions::Expression`. -/
inductive Expression where
  | intVal (val : Int64)
  | floatVal (val : F64)
  | stringVal (val : String)
  | boolVal (val : Bool)
  | blobVal (val : List UInt8)
  | listVal (val : List Value)
  | mapVal (val : List (Value × Value))
  | geoVal (val : String)
  | constant (op : ConstantOp)
  | bin (op : BinOp) (name : String)
  | key (expType : ExpType)
  | digestModulo (modulo : Int64)
  | comparison (op : ComparisonOp) (left right : Expression)
  | not (expr : Expression)
  | variadic (op : VariadicOp) (exprs : List Expression)
  | unary (op : UnaryOp) (expr : Expression)
  | pair (op : PairOp) (first second : Expression)
  | regexCompare (regex : String) (flags : Int64) (bin : Expression)
  | var (name : String)
  | define (name : String) (value : Expression)
  deriving Repr

end AerospikePy.Expressions
