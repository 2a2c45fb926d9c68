import AerospikePy.Expressions.Structure
import AerospikePy.Operations.Meaning

/-!
# The expression builders

The builders of `exp.py`, the dict that each returns, and the core expression that a tree
of their calls names. The ops that the builders pass to `_cmd` are read off `exp.py`, not
off the translator.
-/

namespace AerospikePy.Expressions

open AerospikePy.Core
open AerospikePy.Lib.Fallible
open AerospikePy.Operations (PyInt)
open AerospikePy.Python
open AerospikePy.Values

def ConstantOp.cmdOp : ConstantOp → String
  | nil => "nil"
  | infinity => "infinity"
  | wildcard => "wildcard"
  | keyExists => "key_exists"
  | setName => "set_name"
  | recordSize => "record_size"
  | lastUpdate => "last_update"
  | sinceUpdate => "since_update"
  | voidTime => "void_time"
  | ttl => "ttl"
  | isTombstone => "is_tombstone"

def BinOp.cmdOp : BinOp → String
  | intBin => "int_bin"
  | floatBin => "float_bin"
  | stringBin => "string_bin"
  | boolBin => "bool_bin"
  | blobBin => "blob_bin"
  | listBin => "list_bin"
  | mapBin => "map_bin"
  | geoBin => "geo_bin"
  | hllBin => "hll_bin"
  | binExists => "bin_exists"
  | binType => "bin_type"

def ComparisonOp.cmdOp : ComparisonOp → String
  | eq => "eq"
  | ne => "ne"
  | gt => "gt"
  | ge => "ge"
  | lt => "lt"
  | le => "le"
  | geoCompare => "geo_compare"

/-- `and_`, `or_`, `xor_`, `min_`, `max_` and `let_` drop their underscore. -/
def VariadicOp.cmdOp : VariadicOp → String
  | and => "and"
  | or => "or"
  | xor => "xor"
  | numAdd => "num_add"
  | numSub => "num_sub"
  | numMul => "num_mul"
  | numDiv => "num_div"
  | min => "min"
  | max => "max"
  | intAnd => "int_and"
  | intOr => "int_or"
  | intXor => "int_xor"
  | cond => "cond"
  | expLet => "let"

def UnaryOp.cmdOp : UnaryOp → String
  | numAbs => "num_abs"
  | numFloor => "num_floor"
  | numCeil => "num_ceil"
  | toInt => "to_int"
  | toFloat => "to_float"
  | intNot => "int_not"
  | intCount => "int_count"

def PairOp.cmdOp : PairOp → String
  | numMod => "num_mod"
  | numPow => "num_pow"
  | numLog => "num_log"
  | intLshift => "int_lshift"
  | intRshift => "int_rshift"
  | intArshift => "int_arshift"
  | intLscan => "int_lscan"
  | intRscan => "int_rscan"

/-- `_VALID_OPS`. -/
def validOps : List String :=
  ["int_val", "float_val", "string_val", "bool_val", "blob_val",
    "list_val", "map_val", "geo_val", "nil", "infinity", "wildcard",
    "int_bin", "float_bin", "string_bin", "bool_bin", "blob_bin",
    "list_bin", "map_bin", "geo_bin", "hll_bin", "bin_exists", "bin_type",
    "key", "key_exists", "set_name", "record_size", "last_update",
    "since_update", "void_time", "ttl", "is_tombstone", "digest_modulo",
    "eq", "ne", "gt", "ge", "lt", "le",
    "and", "or", "not", "xor",
    "num_add", "num_sub", "num_mul", "num_div", "num_mod", "num_pow",
    "num_log", "num_abs", "num_floor", "num_ceil", "to_int", "to_float",
    "min", "max",
    "int_and", "int_or", "int_xor", "int_not", "int_lshift", "int_rshift",
    "int_arshift", "int_count", "int_lscan", "int_rscan",
    "regex_compare", "geo_compare",
    "cond", "var", "def", "let"]

/-- The dict of an op and its keyword arguments, none of which is `__expr__`. -/
def cmdDict (op : String) (kwargs : Entries) : PyObj :=
  .dict ((.str "__expr__", .str op) :: kwargs)

/-- `_cmd`. -/
def cmd (op : String) (kwargs : Entries) : Except PyErr PyObj :=
  if op ∈ validOps then .ok (cmdDict op kwargs)
  else .error ⟨.valueError, s!"Unknown expression op: '{op}'. " ++
    "Use aerospike_py.exp builder functions instead of constructing dicts manually."⟩

/-- A call of a builder, whose operands are calls again. -/
inductive ExpCall where
  | intVal (val : PyInt)
  | floatVal (val : F64)
  | stringVal (val : PyStr)
  | boolVal (val : Bool)
  | blobVal (val : List UInt8)
  | listVal (val : List PyObj)
  | mapVal (val : Entries)
  | geoVal (val : PyStr)
  | constant (op : ConstantOp)
  | bin (op : BinOp) (name : PyStr)
  | key (expType : PyInt)
  | digestModulo (modulo : PyInt)
  | comparison (op : ComparisonOp) (left right : ExpCall)
  | not (expr : ExpCall)
  | variadic (op : VariadicOp) (exprs : List ExpCall)
  | unary (op : UnaryOp) (value : ExpCall)
  | pair (op : PairOp) (first second : ExpCall)
  | regexCompare (regex : PyStr) (flags : PyInt) (binExpr : ExpCall)
  | var (name : PyStr)
  | define (name : PyStr) (value : ExpCall)

namespace ExpCall

mutual

/-- What the call returns, its operands being made first. -/
def build : ExpCall → Except PyErr PyObj
  | intVal val => cmd "int_val" [(.str "val", val.toObj)]
  | floatVal val => cmd "float_val" [(.str "val", .float val)]
  | stringVal val => cmd "string_val" [(.str "val", .str val)]
  | boolVal val => cmd "bool_val" [(.str "val", .bool val)]
  | blobVal val => cmd "blob_val" [(.str "val", .bytes val)]
  | listVal val => cmd "list_val" [(.str "val", .list val)]
  | mapVal val => cmd "map_val" [(.str "val", .dict val)]
  | geoVal val => cmd "geo_val" [(.str "val", .str val)]
  | constant op => cmd op.cmdOp []
  | bin op name => cmd op.cmdOp [(.str "name", .str name)]
  | key expType => cmd "key" [(.str "exp_type", expType.toObj)]
  | digestModulo modulo => cmd "digest_modulo" [(.str "modulo", modulo.toObj)]
  | comparison op left right => do
    let left ← build left
    let right ← build right
    cmd op.cmdOp [(.str "left", left), (.str "right", right)]
  | not expr => do
    let expr ← build expr
    cmd "not" [(.str "expr", expr)]
  | variadic op exprs => do
    let exprs ← buildAll exprs
    cmd op.cmdOp [(.str "exprs", .list exprs)]
  | unary op value => do
    let value ← build value
    cmd op.cmdOp [(.str "exprs", .list [value])]
  | pair op first second => do
    let first ← build first
    let second ← build second
    cmd op.cmdOp [(.str "exprs", .list [first, second])]
  | regexCompare regex flags binExpr => do
    let binExpr ← build binExpr
    cmd "regex_compare" [(.str "regex", .str regex), (.str "flags", flags.toObj),
      (.str "bin", binExpr)]
  | var name => cmd "var" [(.str "name", .str name)]
  | define name value => do
    let value ← build value
    cmd "def" [(.str "name", .str name), (.str "value", value)]

def buildAll : List ExpCall → Except PyErr (List PyObj)
  | [] => .ok []
  | t :: ts => do
    let x ← build t
    let xs ← buildAll ts
    return x :: xs

end

def op : ExpCall → ExprOp
  | intVal _ => .intVal
  | floatVal _ => .floatVal
  | stringVal _ => .stringVal
  | boolVal _ => .boolVal
  | blobVal _ => .blobVal
  | listVal _ => .listVal
  | mapVal _ => .mapVal
  | geoVal _ => .geoVal
  | constant op => .constant op
  | bin op _ => .bin op
  | key _ => .key
  | digestModulo _ => .digestModulo
  | comparison op _ _ => .comparison op
  | not _ => .not
  | variadic op _ => .variadic op
  | unary op _ => .unary op
  | pair op _ _ => .pair op
  | regexCompare _ _ _ => .regexCompare
  | var _ => .var
  | define _ _ => .define

def operands : ExpCall → List ExpCall
  | comparison _ left right => [left, right]
  | not expr => [expr]
  | variadic _ exprs => exprs
  | unary _ value => [value]
  | pair _ first second => [first, second]
  | regexCompare _ _ binExpr => [binExpr]
  | define _ value => [value]
  | _ => []

mutual

/-- The dict of a call, by which every builder returns when its op is valid. -/
def dict : ExpCall → PyObj
  | intVal val => cmdDict "int_val" [(.str "val", val.toObj)]
  | floatVal val => cmdDict "float_val" [(.str "val", .float val)]
  | stringVal val => cmdDict "string_val" [(.str "val", .str val)]
  | boolVal val => cmdDict "bool_val" [(.str "val", .bool val)]
  | blobVal val => cmdDict "blob_val" [(.str "val", .bytes val)]
  | listVal val => cmdDict "list_val" [(.str "val", .list val)]
  | mapVal val => cmdDict "map_val" [(.str "val", .dict val)]
  | geoVal val => cmdDict "geo_val" [(.str "val", .str val)]
  | constant op => cmdDict op.cmdOp []
  | bin op name => cmdDict op.cmdOp [(.str "name", .str name)]
  | key expType => cmdDict "key" [(.str "exp_type", expType.toObj)]
  | digestModulo modulo => cmdDict "digest_modulo" [(.str "modulo", modulo.toObj)]
  | comparison op left right =>
    cmdDict op.cmdOp [(.str "left", left.dict), (.str "right", right.dict)]
  | not expr => cmdDict "not" [(.str "expr", expr.dict)]
  | variadic op exprs => cmdDict op.cmdOp [(.str "exprs", .list (dicts exprs))]
  | unary op value => cmdDict op.cmdOp [(.str "exprs", .list [value.dict])]
  | pair op first second => cmdDict op.cmdOp [(.str "exprs", .list [first.dict, second.dict])]
  | regexCompare regex flags binExpr => cmdDict "regex_compare"
      [(.str "regex", .str regex), (.str "flags", flags.toObj), (.str "bin", binExpr.dict)]
  | var name => cmdDict "var" [(.str "name", .str name)]
  | define name value => cmdDict "def" [(.str "name", .str name), (.str "value", value.dict)]

def dicts : List ExpCall → List PyObj
  | [] => []
  | t :: ts => t.dict :: dicts ts

end

end ExpCall

/-- An int within signed 64 bits. -/
def InI64 (n : PyInt) : Prop := -2 ^ 63 ≤ n.toInt ∧ n.toInt < 2 ^ 63

/-- The `EXP_TYPE_*` constants of `exp.py`. -/
def ExpType.constant : ExpType → Int
  | nil => 0
  | bool => 1
  | int => 2
  | string => 3
  | list => 4
  | map => 5
  | blob => 6
  | float => 7
  | geo => 8
  | hll => 9

/-- The arguments have the documented types, the strings are text, and every builder has as
many operands as it takes. -/
inductive Documented (rt : Runtime) : ExpCall → Prop where
  | intVal {val : PyInt} (h : InI64 val) : Documented rt (.intVal val)
  | floatVal (val : F64) : Documented rt (.floatVal val)
  | stringVal (val : String) : Documented rt (.stringVal val)
  | boolVal (val : Bool) : Documented rt (.boolVal val)
  | blobVal (val : List UInt8) : Documented rt (.blobVal val)
  | listVal {val : List PyObj} (h : ∃ v, pyToValue rt (.list val) = .ok v) :
      Documented rt (.listVal val)
  | mapVal {val : Entries} (h : ∃ v, pyToValue rt (.dict val) = .ok v) :
      Documented rt (.mapVal val)
  | geoVal (val : String) : Documented rt (.geoVal val)
  | constant (op : ConstantOp) : Documented rt (.constant op)
  | bin (op : BinOp) {name : String} (h : name ≠ "") : Documented rt (.bin op name)
  | key {expType : PyInt} (h : ∃ t : ExpType, expType.toInt = t.constant) :
      Documented rt (.key expType)
  | digestModulo {modulo : PyInt} (h : InI64 modulo) : Documented rt (.digestModulo modulo)
  | comparison (op : ComparisonOp) {left right : ExpCall} (hleft : Documented rt left)
      (hright : Documented rt right) : Documented rt (.comparison op left right)
  | not {expr : ExpCall} (h : Documented rt expr) : Documented rt (.not expr)
  | variadic {op : VariadicOp} {exprs : List ExpCall} (harity : arity (.variadic op) exprs.length)
      (h : ∀ t ∈ exprs, Documented rt t) : Documented rt (.variadic op exprs)
  | unary (op : UnaryOp) {value : ExpCall} (h : Documented rt value) :
      Documented rt (.unary op value)
  | pair (op : PairOp) {first second : ExpCall} (hfirst : Documented rt first)
      (hsecond : Documented rt second) : Documented rt (.pair op first second)
  | regexCompare (regex : String) {flags : PyInt} {binExpr : ExpCall} (hflags : InI64 flags)
      (h : Documented rt binExpr) : Documented rt (.regexCompare regex flags binExpr)
  | var (name : String) : Documented rt (.var name)
  | define (name : String) {value : ExpCall} (h : Documented rt value) :
      Documented rt (.define name value)

/-- Node by node, the expression is the core constructor that the builder names, applied to
the translations of the arguments. -/
inductive Names (rt : Runtime) : ExpCall → Expression → Prop where
  | intVal {val : PyInt} {v : Int64} (h : val.toInt = v.toInt) : Names rt (.intVal val) (.intVal v)
  | floatVal (val : F64) : Names rt (.floatVal val) (.floatVal val)
  | stringVal (val : String) : Names rt (.stringVal val) (.stringVal val)
  | boolVal (val : Bool) : Names rt (.boolVal val) (.boolVal val)
  | blobVal (val : List UInt8) : Names rt (.blobVal val) (.blobVal val)
  | listVal {val : List PyObj} {vs : List Value} (h : pyToValue rt (.list val) = .ok (.list vs)) :
      Names rt (.listVal val) (.listVal vs)
  | mapVal {val : Entries} {kvs : List (Value × Value)}
      (h : pyToValue rt (.dict val) = .ok (.hashMap kvs)) : Names rt (.mapVal val) (.mapVal kvs)
  | geoVal (val : String) : Names rt (.geoVal val) (.geoVal val)
  | constant (op : ConstantOp) : Names rt (.constant op) (.constant op)
  | bin (op : BinOp) (name : String) : Names rt (.bin op name) (.bin op name)
  | key {expType : PyInt} {t : ExpType} (h : expType.toInt = t.constant) :
      Names rt (.key expType) (.key t)
  | digestModulo {modulo : PyInt} {v : Int64} (h : modulo.toInt = v.toInt) :
      Names rt (.digestModulo modulo) (.digestModulo v)
  | comparison (op : ComparisonOp) {left right : ExpCall} {l r : Expression}
      (hleft : Names rt left l) (hright : Names rt right r) :
      Names rt (.comparison op left right) (.comparison op l r)
  | not {expr : ExpCall} {e : Expression} (h : Names rt expr e) : Names rt (.not expr) (.not e)
  | variadic (op : VariadicOp) {exprs : List ExpCall} {es : List Expression}
      (h : List.Forall₂ (Names rt) exprs es) : Names rt (.variadic op exprs) (.variadic op es)
  | unary (op : UnaryOp) {value : ExpCall} {e : Expression} (h : Names rt value e) :
      Names rt (.unary op value) (.unary op e)
  | pair (op : PairOp) {first second : ExpCall} {e f : Expression} (hfirst : Names rt first e)
      (hsecond : Names rt second f) : Names rt (.pair op first second) (.pair op e f)
  | regexCompare (regex : String) {flags : PyInt} {v : Int64} {binExpr : ExpCall} {e : Expression}
      (hflags : flags.toInt = v.toInt) (h : Names rt binExpr e) :
      Names rt (.regexCompare regex flags binExpr) (.regexCompare regex v e)
  | var (name : String) : Names rt (.var name) (.var name)
  | define (name : String) {value : ExpCall} {e : Expression} (h : Names rt value e) :
      Names rt (.define name value) (.define name e)

/-- `n` is a node of the tree, at this nesting depth. -/
inductive NodeAt : ExpCall → Nat → ExpCall → Prop where
  | here (t : ExpCall) : NodeAt t 0 t
  | operand {t x n : ExpCall} {d : Nat} (hx : x ∈ t.operands) (h : NodeAt x d n) :
      NodeAt t (d + 1) n

theorem cmd_eq {op : String} (h : op ∈ validOps) (kwargs : Entries) :
    cmd op kwargs = .ok (cmdDict op kwargs) := if_pos h

theorem ConstantOp.cmdOp_valid (op : ConstantOp) : op.cmdOp ∈ validOps := by
  cases op <;> decide

theorem BinOp.cmdOp_valid (op : BinOp) : op.cmdOp ∈ validOps := by
  cases op <;> decide

theorem ComparisonOp.cmdOp_valid (op : ComparisonOp) : op.cmdOp ∈ validOps := by
  cases op <;> decide

theorem VariadicOp.cmdOp_valid (op : VariadicOp) : op.cmdOp ∈ validOps := by
  cases op <;> decide

theorem UnaryOp.cmdOp_valid (op : UnaryOp) : op.cmdOp ∈ validOps := by
  cases op <;> decide

theorem PairOp.cmdOp_valid (op : PairOp) : op.cmdOp ∈ validOps := by
  cases op <;> decide

mutual

/-- No builder is refused by `_cmd`. -/
theorem ExpCall.build_eq : ∀ t : ExpCall, t.build = .ok t.dict
  | .intVal _ | .floatVal _ | .stringVal _ | .boolVal _ | .blobVal _ | .listVal _ | .mapVal _
  | .geoVal _ | .key _ | .digestModulo _ | .var _ => cmd_eq (by decide) _
  | .constant op => cmd_eq op.cmdOp_valid _
  | .bin op _ => cmd_eq op.cmdOp_valid _
  | .comparison op left right => by
    rw [ExpCall.build, ExpCall.build_eq left, ok_bind, ExpCall.build_eq right, ok_bind]
    exact cmd_eq op.cmdOp_valid _
  | .not expr => by
    rw [ExpCall.build, ExpCall.build_eq expr, ok_bind]
    exact cmd_eq (by decide) _
  | .variadic op exprs => by
    rw [ExpCall.build, ExpCall.buildAll_eq exprs, ok_bind]
    exact cmd_eq op.cmdOp_valid _
  | .unary op value => by
    rw [ExpCall.build, ExpCall.build_eq value, ok_bind]
    exact cmd_eq op.cmdOp_valid _
  | .pair op first second => by
    rw [ExpCall.build, ExpCall.build_eq first, ok_bind, ExpCall.build_eq second, ok_bind]
    exact cmd_eq op.cmdOp_valid _
  | .regexCompare _ _ binExpr => by
    rw [ExpCall.build, ExpCall.build_eq binExpr, ok_bind]
    exact cmd_eq (by decide) _
  | .define _ value => by
    rw [ExpCall.build, ExpCall.build_eq value, ok_bind]
    exact cmd_eq (by decide) _

theorem ExpCall.buildAll_eq : ∀ ts : List ExpCall, ExpCall.buildAll ts = .ok (ExpCall.dicts ts)
  | [] => rfl
  | t :: ts => by
    rw [ExpCall.buildAll, ExpCall.build_eq t, ok_bind, ExpCall.buildAll_eq ts, ok_bind]
    rfl

end

theorem ExpCall.dicts_eq (ts : List ExpCall) : ExpCall.dicts ts = ts.map ExpCall.dict := by
  induction ts with
  | nil => rfl
  | cons t ts ih => rw [ExpCall.dicts, ih, List.map_cons]

end AerospikePy.Expressions
