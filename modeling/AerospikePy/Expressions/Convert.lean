import AerospikePy.Expressions.Syntax
import AerospikePy.Values.Convert

/-!
# From expression dicts to expressions

`expressions.rs`: an expression is a dict whose `__expr__` entry is the word of its
operator. The other entries hold its arguments and, as dicts again, its operands.
-/

namespace AerospikePy.Expressions

open AerospikePy.Core
open AerospikePy.Lib.Fallible
open AerospikePy.Python
open AerospikePy.Values

def getRequiredAny (dict : Entries) (key : String) : Except PyErr PyObj :=
  match getStr dict key with
  | some obj => .ok obj
  | none => .error ⟨.valueError, s!"Expression missing required field: '{key}'"⟩

def getRequired {α : Type} (extract : PyObj → Except PyErr α) (dict : Entries) (key : String) :
    Except PyErr α := do
  let obj ← getRequiredAny dict key
  extract obj

def validateBinName (name : String) : Except PyErr Unit :=
  require (name ≠ "") ⟨.invalidArgError, "Bin name must not be empty."⟩

def intToExpType (val : Int64) : Except PyErr ExpType :=
  match val.toInt with
  | 0 => .ok .nil
  | 1 => .ok .bool
  | 2 => .ok .int
  | 3 => .ok .string
  | 4 => .ok .list
  | 5 => .ok .map
  | 6 => .ok .blob
  | 7 => .ok .float
  | 8 => .ok .geo
  | 9 => .ok .hll
  | n => .error ⟨.valueError, s!"Invalid ExpType value: {n}. Expected 0-9."⟩

/-- Is the object a dict with an `__expr__` entry? -/
def isExpression : PyObj → Bool
  | .dict es => (getStr es "__expr__").isSome
  | _ => false

section Operands

variable (inner : PyObj → Except PyErr Expression)

def parseSubExpr (dict : Entries) (key : String) : Except PyErr Expression := do
  let obj ← getRequiredAny dict key
  inner obj

def parseSubExprList (dict : Entries) (key : String) : Except PyErr (List Expression) := do
  let obj ← getRequiredAny dict key
  match obj with
  | .list xs => xs.mapM inner
  | _ => .error ⟨.typeError, s!"'{key}' must be a list of expressions"⟩

def convertBinAccessor (op : BinOp) (dict : Entries) : Except PyErr Expression := do
  let name ← getRequired extractString dict "name"
  validateBinName name
  return .bin op name

def convertBinaryComparison (op : ComparisonOp) (dict : Entries) : Except PyErr Expression := do
  let left ← parseSubExpr inner dict "left"
  let right ← parseSubExpr inner dict "right"
  return .comparison op left right

def convertVariadicOp (op : VariadicOp) (dict : Entries) : Except PyErr Expression := do
  let exprs ← parseSubExprList inner dict "exprs"
  require (exprs ≠ []) ⟨.invalidArgError,
    s!"Expression '{op.name}' requires at least one operand, got an empty 'exprs' list"⟩
  require (¬(op = .cond ∧ (exprs.length < 3 ∨ exprs.length % 2 = 0))) ⟨.invalidArgError,
    "Expression 'cond' requires an odd number of operands (>= 3): pairs of (condition, action) "
      ++ s!"followed by a default action, got {exprs.length} operand(s)"⟩
  require (¬(op = .expLet ∧ exprs.length < 2)) ⟨.invalidArgError,
    "Expression 'let' requires at least 2 operands: one or more variable definitions followed "
      ++ s!"by a scope expression, got {exprs.length} operand(s)"⟩
  return .variadic op exprs

/-- Only the first operand is looked at. -/
def convertUnaryOp (op : UnaryOp) (dict : Entries) : Except PyErr Expression := do
  let exprs ← parseSubExprList inner dict "exprs"
  match exprs with
  | expr :: _ => return .unary op expr
  | [] => .error ⟨.valueError, s!"{op.name} requires at least 1 expression in 'exprs'"⟩

def convertBinaryPairOp (op : PairOp) (dict : Entries) : Except PyErr Expression := do
  let exprs ← parseSubExprList inner dict "exprs"
  match exprs with
  | [first, second] => return .pair op first second
  | _ => .error ⟨.valueError, s!"{op.name} requires exactly 2 expressions, got {exprs.length}"⟩

end Operands

variable (rt : Runtime)

def maxExpressionDepth : Nat := 64

def notADict : PyErr := ⟨.typeError,
  "Expression must be a dict with '__expr__' key (use aerospike_py.exp builder functions)"⟩

def missingExpr : PyErr := ⟨.valueError,
  "Expression dict missing '__expr__' key. Use aerospike_py.exp builder functions."⟩

def unknownExpr (op : String) : PyErr := ⟨.valueError,
  s!"Unknown expression type: '{op}'. Use aerospike_py.exp builder functions."⟩

/-- The operator of an expression dict. -/
def exprOp (dict : Entries) : Except PyErr ExprOp := do
  let obj ← match getStr dict "__expr__" with
    | some obj => .ok obj
    | none => .error missingExpr
  let op ← extractString obj
  match ExprOp.ofName? op with
  | some op => return op
  | none => .error (unknownExpr op)

/-- `room` is `MAX_EXPRESSION_DEPTH + 1 - depth`, the levels that are left. -/
def pyToExpressionInner : Nat → PyObj → Except PyErr Expression
  | 0, _ => .error ⟨.valueError,
      s!"Expression nesting exceeds maximum depth of {maxExpressionDepth}"⟩
  | room + 1, .dict dict => do
    let op ← exprOp dict
    match op with
    | .intVal => .intVal <$> getRequired extractI64 dict "val"
    | .floatVal => .floatVal <$> getRequired extractF64 dict "val"
    | .stringVal => .stringVal <$> getRequired extractString dict "val"
    | .boolVal => .boolVal <$> getRequired extractBool dict "val"
    | .blobVal => .blobVal <$> getRequired extractBytes dict "val"
    | .listVal => .listVal <$> getRequired (pyListToValues rt) dict "val"
    | .mapVal => .mapVal <$> getRequired (pyDictToHashMap rt) dict "val"
    | .geoVal => .geoVal <$> getRequired extractString dict "val"
    | .constant op => return .constant op
    | .bin op => convertBinAccessor op dict
    | .key => do
      let val ← getRequired extractI64 dict "exp_type"
      .key <$> intToExpType val
    | .digestModulo => .digestModulo <$> getRequired extractI64 dict "modulo"
    | .comparison op => convertBinaryComparison (pyToExpressionInner room) op dict
    | .not => .not <$> parseSubExpr (pyToExpressionInner room) dict "expr"
    | .variadic op => convertVariadicOp (pyToExpressionInner room) op dict
    | .unary op => convertUnaryOp (pyToExpressionInner room) op dict
    | .pair op => convertBinaryPairOp (pyToExpressionInner room) op dict
    | .regexCompare => do
      let regex ← getRequired extractString dict "regex"
      let flags ← getRequired extractI64 dict "flags"
      let binExpr ← parseSubExpr (pyToExpressionInner room) dict "bin"
      return .regexCompare regex flags binExpr
    | .var => .var <$> getRequired extractString dict "name"
    | .define => do
      let name ← getRequired extractString dict "name"
      let value ← parseSubExpr (pyToExpressionInner room) dict "value"
      return .define name value
  | _ + 1, _ => .error notADict

def pyToExpression (obj : PyObj) : Except PyErr Expression :=
  pyToExpressionInner rt (maxExpressionDepth + 1) obj

theorem getRequiredAny_eq_ok {dict : Entries} {key : String} {x : PyObj} :
    getRequiredAny dict key = .ok x ↔ getStr dict key = some x := by
  unfold getRequiredAny
  cases getStr dict key <;> simp

section Operands

variable {inner : PyObj → Except PyErr Expression} {dict : Entries} {key : String}

theorem parseSubExpr_eq_ok {e : Expression} :
    parseSubExpr inner dict key = .ok e ↔ ∃ x, getStr dict key = some x ∧ inner x = .ok e := by
  rw [parseSubExpr, bind_eq_ok]
  simp only [getRequiredAny_eq_ok]

theorem parseSubExprList_eq_ok {es : List Expression} :
    parseSubExprList inner dict key = .ok es ↔ ∃ xs, getStr dict key = some (.list xs) ∧
      List.Forall₂ (fun x e => inner x = .ok e) xs es := by
  rw [parseSubExprList, bind_eq_ok]
  simp only [getRequiredAny_eq_ok]
  constructor
  · intro h
    obtain ⟨x, hx, h⟩ := h
    cases x with
    | list xs => exact ⟨xs, hx, mapM_eq_ok.mp h⟩
    | _ => cases h
  · intro h
    obtain ⟨xs, hxs, h⟩ := h
    exact ⟨.list xs, hxs, mapM_eq_ok.mpr h⟩

end Operands

end AerospikePy.Expressions
