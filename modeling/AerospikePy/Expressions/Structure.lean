import AerospikePy.Expressions.Convert

/-!
# The structure of a translated expression

An expression mirrors a dict when it has the operator of the dict, its arguments, and
operands that mirror the operands of the dict, one by one and in order. Translation
keeps to this at every operator but the unary ones, which take their first operand and
leave the others.
-/

namespace AerospikePy.Expressions

open AerospikePy.Core
open AerospikePy.Lib.Fallible
open AerospikePy.Python
open AerospikePy.Values

/-- The expression has the operator, the arguments and exactly the operands of the dict. -/
inductive Mirrors (rt : Runtime) : PyObj → Expression → Prop where
  | intVal {dict : Entries} {v : Int64} (hop : exprOp dict = .ok .intVal)
      (hval : getRequired extractI64 dict "val" = .ok v) : Mirrors rt (.dict dict) (.intVal v)
  | floatVal {dict : Entries} {v : F64} (hop : exprOp dict = .ok .floatVal)
      (hval : getRequired extractF64 dict "val" = .ok v) : Mirrors rt (.dict dict) (.floatVal v)
  | stringVal {dict : Entries} {v : String} (hop : exprOp dict = .ok .stringVal)
      (hval : getRequired extractString dict "val" = .ok v) :
      Mirrors rt (.dict dict) (.stringVal v)
  | boolVal {dict : Entries} {v : Bool} (hop : exprOp dict = .ok .boolVal)
      (hval : getRequired extractBool dict "val" = .ok v) : Mirrors rt (.dict dict) (.boolVal v)
  | blobVal {dict : Entries} {v : List UInt8} (hop : exprOp dict = .ok .blobVal)
      (hval : getRequired extractBytes dict "val" = .ok v) : Mirrors rt (.dict dict) (.blobVal v)
  | listVal {dict : Entries} {v : List Value} (hop : exprOp dict = .ok .listVal)
      (hval : getRequired (pyListToValues rt) dict "val" = .ok v) :
      Mirrors rt (.dict dict) (.listVal v)
  | mapVal {dict : Entries} {v : List (Value × Value)} (hop : exprOp dict = .ok .mapVal)
      (hval : getRequired (pyDictToHashMap rt) dict "val" = .ok v) :
      Mirrors rt (.dict dict) (.mapVal v)
  | geoVal {dict : Entries} {v : String} (hop : exprOp dict = .ok .geoVal)
      (hval : getRequired extractString dict "val" = .ok v) : Mirrors rt (.dict dict) (.geoVal v)
  | constant {dict : Entries} {op : ConstantOp} (hop : exprOp dict = .ok (.constant op)) :
      Mirrors rt (.dict dict) (.constant op)
  | bin {dict : Entries} {op : BinOp} {name : String} (hop : exprOp dict = .ok (.bin op))
      (hname : getRequired extractString dict "name" = .ok name) :
      Mirrors rt (.dict dict) (.bin op name)
  | key {dict : Entries} {val : Int64} {expType : ExpType} (hop : exprOp dict = .ok .key)
      (hval : getRequired extractI64 dict "exp_type" = .ok val)
      (htype : intToExpType val = .ok expType) : Mirrors rt (.dict dict) (.key expType)
  | digestModulo {dict : Entries} {modulo : Int64} (hop : exprOp dict = .ok .digestModulo)
      (hmodulo : getRequired extractI64 dict "modulo" = .ok modulo) :
      Mirrors rt (.dict dict) (.digestModulo modulo)
  | comparison {dict : Entries} {op : ComparisonOp} {l r : PyObj} {left right : Expression}
      (hop : exprOp dict = .ok (.comparison op)) (hl : getStr dict "left" = some l)
      (hr : getStr dict "right" = some r) (hleft : Mirrors rt l left)
      (hright : Mirrors rt r right) : Mirrors rt (.dict dict) (.comparison op left right)
  | not {dict : Entries} {x : PyObj} {expr : Expression} (hop : exprOp dict = .ok .not)
      (hx : getStr dict "expr" = some x) (hexpr : Mirrors rt x expr) :
      Mirrors rt (.dict dict) (.not expr)
  | variadic {dict : Entries} {op : VariadicOp} {xs : List PyObj} {exprs : List Expression}
      (hop : exprOp dict = .ok (.variadic op)) (hxs : getStr dict "exprs" = some (.list xs))
      (hexprs : List.Forall₂ (Mirrors rt) xs exprs) :
      Mirrors rt (.dict dict) (.variadic op exprs)
  | unary {dict : Entries} {op : UnaryOp} {x : PyObj} {expr : Expression}
      (hop : exprOp dict = .ok (.unary op)) (hxs : getStr dict "exprs" = some (.list [x]))
      (hexpr : Mirrors rt x expr) : Mirrors rt (.dict dict) (.unary op expr)
  | pair {dict : Entries} {op : PairOp} {x y : PyObj} {first second : Expression}
      (hop : exprOp dict = .ok (.pair op)) (hxs : getStr dict "exprs" = some (.list [x, y]))
      (hfirst : Mirrors rt x first) (hsecond : Mirrors rt y second) :
      Mirrors rt (.dict dict) (.pair op first second)
  | regexCompare {dict : Entries} {regex : String} {flags : Int64} {x : PyObj} {b : Expression}
      (hop : exprOp dict = .ok .regexCompare)
      (hregex : getRequired extractString dict "regex" = .ok regex)
      (hflags : getRequired extractI64 dict "flags" = .ok flags)
      (hx : getStr dict "bin" = some x) (hb : Mirrors rt x b) :
      Mirrors rt (.dict dict) (.regexCompare regex flags b)
  | var {dict : Entries} {name : String} (hop : exprOp dict = .ok .var)
      (hname : getRequired extractString dict "name" = .ok name) :
      Mirrors rt (.dict dict) (.var name)
  | define {dict : Entries} {name : String} {x : PyObj} {value : Expression}
      (hop : exprOp dict = .ok .define)
      (hname : getRequired extractString dict "name" = .ok name)
      (hx : getStr dict "value" = some x) (hvalue : Mirrors rt x value) :
      Mirrors rt (.dict dict) (.define name value)

/-- The operands that the dict of an operator holds. -/
def operands (dict : Entries) : ExprOp → List PyObj
  | .comparison _ => (getStr dict "left").toList ++ (getStr dict "right").toList
  | .not => (getStr dict "expr").toList
  | .regexCompare => (getStr dict "bin").toList
  | .define => (getStr dict "value").toList
  | .variadic _ | .unary _ | .pair _ => match getStr dict "exprs" with
    | some (.list xs) => xs
    | _ => []
  | _ => []

/-- The number of operands that an operator takes. -/
def arity : ExprOp → Nat → Prop
  | .variadic .cond, n => 3 ≤ n ∧ n % 2 = 1
  | .variadic .expLet, n => 2 ≤ n
  | .variadic _, n => 1 ≤ n
  | .unary _, n => n = 1
  | .pair _, n => n = 2
  | _, _ => True

def unaryArity : ExprOp → Nat → Prop
  | .unary _, n => n = 1
  | _, _ => True

/-- The nodes of an expression tree. -/
inductive NodeOf : PyObj → PyObj → Prop where
  | here (x : PyObj) : NodeOf x x
  | operand {dict : Entries} {op : ExprOp} {x y : PyObj} (hop : exprOp dict = .ok op)
      (hx : x ∈ operands dict op) (hy : NodeOf x y) : NodeOf (.dict dict) y

/-- At every node, the number of operands is allowed by `allowed`. -/
def EveryNode (allowed : ExprOp → Nat → Prop) (obj : PyObj) : Prop :=
  ∀ dict op, NodeOf obj (.dict dict) → exprOp dict = .ok op →
    allowed op (operands dict op).length

variable {rt : Runtime}

theorem everyNode_dict {allowed : ExprOp → Nat → Prop} {dict : Entries} {op : ExprOp}
    (hop : exprOp dict = .ok op) :
    EveryNode allowed (.dict dict) ↔
      allowed op (operands dict op).length ∧ ∀ x ∈ operands dict op, EveryNode allowed x := by
  constructor
  · intro h
    exact ⟨h dict op (.here _) hop, fun x hx d o hd ho => h d o (.operand hop hx hd) ho⟩
  · intro h d o hd ho
    cases hd with
    | here =>
      obtain rfl := Except.ok.inj (hop.symm.trans ho)
      exact h.1
    | operand hop' hx hy =>
      obtain rfl := Except.ok.inj (hop.symm.trans hop')
      exact h.2 _ hx d o hy ho

/-- What translating a node says: its operands are translated one by one, and if there
are as many of them as the operator takes, the expression mirrors the node when its
operands mirror those of the node. -/
structure Translated (rt : Runtime) (room : Nat) (dict : Entries) (e : Expression) (op : ExprOp)
    (es : List Expression) : Prop where
  exprOp : exprOp dict = .ok op
  operands : List.Forall₂ (fun x e => pyToExpressionInner rt room x = .ok e) (operands dict op) es
  arity : unaryArity op es.length → arity op es.length
  mirrors : unaryArity op es.length → List.Forall₂ (Mirrors rt) (Expressions.operands dict op) es →
    Mirrors rt (.dict dict) e

theorem translated_variadic {room : Nat} {dict : Entries} {op : VariadicOp} {e : Expression}
    (hop : exprOp dict = .ok (.variadic op))
    (h : convertVariadicOp (pyToExpressionInner rt room) op dict = .ok e) :
    ∃ es, Translated rt room dict e (.variadic op) es := by
  obtain ⟨es, hes, h⟩ := bind_eq_ok.mp h
  obtain ⟨_, hne, h⟩ := bind_eq_ok.mp h
  obtain ⟨_, hcond, h⟩ := bind_eq_ok.mp h
  obtain ⟨_, hlet, h⟩ := bind_eq_ok.mp h
  obtain rfl := Except.ok.inj h
  obtain ⟨xs, hxs, hall⟩ := parseSubExprList_eq_ok.mp hes
  have hoperands : operands dict (.variadic op) = xs := by simp [operands, hxs]
  refine ⟨es, hop, hoperands ▸ hall, fun _ => ?_, fun _ hm => .variadic hop hxs (hoperands ▸ hm)⟩
  have hpos : 0 < es.length := List.length_pos_iff.mpr (require_eq_ok.mp hne)
  have hcond' := require_eq_ok.mp hcond
  have hlet' := require_eq_ok.mp hlet
  cases op with
  | cond =>
    simp only [arity, true_and] at hcond' ⊢
    omega
  | expLet =>
    simp only [arity, true_and] at hlet' ⊢
    omega
  | _ => exact hpos

/-- The first operand stands for the node when there is no other one. -/
theorem translated_unary {room : Nat} {dict : Entries} {op : UnaryOp} {e : Expression}
    (hop : exprOp dict = .ok (.unary op))
    (h : convertUnaryOp (pyToExpressionInner rt room) op dict = .ok e) :
    ∃ es, Translated rt room dict e (.unary op) es := by
  obtain ⟨es, hes, h⟩ := bind_eq_ok.mp h
  obtain ⟨xs, hxs, hall⟩ := parseSubExprList_eq_ok.mp hes
  have hoperands : operands dict (.unary op) = xs := by simp [operands, hxs]
  refine ⟨es, hop, hoperands ▸ hall, id, fun hone hm => ?_⟩
  rw [hoperands] at hm
  cases hm with
  | nil => cases h
  | cons hx hrest =>
    cases h
    cases hrest with
    | nil => exact .unary hop hxs hx
    | cons => simp [unaryArity] at hone

theorem translated_pair {room : Nat} {dict : Entries} {op : PairOp} {e : Expression}
    (hop : exprOp dict = .ok (.pair op))
    (h : convertBinaryPairOp (pyToExpressionInner rt room) op dict = .ok e) :
    ∃ es, Translated rt room dict e (.pair op) es := by
  obtain ⟨es, hes, h⟩ := bind_eq_ok.mp h
  obtain ⟨xs, hxs, hall⟩ := parseSubExprList_eq_ok.mp hes
  have hoperands : operands dict (.pair op) = xs := by simp [operands, hxs]
  split at h
  · next first second =>
    cases h
    refine ⟨[first, second], hop, hoperands ▸ hall, fun _ => rfl, fun _ hm => ?_⟩
    rw [hoperands] at hm
    cases hm with
    | cons hx hrest => cases hrest with
      | cons hy hnil =>
        cases hnil
        exact .pair hop hxs hx hy
  · cases h

theorem translated_comparison {room : Nat} {dict : Entries} {op : ComparisonOp} {e : Expression}
    (hop : exprOp dict = .ok (.comparison op))
    (h : convertBinaryComparison (pyToExpressionInner rt room) op dict = .ok e) :
    ∃ es, Translated rt room dict e (.comparison op) es := by
  obtain ⟨left, hleft, h⟩ := bind_eq_ok.mp h
  obtain ⟨right, hright, h⟩ := bind_eq_ok.mp h
  obtain rfl := Except.ok.inj h
  obtain ⟨l, hl, hleft⟩ := parseSubExpr_eq_ok.mp hleft
  obtain ⟨r, hr, hright⟩ := parseSubExpr_eq_ok.mp hright
  have hoperands : operands dict (.comparison op) = [l, r] := by simp [operands, hl, hr]
  refine ⟨[left, right], hop, hoperands ▸ .cons hleft (.cons hright .nil), fun _ => trivial,
    fun _ hm => ?_⟩
  rw [hoperands] at hm
  cases hm with
  | cons hx hrest => cases hrest with
    | cons hy _ => exact .comparison hop hl hr hx hy

/-- A node with one operand, in a field of its own. -/
theorem translated_sub {room : Nat} {dict : Entries} {op : ExprOp} {key : String}
    {e sub : Expression} (hop : exprOp dict = .ok op)
    (hoperands : operands dict op = (getStr dict key).toList) (harity : arity op 1)
    (hsub : parseSubExpr (pyToExpressionInner rt room) dict key = .ok sub)
    (hmirrors : ∀ x, getStr dict key = some x → Mirrors rt x sub → Mirrors rt (.dict dict) e) :
    ∃ es, Translated rt room dict e op es := by
  obtain ⟨x, hx, hsub⟩ := parseSubExpr_eq_ok.mp hsub
  rw [hx] at hoperands
  refine ⟨[sub], hop, hoperands ▸ .cons hsub .nil, fun _ => harity, fun _ hm => ?_⟩
  rw [hoperands] at hm
  cases hm with
  | cons hm _ => exact hmirrors x hx hm

/-- A node without operands. -/
theorem translated_leaf {room : Nat} {dict : Entries} {op : ExprOp} {e : Expression}
    (hop : exprOp dict = .ok op) (hoperands : operands dict op = []) (harity : arity op 0)
    (hmirrors : Mirrors rt (.dict dict) e) : ∃ es, Translated rt room dict e op es :=
  ⟨[], hop, hoperands ▸ .nil, fun _ => harity, fun _ _ => hmirrors⟩

theorem translated {room : Nat} {dict : Entries} {e : Expression}
    (h : pyToExpressionInner rt (room + 1) (.dict dict) = .ok e) :
    ∃ op es, Translated rt room dict e op es := by
  rw [pyToExpressionInner] at h
  obtain ⟨op, hop, h⟩ := bind_eq_ok.mp h
  refine ⟨op, ?_⟩
  cases op with
  | intVal =>
    obtain ⟨v, hv, rfl⟩ := map_eq_ok.mp h
    exact translated_leaf hop rfl trivial (.intVal hop hv)
  | floatVal =>
    obtain ⟨v, hv, rfl⟩ := map_eq_ok.mp h
    exact translated_leaf hop rfl trivial (.floatVal hop hv)
  | stringVal =>
    obtain ⟨v, hv, rfl⟩ := map_eq_ok.mp h
    exact translated_leaf hop rfl trivial (.stringVal hop hv)
  | boolVal =>
    obtain ⟨v, hv, rfl⟩ := map_eq_ok.mp h
    exact translated_leaf hop rfl trivial (.boolVal hop hv)
  | blobVal =>
    obtain ⟨v, hv, rfl⟩ := map_eq_ok.mp h
    exact translated_leaf hop rfl trivial (.blobVal hop hv)
  | listVal =>
    obtain ⟨v, hv, rfl⟩ := map_eq_ok.mp h
    exact translated_leaf hop rfl trivial (.listVal hop hv)
  | mapVal =>
    obtain ⟨v, hv, rfl⟩ := map_eq_ok.mp h
    exact translated_leaf hop rfl trivial (.mapVal hop hv)
  | geoVal =>
    obtain ⟨v, hv, rfl⟩ := map_eq_ok.mp h
    exact translated_leaf hop rfl trivial (.geoVal hop hv)
  | constant op =>
    obtain rfl := Except.ok.inj h
    exact translated_leaf hop rfl trivial (.constant hop)
  | bin op =>
    obtain ⟨name, hname, h⟩ := bind_eq_ok.mp h
    obtain ⟨_, -, h⟩ := bind_eq_ok.mp h
    obtain rfl := Except.ok.inj h
    exact translated_leaf hop rfl trivial (.bin hop hname)
  | key =>
    obtain ⟨val, hval, h⟩ := bind_eq_ok.mp h
    obtain ⟨expType, htype, rfl⟩ := map_eq_ok.mp h
    exact translated_leaf hop rfl trivial (.key hop hval htype)
  | digestModulo =>
    obtain ⟨v, hv, rfl⟩ := map_eq_ok.mp h
    exact translated_leaf hop rfl trivial (.digestModulo hop hv)
  | comparison op => exact translated_comparison hop h
  | not =>
    obtain ⟨sub, hsub, rfl⟩ := map_eq_ok.mp h
    exact translated_sub hop rfl trivial hsub fun x hx hm => .not hop hx hm
  | variadic op => exact translated_variadic hop h
  | unary op => exact translated_unary hop h
  | pair op => exact translated_pair hop h
  | regexCompare =>
    obtain ⟨regex, hregex, h⟩ := bind_eq_ok.mp h
    obtain ⟨flags, hflags, h⟩ := bind_eq_ok.mp h
    obtain ⟨sub, hsub, h⟩ := bind_eq_ok.mp h
    obtain rfl := Except.ok.inj h
    exact translated_sub hop rfl trivial hsub fun x hx hm => .regexCompare hop hregex hflags hx hm
  | var =>
    obtain ⟨v, hv, rfl⟩ := map_eq_ok.mp h
    exact translated_leaf hop rfl trivial (.var hop hv)
  | define =>
    obtain ⟨name, hname, h⟩ := bind_eq_ok.mp h
    obtain ⟨sub, hsub, h⟩ := bind_eq_ok.mp h
    obtain rfl := Except.ok.inj h
    exact translated_sub hop rfl trivial hsub fun x hx hm => .define hop hname hx hm

/-- Translation fails on everything but dicts. -/
theorem dict_of_translated {room : Nat} {obj : PyObj} {e : Expression}
    (h : pyToExpressionInner rt room obj = .ok e) :
    ∃ room' dict, room = room' + 1 ∧ obj = .dict dict := by
  cases room with
  | zero => cases h
  | succ room =>
    cases obj with
    | dict dict => exact ⟨room, dict, rfl, rfl⟩
    | _ => cases h

/-- Where every unary node has one operand, the whole tree is mirrored, and every node
has as many operands as its operator takes. -/
theorem mirrors_of_everyNode {room : Nat} {obj : PyObj} {e : Expression}
    (h : pyToExpressionInner rt room obj = .ok e) (hunary : EveryNode unaryArity obj) :
    Mirrors rt obj e ∧ EveryNode arity obj := by
  induction room generalizing obj e with
  | zero => cases h
  | succ room ih =>
    obtain ⟨_, dict, hroom, rfl⟩ := dict_of_translated h
    cases hroom
    obtain ⟨op, es, ht⟩ := translated h
    obtain ⟨hone, hparts⟩ := (everyNode_dict ht.exprOp).mp hunary
    have hall : List.Forall₂ (fun x e => Mirrors rt x e ∧ EveryNode arity x)
        (operands dict op) es :=
      ((List.forall₂_and_left _ _).mpr ⟨hparts, ht.operands⟩).imp fun x e hx => ih hx.2 hx.1
    rw [ht.operands.length_eq] at hone
    refine ⟨ht.mirrors hone (hall.imp fun _ _ hx => hx.1), (everyNode_dict ht.exprOp).mpr ⟨?_, ?_⟩⟩
    · rw [ht.operands.length_eq]
      exact ht.arity hone
    · exact forall_of_forall₂ hall fun _ _ hx => hx.2

theorem unaryArity_of_arity {op : ExprOp} {n : Nat} (h : arity op n) : unaryArity op n := by
  cases op with
  | unary op => exact h
  | _ => trivial

/-- The operands of a mirrored node are mirrored, and a unary node has one. -/
theorem Mirrors.node {dict : Entries} {e : Expression} (h : Mirrors rt (.dict dict) e) :
    ∃ op, exprOp dict = .ok op ∧ unaryArity op (operands dict op).length ∧
      ∀ x ∈ operands dict op, ∃ e', Mirrors rt x e' := by
  cases h with
  | comparison hop hl hr hleft hright =>
    refine ⟨_, hop, trivial, ?_⟩
    simp only [operands, hl, hr, Option.toList_some, List.singleton_append, List.forall_mem_cons]
    exact ⟨⟨_, hleft⟩, ⟨_, hright⟩, by simp⟩
  | not hop hx hexpr =>
    refine ⟨_, hop, trivial, ?_⟩
    simpa [operands, hx] using ⟨_, hexpr⟩
  | variadic hop hxs hexprs =>
    refine ⟨_, hop, trivial, ?_⟩
    simp only [operands, hxs]
    exact forall_of_forall₂ hexprs fun x e hx => ⟨e, hx⟩
  | unary hop hxs hexpr =>
    refine ⟨_, hop, by simp [unaryArity, operands, hxs], ?_⟩
    simpa [operands, hxs] using ⟨_, hexpr⟩
  | pair hop hxs hfirst hsecond =>
    refine ⟨_, hop, trivial, ?_⟩
    simpa [operands, hxs] using ⟨⟨_, hfirst⟩, ⟨_, hsecond⟩⟩
  | regexCompare hop _ _ hx hb =>
    refine ⟨_, hop, trivial, ?_⟩
    simpa [operands, hx] using ⟨_, hb⟩
  | define hop _ hx hvalue =>
    refine ⟨_, hop, trivial, ?_⟩
    simpa [operands, hx] using ⟨_, hvalue⟩
  | intVal hop | floatVal hop | stringVal hop | boolVal hop | blobVal hop | listVal hop
  | mapVal hop | geoVal hop | constant hop | bin hop | key hop | digestModulo hop | var hop =>
    exact ⟨_, hop, trivial, by simp [operands]⟩

theorem everyNode_of_mirrors {obj : PyObj} {e : Expression} (h : Mirrors rt obj e) :
    EveryNode unaryArity obj := by
  intro dict op hnode hop
  generalize hnodeObj : PyObj.dict dict = y at hnode
  induction hnode generalizing e with
  | here =>
    subst hnodeObj
    obtain ⟨op', hop', harity, -⟩ := h.node
    obtain rfl := Except.ok.inj (hop.symm.trans hop')
    exact harity
  | operand hop₁ hx _ ih =>
    obtain ⟨op', hop', -, hparts⟩ := h.node
    obtain rfl := Except.ok.inj (hop₁.symm.trans hop')
    obtain ⟨e', he'⟩ := hparts _ hx
    exact ih he' hnodeObj

/-- The tree of an accepted object is mirrored exactly when every unary node has one
operand, and that is also when every node has as many as its operator takes. -/
theorem structure_kept_iff {obj : PyObj} {e : Expression} (h : pyToExpression rt obj = .ok e) :
    (Mirrors rt obj e ↔ EveryNode unaryArity obj) ∧
      (EveryNode arity obj ↔ EveryNode unaryArity obj) := by
  constructor
  · exact ⟨everyNode_of_mirrors, fun hunary => (mirrors_of_everyNode h hunary).1⟩
  · refine ⟨fun harity dict op hnode hop => ?_, fun hunary => (mirrors_of_everyNode h hunary).2⟩
    exact unaryArity_of_arity (harity dict op hnode hop)

def intValDict (n : Int) : PyObj := .dict [(.str "__expr__", .str "int_val"), (.str "val", .int n)]

def numAbsDict (exprs : List PyObj) : PyObj :=
  .dict [(.str "__expr__", .str "num_abs"), (.str "exprs", .list exprs)]

theorem everyNode_intValDict (n : Int) : EveryNode unaryArity (intValDict n) := by
  have hop : exprOp [(.str "__expr__", .str "int_val"), (.str "val", .int n)] = .ok .intVal := rfl
  exact (everyNode_dict hop).mpr ⟨trivial, nofun⟩

theorem structure_kept_numAbs :
    Mirrors .plain (numAbsDict [intValDict 1]) (.unary .numAbs (.intVal 1)) ∧
      EveryNode arity (numAbsDict [intValDict 1]) := by
  have haccepted : pyToExpression .plain (numAbsDict [intValDict 1]) =
      .ok (.unary .numAbs (.intVal 1)) := rfl
  have hop : exprOp [(.str "__expr__", .str "num_abs"), (.str "exprs", .list [intValDict 1])] =
      .ok (.unary .numAbs) := rfl
  have hunary : EveryNode unaryArity (numAbsDict [intValDict 1]) :=
    (everyNode_dict hop).mpr ⟨rfl, List.forall_mem_singleton.mpr (everyNode_intValDict 1)⟩
  obtain ⟨hmirrors, harity⟩ := structure_kept_iff haccepted
  exact ⟨hmirrors.mpr hunary, harity.mpr hunary⟩

/-- The second operand of `num_abs` is dropped, not rejected. -/
theorem structure_lost_numAbs :
    pyToExpression .plain (numAbsDict [intValDict 1, intValDict 2]) =
        .ok (.unary .numAbs (.intVal 1)) ∧
      ¬ Mirrors .plain (numAbsDict [intValDict 1, intValDict 2]) (.unary .numAbs (.intVal 1)) ∧
      ¬ EveryNode arity (numAbsDict [intValDict 1, intValDict 2]) := by
  have hsurplus : ¬ EveryNode unaryArity (numAbsDict [intValDict 1, intValDict 2]) := by
    intro h
    have htwo : (2 : Nat) = 1 := h _ (.unary .numAbs) (.here _) rfl
    cases htwo
  refine ⟨rfl, fun h => hsurplus (everyNode_of_mirrors h), fun h => hsurplus ?_⟩
  exact fun dict op hnode hop => unaryArity_of_arity (h dict op hnode hop)

end AerospikePy.Expressions
