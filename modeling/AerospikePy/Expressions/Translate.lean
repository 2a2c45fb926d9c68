import AerospikePy.Expressions.Builders
import AerospikePy.Operations.Arguments

/-!
# Trees of builder calls are translated

What the builders make of documented arguments is translated node by node as long as the
tree is no deeper than the limit, and a deeper tree is rejected wherever its deep node is.
-/

namespace AerospikePy.Expressions

open AerospikePy.Core
open AerospikePy.Lib.Fallible
open AerospikePy.Operations (PyInt indexOf_toObj)
open AerospikePy.Python
open AerospikePy.Values

variable {rt : Runtime}

theorem getStr_cons (k key : String) (v : PyObj) (d : Entries) :
    getStr ((.str k, v) :: d) key = if k = key then some v else getStr d key := by
  unfold getStr getItem
  rw [Lib.Assoc.lookup_cons]
  simp

theorem exprOp_cmd {op : ExprOp} {word : String} (h : op.name = word) (kwargs : Entries) :
    exprOp ((.str "__expr__", .str word) :: kwargs) = .ok op := by
  unfold exprOp
  rw [getStr_cons, if_pos rfl]
  simp only [ok_bind, extractString, ExprOp.ofName?_eq_some.mpr h]
  rfl

theorem ConstantOp.name_eq (op : ConstantOp) : (ExprOp.constant op).name = op.cmdOp := by
  cases op <;> rfl

theorem BinOp.name_eq (op : BinOp) : (ExprOp.bin op).name = op.cmdOp := by
  cases op <;> rfl

theorem ComparisonOp.name_eq (op : ComparisonOp) : (ExprOp.comparison op).name = op.cmdOp := by
  cases op <;> rfl

theorem VariadicOp.name_eq (op : VariadicOp) : (ExprOp.variadic op).name = op.cmdOp := by
  cases op <;> rfl

theorem UnaryOp.name_eq (op : UnaryOp) : (ExprOp.unary op).name = op.cmdOp := by
  cases op <;> rfl

theorem PairOp.name_eq (op : PairOp) : (ExprOp.pair op).name = op.cmdOp := by
  cases op <;> rfl

/-- The dict of a call has the op of its builder and the dicts of its operands. -/
theorem ExpCall.dict_spec (t : ExpCall) : ∃ fields, t.dict = .dict fields ∧
    exprOp fields = .ok t.op ∧ Expressions.operands fields t.op = t.operands.map ExpCall.dict := by
  cases t with
  | constant op => exact ⟨_, rfl, exprOp_cmd op.name_eq _, rfl⟩
  | bin op name => exact ⟨_, rfl, exprOp_cmd op.name_eq _, rfl⟩
  | comparison op left right => exact ⟨_, rfl, exprOp_cmd op.name_eq _, rfl⟩
  | variadic op exprs => exact ⟨_, rfl, exprOp_cmd op.name_eq _, ExpCall.dicts_eq exprs⟩
  | unary op value => exact ⟨_, rfl, exprOp_cmd op.name_eq _, rfl⟩
  | pair op first second => exact ⟨_, rfl, exprOp_cmd op.name_eq _, rfl⟩
  | _ => exact ⟨_, rfl, exprOp_cmd (by rfl) _, rfl⟩

theorem getRequired_eq_ok {α : Type} {extract : PyObj → Except PyErr α} {dict : Entries}
    {key : String} {v : α} :
    getRequired extract dict key = .ok v ↔ ∃ x, getStr dict key = some x ∧ extract x = .ok v := by
  rw [getRequired, bind_eq_ok]
  simp only [getRequiredAny_eq_ok]

theorem extractI64_of_inI64 {n : PyInt} (h : InI64 n) :
    ∃ v : Int64, n.toInt = v.toInt ∧ extractI64 n.toObj = .ok v := by
  refine ⟨.ofInt n.toInt, (Int64.toInt_ofInt_of_le h.1 h.2).symm, ?_⟩
  have hwithin : extractWithin (-2 ^ 63) (2 ^ 63 - 1) n.toObj = .ok n.toInt :=
    extractWithin_eq_ok.mpr ⟨indexOf_toObj n, h.1, by have := h.2; omega⟩
  exact bind_of_eq_ok hwithin _

theorem intToExpType_constant {v : Int64} {t : ExpType} (h : t.constant = v.toInt) :
    intToExpType v = .ok t := by
  unfold intToExpType
  rw [← h]
  cases t <;> rfl

/-- A value that fits in some levels fits in one more. -/
theorem pyToValueInner_mono {room : Nat} {x : PyObj} {v : Value}
    (h : pyToValueInner rt room x = .ok v) : pyToValueInner rt (room + 1) x = .ok v := by
  induction room generalizing x v with
  | zero => cases h
  | succ room ih =>
    cases x with
    | list xs =>
      rw [pyToValueInner] at h ⊢
      obtain ⟨values, hvalues, h⟩ := bind_eq_ok.mp h
      exact bind_eq_ok.mpr ⟨values, mapM_eq_ok.mpr ((mapM_eq_ok.mp hvalues).imp fun _ _ => ih), h⟩
    | dict es =>
      obtain ⟨kvs, hkvs, rfl⟩ := pyToValueInner_dict.mp h
      exact pyToValueInner_dict.mpr ⟨kvs, hkvs.imp fun _ _ hkv => ⟨ih hkv.1, ih hkv.2⟩, rfl⟩
    | _ => exact h

/-- The elements of an accepted list literal are accepted one level higher. -/
theorem pyListToValues_of_accepted {xs : List PyObj} {v : Value}
    (h : pyToValue rt (.list xs) = .ok v) :
    ∃ vs, pyToValue rt (.list xs) = .ok (.list vs) ∧ pyListToValues rt (.list xs) = .ok vs := by
  have hlist := h
  unfold pyToValue at hlist
  rw [pyToValueInner] at hlist
  obtain ⟨vs, hvs, heq⟩ := bind_eq_ok.mp hlist
  obtain rfl := Except.ok.inj heq
  exact ⟨vs, h, mapM_eq_ok.mpr ((mapM_eq_ok.mp hvs).imp fun _ _ => pyToValueInner_mono)⟩

theorem pyDictToHashMap_of_accepted {es : Entries} {v : Value}
    (h : pyToValue rt (.dict es) = .ok v) :
    ∃ kvs, pyToValue rt (.dict es) = .ok (.hashMap kvs) ∧
      pyDictToHashMap rt (.dict es) = .ok kvs := by
  obtain ⟨kvs, hkvs, rfl⟩ := pyToValueInner_dict.mp h
  refine ⟨toHashMap rt kvs, h, ?_⟩
  have hentry : ∀ e kv, EntryToValue rt maxNestingDepth e kv → (do
      let key ← pyToValue rt e.1
      let val ← pyToValue rt e.2
      return (key, val) : Except PyErr (Value × Value)) = .ok kv := by
    intro e kv hkv
    exact bind_eq_ok.mpr ⟨kv.1, pyToValueInner_mono hkv.1,
      bind_eq_ok.mpr ⟨kv.2, pyToValueInner_mono hkv.2, rfl⟩⟩
  exact bind_eq_ok.mpr ⟨kvs, mapM_eq_ok.mpr (hkvs.imp hentry), rfl⟩

theorem room_operand {t x : ExpCall} {room : Nat} (h : ∀ d n, NodeAt t d n → d < room + 1)
    (hx : x ∈ t.operands) : ∀ d n, NodeAt x d n → d < room := by
  intro d n hn
  have := h (d + 1) n (.operand hx hn)
  omega

theorem convertVariadicOp_of_arity {inner : PyObj → Except PyErr Expression} {op : VariadicOp}
    {dict : Entries} {xs : List PyObj} {es : List Expression}
    (hxs : getStr dict "exprs" = some (.list xs))
    (hes : List.Forall₂ (fun x e => inner x = .ok e) xs es)
    (harity : arity (.variadic op) es.length) :
    convertVariadicOp inner op dict = .ok (.variadic op es) := by
  have hpos : 1 ≤ es.length := by
    cases op <;> simp only [arity] at harity <;> omega
  have hne : es ≠ [] := List.ne_nil_of_length_pos hpos
  have hcond : ¬(op = .cond ∧ (es.length < 3 ∨ es.length % 2 = 0)) := by
    rintro ⟨rfl, h⟩
    simp only [arity] at harity
    omega
  have hlet : ¬(op = .expLet ∧ es.length < 2) := by
    rintro ⟨rfl, h⟩
    simp only [arity] at harity
    omega
  unfold convertVariadicOp
  rw [bind_of_eq_ok (parseSubExprList_eq_ok.mpr ⟨xs, hxs, hes⟩), require_bind hne,
    require_bind hcond, require_bind hlet]
  rfl

theorem Documented.operands {t : ExpCall} (h : Documented rt t) : ∀ x ∈ t.operands, Documented rt x := by
  intro x hx
  cases h with
  | comparison op hleft hright =>
    simp only [ExpCall.operands, List.mem_cons, List.not_mem_nil, or_false] at hx
    rcases hx with rfl | rfl
    · exact hleft
    · exact hright
  | pair op hfirst hsecond =>
    simp only [ExpCall.operands, List.mem_cons, List.not_mem_nil, or_false] at hx
    rcases hx with rfl | rfl
    · exact hfirst
    · exact hsecond
  | variadic _ h => exact h x hx
  | not h | unary _ h | regexCompare _ _ h | define _ h =>
    obtain rfl := List.mem_singleton.mp hx
    exact h
  | _ => cases hx

/-- A call is translated one level above its operands. -/
theorem names_of_operands {t : ExpCall} (h : Documented rt t) {room : Nat}
    (hoperands : ∀ x ∈ t.operands,
      ∃ e, Names rt x e ∧ pyToExpressionInner rt room x.dict = .ok e) :
    ∃ e, Names rt t e ∧ pyToExpressionInner rt (room + 1) t.dict = .ok e := by
  cases h with
  | intVal h =>
    obtain ⟨v, hv, hextract⟩ := extractI64_of_inI64 h
    refine ⟨_, .intVal hv, ?_⟩
    rw [ExpCall.dict, cmdDict, pyToExpressionInner, bind_of_eq_ok (@exprOp_cmd .intVal _ (by rfl) _)]
    exact map_eq_ok.mpr ⟨v, getRequired_eq_ok.mpr ⟨_, rfl, hextract⟩, rfl⟩
  | floatVal val =>
    refine ⟨_, .floatVal val, ?_⟩
    rw [ExpCall.dict, cmdDict, pyToExpressionInner, bind_of_eq_ok (@exprOp_cmd .floatVal _ (by rfl) _)]
    exact map_eq_ok.mpr ⟨val, getRequired_eq_ok.mpr ⟨_, rfl, rfl⟩, rfl⟩
  | stringVal val =>
    refine ⟨_, .stringVal val, ?_⟩
    rw [ExpCall.dict, cmdDict, pyToExpressionInner, bind_of_eq_ok (@exprOp_cmd .stringVal _ (by rfl) _)]
    exact map_eq_ok.mpr ⟨val, getRequired_eq_ok.mpr ⟨_, rfl, rfl⟩, rfl⟩
  | boolVal val =>
    refine ⟨_, .boolVal val, ?_⟩
    rw [ExpCall.dict, cmdDict, pyToExpressionInner, bind_of_eq_ok (@exprOp_cmd .boolVal _ (by rfl) _)]
    exact map_eq_ok.mpr ⟨val, getRequired_eq_ok.mpr ⟨_, rfl, rfl⟩, rfl⟩
  | blobVal val =>
    refine ⟨_, .blobVal val, ?_⟩
    rw [ExpCall.dict, cmdDict, pyToExpressionInner, bind_of_eq_ok (@exprOp_cmd .blobVal _ (by rfl) _)]
    exact map_eq_ok.mpr ⟨val, getRequired_eq_ok.mpr ⟨_, rfl, rfl⟩, rfl⟩
  | geoVal val =>
    refine ⟨_, .geoVal val, ?_⟩
    rw [ExpCall.dict, cmdDict, pyToExpressionInner, bind_of_eq_ok (@exprOp_cmd .geoVal _ (by rfl) _)]
    exact map_eq_ok.mpr ⟨val, getRequired_eq_ok.mpr ⟨_, rfl, rfl⟩, rfl⟩
  | listVal h =>
    obtain ⟨v, h⟩ := h
    obtain ⟨vs, haccepted, hvs⟩ := pyListToValues_of_accepted h
    refine ⟨_, .listVal haccepted, ?_⟩
    rw [ExpCall.dict, cmdDict, pyToExpressionInner, bind_of_eq_ok (@exprOp_cmd .listVal _ (by rfl) _)]
    exact map_eq_ok.mpr ⟨vs, getRequired_eq_ok.mpr ⟨_, rfl, hvs⟩, rfl⟩
  | mapVal h =>
    obtain ⟨v, h⟩ := h
    obtain ⟨kvs, haccepted, hkvs⟩ := pyDictToHashMap_of_accepted h
    refine ⟨_, .mapVal haccepted, ?_⟩
    rw [ExpCall.dict, cmdDict, pyToExpressionInner, bind_of_eq_ok (@exprOp_cmd .mapVal _ (by rfl) _)]
    exact map_eq_ok.mpr ⟨kvs, getRequired_eq_ok.mpr ⟨_, rfl, hkvs⟩, rfl⟩
  | constant op =>
    refine ⟨_, .constant op, ?_⟩
    rw [ExpCall.dict, cmdDict, pyToExpressionInner, bind_of_eq_ok (exprOp_cmd op.name_eq _)]
    rfl
  | @bin op name h =>
    refine ⟨_, .bin op name, ?_⟩
    rw [ExpCall.dict, cmdDict, pyToExpressionInner, bind_of_eq_ok (exprOp_cmd op.name_eq _)]
    exact bind_eq_ok.mpr ⟨name, getRequired_eq_ok.mpr ⟨_, rfl, rfl⟩, require_bind h _ _⟩
  | @key expType h =>
    obtain ⟨expTypeOf, htype⟩ := h
    have hrange : InI64 expType := by
      unfold InI64
      rw [htype]
      cases expTypeOf <;> decide
    obtain ⟨v, hv, hextract⟩ := extractI64_of_inI64 hrange
    refine ⟨_, .key htype, ?_⟩
    rw [ExpCall.dict, cmdDict, pyToExpressionInner, bind_of_eq_ok (@exprOp_cmd .key _ (by rfl) _)]
    exact bind_eq_ok.mpr ⟨v, getRequired_eq_ok.mpr ⟨_, rfl, hextract⟩,
      map_eq_ok.mpr ⟨expTypeOf, intToExpType_constant (htype.symm.trans hv), rfl⟩⟩
  | digestModulo h =>
    obtain ⟨v, hv, hextract⟩ := extractI64_of_inI64 h
    refine ⟨_, .digestModulo hv, ?_⟩
    rw [ExpCall.dict, cmdDict, pyToExpressionInner, bind_of_eq_ok (@exprOp_cmd .digestModulo _ (by rfl) _)]
    exact map_eq_ok.mpr ⟨v, getRequired_eq_ok.mpr ⟨_, rfl, hextract⟩, rfl⟩
  | comparison op =>
    obtain ⟨l, hl, hltr⟩ := hoperands _ (.head _)
    obtain ⟨r, hr, hrtr⟩ := hoperands _ (.tail _ (.head _))
    refine ⟨_, .comparison op hl hr, ?_⟩
    rw [ExpCall.dict, cmdDict, pyToExpressionInner, bind_of_eq_ok (exprOp_cmd op.name_eq _)]
    exact bind_eq_ok.mpr ⟨l, parseSubExpr_eq_ok.mpr ⟨_, rfl, hltr⟩,
      bind_eq_ok.mpr ⟨r, parseSubExpr_eq_ok.mpr ⟨_, rfl, hrtr⟩, rfl⟩⟩
  | not =>
    obtain ⟨e, he, htr⟩ := hoperands _ (.head _)
    refine ⟨_, .not he, ?_⟩
    rw [ExpCall.dict, cmdDict, pyToExpressionInner, bind_of_eq_ok (@exprOp_cmd .not _ (by rfl) _)]
    exact map_eq_ok.mpr ⟨e, parseSubExpr_eq_ok.mpr ⟨_, rfl, htr⟩, rfl⟩
  | @variadic op exprs harity =>
    obtain ⟨es, hes⟩ := exists_forall₂_of_forall hoperands
    refine ⟨_, .variadic op (hes.imp fun _ _ h => h.1), ?_⟩
    rw [ExpCall.dict, cmdDict, pyToExpressionInner, bind_of_eq_ok (exprOp_cmd op.name_eq _)]
    refine @convertVariadicOp_of_arity _ op _ (exprs.map ExpCall.dict) _ ?_ ?_ ?_
    · rw [← ExpCall.dicts_eq]
      rfl
    · exact List.forall₂_map_left_iff.mpr (hes.imp fun _ _ h => h.2)
    · rw [← hes.length_eq]
      exact harity
  | unary op =>
    obtain ⟨e, he, htr⟩ := hoperands _ (.head _)
    refine ⟨_, .unary op he, ?_⟩
    rw [ExpCall.dict, cmdDict, pyToExpressionInner, bind_of_eq_ok (exprOp_cmd op.name_eq _)]
    exact bind_eq_ok.mpr ⟨[e], parseSubExprList_eq_ok.mpr ⟨_, rfl, .cons htr .nil⟩, rfl⟩
  | pair op =>
    obtain ⟨e, he, hetr⟩ := hoperands _ (.head _)
    obtain ⟨f, hf, hftr⟩ := hoperands _ (.tail _ (.head _))
    refine ⟨_, .pair op he hf, ?_⟩
    rw [ExpCall.dict, cmdDict, pyToExpressionInner, bind_of_eq_ok (exprOp_cmd op.name_eq _)]
    exact bind_eq_ok.mpr ⟨[e, f],
      parseSubExprList_eq_ok.mpr ⟨_, rfl, .cons hetr (.cons hftr .nil)⟩, rfl⟩
  | regexCompare regex hflags =>
    obtain ⟨v, hv, hextract⟩ := extractI64_of_inI64 hflags
    obtain ⟨e, he, htr⟩ := hoperands _ (.head _)
    refine ⟨_, .regexCompare regex hv he, ?_⟩
    rw [ExpCall.dict, cmdDict, pyToExpressionInner,
      bind_of_eq_ok (@exprOp_cmd .regexCompare _ (by rfl) _)]
    exact bind_eq_ok.mpr ⟨regex, getRequired_eq_ok.mpr ⟨_, rfl, rfl⟩,
      bind_eq_ok.mpr ⟨v, getRequired_eq_ok.mpr ⟨_, rfl, hextract⟩,
        bind_eq_ok.mpr ⟨e, parseSubExpr_eq_ok.mpr ⟨_, rfl, htr⟩, rfl⟩⟩⟩
  | var name =>
    refine ⟨_, .var name, ?_⟩
    rw [ExpCall.dict, cmdDict, pyToExpressionInner, bind_of_eq_ok (@exprOp_cmd .var _ (by rfl) _)]
    exact map_eq_ok.mpr ⟨name, getRequired_eq_ok.mpr ⟨_, rfl, rfl⟩, rfl⟩
  | define name =>
    obtain ⟨e, he, htr⟩ := hoperands _ (.head _)
    refine ⟨_, .define name he, ?_⟩
    rw [ExpCall.dict, cmdDict, pyToExpressionInner, bind_of_eq_ok (@exprOp_cmd .define _ (by rfl) _)]
    exact bind_eq_ok.mpr ⟨name, getRequired_eq_ok.mpr ⟨_, rfl, rfl⟩,
      bind_eq_ok.mpr ⟨e, parseSubExpr_eq_ok.mpr ⟨_, rfl, htr⟩, rfl⟩⟩

/-- With room for every node, the whole tree is translated. -/
theorem names_of_documented {room : Nat} {t : ExpCall} (h : Documented rt t)
    (hroom : ∀ d n, NodeAt t d n → d < room) :
    ∃ e, Names rt t e ∧ pyToExpressionInner rt room t.dict = .ok e := by
  induction room generalizing t with
  | zero => exact absurd (hroom 0 t (.here t)) (Nat.not_lt_zero 0)
  | succ room ih =>
    exact names_of_operands h fun x hx => ih (h.operands x hx) (room_operand hroom hx)

/-- A node that has no room makes the translation of its whole tree fail. -/
theorem rejected_of_deep {t n : ExpCall} {d : Nat} (h : NodeAt t d n) :
    ∀ room, room ≤ d → ∀ e, pyToExpressionInner rt room t.dict ≠ .ok e := by
  induction h with
  | here t =>
    intro room hroom e heq
    obtain rfl : room = 0 := by omega
    cases heq
  | @operand t x n d hx _ ih =>
    intro room hroom e heq
    cases room with
    | zero => cases heq
    | succ room =>
      obtain ⟨fields, hdict, hop, hoperands⟩ := t.dict_spec
      rw [hdict] at heq
      obtain ⟨op, es, htranslated⟩ := translated heq
      obtain rfl := Except.ok.inj (hop.symm.trans htranslated.exprOp)
      have hall := htranslated.operands
      rw [hoperands] at hall
      obtain ⟨e', -, he'⟩ := exists_mem_of_forall₂ hall (List.mem_map_of_mem hx)
      exact ih room (by omega) e' he'

/-- Every tree of documented calls within the limit is translated node by node, and every
tree with a node beyond the limit is rejected. -/
theorem builders_translated (rt : Runtime) (t : ExpCall) :
    (Documented rt t → (∀ d n, NodeAt t d n → d ≤ maxExpressionDepth) →
      ∃ obj e, t.build = .ok obj ∧ pyToExpression rt obj = .ok e ∧ Names rt t e) ∧
    ((∃ d n, NodeAt t d n ∧ maxExpressionDepth < d) →
      ∃ obj err, t.build = .ok obj ∧ pyToExpression rt obj = .error err) := by
  constructor
  · intro h hdepth
    obtain ⟨e, hnames, htranslated⟩ := names_of_documented h
      fun d n hn => Nat.lt_succ_of_le (hdepth d n hn)
    exact ⟨t.dict, e, t.build_eq, htranslated, hnames⟩
  · rintro ⟨d, n, hn, hdeep⟩
    have hrejected := @rejected_of_deep rt _ _ _ hn (maxExpressionDepth + 1) hdeep
    refine ⟨t.dict, ?_⟩
    unfold pyToExpression
    cases hout : pyToExpressionInner rt (maxExpressionDepth + 1) t.dict with
    | ok e => exact absurd hout (hrejected e)
    | error err => exact ⟨err, t.build_eq, rfl⟩

theorem builders_translated_numAbs :
    ∃ obj e, (ExpCall.unary .numAbs (.intVal (.int 1))).build = .ok obj ∧
      pyToExpression .plain obj = .ok e ∧
        Names .plain (.unary .numAbs (.intVal (.int 1))) e := by
  refine (builders_translated .plain _).1 (.unary .numAbs (.intVal ⟨by decide, by decide⟩)) ?_
  intro d n hn
  cases hn with
  | here => decide
  | operand hx hn =>
    obtain rfl := List.mem_singleton.mp hx
    cases hn with
    | here => decide
    | operand hx _ => cases hx

/-- A `str` with a lone surrogate has no UTF-8 form, and so no `String`. -/
theorem stringVal_surrogate_rejected :
    (ExpCall.stringVal (.surrogates [0xD800])).build =
        .ok (cmdDict "string_val" [(.str "val", .str (.surrogates [0xD800]))]) ∧
      pyToExpression .plain (cmdDict "string_val" [(.str "val", .str (.surrogates [0xD800]))]) =
        .error ⟨.unicodeEncodeError,
          "'utf-8' codec can't encode character '\\ud800' in position 0: surrogates not allowed"⟩ :=
  ⟨rfl, rfl⟩

end AerospikePy.Expressions
