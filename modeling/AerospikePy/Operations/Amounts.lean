import AerospikePy.Keys.Convert
import AerospikePy.Operations.Convert
import AerospikePy.Policies.Parse

/-!
# The amounts of arithmetic operations

An amount goes through the general conversion of values, wherever it is given. An integer
of 64 bits is sent with the bits that it has, so that one from 2^63 on arrives as a
negative amount; every other integer is refused.
-/

namespace AerospikePy.Operations

open AerospikePy.Core
open AerospikePy.Keys
open AerospikePy.Lib.Fallible
open AerospikePy.Policies
open AerospikePy.Python
open AerospikePy.Values

section Increment

variable (keyCrates : KeyCrates) (policyCrates : PolicyCrates) (rt : Runtime)
  (debug : Value → String)

structure SingleBinWriteArgs where
  key : Key
  writePolicy : WritePolicy
  bins : List Bin

def parseIncrementOffset (offset : PyObj) : Except PyErr Value := do
  let value ← pyToValue rt offset
  match value with
  | .int _ | .float _ => return value
  | other => .error ⟨.typeError, s!"increment offset must be an int or float, got {debug other}"⟩

def prepareIncrementArgs (key : PyObj) (bin : String) (offset : PyObj)
    (metaDict policy : Option Entries) : Except PyErr SingleBinWriteArgs := do
  let rustKey ← pyToKey keyCrates rt key
  let writePolicy ← parseWritePolicy policyCrates rt policy metaDict
  let value ← parseIncrementOffset rt debug offset
  return ⟨rustKey, writePolicy, [⟨bin, value⟩]⟩

end Increment

/-- The amount that is sent for a Python integer. -/
structure SentFor (n : Int) (v : Value) : Prop where
  fits : -2 ^ 63 ≤ n ∧ n < 2 ^ 64
  sent : ∃ i : Int64, v = .int i ∧ i.toInt = asSigned n

/-- The amount that an operation adds or subtracts. -/
def Operation.amount : Operation → Option Value
  | .add bin => some bin.value
  | .list _ (.increment _ _ v) => some (.int v)
  | .map _ (.incrementValue _ _ v) | .map _ (.decrementValue _ _ v) => some v
  | .bit _ (.arith _ _ _ v _ _ _) => some (.int v)
  | _ => none

/-- The operations that take an amount. -/
def amountCodes : List OpCode :=
  [.basic .incr, .list .increment, .map .increment, .map .decrement, .bit (.arith .add),
    .bit (.arith .subtract)]

section Amounts

variable {keyCrates : KeyCrates} {policyCrates : PolicyCrates} {rt : Runtime}
  {debug : Value → String} {n : Int} {v : Value}

/-- The conversion of an integer, which every amount goes through. -/
theorem sentFor_of_value (h : pyToValue rt (.int n) = .ok v) : SentFor n v := by
  obtain ⟨hfits, rfl⟩ := intToValue_eq_ok.mp h
  exact ⟨hfits, _, rfl, toInt_ofInt_asSigned hfits⟩

theorem parseIncrementOffset_int (h : parseIncrementOffset rt debug (.int n) = .ok v) :
    SentFor n v := by
  obtain ⟨w, hw, h⟩ := bind_eq_ok.mp h
  have hsent := sentFor_of_value hw
  obtain ⟨i, rfl, -⟩ := hsent.sent
  obtain rfl := Except.ok.inj h
  exact hsent

theorem prepareIncrementArgs_int {key : PyObj} {bin : String} {metaDict policy : Option Entries}
    {args : SingleBinWriteArgs}
    (h : prepareIncrementArgs keyCrates policyCrates rt debug key bin (.int n) metaDict policy =
      .ok args) : ∃ v, args.bins = [⟨bin, v⟩] ∧ SentFor n v := by
  obtain ⟨_, -, h⟩ := bind_eq_ok.mp h
  obtain ⟨_, -, h⟩ := bind_eq_ok.mp h
  obtain ⟨v, hv, h⟩ := bind_eq_ok.mp h
  obtain rfl := Except.ok.inj h
  exact ⟨v, rfl, parseIncrementOffset_int hv⟩

/-- The arm of an operation with an amount takes the integer under `val` as it is. -/
theorem amount_of_decode {binName : Option String} {dict : Entries} {c : OpCode}
    {op : Operation} {i : Int64} (hc : c ∈ amountCodes)
    (h : decodeOp rt debug binName (some (.int i)) dict c = .ok op) :
    op.amount = some (.int i) := by
  simp only [amountCodes, List.mem_cons, List.not_mem_nil, or_false] at hc
  rcases hc with rfl | rfl | rfl | rfl | rfl | rfl
  · obtain ⟨name, -, h⟩ := bind_eq_ok.mp h
    obtain ⟨v, hv, h⟩ := bind_eq_ok.mp h
    obtain rfl := Except.ok.inj hv
    obtain rfl := Except.ok.inj h
    rfl
  · obtain ⟨name, -, h⟩ := bind_eq_ok.mp h
    obtain ⟨policy, -, h⟩ := bind_eq_ok.mp h
    obtain ⟨index, -, h⟩ := bind_eq_ok.mp h
    obtain ⟨v, hv, h⟩ := bind_eq_ok.mp h
    obtain rfl := Except.ok.inj hv
    obtain rfl := Except.ok.inj h
    rfl
  · obtain ⟨name, -, h⟩ := bind_eq_ok.mp h
    obtain ⟨policy, -, h⟩ := bind_eq_ok.mp h
    obtain ⟨key, -, h⟩ := bind_eq_ok.mp h
    obtain rfl := Except.ok.inj h
    rfl
  · obtain ⟨name, -, h⟩ := bind_eq_ok.mp h
    obtain ⟨policy, -, h⟩ := bind_eq_ok.mp h
    obtain ⟨key, -, h⟩ := bind_eq_ok.mp h
    obtain rfl := Except.ok.inj h
    rfl
  all_goals
    obtain ⟨name, -, h⟩ := bind_eq_ok.mp h
    obtain ⟨bitOffset, -, h⟩ := bind_eq_ok.mp h
    obtain ⟨bitSize, -, h⟩ := bind_eq_ok.mp h
    obtain ⟨v, hv, h⟩ := bind_eq_ok.mp h
    obtain ⟨signed, -, h⟩ := bind_eq_ok.mp h
    obtain ⟨action, -, h⟩ := bind_eq_ok.mp h
    obtain ⟨policy, -, h⟩ := bind_eq_ok.mp h
    obtain rfl := Except.ok.inj hv
    obtain rfl := Except.ok.inj h
    rfl

theorem Decoded.amount {dict : Entries} {op : Operation} {c : OpCode} {binName : Option String}
    {val : Option Value} (h : Decoded rt debug dict op c binName val) (hc : c ∈ amountCodes)
    (hval : getStr dict "val" = some (.int n)) : ∃ v, op.amount = some v ∧ SentFor n v := by
  have hvalue := h.value
  rw [hval] at hvalue
  obtain ⟨v, hv, rfl⟩ := map_eq_ok.mp hvalue
  have hsent := sentFor_of_value hv
  obtain ⟨i, rfl, -⟩ := hsent.sent
  exact ⟨_, amount_of_decode hc h.decode, hsent⟩

/-- The dict asks for an operation with an amount, and gives it this integer. -/
structure Asks (dict : Entries) (n : Int) (c : OpCode) : Prop where
  takes : c ∈ amountCodes
  code : required (getStr dict "op") extractI32 "Operation must have 'op' key" = .ok c.code
  value : getStr dict "val" = some (.int n)

theorem amount_of_pyOpToRust {item : PyObj} {dict : Entries} {c : OpCode} {op : Operation}
    {w : Bool} (h : pyOpToRust rt debug item = .ok (op, w)) (hitem : item = .dict dict)
    (hasks : Asks dict n c) : ∃ v, op.amount = some v ∧ SentFor n v := by
  obtain ⟨dict', c', binName, val, hitem', hdecoded, -⟩ := pyOpToRust_eq_ok h
  obtain rfl := PyObj.dict.inj (hitem.symm.trans hitem')
  have hcode : c.code = c'.code := Except.ok.inj (hasks.code.symm.trans hdecoded.code)
  have hsame : c = c' := OpCode.code_injective hcode
  exact hdecoded.amount (hsame ▸ hasks.takes) hasks.value

/-- Wherever an integer is accepted as an amount, the amount that is sent is the signed
integer with its 64 bits; an integer that has not 64 bits is refused. -/
theorem amounts_sent (keyCrates : KeyCrates) (policyCrates : PolicyCrates) (rt : Runtime)
    (debug : Value → String) (n : Int) :
    (∀ key bin metaDict policy args,
      prepareIncrementArgs keyCrates policyCrates rt debug key bin (.int n) metaDict policy =
        .ok args → ∃ v, args.bins = [⟨bin, v⟩] ∧ SentFor n v) ∧
    ∀ items ops w, pyOpsToRustChecked rt debug items = .ok (ops, w) →
      List.Forall₂ (fun item op => ∀ dict c, item = .dict dict → Asks dict n c →
        ∃ v, op.amount = some v ∧ SentFor n v) items ops := by
  constructor
  · intro key bin metaDict policy args h
    exact prepareIncrementArgs_int h
  · intro items ops w h
    apply (forall₂_of_pyOpsToRustChecked h).imp
    intro item op hop dict c hitem hasks
    obtain ⟨w, hw⟩ := hop
    exact amount_of_pyOpToRust hw hitem hasks

end Amounts

/-- The dict of `increment("n", n)`. -/
def incrementBy (n : Int) : Entries :=
  [(.str "op", .int 5), (.str "bin", .str "n"), (.str "val", .int n)]

theorem amounts_sent_five :
    ∃ v, (Operation.add ⟨"n", .int 5⟩).amount = some v ∧ SentFor 5 v := by
  have h := (amounts_sent ⟨fun _ => [], fun ns set v => .ok ⟨ns, set, some v, []⟩⟩ .default .plain
    (fun _ => "") 5).2 [.dict (incrementBy 5)] [.add ⟨"n", .int 5⟩] true rfl
  exact (List.forall₂_cons.mp h).1 _ (.basic .incr) rfl ⟨by decide, rfl, rfl⟩

/-- An increment by the largest unsigned integer is sent as a decrement by 1. -/
theorem amounts_sent_negative :
    pyOpsToRustChecked .plain (fun _ => "") [.dict (incrementBy (2 ^ 64 - 1))] =
      .ok ([.add ⟨"n", .int (-1)⟩], true) ∧
    ¬ ∀ items ops w n, pyOpsToRustChecked .plain (fun _ => "") items = .ok (ops, w) →
      List.Forall₂ (fun item op => ∀ dict c, item = .dict dict → Asks dict n c →
        ∃ i : Int64, op.amount = some (.int i) ∧ i.toInt = n) items ops := by
  have hcall : pyOpsToRustChecked .plain (fun _ => "") [.dict (incrementBy (2 ^ 64 - 1))] =
      .ok ([.add ⟨"n", .int (-1)⟩], true) := by rfl
  refine ⟨hcall, fun h => ?_⟩
  have hasks : Asks (incrementBy (2 ^ 64 - 1)) (2 ^ 64 - 1) (.basic .incr) :=
    ⟨by decide, rfl, rfl⟩
  have hfirst := (List.forall₂_cons.mp (h _ _ _ (2 ^ 64 - 1) hcall)).1
  obtain ⟨i, hi, hn⟩ := hfirst _ _ rfl hasks
  obtain rfl := Value.int.inj (Option.some.inj hi)
  revert hn
  decide

end AerospikePy.Operations
