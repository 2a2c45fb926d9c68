import AerospikePy.Operations.Decoding

/-!
# Builders and decoder agree

What a helper builds is decoded to the operation of its name with its arguments. Where a
value is lost under `val`, the decoder either fails or returns another operation.
-/

namespace AerospikePy.Operations

open AerospikePy.Core
open AerospikePy.Lib.Fallible
open AerospikePy.Python
open AerospikePy.Values

variable {rt : Runtime} {debug : Value → String}

theorem buildOp_head {opCode : Int} {bin : PyStr} {kwargs : List (String × Option PyObj)}
    (hop : kwarg kwargs "op" = none) (hbin : kwarg kwargs "bin" = none) :
    getStr (buildOp opCode bin kwargs) "op" = some (.int opCode) ∧
      getStr (buildOp opCode bin kwargs) "bin" = some (.str bin) := by
  simp [getStr_buildOp, hop, hbin]

/-- Every helper has the code of the arm of its own name. -/
theorem Call.head (c : Call) : getStr c.dict "op" = some (.int c.code.code) ∧
    getStr c.dict "bin" = some (.str c.bin) := by
  cases c with
  | list bin c => cases c with
    | getBy s _ | removeBy s _ => cases s <;> exact buildOp_head (by simp [kwarg]) (by simp [kwarg])
    | _ => exact buildOp_head (by simp [kwarg]) (by simp [kwarg])
  | map bin c => cases c with
    | getBy s _ | removeBy s _ => cases s with
      | entry s => cases s <;> exact buildOp_head (by simp [kwarg]) (by simp [kwarg])
      | _ => exact buildOp_head (by simp [kwarg]) (by simp [kwarg])
    | _ => exact buildOp_head (by simp [kwarg]) (by simp [kwarg])
  | hll bin c => cases c <;> exact buildOp_head (by simp [kwarg]) (by simp [kwarg])
  | bit bin c => cases c with
    | logic op _ _ _ _ | shift op _ _ _ _ | scan op _ _ _ =>
      cases op <;> exact buildOp_head (by simp [kwarg]) (by simp [kwarg])
    | arith op _ _ _ _ _ _ => cases op <;> exact buildOp_head (by simp [kwarg]) (by simp [kwarg])
    | _ => exact buildOp_head (by simp [kwarg]) (by simp [kwarg])

theorem Call.decode {c : Call} {op : Operation} (hop : c.core rt = some op)
    (hkept : c.valKept = true) :
    pyOpToRust rt debug (.dict c.dict) = .ok (op, opCodeIsWrite c.code.code) := by
  have hcall : ∃ name val, text? c.bin = some name ∧
      given (getStr c.dict "val") (pyToValue rt) = .ok val ∧
      decodeOp rt debug (some name) val c.dict c.code = .ok op := by
    cases c with
    | list bin c =>
      obtain ⟨name, hname, h⟩ := Option.bind_eq_some_iff.mp hop
      obtain ⟨lop, hlop, h⟩ := Option.bind_eq_some_iff.mp h
      cases h
      obtain ⟨val, hval, hdecode⟩ := ListCall.decode hlop hkept bin name
      exact ⟨name, val, hname, hval, hdecode⟩
    | map bin c =>
      obtain ⟨name, hname, h⟩ := Option.bind_eq_some_iff.mp hop
      obtain ⟨mop, hmop, h⟩ := Option.bind_eq_some_iff.mp h
      cases h
      obtain ⟨val, hval, hdecode⟩ := MapCall.decode hmop hkept bin name
      exact ⟨name, val, hname, hval, hdecode⟩
    | hll bin c =>
      obtain ⟨name, hname, h⟩ := Option.bind_eq_some_iff.mp hop
      obtain ⟨hllOp, hhll, h⟩ := Option.bind_eq_some_iff.mp h
      cases h
      obtain ⟨val, hval, hdecode⟩ := HllCall.decode hhll bin name
      exact ⟨name, val, hname, hval, hdecode⟩
    | bit bin c =>
      obtain ⟨name, hname, h⟩ := Option.bind_eq_some_iff.mp hop
      obtain ⟨bop, hbop, h⟩ := Option.bind_eq_some_iff.mp h
      cases h
      obtain ⟨val, hval, hdecode⟩ := BitCall.decode hbop hkept bin name
      exact ⟨name, val, hname, hval, hdecode⟩
  obtain ⟨name, val, hname, hval, hdecode⟩ := hcall
  rw [pyOpToRust_eq c.head.1 c.head.2 hname hval, hdecode]
  rfl

end AerospikePy.Operations
