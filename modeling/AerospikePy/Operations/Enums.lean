import AerospikePy.Operations.Meaning
import AerospikePy.Operations.Mutation

/-!
# Constants in operation dicts

Where a dict gives an integer that stands for a constant of the core crate, the operation
has the constant with that number, or the dict is refused. The orders of lists and maps and
the write mode of maps are the exception: any number that they do not know stands for the
weakest constant.
-/

namespace AerospikePy.Operations

open AerospikePy.Core
open AerospikePy.Lib.Fallible
open AerospikePy.Python
open AerospikePy.Values

/-- The orders are given in a policy, or as the `val` of `list_set_order` and
`map_set_order`. -/
inductive EnumArg where
  | listOrder | listOrderVal | sortFlags | mapOrder | mapOrderVal | writeMode | returnType
  | action | resizeFlags
  deriving DecidableEq, Repr

def intOf (item : Option PyObj) : Option Int := item.bind fun obj => (indexOf obj).toOption

/-- An integer in the policy of an operation. -/
def policyInt (dict : Entries) (policy key : String) : Option Int :=
  match getStr dict policy with
  | some (.dict es) => intOf (getStr es key)
  | _ => none

/-- The integer that the dict gives, if it gives one. -/
def EnumArg.given (dict : Entries) : EnumArg → Option Int
  | listOrder => policyInt dict "list_policy" "order"
  | mapOrder => policyInt dict "map_policy" "order"
  | writeMode => policyInt dict "map_policy" "write_mode"
  | listOrderVal | sortFlags | mapOrderVal => intOf (getStr dict "val")
  | returnType => intOf (getStr dict "return_type")
  | action => intOf (getStr dict "action")
  | resizeFlags => intOf (getStr dict "resize_flags")

/-- The numbers that an order or a write mode knows. -/
def EnumArg.Known : EnumArg → Int → Prop
  | listOrder, n | listOrderVal, n => n = 0 ∨ n = 1
  | mapOrder, n | mapOrderVal, n => n = 0 ∨ n = 1 ∨ n = 3
  | writeMode, n => n = 0 ∨ n = 1 ∨ n = 2
  | _, _ => True

/-- The arguments that the arm of a code takes. -/
def OpCode.enumArgs : OpCode → List EnumArg
  | .list c => match c with
    | .append | .appendItems | .insert | .insertItems | .increment => [.listOrder]
    | .setOrder => [.listOrderVal]
    | .sort => [.sortFlags]
    | .getBy _ | .removeBy _ => [.returnType]
    | _ => []
  | .map c => match c with
    | .put | .putItems | .increment | .decrement => [.mapOrder, .writeMode]
    | .setOrder => [.mapOrderVal]
    | .getBy _ | .removeBy _ => [.returnType]
    | _ => []
  | .bit c => match c with
    | .arith _ => [.action]
    | .resize => [.resizeFlags]
    | _ => []
  | _ => []

/-- The constants of an operation, by their numbers. -/
def Operation.enumArgs : Operation → List (EnumArg × Int)
  | .list _ op => match op with
    | .append policy _ | .appendItems policy _ | .insert policy _ _ | .insertItems policy _ _
    | .increment policy _ _ => [(.listOrder, policy.attributes.constant)]
    | .setOrder order => [(.listOrderVal, order.constant)]
    | .sort flags => [(.sortFlags, flags.constant)]
    | .getBy _ returnType | .removeBy _ returnType => [(.returnType, returnType.constant)]
    | _ => []
  | .map _ op => match op with
    | .put policy _ _ | .putItems policy _ | .incrementValue policy _ _
    | .decrementValue policy _ _ =>
      [(.mapOrder, policy.order.constant), (.writeMode, policy.writeMode.constant)]
    | .setOrder order => [(.mapOrderVal, order.constant)]
    | .getBy _ returnType | .removeBy _ returnType => [(.returnType, returnType.constant)]
    | _ => []
  | .bit _ op => match op with
    | .arith _ _ _ _ _ action _ => [(.action, action.constant)]
    | .resize _ flags _ => [(.resizeFlags, (flags.getD .default).constant)]
    | _ => []
  | _ => []

theorem map_fst_enumArgs (op : Operation) : op.enumArgs.map (·.1) = op.opCode.enumArgs := by
  cases op with
  | list name op => cases op <;> rfl
  | map name op => cases op <;> rfl
  | bit name op => cases op <;> rfl
  | _ => rfl

theorem intToListOrder_constant_iff (n : Int) :
    (intToListOrder n).constant = n ↔ EnumArg.listOrder.Known n := by
  show _ ↔ n = 0 ∨ n = 1
  unfold intToListOrder
  split
  · decide
  · rename_i hne
    have h : n ≠ 1 := hne
    show (0 : Int) = n ↔ _
    omega

theorem intToMapOrder_constant_iff (n : Int) :
    (intToMapOrder n).constant = n ↔ EnumArg.mapOrder.Known n := by
  show _ ↔ n = 0 ∨ n = 1 ∨ n = 3
  unfold intToMapOrder
  split
  · decide
  · decide
  · rename_i hne hne'
    have h : n ≠ 1 := hne
    have h' : n ≠ 3 := hne'
    show (0 : Int) = n ↔ _
    omega

theorem intToMapWriteMode_constant_iff (n : Int) :
    (intToMapWriteMode n).constant = n ↔ EnumArg.writeMode.Known n := by
  show _ ↔ n = 0 ∨ n = 1 ∨ n = 2
  unfold intToMapWriteMode
  split
  · decide
  · decide
  · rename_i hne hne'
    have h : n ≠ 1 := hne
    have h' : n ≠ 2 := hne'
    show (0 : Int) = n ↔ _
    omega

theorem intToListReturnType_constant {n : Int} {r : ListReturnType}
    (h : intToListReturnType n = .ok r) : r.constant = n := by
  unfold intToListReturnType at h
  split at h
  all_goals first
    | obtain rfl := Except.ok.inj h; rfl
    | cases h

theorem intToMapReturnType_constant {n : Int} {r : MapReturnType}
    (h : intToMapReturnType n = .ok r) : r.constant = n := by
  unfold intToMapReturnType at h
  split at h
  all_goals first
    | obtain rfl := Except.ok.inj h; rfl
    | cases h

theorem intToListSortFlags_constant {n : Int} {flags : ListSortFlags}
    (h : intToListSortFlags n = .ok flags) : flags.constant = n := by
  unfold intToListSortFlags at h
  split at h
  all_goals first
    | obtain rfl := Except.ok.inj h; rfl
    | cases h

theorem intToResizeFlags_constant {n : Int} {flags : BitwiseResizeFlags}
    (h : intToResizeFlags n = .ok flags) : flags.constant = n := by
  unfold intToResizeFlags at h
  split at h
  all_goals first
    | obtain rfl := Except.ok.inj h; rfl
    | cases h

/-- The constant is the one that the dict gives, exactly when its number is known. -/
def Reads (dict : Entries) (arg : EnumArg × Int) : Prop :=
  ∀ n, arg.1.given dict = some n → (arg.2 = n ↔ arg.1.Known n)

section Read

variable {rt : Runtime} {debug : Value → String} {dict es : Entries} {key : String} {n : Int}

theorem intOf_eq_some {item : Option PyObj} :
    intOf item = some n ↔ ∃ obj, item = some obj ∧ indexOf obj = .ok n := by
  unfold intOf
  rw [Option.bind_eq_some_iff]
  constructor
  · intro h
    obtain ⟨obj, hobj, hn⟩ := h
    refine ⟨obj, hobj, ?_⟩
    cases hindex : indexOf obj with
    | error e =>
      rw [hindex] at hn
      cases hn
    | ok m =>
      rw [hindex] at hn
      exact congrArg Except.ok (Option.some.inj hn)
  · intro h
    obtain ⟨obj, hobj, hn⟩ := h
    exact ⟨obj, hobj, by rw [hn]; rfl⟩

theorem extractI32_of_indexOf {obj : PyObj} {m : Int} (h : extractI32 obj = .ok m)
    (hn : indexOf obj = .ok n) : m = n := by
  have hm := (extractWithin_eq_ok.mp h).1
  exact Except.ok.inj (hm.symm.trans hn)

theorem optional_of_intOf {m default : Int}
    (h : optional (getStr es key) extractI32 default = .ok m)
    (hn : intOf (getStr es key) = some n) : m = n := by
  obtain ⟨obj, hobj, hindex⟩ := intOf_eq_some.mp hn
  rw [hobj] at h
  exact extractI32_of_indexOf h hindex

/-- The policy of an operation that gives an integer is a dict, and is parsed. -/
theorem parsePolicy_of_policyInt {α : Type} {parse : PyObj → Except PyErr α} {default p : α}
    {policy : String} (h : parsePolicy (getStr dict policy) parse default = .ok p)
    (hn : policyInt dict policy key = some n) :
    ∃ es, parse (.dict es) = .ok p ∧ intOf (getStr es key) = some n := by
  unfold policyInt at hn
  split at hn
  · rename_i es hdict
    rw [hdict] at h
    obtain ⟨q, hq, h⟩ := bind_eq_ok.mp h
    obtain ⟨p', hp', rfl⟩ := map_eq_ok.mp hq
    obtain rfl := Except.ok.inj h
    exact ⟨es, hp', hn⟩
  · cases hn

theorem reads_listPolicy {policy : ListPolicy} (h : parseListPolicy dict = .ok policy) :
    Reads dict (.listOrder, policy.attributes.constant) := by
  intro n hn
  obtain ⟨es, hes, hkey⟩ := parsePolicy_of_policyInt h hn
  obtain ⟨es', hcast, hes⟩ := bind_eq_ok.mp hes
  obtain rfl := Except.ok.inj hcast
  obtain ⟨order, horder, hes⟩ := bind_eq_ok.mp hes
  obtain ⟨flags, -, hes⟩ := bind_eq_ok.mp hes
  obtain rfl := Except.ok.inj hes
  obtain rfl := optional_of_intOf horder hkey
  exact intToListOrder_constant_iff order

theorem reads_mapPolicy {policy : MapPolicy} (h : parseMapPolicy dict = .ok policy) :
    Reads dict (.mapOrder, policy.order.constant) ∧
      Reads dict (.writeMode, policy.writeMode.constant) := by
  constructor
  · intro n hn
    obtain ⟨es, hes, hkey⟩ := parsePolicy_of_policyInt h hn
    obtain ⟨es', hcast, hes⟩ := bind_eq_ok.mp hes
    obtain rfl := Except.ok.inj hcast
    obtain ⟨order, horder, hes⟩ := bind_eq_ok.mp hes
    obtain ⟨writeMode, -, hes⟩ := bind_eq_ok.mp hes
    obtain rfl := Except.ok.inj hes
    obtain rfl := optional_of_intOf horder hkey
    exact intToMapOrder_constant_iff order
  · intro n hn
    obtain ⟨es, hes, hkey⟩ := parsePolicy_of_policyInt h hn
    obtain ⟨es', hcast, hes⟩ := bind_eq_ok.mp hes
    obtain rfl := Except.ok.inj hcast
    obtain ⟨order, -, hes⟩ := bind_eq_ok.mp hes
    obtain ⟨writeMode, hmode, hes⟩ := bind_eq_ok.mp hes
    obtain rfl := Except.ok.inj hes
    obtain rfl := optional_of_intOf hmode hkey
    exact intToMapWriteMode_constant_iff writeMode

theorem reads_returnType {R : Type} {constant : R → Int} {intToReturnType : Int → Except PyErr R}
    (hconstant : ∀ {n r}, intToReturnType n = .ok r → constant r = n) {r : R}
    (h : decodeReturnType intToReturnType dict = .ok r) :
    Reads dict (.returnType, constant r) := by
  intro n hn
  obtain ⟨v, hv, h⟩ := bind_eq_ok.mp h
  obtain ⟨obj, hobj, hindex⟩ := intOf_eq_some.mp hn
  unfold getReturnType at hv
  rw [hobj] at hv
  obtain rfl := extractI32_of_indexOf hv hindex
  exact iff_of_true (hconstant h) trivial

theorem reads_action {action : BitwiseOverflowActions} (h : getOverflowAction dict = .ok action) :
    Reads dict (.action, action.constant) := by
  intro n hn
  obtain ⟨v, hv, h⟩ := bind_eq_ok.mp h
  obtain rfl := optional_of_intOf hv hn
  refine iff_of_true ?_ trivial
  split at h
  all_goals first
    | obtain rfl := Except.ok.inj h; rfl
    | cases h

theorem reads_resizeFlags {flags : Option BitwiseResizeFlags}
    (h : getResizeFlags dict = .ok flags) :
    Reads dict (.resizeFlags, (flags.getD .default).constant) := by
  intro n hn
  obtain ⟨obj, hobj, hindex⟩ := intOf_eq_some.mp hn
  unfold getResizeFlags at h
  rw [hobj] at h
  obtain ⟨v, hv, h⟩ := bind_eq_ok.mp h
  obtain rfl := extractI32_of_indexOf hv hindex
  obtain ⟨f, hf, rfl⟩ := map_eq_ok.mp h
  exact iff_of_true (intToResizeFlags_constant hf) trivial

/-- An integer under `val` that has its 64th bit arrives as a negative one. -/
theorem parseI32Flag_of_intOf {val : Option Value} {opName : String} {m : Int}
    (hval : given (getStr dict "val") (pyToValue rt) = .ok val)
    (h : parseI32Flag debug val opName "val" = .ok m) (hn : intOf (getStr dict "val") = some n) :
    m = n ∨ m < 0 ∧ 2 ^ 63 ≤ n := by
  obtain ⟨obj, hobj, hindex⟩ := intOf_eq_some.mp hn
  rw [hobj] at hval
  cases obj with
  | int k =>
    obtain rfl := Except.ok.inj hindex
    obtain ⟨v, hv, rfl⟩ := map_eq_ok.mp hval
    obtain ⟨hfits, rfl⟩ := intToValue_eq_ok.mp hv
    obtain ⟨_, -, h⟩ := bind_eq_ok.mp h
    obtain rfl := Except.ok.inj h
    rw [toInt_ofInt_asSigned hfits, asSigned]
    split <;> omega
  | bool b =>
    obtain ⟨v, hv, rfl⟩ := map_eq_ok.mp hval
    obtain rfl := Except.ok.inj hv
    cases h
  | other i =>
    obtain ⟨v, hv, -⟩ := map_eq_ok.mp hval
    cases hv
  | _ => cases hindex

theorem reads_listOrderVal {val : Option Value} {opName : String} {m : Int}
    (hval : given (getStr dict "val") (pyToValue rt) = .ok val)
    (h : parseI32Flag debug val opName "val" = .ok m) :
    Reads dict (.listOrderVal, (intToListOrder m).constant) := by
  intro n hn
  rcases parseI32Flag_of_intOf hval h hn with rfl | hlarge
  · exact intToListOrder_constant_iff m
  · have hle : (intToListOrder m).constant ≤ 1 := by
      cases intToListOrder m <;> decide
    show _ ↔ n = 0 ∨ n = 1
    omega

theorem reads_mapOrderVal {val : Option Value} {opName : String} {m : Int}
    (hval : given (getStr dict "val") (pyToValue rt) = .ok val)
    (h : parseI32Flag debug val opName "val" = .ok m) :
    Reads dict (.mapOrderVal, (intToMapOrder m).constant) := by
  intro n hn
  rcases parseI32Flag_of_intOf hval h hn with rfl | hlarge
  · exact intToMapOrder_constant_iff m
  · have hle : (intToMapOrder m).constant ≤ 3 := by
      cases intToMapOrder m <;> decide
    show _ ↔ n = 0 ∨ n = 1 ∨ n = 3
    omega

theorem reads_sortFlags {val : Option Value} {opName : String} {m : Int} {flags : ListSortFlags}
    (hval : given (getStr dict "val") (pyToValue rt) = .ok val)
    (h : parseI32Flag debug val opName "val" = .ok m) (hflags : intToListSortFlags m = .ok flags) :
    Reads dict (.sortFlags, flags.constant) := by
  intro n hn
  have hconstant := intToListSortFlags_constant hflags
  rcases parseI32Flag_of_intOf hval h hn with rfl | hlarge
  · exact iff_of_true hconstant trivial
  · have hle : 0 ≤ flags.constant := by
      cases flags <;> decide
    omega

theorem decodeSelect_reads {R : Type} {constant : R → Int} {intToReturnType : Int → Except PyErr R}
    (hconstant : ∀ {n r}, intToReturnType n = .ok r → constant r = n) {val : Option Value}
    (opName : String) (s : Selector) :
    Ensures (fun r => Reads dict (.returnType, constant r.2))
      (decodeSelect rt intToReturnType opName dict val s) := by
  cases s with
  | value | index | rank | valueList | valueRange =>
    apply ensures_bind
    intro _ _
    apply ensures_bind
    intro _ hreturn
    exact ensures_ok (reads_returnType hconstant hreturn)
  | indexRange | rankRange =>
    apply ensures_bind
    intro _ _
    apply ensures_bind
    intro _ hreturn
    apply ensures_bind
    intro _ _
    exact ensures_ok (reads_returnType hconstant hreturn)

theorem decodeMapSelect_reads {R : Type} {constant : R → Int}
    {intToReturnType : Int → Except PyErr R}
    (hconstant : ∀ {n r}, intToReturnType n = .ok r → constant r = n) {val : Option Value}
    (opName : String) (s : MapSelector) :
    Ensures (fun r => Reads dict (.returnType, constant r.2))
      (decodeMapSelect rt intToReturnType opName dict val s) := by
  cases s with
  | entry s =>
    apply ensures_bind
    intro r hr
    exact ensures_ok (decodeSelect_reads hconstant opName s r hr)
  | key | keyRange =>
    apply ensures_bind
    intro _ _
    apply ensures_bind
    intro _ hreturn
    exact ensures_ok (reads_returnType hconstant hreturn)
  | keyList =>
    apply ensures_bind
    intro _ hreturn
    exact ensures_ok (reads_returnType hconstant hreturn)

/-- An operation whose code takes no constant has none. -/
theorem reads_of_enumArgs_nil {op : Operation} (h : op.opCode.enumArgs = []) :
    ∀ arg ∈ op.enumArgs, Reads dict arg := by
  rw [← map_fst_enumArgs, List.map_eq_nil_iff] at h
  rw [h]
  exact List.forall_mem_nil _

section Arms

variable {binName : Option String} {val : Option Value}

theorem decodeList_reads (hval : given (getStr dict "val") (pyToValue rt) = .ok val)
    (c : ListCode) : Ensures (fun op => ∀ arg ∈ op.enumArgs, Reads dict arg)
      (decodeList rt debug binName val dict c) := by
  cases c with
  | append | appendItems =>
    apply ensures_bind
    intro _ _
    apply ensures_bind
    intro policy hpolicy
    exact ensures_ok (List.forall_mem_singleton.mpr (reads_listPolicy hpolicy))
  | insert | insertItems =>
    apply ensures_bind
    intro _ _
    apply ensures_bind
    intro policy hpolicy
    apply ensures_bind
    intro _ _
    exact ensures_ok (List.forall_mem_singleton.mpr (reads_listPolicy hpolicy))
  | increment =>
    apply ensures_bind
    intro _ _
    apply ensures_bind
    intro policy hpolicy
    iterate 2
      apply ensures_bind
      intro _ _
    exact ensures_ok (List.forall_mem_singleton.mpr (reads_listPolicy hpolicy))
  | sort =>
    apply ensures_bind
    intro _ _
    apply ensures_bind
    intro _ hflag
    apply ensures_bind
    intro _ hsort
    exact ensures_ok (List.forall_mem_singleton.mpr (reads_sortFlags hval hflag hsort))
  | setOrder =>
    apply ensures_bind
    intro _ _
    apply ensures_bind
    intro _ hflag
    exact ensures_ok (List.forall_mem_singleton.mpr (reads_listOrderVal hval hflag))
  | getBy s | removeBy s =>
    apply ensures_bind
    intro _ _
    apply ensures_bind
    intro r hr
    exact ensures_ok (List.forall_mem_singleton.mpr
      (decodeSelect_reads intToListReturnType_constant _ s r hr))
  | _ =>
    intro op hop
    exact reads_of_enumArgs_nil (by rw [decodeList_opCode _ op hop]; rfl)

theorem decodeMap_reads (hval : given (getStr dict "val") (pyToValue rt) = .ok val)
    (c : MapCode) : Ensures (fun op => ∀ arg ∈ op.enumArgs, Reads dict arg)
      (decodeMap rt debug binName val dict c) := by
  cases c with
  | put | increment | decrement =>
    apply ensures_bind
    intro _ _
    apply ensures_bind
    intro policy hpolicy
    apply ensures_bind
    intro _ _
    obtain ⟨horder, hmode⟩ := reads_mapPolicy hpolicy
    exact ensures_ok (List.forall_mem_cons.mpr ⟨horder, List.forall_mem_singleton.mpr hmode⟩)
  | putItems =>
    apply ensures_bind
    intro _ _
    apply ensures_bind
    intro policy hpolicy
    apply ensures_bind
    intro _ _
    obtain ⟨horder, hmode⟩ := reads_mapPolicy hpolicy
    split
    · exact ensures_ok (List.forall_mem_cons.mpr ⟨horder, List.forall_mem_singleton.mpr hmode⟩)
    · exact ensures_error _
  | setOrder =>
    apply ensures_bind
    intro _ _
    apply ensures_bind
    intro _ hflag
    exact ensures_ok (List.forall_mem_singleton.mpr (reads_mapOrderVal hval hflag))
  | getBy s | removeBy s =>
    apply ensures_bind
    intro _ _
    apply ensures_bind
    intro r hr
    exact ensures_ok (List.forall_mem_singleton.mpr
      (decodeMapSelect_reads intToMapReturnType_constant _ s r hr))
  | clear | size =>
    intro op hop
    exact reads_of_enumArgs_nil (by rw [decodeMap_opCode _ op hop]; rfl)

theorem decodeBit_reads (c : BitCode) : Ensures (fun op => ∀ arg ∈ op.enumArgs, Reads dict arg)
    (decodeBit debug binName val dict c) := by
  cases c with
  | resize =>
    iterate 2
      apply ensures_bind
      intro _ _
    apply ensures_bind
    intro flags hflags
    apply ensures_bind
    intro _ _
    exact ensures_ok (List.forall_mem_singleton.mpr (reads_resizeFlags hflags))
  | arith op =>
    iterate 5
      apply ensures_bind
      intro _ _
    apply ensures_bind
    intro action haction
    apply ensures_bind
    intro _ _
    exact ensures_ok (List.forall_mem_singleton.mpr (reads_action haction))
  | _ =>
    intro op hop
    exact reads_of_enumArgs_nil (by rw [decodeBit_opCode _ op hop]; rfl)

theorem Decoded.reads {op : Operation} {c : OpCode} (h : Decoded rt debug dict op c binName val) :
    ∀ arg ∈ op.enumArgs, Reads dict arg := by
  have hdecode := h.decode
  cases c with
  | list c => exact decodeList_reads h.value c op hdecode
  | map c => exact decodeMap_reads h.value c op hdecode
  | bit c => exact decodeBit_reads c op hdecode
  | basic | hll => exact reads_of_enumArgs_nil (by rw [h.opCode_eq]; rfl)

end Arms

end Read

/-- Every integer that the dict of `item` gives for a constant of its operation is known. -/
def GivesKnown (item : PyObj) : Prop :=
  ∀ dict (c : OpCode), item = .dict dict →
    required (getStr dict "op") extractI32 "Operation must have 'op' key" = .ok c.code →
      ∀ arg ∈ c.enumArgs, ∀ n, arg.given dict = some n → arg.Known n

/-- Every constant of `op` has the number that the dict of `item` gives for it. -/
def KeepsConstants (item : PyObj) (op : Operation) : Prop :=
  ∀ dict, item = .dict dict →
    ∀ arg ∈ op.enumArgs, ∀ n, arg.1.given dict = some n → arg.2 = n

theorem keepsConstants_iff {rt : Runtime} {debug : Value → String} {item : PyObj}
    {op : Operation} {w : Bool} (h : pyOpToRust rt debug item = .ok (op, w)) :
    KeepsConstants item op ↔ GivesKnown item := by
  obtain ⟨dict, c, binName, val, rfl, hdecoded, -⟩ := pyOpToRust_eq_ok h
  have hargs : op.enumArgs.map (·.1) = c.enumArgs := by
    rw [map_fst_enumArgs, hdecoded.opCode_eq]
  constructor
  · intro hkeeps dict' c' hdict hcode arg harg n hn
    obtain rfl := PyObj.dict.inj hdict
    have hsame : c' = c := OpCode.code_injective (Except.ok.inj (hcode.symm.trans hdecoded.code))
    rw [hsame, ← hargs] at harg
    obtain ⟨arg, harg', rfl⟩ := List.mem_map.mp harg
    exact (hdecoded.reads arg harg' n hn).mp (hkeeps dict rfl arg harg' n hn)
  · intro hknown dict' hdict arg harg n hn
    obtain rfl := PyObj.dict.inj hdict
    apply (hdecoded.reads arg harg n hn).mpr
    apply hknown dict c rfl hdecoded.code arg.1 ?_ n hn
    rw [← hargs]
    exact List.mem_map_of_mem harg

/-- The operations of a list have the constants that their dicts give exactly when every
order and write mode among these is one of the numbers that the dicts' arms know. -/
theorem constants_kept {rt : Runtime} {debug : Value → String} {items : List PyObj}
    {ops : List Operation} {w : Bool} (h : pyOpsToRustChecked rt debug items = .ok (ops, w)) :
    List.Forall₂ KeepsConstants items ops ↔ ∀ item ∈ items, GivesKnown item := by
  apply forall₂_iff_forall_mem (forall₂_of_pyOpsToRustChecked h)
  intro item op hop
  obtain ⟨w, hw⟩ := hop
  exact keepsConstants_iff hw

/-- The dict of `map_put("m", "k", 1)` with a write mode in its policy. -/
def mapPutWith (writeMode : Int) : Entries :=
  [(.str "op", .int 2002), (.str "bin", .str "m"), (.str "map_key", .str "k"),
    (.str "val", .int 1), (.str "map_policy", .dict [(.str "write_mode", .int writeMode)])]

theorem constants_kept_create_only :
    List.Forall₂ KeepsConstants [.dict (mapPutWith 1)]
        [.map "m" (.put ⟨.unordered, .createOnly⟩ (.string "k") (.int 1))] ↔
      ∀ item ∈ [.dict (mapPutWith 1)], GivesKnown item :=
  @constants_kept .plain (fun _ => "") _ _ true rfl

/-- A put that has to create the entry, and is not to fail otherwise, overwrites it. -/
theorem constants_kept_create_only_no_fail :
    pyOpsToRustChecked .plain (fun _ => "") [.dict (mapPutWith 5)] =
      .ok ([.map "m" (.put ⟨.unordered, .update⟩ (.string "k") (.int 1))], true) ∧
    ¬ ∀ items ops w, pyOpsToRustChecked .plain (fun _ => "") items = .ok (ops, w) →
      List.Forall₂ KeepsConstants items ops := by
  have hcall : pyOpsToRustChecked .plain (fun _ => "") [.dict (mapPutWith 5)] =
      .ok ([.map "m" (.put ⟨.unordered, .update⟩ (.string "k") (.int 1))], true) := by rfl
  refine ⟨hcall, fun h => ?_⟩
  have hkeeps := (List.forall₂_cons.mp (h _ _ _ hcall)).1
  have hmode : (0 : Int) = 5 := hkeeps _ rfl (.writeMode, 0) (by decide) 5 rfl
  revert hmode
  decide

end AerospikePy.Operations
