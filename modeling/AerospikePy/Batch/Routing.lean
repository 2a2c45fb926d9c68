import AerospikePy.Batch.WriteArgs
import AerospikePy.Operations.Mutation

/-!
# The routing of `batch_operate`

Every key of the call gets one entry with all operations of the call. The entries are
reads when no operation changes a record, and writes when one does.
-/

namespace AerospikePy.Batch

open AerospikePy.Core
open AerospikePy.Keys
open AerospikePy.Lib.Fallible
open AerospikePy.Operations
open AerospikePy.Python
open AerospikePy.Values

namespace BatchOperation

def key : BatchOperation → Key
  | readOps _ key _ => key
  | write _ key _ => key

def ops : BatchOperation → List Operation
  | readOps _ _ ops => ops
  | write _ _ ops => ops

def isWrite : BatchOperation → Bool
  | readOps _ _ _ => false
  | write _ _ _ => true

end BatchOperation

variable {crates : BatchCrates} {rt : Runtime} {debug : Value → String} {heap : Nat → PyObj}
  {keys : List (KeyArg heap)} {opsList : List PyObj} {policy : Option Entries}

theorem prepareBatchOperateArgs_eq_ok {args : BatchOperateArgs}
    (h : prepareBatchOperateArgs crates rt debug keys opsList policy = .ok args) :
    pyOpsToRustChecked rt debug opsList = .ok (args.ops, args.hasWrite) ∧
      pyToKeys crates.keys rt keys = .ok args.rustKeys := by
  obtain ⟨_, -, h⟩ := bind_eq_ok.mp h
  obtain ⟨_, -, h⟩ := bind_eq_ok.mp h
  obtain ⟨⟨ops, hasWrite⟩, hops, h⟩ := bind_eq_ok.mp h
  obtain ⟨rustKeys, hkeys, h⟩ := bind_eq_ok.mp h
  obtain rfl := Except.ok.inj h
  exact ⟨hops, hkeys⟩

/-- The entry of one key. -/
structure EntryFor (ops : List Operation) (key : Key) (entry : BatchOperation) : Prop where
  key_eq : entry.key = key
  ops_eq : entry.ops = ops
  isWrite_iff : entry.isWrite = true ↔ ∃ op ∈ ops, op.mutates = true

/-- What a prepared call sends: every operation and every key converted, in order, and one
entry for each key. -/
structure Routed (crates : BatchCrates) (rt : Runtime) (debug : Value → String)
    (keys : List (KeyArg heap)) (opsList : List PyObj) (args : BatchOperateArgs) : Prop where
  ops : List.Forall₂ (fun item op => ∃ w, pyOpToRust rt debug item = .ok (op, w)) opsList args.ops
  keys : List.Forall₂ (fun key k => pyToKey crates.keys rt key.obj = .ok k) keys args.rustKeys
  entries : List.Forall₂ (EntryFor args.ops) args.rustKeys (args.toBatchOps crates)

/-- The flag of the call is that some operation changes the record. -/
theorem hasWrite_iff {ops : List Operation} {w : Bool}
    (h : pyOpsToRustChecked rt debug opsList = .ok (ops, w)) :
    w = true ↔ ∃ op ∈ ops, op.mutates = true := by
  obtain ⟨pairs, hpairs, rfl, rfl⟩ := pyOpsToRustChecked_eq_ok.mp h
  rw [List.any_eq_true]
  constructor
  · intro hany
    obtain ⟨pair, hpair, hw⟩ := hany
    obtain ⟨item, -, hitem⟩ := exists_mem_of_forall₂ hpairs.flip hpair
    refine ⟨pair.1, List.mem_map_of_mem hpair, ?_⟩
    rwa [← mutates_of_pyOpToRust hitem]
  · intro hany
    obtain ⟨op, hop, hm⟩ := hany
    obtain ⟨pair, hpair, rfl⟩ := List.mem_map.mp hop
    obtain ⟨item, -, hitem⟩ := exists_mem_of_forall₂ hpairs.flip hpair
    refine ⟨pair, hpair, ?_⟩
    rwa [mutates_of_pyOpToRust hitem]

theorem entries_of_args {args : BatchOperateArgs}
    (hwrite : args.hasWrite = true ↔ ∃ op ∈ args.ops, op.mutates = true) :
    List.Forall₂ (EntryFor args.ops) args.rustKeys (args.toBatchOps crates) := by
  unfold BatchOperateArgs.toBatchOps
  split
  · rename_i hw
    rw [List.forall₂_map_right_iff, List.forall₂_same]
    intro key _
    exact ⟨rfl, rfl, iff_of_true rfl (hwrite.mp hw)⟩
  · rename_i hw
    rw [List.forall₂_map_right_iff, List.forall₂_same]
    intro key _
    exact ⟨rfl, rfl, iff_of_false Bool.false_ne_true fun h => hw (hwrite.mpr h)⟩

theorem routed_of_prepared {args : BatchOperateArgs}
    (h : prepareBatchOperateArgs crates rt debug keys opsList policy = .ok args) :
    Routed crates rt debug keys opsList args := by
  obtain ⟨hops, hkeys⟩ := prepareBatchOperateArgs_eq_ok h
  exact ⟨forall₂_of_pyOpsToRustChecked hops, pyToKeys_eq_ok.mp hkeys,
    entries_of_args (hasWrite_iff hops)⟩

/-- One bad operation or key leaves nothing to send. -/
theorem prepareBatchOperateArgs_error
    (hbad : (∃ item ∈ opsList, ∀ r, pyOpToRust rt debug item ≠ .ok r) ∨
      ∃ key ∈ keys, ∀ k, pyToKey crates.keys rt key.obj ≠ .ok k) :
    ∃ e, prepareBatchOperateArgs crates rt debug keys opsList policy = .error e := by
  cases h : prepareBatchOperateArgs crates rt debug keys opsList policy with
  | error e => exact ⟨e, rfl⟩
  | ok args =>
    exfalso
    have hrouted := routed_of_prepared h
    rcases hbad with ⟨item, hitem, hbad⟩ | ⟨key, hkey, hbad⟩
    · obtain ⟨op, -, w, hop⟩ := exists_mem_of_forall₂ hrouted.ops hitem
      exact hbad _ hop
    · obtain ⟨k, -, hk⟩ := exists_mem_of_forall₂ hrouted.keys hkey
      exact hbad _ hk

/-- A call is routed whole or fails whole, and the table of the codes that decides on the
route agrees with the constructors of the operations. -/
theorem batchOperate_routed (crates : BatchCrates) (rt : Runtime) (debug : Value → String)
    (keys : List (KeyArg heap)) (opsList : List PyObj) (policy : Option Entries) :
    (∀ args, prepareBatchOperateArgs crates rt debug keys opsList policy = .ok args →
      Routed crates rt debug keys opsList args) ∧
    ((∃ item ∈ opsList, ∀ r, pyOpToRust rt debug item ≠ .ok r) ∨
      (∃ key ∈ keys, ∀ k, pyToKey crates.keys rt key.obj ≠ .ok k) →
      ∃ e, prepareBatchOperateArgs crates rt debug keys opsList policy = .error e) ∧
    ∀ dict op c binName val, Decoded rt debug dict op c binName val →
      opCodeIsWrite c.code = op.mutates := by
  refine ⟨fun args => routed_of_prepared, prepareBatchOperateArgs_error, ?_⟩
  intro dict op c binName val h
  rw [← h.opCode_eq, opCodeIsWrite_opCode]

/-- The objects of two keys with their digests, which share those of the namespace and the
set. -/
def routedObject : Nat → PyObj
  | 0 => .str "test"
  | 1 => .str "demo"
  | 2 => .bytes [107]
  | 3 => .bytes (List.replicate 20 0)
  | 4 => .int 7
  | _ => .bytes (List.replicate 20 1)

def routedArg (userKey digest : Nat) : KeyArg routedObject where
  obj := .tuple [.str "test", .str "demo", routedObject userKey, routedObject digest]
  address := fun i => [0, 1, userKey, digest].getD i 0
  stored tuple h i x hx := by
    obtain rfl := PyObj.tuple.inj h
    match i, hx with
    | 0, hx | 1, hx | 2, hx | 3, hx => exact Option.some.inj hx

def routedKeys : List (KeyArg routedObject) := [routedArg 2 3, routedArg 4 5, routedArg 2 3]

/-- The dict of `read(bin)`. -/
def readOf (bin : String) : PyObj := .dict [(.str "op", .int 1), (.str "bin", .str bin)]

/-- One increment among reads makes all entries writes, and one unknown code fails the
call. -/
theorem batchOperate_routed_increment :
    (∃ args, prepareBatchOperateArgs coreDefaults .plain (fun _ => "") routedKeys
        [readOf "n", increment, readOf "m"] none = .ok args ∧
      Routed coreDefaults .plain (fun _ => "") routedKeys [readOf "n", increment, readOf "m"]
        args ∧
      args.rustKeys.length = 3 ∧ args.ops.length = 3 ∧ args.hasWrite = true) ∧
    (∃ args, prepareBatchOperateArgs coreDefaults .plain (fun _ => "") routedKeys
        [readOf "n", readOf "m"] none = .ok args ∧
      Routed coreDefaults .plain (fun _ => "") routedKeys [readOf "n", readOf "m"] args ∧
      args.rustKeys.length = 3 ∧ args.ops.length = 2 ∧ args.hasWrite = false) ∧
    ∃ e, prepareBatchOperateArgs coreDefaults .plain (fun _ => "") routedKeys
      [readOf "n", .dict [(.str "op", .int 9999), (.str "bin", .str "n")]] none = .error e :=
  ⟨⟨_, rfl, (batchOperate_routed coreDefaults .plain (fun _ => "") routedKeys
      [readOf "n", increment, readOf "m"] none).1 _ rfl, rfl, rfl, rfl⟩,
    ⟨_, rfl, (batchOperate_routed coreDefaults .plain (fun _ => "") routedKeys
      [readOf "n", readOf "m"] none).1 _ rfl, rfl, rfl, rfl⟩,
    (batchOperate_routed coreDefaults .plain (fun _ => "") routedKeys _ none).2.1
      (.inl ⟨_, List.mem_cons_of_mem _ List.mem_cons_self, nofun⟩)⟩

end AerospikePy.Batch
