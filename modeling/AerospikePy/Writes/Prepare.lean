import AerospikePy.Batch.WriteArgs
import AerospikePy.Numpy.Records
import AerospikePy.Operations.Amounts

/-!
# The arguments of writes

`client_common.rs`: what the writes of one record make of their arguments before they
send anything, and the part of `batch_write_numpy` up to its permit.
-/

namespace AerospikePy.Writes

open AerospikePy.Batch
open AerospikePy.Core
open AerospikePy.Keys
open AerospikePy.Lib.Fallible
open AerospikePy.Numpy
open AerospikePy.Operations
open AerospikePy.Policies
open AerospikePy.Python
open AerospikePy.Values

variable (crates : BatchCrates) (rt : Runtime) (debug : Value → String)

inductive PutPolicy where
  | default
  | custom (policy : WritePolicy)

structure PutArgs where
  key : Key
  bins : List Bin
  policy : PutPolicy

/-- The default policy is not parsed again. -/
def putPolicy (metaDict policy : Option Entries) : Except PyErr PutPolicy :=
  if policy.isNone && metaDict.isNone then .ok .default
  else PutPolicy.custom <$> parseWritePolicy crates.policies rt policy metaDict

def preparePutArgs (key bins : PyObj) (metaDict policy : Option Entries) :
    Except PyErr PutArgs := do
  let binsDict ← castWith castDict s!"bins argument must be a dict, got {bins.typeName}" bins
  let rustBins ← pyDictToBins rt binsDict
  let rustKey ← pyToKey crates.keys rt key
  let putPolicy ← putPolicy crates rt metaDict policy
  return ⟨rustKey, rustBins, putPolicy⟩

def prepareSingleBinWriteArgs (key : PyObj) (bin : String) (val : PyObj)
    (metaDict policy : Option Entries) : Except PyErr SingleBinWriteArgs := do
  let rustKey ← pyToKey crates.keys rt key
  let writePolicy ← parseWritePolicy crates.policies rt policy metaDict
  let value ← pyToValue rt val
  return ⟨rustKey, writePolicy, [⟨bin, value⟩]⟩

structure RemoveBinArgs where
  key : Key
  writePolicy : WritePolicy
  bins : List Bin

def prepareRemoveBinArgs (key : PyObj) (binNames : List PyObj)
    (metaDict policy : Option Entries) : Except PyErr RemoveBinArgs := do
  let rustKey ← pyToKey crates.keys rt key
  let writePolicy ← parseWritePolicy crates.policies rt policy metaDict
  let names ← binNames.mapM extractString
  return ⟨rustKey, writePolicy, names.map fun n => ⟨n, .nil⟩⟩

structure OperateArgs where
  key : Key
  writePolicy : WritePolicy
  ops : List Operation

def prepareOperateArgs (key : PyObj) (ops : List PyObj) (metaDict policy : Option Entries) :
    Except PyErr OperateArgs := do
  let rustKey ← pyToKey crates.keys rt key
  let writePolicy ← parseWritePolicy crates.policies rt policy metaDict
  let rustOps ← pyOpsToRust rt debug ops
  return ⟨rustKey, writePolicy, rustOps⟩

/-- Every row is written under the same policy. -/
def batchWriteNumpyArgs (p : Platform) (mem : Int → UInt8) (data : NdArray)
    (namespaceName setName : String) (dtype : Dtype) (keyField : String)
    (policy : Option Entries) (retry : UInt32) : Except PyErr BatchWriteGenericArgs := do
  let batchPolicy ← parseBatchPolicy crates.policies rt policy
  let rawRecords ←
    (numpyToRecords crates.keys p mem data dtype namespaceName setName keyField).result
  let writePolicy ← parseBatchWritePolicy crates.policies rt policy
  return ⟨rawRecords.map fun (key, bins) => ⟨key, bins, writePolicy⟩, batchPolicy, retry⟩

end AerospikePy.Writes
