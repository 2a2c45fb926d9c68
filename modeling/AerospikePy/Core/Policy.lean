import Mathlib.Logic.Basic

/-!
# Write policies of a batch

`BatchWritePolicy` is what `batch_write` attaches to a record: the batch-level
policy, overridden by the record's own meta. `X` stands for a compiled filter
expression. The integer constants of the Python side are mapped by total functions
whose last arm gives the default, as in `policy/mod.rs`.
-/

namespace AerospikePy.Core

inductive RecordExistsAction where
  | update | updateOnly | replace | replaceOnly | createOnly
  deriving DecidableEq, Repr

inductive GenerationPolicy where
  | none | expectGenEqual | expectGenGreater
  deriving DecidableEq, Repr

inductive CommitLevel where
  | commitAll | commitMaster
  deriving DecidableEq, Repr

inductive Expiration where
  | namespaceDefault | never | dontUpdate
  | seconds (s : UInt32)
  deriving DecidableEq, Repr

structure BatchWritePolicy (X : Type) where
  sendKey : Bool
  recordExistsAction : RecordExistsAction
  generationPolicy : GenerationPolicy
  generation : UInt32
  commitLevel : CommitLevel
  expiration : Expiration
  durableDelete : Bool
  filterExpression : Option X
  deriving DecidableEq, Repr

def BatchWritePolicy.default {X : Type} : BatchWritePolicy X where
  sendKey := false
  recordExistsAction := .update
  generationPolicy := .none
  generation := 0
  commitLevel := .commitAll
  expiration := .namespaceDefault
  durableDelete := false
  filterExpression := none

def parseRecordExistsAction (val : Int) : RecordExistsAction :=
  match val with
  | 0 => .update
  | 1 => .updateOnly
  | 2 => .replace
  | 3 => .replaceOnly
  | 4 => .createOnly
  | _ => .update

def parseGenerationPolicy (val : Int) : GenerationPolicy :=
  match val with
  | 0 => .none
  | 1 => .expectGenEqual
  | 2 => .expectGenGreater
  | _ => .none

def parseCommitLevel (val : Int) : CommitLevel :=
  match val with
  | 0 => .commitAll
  | 1 => .commitMaster
  | _ => .commitAll

end AerospikePy.Core
