import AerospikePy.Core.Float

/-!
# Values and keys

`aerospike_core::Value` with the variants that the conversions name, and the key and
the bins of a record.
-/

namespace AerospikePy.Core

/-- `aerospike_core::FloatValue`: raw bits. -/
inductive FloatValue where
  | f64 (bits : UInt64)
  | f32 (bits : UInt32)
  deriving DecidableEq, Repr

/-- `aerospike_core::Value`. Maps keep their entries in iteration order. -/
inductive Value where
  | nil
  | bool (v : Bool)
  | int (v : Int64)
  | float (v : FloatValue)
  | string (v : String)
  | blob (v : List UInt8)
  | list (v : List Value)
  | multiResult (v : List Value)
  | hashMap (v : List (Value × Value))
  | orderedMap (v : List (Value × Value))
  | keyValueList (v : List (Value × Value))
  | geoJSON (v : String)
  | hll (v : List UInt8)
  | infinity
  | wildcard
  deriving Repr

mutual

/-- Structural equality. -/
def Value.same : Value → Value → Bool
  | .nil, .nil | .infinity, .infinity | .wildcard, .wildcard => true
  | .bool a, .bool b => a == b
  | .int a, .int b => a == b
  | .float a, .float b => a == b
  | .string a, .string b | .geoJSON a, .geoJSON b => a == b
  | .blob a, .blob b | .hll a, .hll b => a == b
  | .list as, .list bs | .multiResult as, .multiResult bs => sameValues as bs
  | .hashMap as, .hashMap bs | .orderedMap as, .orderedMap bs => sameEntries as bs
  | .keyValueList as, .keyValueList bs => sameEntries as bs
  | _, _ => false

def sameValues : List Value → List Value → Bool
  | [], [] => true
  | a :: as, b :: bs => a.same b && sameValues as bs
  | _, _ => false

def sameEntries : List (Value × Value) → List (Value × Value) → Bool
  | [], [] => true
  | (k, v) :: as, (l, w) :: bs => k.same l && v.same w && sameEntries as bs
  | _, _ => false

end

mutual

theorem Value.same_iff : ∀ a b : Value, a.same b = true ↔ a = b
  | .list as, b => by cases b <;> simp [Value.same, sameValues_iff as]
  | .multiResult as, b => by cases b <;> simp [Value.same, sameValues_iff as]
  | .hashMap as, b => by cases b <;> simp [Value.same, sameEntries_iff as]
  | .orderedMap as, b => by cases b <;> simp [Value.same, sameEntries_iff as]
  | .keyValueList as, b => by cases b <;> simp [Value.same, sameEntries_iff as]
  | .nil, b => by cases b <;> simp [Value.same]
  | .bool _, b => by cases b <;> simp [Value.same]
  | .int _, b => by cases b <;> simp [Value.same]
  | .float _, b => by cases b <;> simp [Value.same]
  | .string _, b => by cases b <;> simp [Value.same]
  | .blob _, b => by cases b <;> simp [Value.same]
  | .geoJSON _, b => by cases b <;> simp [Value.same]
  | .hll _, b => by cases b <;> simp [Value.same]
  | .infinity, b => by cases b <;> simp [Value.same]
  | .wildcard, b => by cases b <;> simp [Value.same]

theorem sameValues_iff : ∀ as bs : List Value, sameValues as bs = true ↔ as = bs
  | [], bs => by cases bs <;> simp [sameValues]
  | a :: as, bs => by cases bs <;> simp [sameValues, a.same_iff, sameValues_iff as]

theorem sameEntries_iff : ∀ as bs : List (Value × Value), sameEntries as bs = true ↔ as = bs
  | [], bs => by cases bs <;> simp [sameEntries]
  | (k, v) :: as, bs => by
    cases bs with
    | nil => simp [sameEntries]
    | cons b bs => simp [sameEntries, k.same_iff, v.same_iff, sameEntries_iff as, Prod.ext_iff]

end

instance : DecidableEq Value := fun a b => decidable_of_iff _ (Value.same_iff a b)

/-- `aerospike_core::Key`. -/
structure Key where
  namespaceName : String
  setName : String
  userKey : Option Value
  digest : List UInt8
  deriving DecidableEq, Repr

/-- What lies outside the source: RIPEMD-160, and `aerospike_core::Key::new`, which
hashes the key itself. -/
structure KeyCrates where
  ripemd160 : List UInt8 → List UInt8
  keyNew : String → String → Value → Except String Key

/-- The digest of a bytes key, which takes the particle type of strings. -/
def computeBytesKeyDigest (crates : KeyCrates) (setName : String) (bytes : List UInt8) :
    List UInt8 :=
  crates.ripemd160 (setName.toUTF8.toList ++ [3] ++ bytes)

/-- `aerospike_core::Bin`. -/
structure Bin where
  name : String
  value : Value
  deriving DecidableEq, Repr

end AerospikePy.Core
